import BucketDriver.Json.Value

/-!
# Bucket policies

The inline policy of a grant: its name follows the bucket, and its document allows every action of
the object store on the bucket and on all objects in it.
-/

namespace BucketDriver.Policy

open Json (Value)

/-- The version of the policy language. -/
def version : String := "2012-10-17"

/-- The name of the policy for a bucket. -/
def name (bucket : String) : String :=
  bucket ++ "-cosi-ba"

/-- Buckets with policies of one name are the same. -/
@[simp] theorem name_inj {b b' : String} : name b = name b' ↔ b = b' := by
  simp [name]

/-- The resources that the policy for a bucket opens: the bucket and the objects in it. -/
def resources (bucket : String) : List String :=
  ["arn:aws:s3:::" ++ bucket, "arn:aws:s3:::" ++ bucket ++ "/*"]

/-- The policy that gives full access to a bucket. -/
def fullAccess (bucket : String) : Value :=
  .object [
    ("Version", .string version),
    ("Statement", .array [.object [
      ("Effect", .string "Allow"),
      ("Action", .string "s3:*"),
      ("Resource", .array ((resources bucket).map .string))]])]

/-- The document of the policy for a bucket. -/
def document (bucket : String) : String :=
  (fullAccess bucket).render

end BucketDriver.Policy
