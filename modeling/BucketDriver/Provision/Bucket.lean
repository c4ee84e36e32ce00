import BucketDriver.Parameters
import BucketDriver.Provider.Program

/-!
# Provisioning buckets

Creating a bucket that its owner already has and deleting one that is gone both succeed, so either
may be repeated. A bucket is created with the region as its location, except in the default region.
-/

namespace BucketDriver.Provision

/-- The location to ask for: the region, unless it is the default one. -/
def location? (p : Parameters) : Option String :=
  if p.isDefaultRegion then none else some p.region

/-- Creates a bucket and gives its identifier, which is its name. -/
def createBucket (name : String) (p : Parameters) : Attempt String := do
  let _ ← .settled .createBucket name objectStoreErrors (.createBucket name (location? p))
  return name

/-- Deletes a bucket. -/
def deleteBucket (bucket : String) : Attempt Unit := do
  let _ ← .settled .deleteBucket bucket objectStoreErrors (.deleteBucket bucket)
  return ()

end BucketDriver.Provision
