import BucketDriver.Parameters
import BucketDriver.Secret.Store

/-!
# Finding the parameters of a request

A request names the secret with its storage parameters by two keys, and a request that names neither
falls back to a default secret, if there is one. `chosen` decides on a reference from the request
alone, and `resolveIn` reads that one secret and nothing else.

Reading a secret may have effects, in any monad. A resolver reads from a store, without any.
-/

namespace BucketDriver.Secret

/-- The key of a request for the name of its secret. -/
def nameKey : String := "objectStorageSecretName"

/-- The key of a request for the namespace of its secret. -/
def spaceKey : String := "objectStorageSecretNamespace"

/-- A store with the reference to use when a request names no secret. -/
structure Resolver where
  /-- Where secrets come from. -/
  store : Store
  /-- The secret of requests that name none. -/
  fallback : Option Reference

/-- What a request says under a key: the trimmed text, unless it is blank. -/
def given (request : Dict String) (key : String) : Option String :=
  (request.get? key).bind Text.trimmed?

/-- The secret of a request. Half a reference is an error, whatever the default is. -/
def chosen (fallback : Option Reference) (request : Dict String) : Except DriverError Reference :=
  match given request nameKey, given request spaceKey with
  | some name, some space => .ok ⟨name, space⟩
  | some _, none => .error (.missingParameter spaceKey)
  | none, some _ => .error (.missingParameter nameKey)
  | none, none =>
    match fallback with
    | some r => .ok r
    | none => .error (.missingParameter nameKey)

/-- The storage parameters of a request, with the effects of reading its secret. -/
def resolveIn {m : Type → Type} [Monad m]
    (read : Reference → m (Except DriverError (Dict String))) (fallback : Option Reference)
    (request : Dict String) : m (Except DriverError Parameters) :=
  match chosen fallback request with
  | .error e => pure (.error e)
  | .ok r => do return (← read r) >>= Parameters.ofSecret

/-- The storage parameters of a request. -/
def Resolver.resolve (r : Resolver) (request : Dict String) : Except DriverError Parameters :=
  (resolveIn (m := Id) (fun reference => pure (r.store reference)) r.fallback request).run

end BucketDriver.Secret
