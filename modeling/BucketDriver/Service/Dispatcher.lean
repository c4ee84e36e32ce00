import BucketDriver.Service.Request

/-!
# The dispatcher

The dispatcher answers requests in a fixed order: it checks the names, finds the storage parameters,
makes a client and only then calls the provider. Why parameters or a client could not be had is not
told to the caller.

`prepareIn` is everything in front of the provider, and does not depend on the provider's state.
Finding parameters and making a client may have effects, in any monad; the functions of a dispatcher
have none (`Dispatcher.prepare`). `Dispatcher.answer` goes on from there.
-/

namespace BucketDriver.Service

/-- Finds the storage parameters of a request in its dictionary. -/
abbrev Resolve := Dict String → Except DriverError Parameters

/-- Makes clients for the services of a provider. -/
abbrev ClientFactory (σ : Type) := ProviderService → Parameters → Except DriverError (Handler σ)

/-- A factory that makes no clients. -/
def ClientFactory.failing {σ : Type} (e : DriverError) : ClientFactory σ :=
  fun _ _ => .error e

/-- What the service works with. -/
structure Dispatcher (σ : Type) where
  /-- The name of the driver. -/
  name : String
  /-- Where storage parameters come from. -/
  resolve : Resolve
  /-- Where clients come from. -/
  clients : ClientFactory σ

/-- What a caller is told when the storage parameters cannot be found. -/
def resolveMessage : String := "failed to resolve storage parameters"

/-- What a caller is told when no client can be made. -/
def clientMessage : String := "failed to initialize storage client"

/-- Checks the name of a driver. -/
def checkDriverName (name : String) : Except DriverError Unit :=
  if Text.isBlank name then .error (.invalidParameters "driver name must not be empty") else .ok ()

variable {σ : Type}

/-- The client and the parameters for a request, with the effects of asking for them. -/
def prepareIn {m : Type → Type} [Monad m]
    (resolve : Dict String → m (Except DriverError Parameters))
    (clients : ProviderService → Parameters → m (Except DriverError (Handler σ))) (q : Request) :
    m (Except Failure (Handler σ × Parameters)) :=
  match q.check with
  | .error f => pure (.error f)
  | .ok _ => do
    match ← resolve q.context with
    | .error _ => return .error (.internal resolveMessage)
    | .ok p =>
      match ← clients q.service p with
      | .error _ => return .error (.internal clientMessage)
      | .ok client => return .ok (client, p)

namespace Dispatcher

/-- A dispatcher for a driver, whose name must not be blank. -/
def create (name : String) (resolve : Resolve) (clients : ClientFactory σ) :
    Except DriverError (Dispatcher σ) := do
  checkDriverName name
  return ⟨name, resolve, clients⟩

/-- The client and the parameters for a request. -/
def prepare (d : Dispatcher σ) (q : Request) : Except Failure (Handler σ × Parameters) :=
  (prepareIn (m := Id) (fun context => pure (d.resolve context))
    (fun service p => pure (d.clients service p)) q).run

/-- Answers a request. -/
def answer (d : Dispatcher σ) (q : Request) (s : σ) : Except Failure Response × σ :=
  match d.prepare q with
  | .error f => (.error f, s)
  | .ok (client, p) => Program.run client (q.attempt p).run s

/-- What the driver tells about itself. -/
def info (d : Dispatcher σ) : Json.Value :=
  .ofStrings [("name", d.name)]

end Dispatcher

end BucketDriver.Service
