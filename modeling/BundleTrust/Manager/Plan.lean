import BundleTrust.Registry.Artifact
import BundleTrust.Script
import BundleTrust.Store.Request

/-!
# Plans of managers

A manager works by asking: the store, the cluster for the version of its server, and
registries for artifacts.  A plan is the script of such requests.  A reconciliation is a
plan that holds one document, which stays as it was left when the plan fails.
-/

namespace BundleTrust

/-- What a manager asks. -/
inductive ManagerRequest where
  /-- Ask the store. -/
  | store (request : StoreRequest)
  /-- Ask for the version of the server of a cluster. -/
  | serverVersion (cluster : String)
  /-- Ask a registry for the octets of an artifact. -/
  | pull (reference : String)

namespace ManagerRequest

/-- What a request yields if it succeeds. -/
abbrev Result : ManagerRequest → Type
  | .store request => request.Result
  | .serverVersion _ => ServerVersion
  | .pull _ => List UInt8

/-- The reply to a request. -/
abbrev Reply (request : ManagerRequest) : Type :=
  Except BundleError request.Result

end ManagerRequest

/-- A script of requests of a manager. -/
abbrev Plan (Answer : Type) : Type :=
  Script ManagerRequest ManagerRequest.Reply Answer

/-- A plan that holds a document and may fail. -/
abbrev Reconciliation (Held Answer : Type) : Type :=
  ExceptT BundleError (StateT Held (Script ManagerRequest ManagerRequest.Reply)) Answer

namespace Reconciliation

/-- The plan of a reconciliation of a document: the answer or the failure, and the document as
it was left. -/
def plan {Held Answer : Type} (reconciliation : Reconciliation Held Answer) (held : Held) :
    Plan (Except BundleError Answer × Held) :=
  reconciliation held

/-- Make a request; the answer is the reply. -/
def ask {Held : Type} (request : ManagerRequest) : Reconciliation Held request.Reply :=
  fun held => .ask request fun reply => .done (.ok reply, held)

/-- Make a request and fail if it fails. -/
def demand {Held : Type} (request : ManagerRequest) : Reconciliation Held request.Result :=
  fun held => .ask request fun reply => .done (reply, held)

/-- Pull a bundle. -/
def pullBundle {Held : Type} (reference : String) :
    Reconciliation Held (Except BundleError Bundle) :=
  fun held => .ask (.pull reference) fun reply =>
    .done (.ok (reply.bind (bundleOfArtifact reference)), held)

end Reconciliation

end BundleTrust
