import BundleTrust.Controller.Basic
import BundleTrust.Signature.Verification
import BundleTrust.Text.Quoted

/-!
# Admission

Whether a write of a bundle or of a controller is let through: a bundle needs a proper name
and a valid signature, and the bundle that a controller names has to exist and to be made
for the server.
-/

namespace BundleTrust

/-- A decision about a write. -/
inductive AdmissionDecision where
  /-- The write is let through. -/
  | allow
  /-- The write is refused with a status and a reason. -/
  | deny (status : Nat) (reason : String)
  deriving DecidableEq, Repr

namespace AdmissionDecision

/-- Whether a write is let through. -/
def isAllowed : AdmissionDecision → Bool
  | .allow => true
  | .deny _ _ => false

/-- The status of an answer. -/
def status : AdmissionDecision → Nat
  | .allow => 200
  | .deny status _ => status

/-- A decision as a document; a reason that is empty is left out. -/
def toDocument : AdmissionDecision → Document
  | .allow => .mapping [("allowed", .boolean true), ("code", .integer (.ofUInt32 200))]
  | .deny status reason =>
      .mapping
        ([("allowed", .boolean false),
            ("code", .integer (.ofUInt32 (UInt32.ofNat status)))] ++
          Members.ofText "reason" reason)

end AdmissionDecision

/-- The name that a manifest gives itself; none counts as the empty one. -/
def manifestName (manifest : Document) : String :=
  (((manifest.get? "metadata").bind fun metadata => metadata.get? "name").bind
    Document.asText?).getD ""

/-- Refuse the bundle of a name. -/
def denyBundle (name failure : String) : AdmissionDecision :=
  .deny 400 ("package " ++ name ++ " failed validation with error: " ++ failure)

/-- Let a bundle through if it is a mapping, its name spells a version and its signature is
valid. -/
def validateBundle (manifest : Document) (domain : TrustDomain) : AdmissionDecision :=
  let name := manifestName manifest
  if !manifest.isMapping then
    .deny 400 (SignatureError.document "manifest must be a mapping").message
  else
    match BundleVersion.parse? name with
    | none =>
        denyBundle name
          ("Invalid bundle name (should be in the format vx-xx-xxxx where x is a digit): " ++
            name)
    | some _ =>
        match verifyManifest manifest domain with
        | .error failure => denyBundle name failure.message
        | .ok verification =>
            if verification.isValid then .allow
            else
              denyBundle name
                ("The signature is invalid for the configured public key: " ++
                  domain.publicKey)

/-- Let a controller through if the bundle that it names exists and is made for the
server. -/
def validateActiveBundle (controller : Controller) (bundles : List Bundle)
    (server : ServerVersion) : AdmissionDecision :=
  let name := controller.spec.activeBundle
  match bundles.find? fun bundle => bundle.name == name with
  | none => .deny 404 ("package bundle not found with name: " ++ Text.quoted name)
  | some bundle =>
      match bundle.version with
      | .error failure => .deny 400 failure.message
      | .ok version =>
          if server.accepts version then .allow
          else
            .deny 400
              ("package bundle " ++ name ++ " is for kubernetes " ++ version.kubeVersion ++
                ", cluster is running " ++ server.kubeVersion)

end BundleTrust
