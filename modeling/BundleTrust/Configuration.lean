import BundleTrust.Bundle.Lookup
import BundleTrust.Signature.Trust

/-!
# Configuration

Which namespace and which controller are managed, the key that bundles are trusted by, and
how registries are talked to.
-/

namespace BundleTrust

/-- How artifacts are pulled from registries. -/
structure PullSettings where
  /-- The token that is sent to registries. -/
  token : Option String
  /-- How many seconds a request may take. -/
  timeoutSeconds : UInt64
  /-- How often a request is repeated after a failure that may be gone. -/
  maxRetries : UInt32
  /-- Whether registries are talked to without encryption. -/
  isInsecure : Bool
  deriving DecidableEq, Repr

/-- The configuration. -/
structure Configuration where
  /-- The namespace of bundles and controllers. -/
  space : String
  /-- The name of the controller that is managed. -/
  controllerName : String
  /-- The key that replaces that of the default trust domain. -/
  publicKey : Option String
  /-- How artifacts are pulled. -/
  registry : PullSettings
  deriving DecidableEq, Repr

/-- The value of a variable of the environment that is not blank. -/
def filledVariable (lookup : String → Option String) (name : String) : Option String :=
  (lookup name).filter fun value => !Text.isBlankText value

/-- The value of a variable of the environment that is a numeral below a limit. -/
def numericVariable (lookup : String → Option String) (name : String) (limit : Nat) :
    Option Nat :=
  (lookup name).bind fun value => Text.readSignedDecimalBelow? limit value.toList

namespace PullSettings

/-- The settings that hold unless others are given. -/
def standard : PullSettings := ⟨none, 30, 3, false⟩

/-- The settings of an environment. -/
def ofEnvironment (lookup : String → Option String) : PullSettings where
  token := filledVariable lookup "PKGBUNDLE_REGISTRY_TOKEN"
  timeoutSeconds :=
    match numericVariable lookup "PKGBUNDLE_REGISTRY_TIMEOUT" UInt64.size with
    | some seconds => UInt64.ofNat seconds
    | none => standard.timeoutSeconds
  maxRetries :=
    match numericVariable lookup "PKGBUNDLE_REGISTRY_MAX_RETRIES" UInt32.size with
    | some retries => UInt32.ofNat retries
    | none => standard.maxRetries
  isInsecure :=
    match lookup "PKGBUNDLE_REGISTRY_INSECURE" with
    | some value => value == "1" || isSameIgnoringCase value "true"
    | none => false

/-- What the fields are read as, in their order. -/
def fields : List (String × Yaml.Shape) :=
  [("token", .optional .text), ("timeout_secs", .natural UInt64.size),
    ("max_retries", .natural UInt32.size), ("insecure", .flag)]

/-- Settings as a document, with the fields in their order. -/
def toDocument (settings : PullSettings) : Document :=
  .mapping
    [("token", (settings.token.map Document.text).getD .null),
      ("timeout_secs", .integer (.ofUInt64 settings.timeoutSeconds)),
      ("max_retries", .integer (.ofUInt32 settings.maxRetries)),
      ("insecure", .boolean settings.isInsecure)]

/-- Read settings. -/
def ofDocument? (document : Document) : Option PullSettings := do
  let members ← document.asRecord? (fields.map Prod.fst)
  let token ← members.fieldOr? "token" none (Document.asOptional? Document.asText?)
  let timeoutSeconds ←
    members.fieldOr? "timeout_secs" standard.timeoutSeconds Document.asUInt64?
  let maxRetries ← members.fieldOr? "max_retries" standard.maxRetries Document.asUInt32?
  let isInsecure ← members.fieldOr? "insecure" false Document.asBoolean?
  some ⟨token, timeoutSeconds, maxRetries, isInsecure⟩

end PullSettings

namespace Configuration

/-- The configuration that holds unless another is given. -/
def standard : Configuration :=
  ⟨"eksa-packages", "eksa-packages-bundle-controller", none, .standard⟩

/-- The configuration of an environment. -/
def ofEnvironment (lookup : String → Option String) : Configuration where
  space := (filledVariable lookup "PKGBUNDLE_NAMESPACE").getD standard.space
  controllerName :=
    (filledVariable lookup "PKGBUNDLE_CONTROLLER_NAME").getD standard.controllerName
  publicKey := filledVariable lookup TrustDomain.publicKeyVariable
  registry := .ofEnvironment lookup

/-- The trust domain that bundles are checked under. -/
def trustDomain (configuration : Configuration) : TrustDomain :=
  TrustDomain.standard.withPublicKey configuration.publicKey

/-- What the fields are read as, in their order. -/
def fields : List (String × Yaml.Shape) :=
  [("namespace", .text), ("controller_name", .text), ("public_key", .optional .text),
    ("registry", .record PullSettings.fields)]

/-- A configuration as a document, with the fields in their order. -/
def toDocument (configuration : Configuration) : Document :=
  .mapping
    [("namespace", .text configuration.space),
      ("controller_name", .text configuration.controllerName),
      ("public_key", (configuration.publicKey.map Document.text).getD .null),
      ("registry", configuration.registry.toDocument)]

/-- Read a configuration. -/
def ofDocument? (document : Document) : Option Configuration := do
  let members ← document.asRecord? (fields.map Prod.fst)
  let space ← members.fieldOr? "namespace" standard.space Document.asText?
  let controllerName ←
    members.fieldOr? "controller_name" standard.controllerName Document.asText?
  let publicKey ← members.fieldOr? "public_key" none (Document.asOptional? Document.asText?)
  let registry ← members.fieldOr? "registry" .standard PullSettings.ofDocument?
  some ⟨space, controllerName, publicKey, registry⟩

/-- Read a configuration from YAML. -/
def ofYaml? (text : String) : Option Configuration :=
  (Yaml.readAs? (.record fields) text).bind ofDocument?

/-- The YAML text of a configuration, with the fields in their order. -/
def toYaml (configuration : Configuration) : String :=
  Yaml.write configuration.toDocument

end Configuration

end BundleTrust
