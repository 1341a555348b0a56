import BundleTrust.CommandLine.Command
import BundleTrust.Lifecycle.Reconcile
import BundleTrust.Signature.Signing

/-!
# Running commands

What commands do: which files they read and write, what they say, and the status that they
end with.  A command is a script of requests to the machine that it runs on.
-/

namespace BundleTrust
namespace CommandLine

/-- What a command asks of the machine. -/
inductive SessionRequest where
  /-- Read a file. -/
  | load (path : String)
  /-- Read the standard input. -/
  | loadInput
  /-- Write a file. -/
  | save (path content : String)
  /-- Let nobody but its owner read and write a file. -/
  | restrict (path : String)
  /-- Create a directory, and those that it is in. -/
  | createDirectory (path : String)
  /-- Tell whether there is something at a path. -/
  | findPath (path : String)
  /-- Give random octets. -/
  | randomOctets (count : Nat)

/-- What the machine replies; a failure comes with its wording. -/
abbrev SessionRequest.Reply : SessionRequest → Type
  | .load _ => Except String String
  | .loadInput => Except String String
  | .save _ _ => Except String Unit
  | .restrict _ => Except String Unit
  | .createDirectory _ => Except String Unit
  | .findPath _ => Bool
  | .randomOctets _ => List UInt8

/-- A script of requests to the machine. -/
abbrev Session (Answer : Type) : Type :=
  Script SessionRequest SessionRequest.Reply Answer

/-- How a command ends. -/
structure CommandResult where
  /-- The status. -/
  status : Nat
  /-- What was written to the standard output. -/
  output : String
  /-- What was written to the standard error. -/
  errors : String
  deriving DecidableEq, Repr

/-- Why a command fails. -/
structure CommandFailure where
  /-- What there is to say. -/
  message : String
  /-- The status that the command ends with. -/
  status : Nat
  deriving DecidableEq, Repr

/-- A part of a command. -/
abbrev CommandStep (Answer : Type) : Type :=
  ExceptT CommandFailure (Script SessionRequest SessionRequest.Reply) Answer

/-- The status of a command that succeeds. -/
def successStatus : Nat := 0

/-- The status of a command whose input cannot be read or used. -/
def inputStatus : Nat := 1

/-- The status of a command line that is misused. -/
def misuseStatus : Nat := 2

/-- The status of a verification whose signature is not valid. -/
def invalidSignatureStatus : Nat := 4

/-- The version of the program. -/
def versionText : String := "0.4.0"

/-- Put a text in front of a failure. -/
def CommandFailure.within (context : String) (failure : CommandFailure) : CommandFailure :=
  { failure with message := context ++ ": " ++ failure.message }

/-- A failure with its wording. -/
def CommandFailure.ofText (text : String) : CommandFailure := ⟨text, inputStatus⟩

/-- The failure of a signature. -/
def CommandFailure.ofSignature (failure : SignatureError) : CommandFailure :=
  ⟨failure.message, inputStatus⟩

/-- The failure of a verification, which ends with a status of its own. -/
def CommandFailure.ofVerification (failure : SignatureError) : CommandFailure :=
  ⟨failure.message, failure.exitCode⟩

/-- Go on with a result, or fail. -/
def settle {Failure Answer : Type} (describe : Failure → CommandFailure)
    (result : Except Failure Answer) : CommandStep Answer :=
  ExceptT.mk (.done (result.mapError describe))

/-- Ask the machine. -/
def demand (request : SessionRequest) : CommandStep request.Reply :=
  ExceptT.mk (.ask request fun reply => .done (.ok reply))

/-- Read a file, or the standard input for a dash. -/
def readText (path : String) : CommandStep String :=
  if path = "-" then do
    let reply ← demand .loadInput
    settle (fun text => .within "failed to read stdin" (.ofText text)) reply
  else do
    let reply ← demand (.load path)
    settle (fun text => .within ("failed to read: " ++ path) (.ofText text)) reply

/-- Read the manifest in a file. -/
def readManifestFile (path : String) : CommandStep Document := do
  let content ← readText path
  settle (fun failure => .within ("failed to parse manifest: " ++ path) (.ofSignature failure))
    (readManifest content)

/-- What `digest` says. -/
def digestOutput (manifest domain : String) (withYaml : Bool) : CommandStep CommandResult := do
  let document ← readManifestFile manifest
  let digest ← settle .ofSignature (digestManifest document domain)
  let yaml := if withYaml then "---\n" ++ digest.yaml else ""
  return ⟨successStatus, digest.hex ++ "\n" ++ yaml, ""⟩

/-- Give a manifest the excludes annotation of a domain, if there is something to exclude. -/
def withExcludes (manifest : Document) (domain : String) (excludes : List String) :
    Except SignatureError Document :=
  if excludes.isEmpty then .ok manifest
  else setAnnotation manifest (excludesAnnotationKey domain) (encodeExcludes excludes)

/-- What `sign` does and says. -/
def signOutput (manifest key : String) (output : Option String) (domain : String)
    (excludes : List String) : CommandStep CommandResult := do
  let reply ← demand (.load key)
  let pem ← settle
    (fun text => .within ("failed to read private key: " ++ key) (.ofText text)) reply
  let document ← readManifestFile manifest
  let document ← settle .ofSignature (withExcludes document domain excludes)
  let signed ← settle
    (fun failure => .within ("failed to sign: " ++ manifest) (.ofSignature failure))
    (signManifest document pem domain)
  match output with
  | none => return ⟨successStatus, signed.yaml, ""⟩
  | some path =>
      let reply ← demand (.save path signed.yaml)
      settle (fun text => .within ("failed to write output: " ++ path) (.ofText text)) reply
      return ⟨successStatus, "",
        "Signed manifest:\n  Output:    " ++ path ++ "\n  Digest:    " ++ signed.digest.hex ++
          "\n  Signature: " ++ signed.signature ++ "\n"⟩

/-- The domain that is verified under: its key has to be given unless it is the default one. -/
def verificationDomain (name : String) (publicKey : Option String) :
    Except CommandFailure TrustDomain :=
  match publicKey with
  | some publicKey => .ok ⟨name, publicKey⟩
  | none =>
      if name = TrustDomain.defaultName then .ok .standard
      else .error (.ofText ("--public-key is required for domain " ++ name))

/-- What `verify` says. -/
def verifyOutput (manifest : String) (publicKey : Option String) (domain : String)
    (isQuiet : Bool) : CommandStep CommandResult := do
  let content ← readText manifest
  let domain ← settle id (verificationDomain domain publicKey)
  let verification ← settle
    (fun failure => .within ("failed to verify: " ++ manifest) (.ofVerification failure))
    (verifyYaml content domain)
  if !verification.isValid then
    throw
      ⟨"signature is invalid for the configured public key (digest " ++
          verification.digest.base64 ++ ")", invalidSignatureStatus⟩
  if isQuiet then return ⟨successStatus, "", ""⟩
  return ⟨successStatus,
    "Verification successful!\n\n  domain: " ++ domain.name ++ "\n  digest: " ++
      verification.digest.hex ++ "\n", ""⟩

/-- A text filled up with blanks to the width of a column. -/
def column (text : String) : String :=
  text ++ String.ofList (List.replicate (24 - text.length) ' ')

/-- A row of the table of states. -/
def stateRow (space name state : String) : String :=
  column space ++ " " ++ column name ++ " " ++ state ++ "\n"

/-- Read bundles from files into a store; one without a namespace goes into a given one. -/
def loadBundles (space : String) : List String → Store → CommandStep (List Bundle × Store)
  | [], store => pure ([], store)
  | path :: paths, store => do
      let content ← readText path
      let bundle ← settle
        (fun text => .within ("failed to parse bundle: " ++ path) (.ofText text))
        (match Bundle.ofYaml? content with
          | some bundle => .ok bundle
          | none => .error "not a bundle")
      let metadata :=
        if bundle.space.isEmpty then { bundle.metadata with space := space } else bundle.metadata
      let (result, store) := store.createBundle { bundle with metadata := metadata }
      let stored ← settle
        (fun (failure : BundleError) =>
          .within ("duplicate bundle: " ++ path) (.ofText failure.message))
        result
      let (bundles, store) ← loadBundles space paths store
      return (stored :: bundles, store)

/-- The reply of a store and a server of a known version to a manager; nothing can be pulled. -/
def offlineReply (server : ServerVersion) :
    (request : ManagerRequest) → Store → request.Reply × Store
  | .store request, store => store.answer request
  | .serverVersion _, store => (.ok server, store)
  | .pull reference, store => (.error (.registry reference "not found"), store)

/-- The state of a bundle in a store. -/
def stateIn (manager : LifecycleManager) (server : ServerVersion) (store : Store)
    (bundle : Bundle) : Except BundleError BundleState :=
  (((manager.compute bundle).plan bundle).run (offlineReply server) store).1.1

/-- What `states` says. -/
def statesOutput (bundles : List String) (server active : String) (publicKey : Option String)
    (space : String) : CommandStep CommandResult := do
  let configuration := { Configuration.standard with space := space, publicKey := publicKey }
  let controller :=
    (Controller.named space configuration.controllerName).withActiveBundle active
  let (_, store) := (Store.empty configuration).putController controller
  let (loaded, store) ← loadBundles space bundles store
  let version ← settle
    (fun (failure : BundleError) =>
      .within ("invalid --server version: " ++ server) (.ofText failure.message))
    (match ServerVersion.parse? server with
      | some version => .ok version
      | none => .error (.serverVersion (ServerVersion.refusal server)))
  let manager := LifecycleManager.ofConfiguration configuration
  let rows ← settle (fun (failure : BundleError) => .ofText failure.message)
    (loaded.mapM fun bundle =>
      (stateIn manager version store bundle).map fun state =>
        stateRow bundle.space bundle.name state.name)
  return ⟨successStatus, stateRow "NAMESPACE" "NAME" "STATE" ++ String.join rows, ""⟩

/-- The path of a file in a directory. -/
def inDirectory (directory file : String) : String :=
  if directory.toList.getLast? = some '/' then directory ++ file else directory ++ "/" ++ file

/-- How many candidates for a private key are drawn; nearly all are private keys. -/
def candidateCount : Nat := 8

/-- Cut octets into pieces of thirty-two. -/
def keyCandidates (octets : List UInt8) : List (List UInt8) :=
  (List.range candidateCount).map fun index => (octets.drop (32 * index)).take 32

/-- Refuse to overwrite a file. -/
def refuseExisting (path : String) : CommandStep Unit := do
  if ← demand (.findPath path) then
    throw (.ofText ("key file already exists: " ++ path ++ " (use --force to overwrite)"))

/-- What `keygen` does and says. -/
def keygenOutput (directory : String) (isForced : Bool) : CommandStep CommandResult := do
  if !(← demand (.findPath directory)) then
    let reply ← demand (.createDirectory directory)
    settle (fun text => .within ("failed to create directory: " ++ directory) (.ofText text))
      reply
  let privatePath := inDirectory directory "private_key.pem"
  let publicPath := inDirectory directory "public_key.b64"
  if !isForced then
    refuseExisting privatePath
    refuseExisting publicPath
  let octets ← demand (.randomOctets (32 * candidateCount))
  let (key, publicKey) ← settle .ofText
    (match Crypto.PrivateKey.ofRandom? (keyCandidates octets) with
      | none => .error "no private key was drawn"
      | some key =>
          match key.publicKey? with
          | none => .error "the private key has no public key"
          | some publicKey => .ok (key, encodePublicKey publicKey))
  let reply ← demand (.save privatePath key.toPem)
  settle (fun text => .within ("failed to write private key: " ++ privatePath) (.ofText text))
    reply
  let reply ← demand (.restrict privatePath)
  settle
    (fun text => .within ("failed to set permissions on: " ++ privatePath) (.ofText text)) reply
  let reply ← demand (.save publicPath (publicKey ++ "\n"))
  settle (fun text => .within ("failed to write public key: " ++ publicPath) (.ofText text)) reply
  return ⟨successStatus,
    "Generated P-256 keypair:\n  Private key: " ++ privatePath ++
      " (SEC1 PEM, mode 0600)\n  Public key:  " ++ publicPath ++
      " (base64 PKIX)\n\npublic_key: " ++ publicKey ++ "\n\nSet " ++
      TrustDomain.publicKeyVariable ++ " to this value to trust signatures from this key.\n", ""⟩

/-- How to use the command line. -/
def usage : String :=
  "Sign, verify and inspect package bundle manifests\n\n" ++
    "Usage: pkgbundle <keygen|sign|verify|digest|states|version> [arguments]\n"

/-- What a command does and says. -/
def Command.outcome : Command → CommandStep CommandResult
  | .keygen directory isForced => keygenOutput directory isForced
  | .sign manifest key output domain excludes =>
      signOutput manifest key output domain excludes
  | .verify manifest publicKey domain isQuiet =>
      verifyOutput manifest publicKey domain isQuiet
  | .digest manifest domain withYaml => digestOutput manifest domain withYaml
  | .states bundles server active publicKey space =>
      statesOutput bundles server active publicKey space
  | .version withName =>
      pure ⟨successStatus, (if withName then "pkgbundle " else "") ++ versionText ++ "\n", ""⟩
  | .help => pure ⟨successStatus, usage, ""⟩

/-- Whether a command says nothing when it fails. -/
def Command.isSilent : Command → Bool
  | .verify _ _ _ isQuiet => isQuiet
  | _ => false

/-- Run a command. -/
def Command.run (command : Command) : Session CommandResult :=
  command.outcome.run.bind fun result =>
    match result with
    | .ok result => .done result
    | .error failure =>
        let errors := if command.isSilent then "" else "error: " ++ failure.message ++ "\n"
        .done ⟨failure.status, "", errors⟩

/-- Run what is asked on the command line, in an environment. -/
def run (lookup : String → Option String) (arguments : List String) : Session CommandResult :=
  match Command.read? lookup arguments with
  | some command => command.run
  | none => .done ⟨misuseStatus, "", usage⟩

end CommandLine
end BundleTrust
