import BundleTrust.CommandLine.Session
import BundleTrust.Proofs.Signature.SignThenVerify

/-!
# The status of a verification

A verification of a text that can be read ends with one of three statuses.  It is zero exactly
if the manifest is signed (`IsSigned`) and four exactly if the manifest is one that a known key
does not vouch for (`Distrusted`); everything else is a matter of the input, and one.  The
checks are made in a fixed order, which is said once (`verifyManifest_cases`); the status of a
signer that failed is not reached, since a filter leaves a mapping a mapping
(`DocumentFilter.isMapping_apply`).
-/

namespace BundleTrust

open Document

/-! ## Filters -/

@[simp] theorem Document.isMapping_deleteAt (path : FieldPath) (document : Document) :
    (document.deleteAt path).isMapping = document.isMapping := by
  rw [deleteAt.eq_def]
  split <;> rfl

theorem DocumentFilter.isMapping_deleteAll (paths : List FieldPath) (document : Document) :
    (deleteAll paths document).isMapping = document.isMapping := by
  rw [deleteAll]
  induction paths generalizing document with
  | nil => rfl
  | cons path paths ih => rw [List.foldl_cons, ih, isMapping_deleteAt]

/-- A filter leaves a mapping a mapping. -/
@[simp] theorem DocumentFilter.isMapping_apply (filter : DocumentFilter) (document : Document) :
    (filter.apply document).isMapping = document.isMapping := by
  rw [apply]
  split
  · rw [narrowDocument, isMapping_changeMetadata, isMapping_deleteAll]
  · exact isMapping_deleteAll _ _

/-- A mapping is digested if its excludes can be read, and else fails as they do. -/
theorem digestManifest_cases
    {manifest : Document}
    (isMapping : manifest.isMapping = true)
    (domain : String) :
    (∃ failure, readExcludes manifest domain = .error failure ∧
      digestManifest manifest domain = .error failure) ∨
    ∃ paths digest, readExcludes manifest domain = .ok paths ∧
      digestManifest manifest domain = .ok digest := by
  rw [digestManifest, digestManifestWith, signingFilter]
  cases readExcludes manifest domain with
  | error failure => exact .inl ⟨failure, rfl, rfl⟩
  | ok paths =>
      simp only [Except.map, DocumentFilter.isMapping_apply, isMapping, if_true]
      exact .inr ⟨paths, _, rfl, rfl⟩

/-! ## Verdicts -/

/-- Whether a manifest holds a signature of its digest by the key of a domain. -/
def IsSigned (manifest : Document) (domain : TrustDomain) : Prop :=
  ∃ encoded octets signature digest key,
    annotation? manifest (signatureAnnotationKey domain.name) = some encoded ∧
    Text.decodeBase64 (Text.octets (Text.trim encoded)) = .ok octets ∧
    Crypto.EcdsaSignature.ofDer? octets = some signature ∧
    digestManifest manifest domain.name = .ok digest ∧
    domain.verifyingKey = .ok key ∧
    key.verifies digest.octets signature = true

/-- Why the key of a domain does not vouch for a manifest. -/
inductive Distrusted (manifest : Document) (domain : TrustDomain) : Prop
  /-- There is no signature, or it is not a text. -/
  | unsigned
      (noText : annotation? manifest (signatureAnnotationKey domain.name) = none)
  /-- The excludes can be read, and the signature is not base64. -/
  | notBase64
      {encoded : String}
      {paths : List FieldPath}
      (isText : annotation? manifest (signatureAnnotationKey domain.name) = some encoded)
      (excludes : readExcludes manifest domain.name = .ok paths)
      (undecodable : ∀ octets,
        Text.decodeBase64 (Text.octets (Text.trim encoded)) ≠ .ok octets)
  /-- The excludes and the key can be read, and the signature does not verify. -/
  | invalid
      {paths : List FieldPath}
      {key : Crypto.PublicKey}
      (excludes : readExcludes manifest domain.name = .ok paths)
      (isKey : domain.verifyingKey = .ok key)
      (notSigned : ¬ IsSigned manifest domain)

theorem IsSigned.not_distrusted
    {manifest : Document}
    {domain : TrustDomain}
    (signed : IsSigned manifest domain) :
    ¬ Distrusted manifest domain := by
  intro distrusted
  have ⟨encoded, octets, _, _, _, found, decoded, _⟩ := signed
  cases distrusted with
  | unsigned noText => cases noText.symm.trans found
  | notBase64 isText excludes undecodable =>
      obtain rfl := Option.some.inj (isText.symm.trans found)
      exact undecodable octets decoded
  | invalid excludes isKey notSigned => exact notSigned signed

/-! ## Failures of the input -/

theorem readManifest_eq_ok_iff {text : String} {manifest : Document} :
    readManifest text = .ok manifest ↔
      Yaml.read? text = some manifest ∧ manifest.isMapping = true := by
  rw [readManifest]
  cases Yaml.read? text with
  | none => simp
  | some document =>
      by_cases isMapping : document.isMapping = true
      · simp only [isMapping, if_true, Except.ok.injEq, Option.some.injEq]
        exact ⟨fun same => ⟨same, same ▸ isMapping⟩, And.left⟩
      · simp only [isMapping, Bool.false_eq_true, if_false, reduceCtorEq, Option.some.injEq]
        refine (iff_of_false id ?_)
        rintro ⟨rfl, isMapping'⟩
        exact isMapping isMapping'

theorem exitCode_of_readManifest
    {text : String}
    {failure : SignatureError}
    (fails : readManifest text = .error failure) :
    failure.exitCode = 1 := by
  rw [readManifest] at fails
  split at fails
  · split at fails <;> cases fails
    rfl
  · cases fails
    rfl

theorem exitCode_of_readExcludes
    {manifest : Document}
    {domain : String}
    {failure : SignatureError}
    (fails : readExcludes manifest domain = .error failure) :
    failure.exitCode = 1 := by
  simp only [readExcludes, pathsOfSelectors] at fails
  split at fails
  · cases fails
  · split at fails
    · cases fails
      rfl
    · split at fails
      · cases fails
        rfl
      · split at fails <;> cases fails
        rfl

theorem exitCode_of_decodePublicKey
    {text : String}
    {failure : SignatureError}
    (fails : decodePublicKey text = .error failure) :
    failure.exitCode = 1 := by
  rw [decodePublicKey] at fails
  split at fails
  · cases fails
    rfl
  · split at fails <;> cases fails
    rfl

/-! ## The status of a verification -/

/-- The status that a verification ends with. -/
def verificationStatus : Except SignatureError Verification → Nat
  | .error failure => failure.exitCode
  | .ok verification =>
      if verification.isValid then CommandLine.successStatus
      else CommandLine.invalidSignatureStatus

/-- What a status says about a manifest. -/
inductive StatusMeans (manifest : Document) (domain : TrustDomain) : Nat → Prop
  /-- The manifest is signed. -/
  | signed
      (isSigned : IsSigned manifest domain) :
      StatusMeans manifest domain 0
  /-- The key of the domain does not vouch for it. -/
  | distrusted
      (isDistrusted : Distrusted manifest domain) :
      StatusMeans manifest domain 4
  /-- It cannot be told. -/
  | undecided
      (notSigned : ¬ IsSigned manifest domain)
      (notDistrusted : ¬ Distrusted manifest domain) :
      StatusMeans manifest domain 1

namespace StatusMeans

variable {manifest : Document} {domain : TrustDomain} {status : Nat}

theorem eq_zero_iff (means : StatusMeans manifest domain status) :
    status = 0 ↔ IsSigned manifest domain := by
  cases means with
  | signed isSigned => exact iff_of_true rfl isSigned
  | distrusted isDistrusted =>
      exact iff_of_false (by decide) fun isSigned => isSigned.not_distrusted isDistrusted
  | undecided notSigned notDistrusted => exact iff_of_false (by decide) notSigned

theorem eq_four_iff (means : StatusMeans manifest domain status) :
    status = 4 ↔ Distrusted manifest domain := by
  cases means with
  | signed isSigned => exact iff_of_false (by decide) isSigned.not_distrusted
  | distrusted isDistrusted => exact iff_of_true rfl isDistrusted
  | undecided notSigned notDistrusted => exact iff_of_false (by decide) notDistrusted

theorem status_mem (means : StatusMeans manifest domain status) : status ∈ [0, 1, 4] := by
  cases means <;> simp

end StatusMeans

section Checks

variable {manifest : Document} {domain : TrustDomain} {encoded : String}
  (found : annotation? manifest (signatureAnnotationKey domain.name) = some encoded)

include found

/-- Without readable excludes nothing is told about a manifest with a signature. -/
theorem StatusMeans.of_unreadable_excludes
    {failure : SignatureError}
    (isMapping : manifest.isMapping = true)
    (excludes : readExcludes manifest domain.name = .error failure) :
    StatusMeans manifest domain 1 := by
  refine .undecided ?_ ?_
  · rintro ⟨-, -, -, digest, -, -, -, -, digested, -⟩
    obtain ⟨_, -, digested'⟩ | ⟨paths, -, excludes', -⟩ :=
      digestManifest_cases isMapping domain.name
    · cases digested'.symm.trans digested
    · cases excludes.symm.trans excludes'
  · rintro (noText | ⟨-, excludes', -⟩ | ⟨excludes', -, -⟩)
    · cases noText.symm.trans found
    · cases excludes.symm.trans excludes'
    · cases excludes.symm.trans excludes'

/-- Without a readable key nothing is told about a manifest with a signature in base64. -/
theorem StatusMeans.of_unreadable_key
    {octets : List UInt8}
    {failure : SignatureError}
    (decoded : Text.decodeBase64 (Text.octets (Text.trim encoded)) = .ok octets)
    (noKey : domain.verifyingKey = .error failure) :
    StatusMeans manifest domain 1 := by
  refine .undecided ?_ ?_
  · rintro ⟨-, -, -, -, key, -, -, -, -, isKey, -⟩
    cases noKey.symm.trans isKey
  · rintro (noText | ⟨isText, -, undecodable⟩ | ⟨-, isKey, -⟩)
    · cases noText.symm.trans found
    · obtain rfl := Option.some.inj (found.symm.trans isText)
      exact undecodable octets decoded
    · cases noKey.symm.trans isKey

/-- Where everything can be read, the signature decides. -/
theorem isSigned_iff_of_readable
    {octets : List UInt8}
    {digest : ManifestDigest}
    {key : Crypto.PublicKey}
    (decoded : Text.decodeBase64 (Text.octets (Text.trim encoded)) = .ok octets)
    (digested : digestManifest manifest domain.name = .ok digest)
    (isKey : domain.verifyingKey = .ok key) :
    IsSigned manifest domain ↔
      ∃ signature, Crypto.EcdsaSignature.ofDer? octets = some signature ∧
        key.verifies digest.octets signature = true := by
  constructor
  · rintro ⟨_, _, signature, _, _, found', decoded', isSignature, digested', isKey', verifies⟩
    obtain rfl := Option.some.inj (found.symm.trans found')
    obtain rfl := Except.ok.inj (decoded.symm.trans decoded')
    obtain rfl := Except.ok.inj (digested.symm.trans digested')
    obtain rfl := Except.ok.inj (isKey.symm.trans isKey')
    exact ⟨signature, isSignature, verifies⟩
  · rintro ⟨signature, isSignature, verifies⟩
    exact ⟨encoded, octets, signature, digest, key, found, decoded, isSignature, digested, isKey,
      verifies⟩

theorem StatusMeans.of_readable
    {octets : List UInt8}
    {paths : List FieldPath}
    {digest : ManifestDigest}
    {key : Crypto.PublicKey}
    (decoded : Text.decodeBase64 (Text.octets (Text.trim encoded)) = .ok octets)
    (excludes : readExcludes manifest domain.name = .ok paths)
    (digested : digestManifest manifest domain.name = .ok digest)
    (isKey : domain.verifyingKey = .ok key) :
    StatusMeans manifest domain
      (verificationStatus (.ok
        ⟨match Crypto.EcdsaSignature.ofDer? octets with
          | some signature => key.verifies digest.octets signature
          | none => false, digest⟩)) := by
  have decides := isSigned_iff_of_readable found decoded digested isKey
  cases isSignature : Crypto.EcdsaSignature.ofDer? octets with
  | none =>
      have notSigned : ¬ IsSigned manifest domain := by simp [decides, isSignature]
      exact .distrusted (.invalid excludes isKey notSigned)
  | some signature =>
      rw [isSignature] at decides
      cases verifies : key.verifies digest.octets signature with
      | false =>
          have notSigned : ¬ IsSigned manifest domain := by simp [decides, verifies]
          simp only [verifies]
          exact .distrusted (.invalid excludes isKey notSigned)
      | true =>
          simp only [verifies]
          exact .signed (decides.2 ⟨signature, rfl, verifies⟩)

end Checks

/-- The checks are made in an order in which the status tells what they find. -/
theorem statusMeans_verifyManifest
    {manifest : Document}
    (isMapping : manifest.isMapping = true)
    (domain : TrustDomain) :
    StatusMeans manifest domain (verificationStatus (verifyManifest manifest domain)) := by
  rw [verifyManifest]
  -- A missing signature comes before unreadable excludes, and one that is not base64 before an
  -- unreadable key: in each pair trust comes first, as in `Distrusted`.
  cases found : annotation? manifest (signatureAnnotationKey domain.name) with
  | none => exact .distrusted (.unsigned found)
  | some encoded =>
      obtain ⟨failure, excludes, digested⟩ | ⟨paths, digest, excludes, digested⟩ :=
        digestManifest_cases isMapping domain.name
      · simp only [digested, verificationStatus, exitCode_of_readExcludes excludes]
        exact .of_unreadable_excludes found isMapping excludes
      · simp only [digested]
        cases decoded : Text.decodeBase64 (Text.octets (Text.trim encoded)) with
        | error defect =>
            refine .distrusted (.notBase64 found excludes fun octets decodes => ?_)
            cases decoded.symm.trans decodes
        | ok octets =>
            cases isKey : domain.verifyingKey with
            | error failure =>
                simp only [verificationStatus, exitCode_of_decodePublicKey isKey]
                exact .of_unreadable_key found decoded isKey
            | ok key =>
                exact .of_readable found decoded excludes digested isKey

namespace CommandLine

/-! ## The command -/

/-- Whether a domain is verified under if a name and perhaps a public key are given: its key is
the given one, or the one of the default domain. -/
def IsSelected (domain : TrustDomain) (name : String) (publicKey : Option String) : Prop :=
  domain.name = name ∧
    (publicKey = some domain.publicKey ∨ publicKey = none ∧ domain = TrustDomain.standard)

theorem verificationDomain_eq_ok_iff
    {name : String}
    {publicKey : Option String}
    {domain : TrustDomain} :
    verificationDomain name publicKey = .ok domain ↔ IsSelected domain name publicKey := by
  rw [verificationDomain.eq_def, IsSelected]
  cases publicKey with
  | some given =>
      constructor
      · rintro ⟨⟩
        exact ⟨rfl, .inl rfl⟩
      · rintro ⟨rfl, isGiven | ⟨isNone, -⟩⟩
        · rw [Option.some.inj isGiven]
        · cases isNone
  | none =>
      dsimp only
      split
      · next isDefault =>
          constructor
          · rintro ⟨⟩
            exact ⟨isDefault.symm, .inr ⟨rfl, rfl⟩⟩
          · rintro ⟨-, isSome | ⟨-, rfl⟩⟩
            · cases isSome
            · rfl
      · next isOther =>
          refine ⟨fun impossible => ?_, ?_⟩
          · cases impossible
          rintro ⟨rfl, isSome | ⟨-, rfl⟩⟩
          · cases isSome
          · exact absurd rfl isOther

theorem status_of_verificationDomain
    {name : String}
    {publicKey : Option String}
    {failure : CommandFailure}
    (fails : verificationDomain name publicKey = .error failure) :
    failure.status = inputStatus := by
  rw [verificationDomain.eq_def] at fails
  split at fails
  · cases fails
  · split at fails <;> cases fails
    rfl

section Runs

variable {State : Type}
  (respond : (request : SessionRequest) → State → request.Reply × State)

@[simp] theorem run_settle_ok
    {Failure Answer : Type}
    (describe : Failure → CommandFailure)
    (answer : Answer)
    (state : State) :
    (settle describe (.ok answer)).run.run respond state = (.ok answer, state) := rfl

/-- What the machine replies when an input is read. -/
def inputReply (path : String) (state : State) : Except String String × State :=
  if path = "-" then respond .loadInput state else respond (.load path) state

/-- An input that can be read is read. -/
theorem run_readText
    {path text : String}
    {state : State}
    (readable : (inputReply respond path state).1 = .ok text) :
    (readText path).run.run respond state = (.ok text, (inputReply respond path state).2) := by
  rw [inputReply] at readable ⊢
  rw [readText]
  split
  · next isInput =>
      rw [if_pos isInput] at readable
      change ((respond .loadInput state).1.mapError _, _) = _
      rw [readable]
      rfl
  · next isFile =>
      rw [if_neg isFile] at readable
      change ((respond (.load path) state).1.mapError _, _) = _
      rw [readable]
      rfl

/-- The status of a command is that of its failure, unless it succeeds. -/
theorem status_run (command : Command) (state : State) :
    (command.run.run respond state).1.status =
      match (command.outcome.run.run respond state).1 with
      | .ok result => result.status
      | .error failure => failure.status := by
  rw [Command.run, Script.run_bind]
  cases (command.outcome.run.run respond state).1 <;> rfl

/-- The status of a verification of an input that can be read. -/
theorem status_verify
    {path text : String}
    {state : State}
    (readable : (inputReply respond path state).1 = .ok text)
    (publicKey : Option String)
    (name : String)
    (isQuiet : Bool) :
    ((Command.verify path publicKey name isQuiet).run.run respond state).1.status =
      match verificationDomain name publicKey with
      | .error _ => inputStatus
      | .ok domain => verificationStatus (verifyYaml text domain) := by
  rw [status_run, Command.outcome, verifyOutput]
  simp only [Script.run_bind_except, run_readText respond readable]
  cases selected : verificationDomain name publicKey with
  | error failure => exact status_of_verificationDomain selected
  | ok domain =>
      simp only [run_settle_ok]
      cases verifyYaml text domain with
      | error failure => rfl
      | ok verification =>
          obtain ⟨isValid, digest⟩ := verification
          cases isValid <;> cases isQuiet <;> rfl

end Runs

/-- What is verified: the manifest in a text under the domain that is selected. -/
structure Presents (text name : String) (publicKey : Option String) (manifest : Document)
    (domain : TrustDomain) : Prop where
  /-- The text is the manifest. -/
  isManifest : Yaml.read? text = some manifest
  /-- The manifest is a mapping. -/
  isMapping : manifest.isMapping = true
  /-- A key is available for the domain. -/
  isSelected : IsSelected domain name publicKey

section Texts

variable {text name : String} {publicKey : Option String}

theorem Presents.unique
    {manifest other : Document}
    {domain otherDomain : TrustDomain}
    (presents : Presents text name publicKey manifest domain)
    (presentsOther : Presents text name publicKey other otherDomain) :
    other = manifest ∧ otherDomain = domain := by
  have sameDomain := (verificationDomain_eq_ok_iff.2 presents.isSelected).symm.trans
    (verificationDomain_eq_ok_iff.2 presentsOther.isSelected)
  have sameManifest := presents.isManifest.symm.trans presentsOther.isManifest
  exact ⟨(Option.some.inj sameManifest).symm, (Except.ok.inj sameDomain).symm⟩

/-- What holds of something that is verified holds of the one manifest and the one domain. -/
theorem Presents.exists_and_iff
    {manifest : Document}
    {domain : TrustDomain}
    (presents : Presents text name publicKey manifest domain)
    (Holds : Document → TrustDomain → Prop) :
    (∃ manifest domain, Presents text name publicKey manifest domain ∧ Holds manifest domain) ↔
      Holds manifest domain := by
  refine ⟨?_, fun holds => ⟨manifest, domain, presents, holds⟩⟩
  rintro ⟨other, otherDomain, presentsOther, holds⟩
  obtain ⟨rfl, rfl⟩ := presents.unique presentsOther
  exact holds

/-- The status of a verification tells about the manifest and the domain, if there are both, and
else is one. -/
theorem status_verify_cases
    {State : Type}
    (respond : (request : SessionRequest) → State → request.Reply × State)
    {path : String}
    {state : State}
    (readable : (inputReply respond path state).1 = .ok text)
    (name : String)
    (publicKey : Option String)
    (isQuiet : Bool) :
    (∃ manifest domain, Presents text name publicKey manifest domain ∧
      StatusMeans manifest domain
        ((Command.verify path publicKey name isQuiet).run.run respond state).1.status) ∨
    (¬ ∃ manifest domain, Presents text name publicKey manifest domain) ∧
      ((Command.verify path publicKey name isQuiet).run.run respond state).1.status = 1 := by
  rw [status_verify respond readable]
  cases selected : verificationDomain name publicKey with
  | error failure =>
      refine .inr ⟨?_, rfl⟩
      rintro ⟨manifest, domain, -, -, isSelected⟩
      cases selected.symm.trans (verificationDomain_eq_ok_iff.2 isSelected)
  | ok domain =>
      dsimp only
      rw [verifyYaml]
      cases read : readManifest text with
      | error failure =>
          refine .inr ⟨?_, exitCode_of_readManifest read⟩
          rintro ⟨manifest, -, isManifest, isMapping, -⟩
          cases read.symm.trans (readManifest_eq_ok_iff.2 ⟨isManifest, isMapping⟩)
      | ok manifest =>
          obtain ⟨isManifest, isMapping⟩ := readManifest_eq_ok_iff.1 read
          exact .inl ⟨manifest, domain,
            ⟨isManifest, isMapping, verificationDomain_eq_ok_iff.1 selected⟩,
            statusMeans_verifyManifest isMapping domain⟩

end Texts

/-- A verification of an input that can be read ends with status zero exactly if the manifest is
signed under the selected domain, with four exactly if the key of that domain is available and
does not vouch for the manifest, and else with one.  A filter, whatever it excludes, leaves a
mapping a mapping, so that no other status is reached. -/
theorem verify_status_tells_trust_from_input
    {State : Type}
    (respond : (request : SessionRequest) → State → request.Reply × State)
    (state : State)
    {path text : String}
    (readable : (inputReply respond path state).1 = .ok text)
    (name : String)
    (publicKey : Option String)
    (isQuiet : Bool) :
    let status := ((Command.verify path publicKey name isQuiet).run.run respond state).1.status
    (status = 0 ↔ ∃ manifest domain,
      Presents text name publicKey manifest domain ∧ IsSigned manifest domain) ∧
    (status = 4 ↔ ∃ manifest domain,
      Presents text name publicKey manifest domain ∧ Distrusted manifest domain) ∧
    status ∈ [0, 1, 4] ∧
    ∀ (filter : DocumentFilter) (manifest : Document),
      manifest.isMapping = true → (filter.apply manifest).isMapping = true := by
  intro status
  have leaves : ∀ (filter : DocumentFilter) (manifest : Document),
      manifest.isMapping = true → (filter.apply manifest).isMapping = true :=
    fun filter manifest isMapping => (filter.isMapping_apply manifest).trans isMapping
  obtain ⟨manifest, domain, presents, means⟩ | ⟨absent, isOne⟩ :=
    status_verify_cases respond readable name publicKey isQuiet
  · refine ⟨?_, ?_, means.status_mem, leaves⟩
    · rw [presents.exists_and_iff IsSigned]
      exact means.eq_zero_iff
    · rw [presents.exists_and_iff Distrusted]
      exact means.eq_four_iff
  · have nothing (Holds : Document → TrustDomain → Prop) :
        ¬ ∃ manifest domain, Presents text name publicKey manifest domain ∧
          Holds manifest domain := by
      rintro ⟨manifest, domain, presents, -⟩
      exact absent ⟨manifest, domain, presents⟩
    have isStatus : status = 1 := isOne
    refine ⟨iff_of_false ?_ (nothing IsSigned), iff_of_false ?_ (nothing Distrusted), ?_, leaves⟩
    · omega
    · omega
    · simp [isStatus]

/-! ## A signed manifest on the standard input -/

namespace SignedInput

open SignedExample

/-- A signature by the private key one. -/
def signatureText : String :=
  "MEQCIHW14+z51e/BvmvKDjqApq3HnS+41LdbG69MXCQq2JjMAiBpvUyrx9lQ9lCKjSrR8A7oKpIASvFXuA4P" ++
    "tVmSzw5uiA=="

/-- A manifest with the signature. -/
def text : String :=
  "kind: PackageBundle\nmetadata:\n  annotations:\n    example.org/signature: " ++
    signatureText ++ "\n"

/-- The manifest as a document. -/
def manifest : Document :=
  .mapping [
    ("kind", .text "PackageBundle"),
    ("metadata", .mapping [
      ("annotations", .mapping [("example.org/signature", .text signatureText)])])]

/-- The domain of the signature. -/
def domain : TrustDomain := ⟨"example.org", trust.publicKey⟩

/-- What is signed. -/
def digest : ManifestDigest := ⟨"kind: PackageBundle\nmetadata: {}\n"⟩

/-- The signature as two numbers. -/
def signature : Crypto.EcdsaSignature where
  r := 53241975688245958926354659964843769829593497126851278131809360307064371976396
  s := 47827312360405866348560518065426288529796741399355100926547215359575180865160

/-- A machine with the manifest on its standard input, and with nothing else. -/
def machine : (request : SessionRequest) → Unit → request.Reply × Unit
  | .load _, state => (.error "no such file", state)
  | .loadInput, state => (.ok text, state)
  | .save _ _, state => (.error "read-only", state)
  | .restrict _, state => (.error "read-only", state)
  | .createDirectory _, state => (.error "read-only", state)
  | .findPath _, state => (false, state)
  | .randomOctets _, state => ([], state)

theorem read?_text : Yaml.read? text = some manifest := by decide +kernel

theorem digestManifest_manifest : digestManifest manifest domain.name = .ok digest :=
  (digestManifestWith_eq_ok_iff (by decide +kernel)).2
    ⟨rfl, .mapping [("kind", .text "PackageBundle"), ("metadata", .mapping [])],
      by decide +kernel, by decide +kernel⟩

theorem isSigned_manifest : IsSigned manifest domain := by
  have verifies : publicKey.verifies digest.octets signature = true := by
    rw [Crypto.PublicKey.verifies_eq]
    decide +kernel
  exact ⟨signatureText, signature.toDer, signature, digest, publicKey, rfl, by decide +kernel,
    by decide +kernel, digestManifest_manifest, verifyingKey_trust, verifies⟩

/-- The manifest is accepted. -/
theorem accepted_from_input :
    (inputReply machine "-" ()).1 = .ok text ∧
      ((Command.verify "-" (some trust.publicKey) "example.org" true).run.run
        machine ()).1.status = 0 := by
  have readable : (inputReply machine "-" ()).1 = .ok text := rfl
  have presents : Presents text "example.org" (some trust.publicKey) manifest domain :=
    ⟨read?_text, rfl, rfl, .inl rfl⟩
  obtain ⟨accepts, -⟩ := verify_status_tells_trust_from_input machine () readable "example.org"
    (some trust.publicKey) true
  exact ⟨readable, accepts.2 ⟨manifest, domain, presents, isSigned_manifest⟩⟩

end SignedInput

end CommandLine
end BundleTrust
