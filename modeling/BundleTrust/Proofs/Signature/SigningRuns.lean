import BundleTrust.Proofs.Signature.Annotations
import BundleTrust.Proofs.Signature.EqualViews
import BundleTrust.Proofs.Signature.SignThenVerify
import Mathlib.Data.List.Forall2

/-!
# Signing in turn

A manifest is signed, what is exported of it is signed again, and so on, under any domains
and with any keys.  Where its metadata are a mapping, no signing changes the digest under any
domain, so the last signature under each of them stays valid; and the document that is
exported last depends only on the manifest and on the last key of every domain
(`domains_do_not_interfere`).

The invariant is that every export is the export of the manifest with the signatures made so
far (`Carries`).
-/

namespace BundleTrust

open Document

/-- A signing: under which domain and with which private key, in PEM. -/
structure Signing where
  /-- The domain. -/
  domain : String
  /-- The private key. -/
  pem : String
  deriving DecidableEq, Repr

/-- Sign a manifest, then what was exported of it, and so on. -/
def signInTurn (manifest : Document) : List Signing → Except SignatureError (List SignedManifest)
  | [] => .ok []
  | signing :: rest =>
      match signManifest manifest signing.pem signing.domain with
      | .error failure => .error failure
      | .ok signed => (signInTurn signed.document rest).map fun later => signed :: later

/-- The document that was exported last; the manifest itself where nothing was signed. -/
def finalDocument (manifest : Document) : List SignedManifest → Document
  | [] => manifest
  | signed :: later => finalDocument signed.document later

/-- The last private key that was used for a domain. -/
def lastKey? (domain : String) : List Signing → Option Crypto.PrivateKey
  | [] => none
  | signing :: rest =>
      (lastKey? domain rest).or
        (if signing.domain = domain then (readPrivateKey signing.pem).toOption else none)

/-- The signature of a manifest under a domain with a private key. -/
def signatureText? (manifest : Document) (domain : String) (key : Crypto.PrivateKey) :
    Option String :=
  (digestManifest manifest domain).toOption.bind fun digest =>
    (encodeSignature (key.sign? digest.octets)).toOption

/-! ## Keys of signatures and of declarations -/

theorem signatureAnnotationKey_injective
    {domain other : String}
    (same : signatureAnnotationKey domain = signatureAnnotationKey other) :
    domain = other := by
  have sameList := congrArg String.toList same
  rw [signatureAnnotationKey, signatureAnnotationKey, String.toList_append,
    String.toList_append] at sameList
  exact String.toList_injective (List.append_cancel_right sameList)

/-- A signature is no declaration of any domain. -/
theorem signatureAnnotationKey_not_mem_declarationKeys (domain other : String) :
    signatureAnnotationKey domain ∉ declarationKeys other := by
  have lastOfSignature : "/signature".toList.getLast? = some 'e' := by decide
  have differ : ∀ ending : String, ending.toList.getLast? = some 's' →
      signatureAnnotationKey domain ≠ other ++ ending := by
    intro ending lastOfEnding same
    have sameLast := congrArg (fun text => text.toList.getLast?) same
    simp only [signatureAnnotationKey, String.toList_append, List.getLast?_append,
      lastOfSignature, lastOfEnding, Option.some_or] at sameLast
    exact absurd sameLast (by decide)
  simp only [declarationKeys, List.mem_cons, List.not_mem_nil, or_false, not_or]
  exact ⟨differ _ (by decide), differ _ (by decide)⟩

/-! ## Digests -/

/-- Mappings of which the same is covered have the same digest, or fail alike. -/
theorem digestManifest_congr
    {manifest other : Document}
    {domain : String}
    (sorted : manifest.Sorted)
    (sorted' : other.Sorted)
    (listed : readExcludes manifest domain = readExcludes other domain)
    (covered : ∀ paths, coveredWith paths (declarationKeys domain) manifest =
      coveredWith paths (declarationKeys domain) other) :
    digestManifest manifest domain = digestManifest other domain := by
  refine digestManifest_eq_of_coveredView_eq sorted sorted' ?_
  rw [coveredView, coveredView, listed]
  exact congrArg (Except.map · _) (funext covered)

/-! ## One signing -/

/-- A manifest whose keys are in order and whose metadata are a mapping. -/
structure HasMetadata (manifest : Document) : Prop where
  /-- The keys are in order. -/
  sorted : manifest.Sorted
  /-- The metadata are a mapping. -/
  isMetadata : ∃ metadata, manifest.get? "metadata" = some (.mapping metadata)

section Signing

variable {manifest document : Document} {pem domain : String} {signed : SignedManifest}
  {additions : Members}

/-- A signing succeeds with a key and the signature of the manifest with that key. -/
theorem exists_key_of_signManifest
    (signs : signManifest manifest pem domain = .ok signed) :
    ∃ key, readPrivateKey pem = .ok key ∧
      signatureText? manifest domain key = some signed.signature := by
  obtain ⟨annotated, digested, made, -, -⟩ := signManifest_eq_ok_iff.1 signs
  cases isKey : readPrivateKey pem with
  | error failure =>
      rw [signDigest, isKey] at made
      cases made
  | ok key =>
      rw [signDigest, isKey, bind_ok_eq] at made
      refine ⟨key, rfl, ?_⟩
      rw [signatureText?, digested, Except.toOption, Option.bind_some, made]
      rfl

theorem HasMetadata.of_signManifest
    (has : HasMetadata manifest)
    (signs : signManifest manifest pem domain = .ok signed) :
    HasMetadata signed.document := by
  obtain ⟨annotated, -, -, set, isExport⟩ := signManifest_eq_ok_iff.1 signs
  obtain ⟨metadata, isMetadata⟩ := has.isMetadata
  rw [isExport]
  constructor
  · rw [apply_serverAssigned]
    exact Sorted.without _ _ (sorted_annotated set has.sorted)
  · rw [annotated_eq_putAnnotations set has.sorted isMetadata]
    exact ⟨_, get?_metadata_export (get?_metadata_putAnnotations isMetadata)⟩

theorem exists_annotated_of_signManifest
    (has : HasMetadata manifest)
    (signs : signManifest manifest pem domain = .ok signed)
    (key value : String) :
    ∃ annotated, setAnnotation signed.document key value = .ok annotated := by
  obtain ⟨annotated, -, -, set, isExport⟩ := signManifest_eq_ok_iff.1 signs
  obtain ⟨metadata, isMetadata⟩ := has.isMetadata
  rw [isExport, annotated_eq_putAnnotations set has.sorted isMetadata,
    apply_putAnnotations has.sorted]
  exact exists_annotated (get?_metadata_putAnnotations (get?_metadata_export isMetadata))
    (by rw [Members.get?_insert, if_pos rfl]) key value

/-- A signing under one domain changes the digest under none. -/
theorem digestManifest_signed
    (has : HasMetadata manifest)
    (signs : signManifest manifest pem domain = .ok signed)
    (other : String) :
    digestManifest signed.document other = digestManifest manifest other := by
  have signedSorted := (has.of_signManifest signs).sorted
  obtain ⟨annotated, -, -, set, isExport⟩ := signManifest_eq_ok_iff.1 signs
  obtain ⟨metadata, isMetadata⟩ := has.isMetadata
  have foreign := signatureAnnotationKey_not_mem_declarationKeys domain other
  rw [isExport] at signedSorted ⊢
  refine digestManifest_congr signedSorted has.sorted ?_ fun paths => ?_
  · refine readExcludes_congr ?_
    rw [annotation?_serverAssigned, annotation?_annotated set, if_neg]
    rintro same
    exact foreign (by simp [declarationKeys, same])
  · rw [coveredWith_serverAssigned, coveredWith_annotated set has.sorted foreign isMetadata]

/-! ## What exports carry -/

/-- A document is what is exported of a manifest with some signatures, and has the digests of
the manifest. -/
structure Carries (manifest : Document) (additions : Members) (document : Document) : Prop where
  /-- It is exported with the signatures; where there are none it is the manifest. -/
  isExport : document = annotatedExport additions manifest
  /-- Its metadata are a mapping. -/
  hasMetadata : HasMetadata document
  /-- Under every domain its digest is that of the manifest. -/
  digests : ∀ domain, digestManifest document domain = digestManifest manifest domain
  /-- The signatures are in the order of their keys. -/
  ascending : Members.Ascending additions

theorem Carries.refl (has : HasMetadata manifest) : Carries manifest [] manifest :=
  ⟨rfl, has, fun _ => rfl, List.Pairwise.nil⟩

/-- A signing adds its signature to what is carried. -/
theorem Carries.sign
    (carries : Carries manifest additions document)
    (has : HasMetadata manifest)
    (signs : signManifest document pem domain = .ok signed) :
    Carries manifest
      (Members.insert (signatureAnnotationKey domain) (.text signed.signature) additions)
      signed.document := by
  obtain ⟨annotated, -, -, set, isExport⟩ := signManifest_eq_ok_iff.1 signs
  obtain ⟨metadata, isMetadata⟩ := has.isMetadata
  constructor
  · have sorted := carries.hasMetadata.sorted
    rw [carries.isExport] at set sorted
    rw [isExport, apply_setAnnotation_annotatedExport set sorted has.sorted isMetadata]
  · exact carries.hasMetadata.of_signManifest signs
  · intro other
    rw [digestManifest_signed carries.hasMetadata signs, carries.digests]
  · exact carries.ascending.insert _ _

theorem Carries.signatureText?_eq
    (carries : Carries manifest additions document)
    (domain : String)
    (key : Crypto.PrivateKey) :
    signatureText? document domain key = signatureText? manifest domain key := by
  rw [signatureText?, carries.digests, signatureText?]

theorem Carries.annotation?_eq
    (carries : Carries manifest additions document)
    (has : HasMetadata manifest)
    {key text : String}
    (carried : Members.get? additions key = some (.text text)) :
    annotation? document key = some text := by
  obtain ⟨metadata, isMetadata⟩ := has.isMetadata
  have nonempty : additions ≠ [] := by
    rintro rfl
    cases carried
  rw [carries.isExport, annotatedExport_of_ne_nil nonempty, annotation?,
    get?_metadata_putAnnotations (get?_metadata_export isMetadata)]
  simp [Document.get?, carried, asText?]

end Signing

/-! ## Runs -/

section Runs

variable {manifest document : Document} {additions : Members} {signings : List Signing}
  {exports : List SignedManifest}

/-- Signing in turn succeeds if every step does. -/
theorem signInTurn_cons_eq_ok
    {signing : Signing}
    (signs : signInTurn manifest (signing :: signings) = .ok exports) :
    ∃ signed later, signManifest manifest signing.pem signing.domain = .ok signed ∧
      signInTurn signed.document signings = .ok later ∧ exports = signed :: later := by
  rw [signInTurn] at signs
  split at signs
  · cases signs
  · next signed isSigned =>
      cases rest : signInTurn signed.document signings with
      | error failure =>
          rw [rest] at signs
          cases signs
      | ok later =>
          rw [rest] at signs
          exact ⟨signed, later, isSigned, rest, (Except.ok.inj signs).symm⟩

/-- The signatures after signings: under every domain the one that was made with the last key,
else the one before. -/
structure Resigned (manifest : Document) (signings : List Signing)
    (before after : Members) : Prop where
  /-- A domain that was signed under has a signature with its last key. -/
  signed : ∀ domain key, lastKey? domain signings = some key →
    ∃ text, signatureText? manifest domain key = some text ∧
      Members.get? after (signatureAnnotationKey domain) = some (.text text)
  /-- A domain that was not signed under has what it had before. -/
  unsigned : ∀ domain, lastKey? domain signings = none →
    Members.get? after (signatureAnnotationKey domain) =
      Members.get? before (signatureAnnotationKey domain)
  /-- There are no other members than signatures. -/
  others : ∀ name, (∀ domain, name ≠ signatureAnnotationKey domain) →
    Members.get? after name = Members.get? before name

/-- A signing before others adds its signature, which stays unless its domain is signed under
again. -/
theorem Resigned.cons
    {signing : Signing}
    {key : Crypto.PrivateKey}
    {text : String}
    {before after : Members}
    (isKey : readPrivateKey signing.pem = .ok key)
    (isText : signatureText? manifest signing.domain key = some text)
    (resigned : Resigned manifest signings
      (Members.insert (signatureAnnotationKey signing.domain) (.text text) before) after) :
    Resigned manifest (signing :: signings) before after := by
  have lastKey?_cons (domain : String) : lastKey? domain (signing :: signings) =
      (lastKey? domain signings).or (if signing.domain = domain then some key else none) := by
    rw [lastKey?, isKey]
    rfl
  refine ⟨fun domain last isLast => ?_, fun domain noKey => ?_, fun name isOther => ?_⟩
  · rw [lastKey?_cons] at isLast
    -- A later signing under the same domain replaces this signature.
    cases again : lastKey? domain signings with
    | some other =>
        rw [again] at isLast
        cases isLast
        exact resigned.signed domain last again
    | none =>
        rw [again, Option.none_or] at isLast
        split at isLast
        · next here =>
            subst here
            cases isLast
            refine ⟨text, isText, ?_⟩
            rw [resigned.unsigned _ again, Members.get?_insert, if_pos rfl]
        · cases isLast
  · rw [lastKey?_cons, Option.or_eq_none_iff] at noKey
    have elsewhere : signatureAnnotationKey domain ≠ signatureAnnotationKey signing.domain := by
      intro same
      rw [if_pos (signatureAnnotationKey_injective same).symm] at noKey
      cases noKey.2
    rw [resigned.unsigned domain noKey.1, Members.get?_insert, if_neg elsewhere]
  · rw [resigned.others name isOther, Members.get?_insert, if_neg (isOther _)]

/-- A run adds the last signature under every domain to what is carried. -/
theorem Carries.run
    (carries : Carries manifest additions document)
    (has : HasMetadata manifest)
    (signs : signInTurn document signings = .ok exports) :
    ∃ after, Carries manifest after (finalDocument document exports) ∧
      Resigned manifest signings additions after := by
  induction signings generalizing document additions exports with
  | nil =>
      cases signs
      exact ⟨additions, carries, ⟨nofun, fun _ _ => rfl, fun _ _ => rfl⟩⟩
  | cons signing rest ih =>
      obtain ⟨signed, later, isSigned, laterSigns, rfl⟩ := signInTurn_cons_eq_ok signs
      obtain ⟨key, isKey, isText⟩ := exists_key_of_signManifest isSigned
      -- The digests are those of the manifest, so the signature does not depend on earlier ones.
      rw [carries.signatureText?_eq] at isText
      obtain ⟨after, carriesAfter, resigned⟩ := ih (carries.sign has isSigned) laterSigns
      exact ⟨after, carriesAfter, resigned.cons isKey isText⟩

/-- Every signing of a run covers the digest that the manifest has under its domain. -/
theorem Carries.digests_of_run
    (carries : Carries manifest additions document)
    (has : HasMetadata manifest)
    (signs : signInTurn document signings = .ok exports) :
    List.Forall₂ (fun signing signed => digestManifest manifest signing.domain = .ok signed.digest)
      signings exports := by
  induction signings generalizing document additions exports with
  | nil =>
      cases signs
      exact .nil
  | cons signing rest ih =>
      obtain ⟨signed, later, isSigned, laterSigns, rfl⟩ := signInTurn_cons_eq_ok signs
      refine .cons ?_ (ih (carries.sign has isSigned) laterSigns)
      obtain ⟨-, digested, -⟩ := signManifest_eq_ok_iff.1 isSigned
      rw [← carries.digests, digested]

/-- A run succeeds if annotations can be set and every digest of the manifest can be signed. -/
theorem Carries.exists_run
    (carries : Carries manifest additions document)
    (has : HasMetadata manifest)
    (settable : ∀ key value, ∃ annotated, setAnnotation document key value = .ok annotated)
    (signable : ∀ signing ∈ signings, ∃ digest text,
      digestManifest manifest signing.domain = .ok digest ∧
        signDigest digest signing.pem = .ok text) :
    ∃ exports, signInTurn document signings = .ok exports := by
  induction signings generalizing document additions with
  | nil => exact ⟨[], rfl⟩
  | cons signing rest ih =>
      obtain ⟨digest, text, digested, made⟩ := signable signing List.mem_cons_self
      obtain ⟨annotated, set⟩ := settable (signatureAnnotationKey signing.domain) text
      have signs : signManifest document signing.pem signing.domain =
          .ok ⟨DocumentFilter.serverAssigned.apply annotated, text, digest⟩ :=
        signManifest_eq_ok_iff.2
          ⟨annotated, (carries.digests signing.domain).trans digested, made, set, rfl⟩
      obtain ⟨exports, later⟩ := ih (carries.sign has signs)
        (fun key value => exists_annotated_of_signManifest carries.hasMetadata signs key value)
        fun signing isLater => signable signing (List.mem_cons_of_mem _ isLater)
      have inTurn : signInTurn document (signing :: rest) = (signInTurn
          (DocumentFilter.serverAssigned.apply annotated) rest).map
            (⟨DocumentFilter.serverAssigned.apply annotated, text, digest⟩ :: ·) := by
        rw [signInTurn, signs]
      rw [inTurn, later]
      exact ⟨_, rfl⟩

/-- The last keys of two runs that start with nothing determine what is carried. -/
theorem Resigned.eq_of_lastKey
    {signings' : List Signing}
    {after after' : Members}
    (resigned : Resigned manifest signings [] after)
    (resigned' : Resigned manifest signings' [] after')
    (ascending : Members.Ascending after)
    (ascending' : Members.Ascending after')
    (same : ∀ domain, lastKey? domain signings' = lastKey? domain signings) :
    after' = after := by
  refine ascending'.ext ascending fun name => ?_
  by_cases isSignature : ∃ domain, name = signatureAnnotationKey domain
  · obtain ⟨domain, rfl⟩ := isSignature
    cases isLast : lastKey? domain signings with
    | none => rw [resigned.unsigned domain isLast, resigned'.unsigned domain (same domain ▸ isLast)]
    | some key =>
        obtain ⟨text, isText, found⟩ := resigned.signed domain key isLast
        obtain ⟨text', isText', found'⟩ := resigned'.signed domain key (same domain ▸ isLast)
        rw [found, found', Option.some.inj (isText.symm.trans isText')]
  · have isOther := not_exists.1 isSignature
    rw [resigned.others name isOther, resigned'.others name isOther]

end Runs

/-! ## Verification and signing again -/

section Final

variable {manifest document : Document} {additions : Members} {domain text : String}
  {key : Crypto.PrivateKey}

theorem exists_digest_of_signatureText?
    (isText : signatureText? manifest domain key = some text) :
    ∃ digest, digestManifest manifest domain = .ok digest ∧
      encodeSignature (key.sign? digest.octets) = .ok text := by
  rw [signatureText?] at isText
  cases digested : digestManifest manifest domain with
  | error failure =>
      rw [digested] at isText
      cases isText
  | ok digest =>
      rw [digested, Except.toOption, Option.bind_some] at isText
      cases encoded : encodeSignature (key.sign? digest.octets) with
      | error failure =>
          rw [encoded] at isText
          cases isText
      | ok made =>
          rw [encoded, Except.toOption] at isText
          obtain rfl := Option.some.inj isText
          exact ⟨digest, rfl, encoded⟩

/-- A document that carries a signature with a key verifies with the public key. -/
theorem Carries.verifies
    {trust : TrustDomain}
    {publicKey : Crypto.PublicKey}
    {digest : ManifestDigest}
    (carries : Carries manifest additions document)
    (has : HasMetadata manifest)
    (carried : Members.get? additions (signatureAnnotationKey trust.name) = some (.text text))
    (digested : digestManifest manifest trust.name = .ok digest)
    (encoded : encodeSignature (key.sign? digest.octets) = .ok text)
    (isPublic : key.publicKey? = some publicKey)
    (verifying : trust.verifyingKey = .ok publicKey)
    (accepts : AcceptsOwnSignature key digest.octets) :
    verifyManifest document trust = .ok ⟨true, digest⟩ := by
  obtain ⟨signature, octets, isSigned, decoded, read⟩ := exists_of_encodeSignature
    (fun _ signed => Crypto.isScalar_of_sign? signed) encoded
  simp only [verifyManifest, carries.annotation?_eq has carried, carries.digests, digested,
    decoded, verifying, read, accepts publicKey signature isPublic isSigned]

/-- Signing again with the key of the signature that is carried returns the same document. -/
theorem Carries.signManifest_again
    {pem : String}
    (carries : Carries manifest additions document)
    (has : HasMetadata manifest)
    (carried : Members.get? additions (signatureAnnotationKey domain) = some (.text text))
    (isText : signatureText? manifest domain key = some text)
    (isKey : readPrivateKey pem = .ok key) :
    ∃ signed, signManifest document pem domain = .ok signed ∧ signed.document = document := by
  obtain ⟨metadata, isMetadata⟩ := has.isMetadata
  obtain ⟨digest, digested, encoded⟩ := exists_digest_of_signatureText? isText
  have nonempty : additions ≠ [] := by
    rintro rfl
    cases carried
  obtain ⟨others, isHeld⟩ : ∃ others, document.get? "metadata" =
      some (.mapping (Members.insert "annotations"
        (.mapping (Members.overlay additions (annotationsOf manifest))) others)) := by
    rw [carries.isExport, annotatedExport_of_ne_nil nonempty]
    exact ⟨_, get?_metadata_putAnnotations (get?_metadata_export isMetadata)⟩
  obtain ⟨annotated, set⟩ := exists_annotated isHeld
    (by rw [Members.get?_insert, if_pos rfl]) (signatureAnnotationKey domain) text
  have made : signDigest digest pem = .ok text := by rw [signDigest, isKey, bind_ok_eq, encoded]
  have signs : signManifest document pem domain =
      .ok ⟨DocumentFilter.serverAssigned.apply annotated, text, digest⟩ :=
    signManifest_eq_ok_iff.2 ⟨annotated, (carries.digests domain).trans digested, made, set, rfl⟩
  refine ⟨_, signs, ?_⟩
  rw [(carries.sign has signs).isExport, Members.insert_of_get? carries.ascending carried,
    ← carries.isExport]

end Final

/-! ## Domains do not interfere -/

/-- The signings of a manifest in turn do not interfere. -/
structure DomainsApart (manifest : Document) (signings : List Signing)
    (exports : List SignedManifest) : Prop where
  /-- Every signing covers the digest that the manifest has under its domain. -/
  signedDigests : List.Forall₂
    (fun signing signed => digestManifest manifest signing.domain = .ok signed.digest)
    signings exports
  /-- The final document has the digest of the manifest under every domain. -/
  finalDigests : ∀ domain,
    digestManifest (finalDocument manifest exports) domain = digestManifest manifest domain
  /-- The last signature under every domain is valid on the final document. -/
  verifies : ∀ (trust : TrustDomain) (key : Crypto.PrivateKey) (publicKey : Crypto.PublicKey),
    lastKey? trust.name signings = some key → key.publicKey? = some publicKey →
    trust.verifyingKey = .ok publicKey →
    ∃ digest, digestManifest manifest trust.name = .ok digest ∧
      (AcceptsOwnSignature key digest.octets →
        verifyManifest (finalDocument manifest exports) trust = .ok ⟨true, digest⟩)
  /-- Other signings in turn with the same last keys lead to the same final document. -/
  determined : ∀ signings' exports', signInTurn manifest signings' = .ok exports' →
    (∀ domain, lastKey? domain signings' = lastKey? domain signings) →
    finalDocument manifest exports' = finalDocument manifest exports
  /-- Signing the final document again with the last key of a domain returns it. -/
  signsAgain : ∀ domain key pem, lastKey? domain signings = some key →
    readPrivateKey pem = .ok key →
    ∃ signed, signManifest (finalDocument manifest exports) pem domain = .ok signed ∧
      signed.document = finalDocument manifest exports

/-- Whatever domains a manifest is signed under, in whatever order and with whatever keys, no
domain interferes with another. -/
theorem domains_do_not_interfere
    {manifest : Document}
    (sorted : manifest.Sorted)
    (isMetadata : ∃ metadata, manifest.get? "metadata" = some (.mapping metadata))
    {signings : List Signing}
    {exports : List SignedManifest}
    (signs : signInTurn manifest signings = .ok exports) :
    DomainsApart manifest signings exports := by
  have has : HasMetadata manifest := ⟨sorted, isMetadata⟩
  have start := Carries.refl has
  obtain ⟨after, carries, resigned⟩ := start.run has signs
  constructor
  · exact start.digests_of_run has signs
  · exact carries.digests
  · intro trust key publicKey isLast isPublic verifying
    obtain ⟨text, isText, carried⟩ := resigned.signed trust.name key isLast
    obtain ⟨digest, digested, encoded⟩ := exists_digest_of_signatureText? isText
    exact ⟨digest, digested,
      carries.verifies has carried digested encoded isPublic verifying⟩
  · intro signings' exports' signs' same
    obtain ⟨after', carries', resigned'⟩ := start.run has signs'
    rw [carries'.isExport, carries.isExport,
      resigned.eq_of_lastKey resigned' carries.ascending carries'.ascending same]
  · intro domain key pem isLast isKey
    obtain ⟨text, isText, carried⟩ := resigned.signed domain key isLast
    exact carries.signManifest_again has carried isText isKey

namespace SignedExample

/-- The bundle is signed under the domain that lists a place in it. -/
def ownSigning : Signing := ⟨"eksa.aws.com", keyText⟩

/-- The bundle is signed under another domain. -/
def otherSigning : Signing := ⟨"example.org", keyText⟩

/-- What is covered of the bundle under the other domain. -/
def otherView : Document :=
  .mapping [
    ("kind", .text "PackageBundle"),
    ("metadata", .mapping [("name", .text "v1-21-1003")]),
    ("spec", .mapping [
      ("packages", .list [.mapping [("name", .text "flux"), ("registry", .text "localhost")]])])]

/-- The digest of the bundle under the other domain. -/
def otherDigest : ManifestDigest where
  yaml := "kind: PackageBundle\nmetadata:\n  name: v1-21-1003\nspec:\n  packages:\n" ++
    "  - name: flux\n    registry: localhost\n"

/-- Its octets. -/
def otherOctets : List UInt8 :=
  [215, 203, 65, 174, 180, 88, 246, 5, 59, 57, 156, 197, 133, 132, 36, 78,
    114, 212, 68, 254, 197, 111, 38, 249, 224, 48, 100, 123, 75, 199, 142, 182]

/-- The nonce that it is signed with. -/
def otherNonce : Crypto.FirstNonce key otherOctets where
  value := 109506404278379458411884491767440991529047469531547882149007790259998757829360
  drawn := by decide +kernel
  inRange := by decide

/-- Its signature. -/
def otherSignature : Crypto.EcdsaSignature where
  r := 72335282022049798032078093381218194440598816107627893515092438651375494284997
  s := 67143544023799795355365812975036105288263017581793131661914936840106418518027

theorem digestManifest_otherDigest : digestManifest bundle "example.org" = .ok otherDigest :=
  (digestManifestWith_eq_ok_iff sorted_bundle).2
    ⟨rfl, otherView, by decide +kernel, by decide +kernel⟩

theorem octets_otherDigest : otherDigest.octets = otherOctets := by decide +kernel

theorem sign?_otherOctets : key.sign? otherOctets = some otherSignature :=
  Crypto.PrivateKey.sign?_eq_some otherNonce (by decide +kernel)

theorem signDigest_digest :
    signDigest digest keyText = .ok (Text.encodeBase64 signature.toDer) := by
  rw [signDigest, readPrivateKey_keyText, bind_ok_eq, octets_digest, sign?_digestOctets]
  rfl

theorem signDigest_otherDigest :
    signDigest otherDigest keyText = .ok (Text.encodeBase64 otherSignature.toDer) := by
  rw [signDigest, readPrivateKey_keyText, bind_ok_eq, octets_otherDigest, sign?_otherOctets]
  rfl

/-- The bundle can be signed in turn under the two domains. -/
theorem exists_signInTurn
    {signings : List Signing}
    (known : ∀ signing ∈ signings, signing = ownSigning ∨ signing = otherSigning) :
    ∃ exports, signInTurn bundle signings = .ok exports := by
  have has : HasMetadata bundle := ⟨sorted_bundle, _, rfl⟩
  refine (Carries.refl has).exists_run has
    (fun key value => exists_annotated rfl rfl key value) fun signing isSigning => ?_
  rcases known signing isSigning with rfl | rfl
  · exact ⟨digest, _, digestManifest_bundle, signDigest_digest⟩
  · exact ⟨otherDigest, _, digestManifest_otherDigest, signDigest_otherDigest⟩

/-- Signing under one domain again after the other leads to the same document as signing once
under each of them, and that document is valid. -/
theorem bundle_signed_under_two_domains :
    ∃ exports exports', signInTurn bundle [ownSigning, otherSigning, ownSigning] = .ok exports ∧
      signInTurn bundle [otherSigning, ownSigning] = .ok exports' ∧
      finalDocument bundle exports' = finalDocument bundle exports ∧
      verifyManifest (finalDocument bundle exports) trust = .ok ⟨true, digest⟩ := by
  obtain ⟨exports, signs⟩ := @exists_signInTurn [ownSigning, otherSigning, ownSigning] (by simp)
  obtain ⟨exports', signs'⟩ := @exists_signInTurn [otherSigning, ownSigning] (by simp)
  have apart := domains_do_not_interfere sorted_bundle ⟨_, rfl⟩ signs
  have sameKeys : ∀ domain, lastKey? domain [otherSigning, ownSigning] =
      lastKey? domain [ownSigning, otherSigning, ownSigning] := by
    intro domain
    by_cases own : "eksa.aws.com" = domain <;> by_cases other : "example.org" = domain <;>
      simp [lastKey?, ownSigning, otherSigning, own, other]
  have isLast : lastKey? trust.name [ownSigning, otherSigning, ownSigning] = some key := by
    rw [lastKey?, lastKey?, lastKey?, ownSigning, readPrivateKey_keyText]
    rfl
  obtain ⟨made, digested, verifies⟩ :=
    apart.verifies trust key publicKey isLast publicKey?_key verifyingKey_trust
  obtain rfl : digest = made := Except.ok.inj (digestManifest_bundle.symm.trans digested)
  exact ⟨exports, exports', signs, signs', apart.determined _ _ signs' sameKeys,
    verifies acceptsOwnSignature⟩

end SignedExample

end BundleTrust
