import BundleTrust.Registry.Pull

/-!
# What pulled content is pinned to

The network answers as it likes, and every request may be repeated.  A fetch ends with the first
body that is delivered with a success and takes no other one (`deliveries_fetchFrom`), so a pull
that returns something was delivered one manifest and one blob, and nothing else
(`PullSettings.run_pull_eq_ok_iff`).  The blob has the digest of the manifest's layer.  The
manifest is what the registry delivers at the address of the reference: its own digest is not
compared with that of the reference, and so pinned only as far as the registry does it.
-/

namespace BundleTrust

/-! ## Transcripts -/

namespace Script

variable {Request : Type} {Reply : Request → Type} {Answer Next State : Type}
  (respond : (request : Request) → State → Reply request × State)

/-- The requests of a run with the replies to them, in order. -/
def transcript : Script Request Reply Answer → State → List ((request : Request) × Reply request)
  | .done _, _ => []
  | .ask request next, state =>
      ⟨request, (respond request state).1⟩ ::
        (next (respond request state).1).transcript (respond request state).2

/-- The transcript of a script that goes on is that of the one script and then of the other. -/
theorem transcript_bind
    (script : Script Request Reply Answer)
    (second : Answer → Script Request Reply Next)
    (state : State) :
    (script.bind second).transcript respond state =
      script.transcript respond state ++
        (second (script.run respond state).1).transcript respond
          (script.run respond state).2 := by
  induction script generalizing state with
  | done answer => rfl
  | ask request next ih => simp only [bind, transcript, run, ih, List.cons_append]

variable {respond}

/-- Every reply in a transcript was given in some state. -/
theorem exists_reply_of_mem_transcript
    {script : Script Request Reply Answer}
    {state : State}
    {entry : (request : Request) × Reply request}
    (isEntry : entry ∈ script.transcript respond state) :
    ∃ state', entry.2 = (respond entry.1 state').1 := by
  induction script generalizing state with
  | done answer => cases isEntry
  | ask request next ih =>
      rcases List.mem_cons.1 isEntry with rfl | later
      · exact ⟨state, rfl⟩
      · exact ih _ later

end Script

/-! ## Deliveries -/

namespace HttpOutcome

/-- The body that came with a success. -/
def body? : HttpOutcome → Option (List UInt8)
  | .answered status (.ok body) => if 200 ≤ status && status < 300 then some body else none
  | _ => none

end HttpOutcome

/-- Exactly the bodies that came with a success are taken. -/
theorem toOption_judgeOutcome (reference : String) (outcome : HttpOutcome) :
    (judgeOutcome reference outcome).toOption = outcome.body? := by
  cases outcome with
  | unsent detail => rfl
  | answered status body =>
      by_cases success : (200 ≤ status && status < 300) = true
      · cases body <;> simp only [judgeOutcome, HttpOutcome.body?, success, ↓reduceIte] <;> rfl
      · have noBody : (HttpOutcome.answered status body).body? = none := by
          cases body <;> simp [HttpOutcome.body?, success]
        rw [judgeOutcome.eq_def, noBody]
        simp only [if_neg success]
        (repeat' split) <;> rfl

namespace ExchangeRequest

/-- The request that was sent and the body that was delivered for it. -/
def delivery? : (request : ExchangeRequest) × request.Reply → Option (HttpRequest × List UInt8)
  | ⟨.send request, outcome⟩ => outcome.body?.map (Prod.mk request)
  | ⟨.pause _, _⟩ => none

@[simp] theorem delivery?_send (request : HttpRequest) (outcome : HttpOutcome) :
    delivery? ⟨.send request, outcome⟩ = outcome.body?.map (Prod.mk request) := rfl

end ExchangeRequest

section Deliveries

variable {Answer Next State : Type}
  (respond : (request : ExchangeRequest) → State → request.Reply × State)

/-- What is delivered in a run: the requests that were answered with a body and a success, with
that body. -/
def deliveries (exchange : Exchange Answer) (state : State) : List (HttpRequest × List UInt8) :=
  (exchange.transcript respond state).filterMap ExchangeRequest.delivery?

@[simp] theorem deliveries_done (answer : Answer) (state : State) :
    deliveries respond (.done answer) state = [] := rfl

@[simp] theorem deliveries_pause
    (milliseconds : UInt64)
    (next : Unit → Exchange Answer)
    (state : State) :
    deliveries respond (.ask (.pause milliseconds) next) state =
      deliveries respond (next ()) (respond (.pause milliseconds) state).2 := rfl

theorem deliveries_bind
    (exchange : Exchange Answer)
    (second : Answer → Exchange Next)
    (state : State) :
    deliveries respond (exchange.bind second) state =
      deliveries respond exchange state ++
        deliveries respond (second (exchange.run respond state).1)
          (exchange.run respond state).2 := by
  rw [deliveries, Script.transcript_bind, List.filterMap_append]
  rfl

/-- An attempt delivers its result, if it has one. -/
theorem deliveries_attempt (reference : String) (request : HttpRequest) (state : State) :
    deliveries respond (attempt reference request) state =
      ((attempt reference request).run respond state).1.toOption.toList.map (Prod.mk request) := by
  rw [attempt]
  split
  · simp only [deliveries, Script.transcript, Script.run, toOption_judgeOutcome,
      List.filterMap_cons, ExchangeRequest.delivery?_send]
    cases HttpOutcome.body? (respond (.send request) state).1 <;> rfl
  · rfl

/-- A fetch delivers its result, and what comes before the result is no delivery. -/
theorem deliveries_fetchFrom
    (reference : String)
    (request : HttpRequest)
    (left : Nat)
    (repetitions : UInt32)
    (state : State) :
    deliveries respond (fetchFrom reference request left repetitions) state =
      ((fetchFrom reference request left repetitions).run respond state).1.toOption.toList.map
        (Prod.mk request) := by
  induction left generalizing repetitions state with
  | zero =>
      rw [fetchFrom, deliveries_bind, Script.run_bind, deliveries_attempt]
      cases ((attempt reference request).run respond state).1 <;> rfl
  | succ left ih =>
      rw [fetchFrom, deliveries_bind, Script.run_bind, deliveries_attempt]
      cases ((attempt reference request).run respond state).1 with
      | ok body => rfl
      | error failure =>
          -- A failure delivers nothing; if it may be gone, the later attempts count.
          cases transient : failure.isTransient with
          | true => simpa [transient, Except.toOption, Script.run] using ih (repetitions + 1) _
          | false => simp [transient, Except.toOption, Script.run]

/-- What is delivered is what the network replied to that request in some state. -/
theorem exists_reply_of_mem_deliveries
    {exchange : Exchange Answer}
    {state : State}
    {request : HttpRequest}
    {body : List UInt8}
    (delivered : (request, body) ∈ deliveries respond exchange state) :
    ∃ state', HttpOutcome.body? (respond (.send request) state').1 = some body := by
  obtain ⟨⟨asked, reply⟩, isEntry, isDelivery⟩ := List.mem_filterMap.1 delivered
  obtain ⟨state', isReply⟩ := Script.exists_reply_of_mem_transcript isEntry
  cases asked with
  | send request' =>
      rw [ExchangeRequest.delivery?_send, Option.map_eq_some_iff] at isDelivery
      obtain ⟨body', isBody, same⟩ := isDelivery
      obtain ⟨rfl, rfl⟩ := Prod.mk.inj same
      exact ⟨state', isReply ▸ isBody⟩
  | pause milliseconds => cases isDelivery

end Deliveries

/-! ## Steps of a pull -/

namespace PullStep

variable {Answer Next State : Type}
  (respond : (request : ExchangeRequest) → State → request.Reply × State)

/-- A step that goes on delivers what the first part delivers and then, unless that fails, what
follows delivers. -/
theorem deliveries_bind
    (first : PullStep Answer)
    (next : Answer → PullStep Next)
    (state : State) :
    deliveries respond (first >>= next).run state =
      deliveries respond first.run state ++
        match first.run.run respond state with
        | (.ok answer, state) => deliveries respond (next answer).run state
        | (.error _, _) => [] := by
  refine (BundleTrust.deliveries_bind respond first.run _ state).trans ?_
  rcases first.run.run respond state with ⟨_ | _, _⟩ <;> rfl

end PullStep

/-- The selected layer is the first one that is titled as a bundle; if none is, it is the only
one. -/
theorem selectLayer_eq_ok_iff {reference : String} {layers : List Layer} {layer : Layer} :
    selectLayer reference layers = .ok layer ↔
      layers.find? Layer.isBundle = some layer ∨
        layers.find? Layer.isBundle = none ∧ layers = [layer] := by
  rw [selectLayer.eq_def]
  cases layers.find? Layer.isBundle with
  | some titled => simp
  | none =>
      match layers with
      | [] | _ :: _ :: _ => simp
      | [only] => simp

theorem checkBlob_eq_ok_iff {reference digest : String} {blob octets : List UInt8} :
    checkBlob reference digest blob = .ok octets ↔
      contentDigest octets = digest ∧ blob = octets := by
  rw [checkBlob]
  split
  · next isContent =>
      rw [Except.ok.injEq]
      exact ⟨fun same => ⟨same ▸ isContent, same⟩, And.right⟩
  · next isOther =>
      refine ⟨fun impossible => (nomatch impossible), ?_⟩
      rintro ⟨isContent, rfl⟩
      exact absurd isContent isOther

namespace PullSettings

/-- The request for the manifest of an artifact. -/
def manifestRequest (settings : PullSettings) (artifact : ArtifactReference) : HttpRequest :=
  settings.request (artifact.manifestAddress settings.isInsecure) (some manifestMediaTypes)

/-- The request for a blob from the repository of an artifact. -/
def blobRequest (settings : PullSettings) (artifact : ArtifactReference) (digest : String) :
    HttpRequest :=
  settings.request (artifact.blobAddress digest settings.isInsecure) none

variable {State : Type} {respond : (request : ExchangeRequest) → State → request.Reply × State}

variable (respond) in
/-- A fetch ends with the one body that is delivered, or it fails and none is. -/
theorem fetch_cases
    (settings : PullSettings)
    (reference address : String)
    (accept : Option String)
    (state : State) :
    (∃ body after,
        (settings.fetch reference address accept).run respond state = (.ok body, after) ∧
          deliveries respond (settings.fetch reference address accept) state =
            [(settings.request address accept, body)]) ∨
      ∃ failure after,
        (settings.fetch reference address accept).run respond state = (.error failure, after) ∧
          deliveries respond (settings.fetch reference address accept) state = [] := by
  have delivered := deliveries_fetchFrom respond reference (settings.request address accept)
    settings.maxRetries.toNat 0 state
  rw [← fetch] at delivered
  rcases outcome : (settings.fetch reference address accept).run respond state with
    ⟨failure | body, after⟩
  · exact .inr ⟨failure, after, rfl, by rw [delivered, outcome]; rfl⟩
  · exact .inl ⟨body, after, rfl, by rw [delivered, outcome]; rfl⟩

/-- A pull ends with content exactly if, all in all, a manifest was delivered at the address of
the reference and then the content at the address of the blob, and if the manifest selects a
layer with the digest of the content. -/
theorem run_pull_eq_ok_iff
    {settings : PullSettings}
    {reference : String}
    {state : State}
    {octets : List UInt8} :
    ((settings.pull reference).run.run respond state).1 = .ok octets ↔
      ∃ artifact manifest layers layer,
        ArtifactReference.read reference = .ok artifact ∧
        readLayers artifact.render manifest = .ok layers ∧
        selectLayer reference layers = .ok layer ∧
        contentDigest octets = layer.digest ∧
        deliveries respond (settings.pull reference).run state =
          [(settings.manifestRequest artifact, manifest),
            (settings.blobRequest artifact layer.digest, octets)] := by
  simp only [pull, fetchLayers, Script.run_bind_except, PullStep.deliveries_bind, ExceptT.run_mk,
    Script.run, deliveries_done, List.nil_append]
  cases ArtifactReference.read reference with
  | error failure => simp
  | ok artifact =>
      obtain ⟨manifest, later, fetched, delivered⟩ | ⟨failure, later, fetched, delivered⟩ :=
        settings.fetch_cases respond artifact.render
          (artifact.manifestAddress settings.isInsecure) (some manifestMediaTypes) state
      · simp only [fetched, delivered]
        cases isList : readLayers artifact.render manifest with
        | error failure => simp
        | ok layers =>
            cases selected : selectLayer reference layers with
            | error failure => simp [selected]
            | ok layer =>
                obtain ⟨blob, last, fetchedBlob, deliveredBlob⟩ |
                    ⟨failure, last, fetchedBlob, deliveredBlob⟩ :=
                  settings.fetch_cases respond reference
                    (artifact.blobAddress layer.digest settings.isInsecure) none later
                · simp only [selected, fetchedBlob, deliveredBlob, checkBlob_eq_ok_iff]
                  constructor
                  · rintro ⟨isContent, rfl⟩
                    exact ⟨artifact, manifest, layers, layer, rfl, isList, selected, isContent, rfl⟩
                  · rintro ⟨_, _, _, _, ⟨⟩, isList', selected', isContent, same⟩
                    simp only [List.append_nil, List.cons_append, List.nil_append,
                      List.cons.injEq, Prod.mk.injEq, and_true] at same
                    obtain ⟨⟨-, rfl⟩, -, rfl⟩ := same
                    cases isList.symm.trans isList'
                    cases selected.symm.trans selected'
                    exact ⟨isContent, rfl⟩
                · simp [selected, fetchedBlob, deliveredBlob]
      · simp [fetched, delivered]

/-- Whatever the network replies, pulled content is what was delivered for a layer of the manifest
that was delivered at the address of the reference: the first layer titled as a bundle, or the
only one.  The content has the digest that this layer records.  If the reference names a digest,
the manifest has it as far as the registry delivers nothing else at its address. -/
theorem pulled_content_pinned
    {settings : PullSettings}
    {reference : String}
    {state : State}
    {octets : List UInt8}
    (pulled : ((settings.pull reference).run.run respond state).1 = .ok octets) :
    ∃ artifact manifest layers layer,
      ArtifactReference.read reference = .ok artifact ∧
      deliveries respond (settings.pull reference).run state =
        [(settings.manifestRequest artifact, manifest),
          (settings.blobRequest artifact layer.digest, octets)] ∧
      readLayers artifact.render manifest = .ok layers ∧
      (layers.find? Layer.isBundle = some layer ∨
        (∀ other ∈ layers, other.isBundle = false) ∧ layers = [layer]) ∧
      contentDigest octets = layer.digest ∧
      ∀ digest, artifact.selector = .digest digest →
        (∀ state' body,
          HttpOutcome.body? (respond (.send (settings.manifestRequest artifact)) state').1 =
            some body → contentDigest body = digest) →
        contentDigest manifest = digest := by
  obtain ⟨artifact, manifest, layers, layer, isArtifact, isList, selected, isContent,
    delivered⟩ := run_pull_eq_ok_iff.1 pulled
  refine ⟨artifact, manifest, layers, layer, isArtifact, delivered, isList, ?_, isContent, ?_⟩
  · refine (selectLayer_eq_ok_iff.1 selected).imp_right (And.imp_left fun untitled => ?_)
    exact fun other isLayer => Bool.eq_false_iff.2 (List.find?_eq_none.1 untitled other isLayer)
  · intro digest _ addressesContent
    obtain ⟨state', isReply⟩ := exists_reply_of_mem_deliveries respond
      (delivered ▸ List.mem_cons_self)
    exact addressesContent state' manifest isReply

end PullSettings

namespace PullExample

/-- The standard settings, without encryption. -/
def settings : PullSettings := { PullSettings.standard with isInsecure := true }

/-- Content that somebody changed. -/
def content : List UInt8 := Text.octets "tampered: true\n"

/-- A manifest that lists it. -/
def manifest : List UInt8 :=
  Text.octets
    ("\x7b\"layers\":[\x7b\"digest\":\"sha256:" ++
      "3ddf6b18049714de6d016103960704a39e373f4d82f8b3af9f137ad933b438d3\"\x7d]\x7d")

/-- An artifact by its digest. -/
def artifact (digest : String) : ArtifactReference where
  registry := "reg.example.com:5000"
  repository := "eks/bundles"
  selector := .digest digest

/-- A registry that delivers the manifest at one address and the content at all others. -/
def registry (address : String) :
    (request : ExchangeRequest) → Unit → request.Reply × Unit
  | .send request, _ =>
      (.answered 200 (.ok (if request.address = address then manifest else content)), ())
  | .pause _, _ => ((), ())

/-- The digest of the manifest. -/
def manifestDigest : String :=
  "sha256:e99cccbd0e3345dbd7784d0bc62ebaeef5a10bd40626e669c28ded15ba0a0675"

/-- The digest of nothing here. -/
def otherDigest : String :=
  "sha256:aaaaaaaaaaaaaaaaaaaaaaaaaaaaaaaaaaaaaaaaaaaaaaaaaaaaaaaaaaaaaaaa"

/-- The address of the manifest that is meant by a digest. -/
def manifestAddress (digest : String) : String :=
  (artifact digest).manifestAddress true

/-- The registry that delivers the manifest where its own digest is asked for. -/
theorem addressed_manifest_pulled :
    ((settings.pull (artifact manifestDigest).render).run.run
        (registry (manifestAddress manifestDigest)) ()).1 = .ok content ∧
      ∃ served layer,
        deliveries (registry (manifestAddress manifestDigest))
            (settings.pull (artifact manifestDigest).render).run () =
          [(settings.manifestRequest (artifact manifestDigest), served),
            (settings.blobRequest (artifact manifestDigest) (Layer.digest layer), content)] ∧
        contentDigest content = layer.digest ∧ contentDigest served = manifestDigest := by
  have pulled : ((settings.pull (artifact manifestDigest).render).run.run
      (registry (manifestAddress manifestDigest)) ()).1 = .ok content := by decide +kernel
  have isArtifact : ArtifactReference.read (artifact manifestDigest).render =
      .ok (artifact manifestDigest) := by decide +kernel
  obtain ⟨_, served, _, layer, isArtifact', delivered, -, -, isContent, pinned⟩ :=
    PullSettings.pulled_content_pinned pulled
  cases isArtifact.symm.trans isArtifact'
  refine ⟨pulled, served, layer, delivered, isContent, pinned manifestDigest rfl ?_⟩
  intro _ body isBody
  have isManifest : manifest = body := by
    simpa [registry, HttpOutcome.body?, PullSettings.manifestRequest, PullSettings.request,
      manifestAddress, settings] using isBody
  subst isManifest
  decide +kernel

/-- A registry that delivers the manifest where another digest is asked for is believed. -/
theorem manifest_of_other_digest_pulled :
    ArtifactReference.read (artifact otherDigest).render = .ok (artifact otherDigest) ∧
      ((settings.pull (artifact otherDigest).render).run.run
        (registry (manifestAddress otherDigest)) ()).1 = .ok content ∧
      deliveries (registry (manifestAddress otherDigest))
          (settings.pull (artifact otherDigest).render).run () =
        [(settings.manifestRequest (artifact otherDigest), manifest),
          (settings.blobRequest (artifact otherDigest) (contentDigest content), content)] ∧
      contentDigest manifest ≠ otherDigest := by
  decide +kernel

end PullExample

end BundleTrust
