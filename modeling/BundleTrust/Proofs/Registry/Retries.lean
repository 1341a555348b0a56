import BundleTrust.Proofs.Registry.PulledContent
import Mathlib.Algebra.Group.Nat.Defs
import Mathlib.Data.List.Basic
import Mathlib.Order.Bounds.Basic

/-!
# How often requests are repeated

Attempts are numbered from zero.  A fetch goes on from one attempt to the next exactly if the
outcome may be gone and a repetition is left (`run_fetchFrom_of_stops`,
`run_fetchFrom_of_transient`), so its last attempt is the first one with a final outcome, or that
after the last repetition (`exists_fetchEnds`).  The counter of the repetitions stays below
its limit, and the exponent of a pause below the width of the word in which it is shifted, so that
every pause is the one that exact arithmetic gives (`toNat_longestPause`).
-/

namespace BundleTrust

/-! ## Outcomes -/

/-- An outcome after which a request is not repeated: a success whose body was read, or a status
that is neither a success nor one that may be gone. -/
def HttpOutcome.IsFinal : HttpOutcome → Prop
  | .unsent _ => False
  | .answered status body =>
      if 200 ≤ status ∧ status ≤ 299 then ∃ octets, body = .ok octets
      else status ≠ 429 ∧ ¬ (500 ≤ status ∧ status ≤ 599)

theorem isTransientStatus_iff {status : Nat} :
    isTransientStatus status = true ↔ status = 429 ∨ 500 ≤ status ∧ status ≤ 599 := by
  simp [isTransientStatus, Nat.lt_succ_iff]

/-- An outcome is final unless it is judged a failure that may be gone. -/
theorem isFinal_iff (reference : String) (outcome : HttpOutcome) :
    outcome.IsFinal ↔
      ∀ failure, judgeOutcome reference outcome = .error failure →
        failure.isTransient = false := by
  cases outcome with
  | unsent detail =>
      refine iff_of_false id fun all => ?_
      cases all _ rfl
  | answered status body =>
      rw [HttpOutcome.IsFinal, judgeOutcome.eq_def]
      by_cases success : 200 ≤ status ∧ status ≤ 299
      · have isSuccess : (200 ≤ status && status < 300) = true := by
          simpa [Nat.lt_succ_iff] using success
        rw [if_pos success]
        simp only [if_pos isSuccess]
        cases body with
        | ok octets =>
            refine iff_of_true ⟨octets, rfl⟩ ?_
            rintro failure ⟨⟩
        | error detail =>
            refine iff_of_false ?_ fun all => ?_
            · rintro ⟨octets, ⟨⟩⟩
            · cases all _ rfl
      · have isOther : ¬ (200 ≤ status && status < 300) = true := by
          simpa [Nat.lt_succ_iff] using success
        rw [if_neg success]
        simp only [if_neg isOther]
        split
        · next refused =>
            have isRefusal : status = 401 ∨ status = 403 := by simpa using refused
            exact iff_of_true (by omega) (by rintro _ ⟨⟩; rfl)
        · split
          · next missing =>
              have isMissing : status = 404 := by simpa using missing
              exact iff_of_true (by omega) (by rintro _ ⟨⟩; rfl)
          · split
            · next transient =>
                have mayBeGone := isTransientStatus_iff.1 transient
                refine iff_of_false (by omega) fun all => ?_
                cases all _ rfl
            · next lasting =>
                have stays := mt isTransientStatus_iff.2 lasting
                exact iff_of_true (by omega) (by rintro _ ⟨⟩; rfl)

/-- A status that is neither a success nor one of those with a meaning of their own. -/
def HttpOutcome.IsOther (status : Nat) : Prop :=
  ¬ (200 ≤ status ∧ status ≤ 299) ∧ status ≠ 401 ∧ status ≠ 403 ∧ status ≠ 404 ∧
    status ≠ 429 ∧ ¬ (500 ≤ status ∧ status ≤ 599)

/-- What is reported of an outcome: the body of a success, and else why there is none. -/
inductive HttpOutcome.Reports (reference : String) :
    HttpOutcome → Except BundleError (List UInt8) → Prop
  /-- A success whose body was read is its body. -/
  | success {status : Nat} {octets : List UInt8} :
      200 ≤ status ∧ status ≤ 299 →
        Reports reference (.answered status (.ok octets)) (.ok octets)
  /-- A success whose body could not be read is a failure. -/
  | unreadable {status : Nat} {detail : String} :
      200 ≤ status ∧ status ≤ 299 →
        Reports reference (.answered status (.error detail))
          (.error (.registry reference ("failed to read response body: " ++ detail)))
  /-- A request that was lost is reported with what is known of it. -/
  | unsent {detail : String} :
      Reports reference (.unsent detail) (.error (.registry reference detail))
  /-- A sender that may not ask is told so. -/
  | unauthorized {status : Nat} {body : Except String (List UInt8)} :
      status = 401 ∨ status = 403 →
        Reports reference (.answered status body) (.error (.registry reference "unauthorized"))
  /-- Nothing is at the address. -/
  | missing {body : Except String (List UInt8)} :
      Reports reference (.answered 404 body) (.error (.registry reference "not found"))
  /-- Of a status that may be gone nothing but its number counts. -/
  | transient {status : Nat} {body : Except String (List UInt8)} :
      status = 429 ∨ 500 ≤ status ∧ status ≤ 599 →
        Reports reference (.answered status body)
          (.error (.registry reference ("HTTP " ++ Text.decimal status)))
  /-- Any other status is reported with the body that explains it. -/
  | explained {status : Nat} {octets : List UInt8} :
      HttpOutcome.IsOther status →
        Reports reference (.answered status (.ok octets))
          (.error
            (.registry reference
              ("HTTP " ++ Text.decimal status ++ ": " ++ Text.decodeUtf8Lossy octets)))
  /-- Without a body, any other status is reported with its phrase. -/
  | unexplained {status : Nat} {detail : String} :
      HttpOutcome.IsOther status →
        Reports reference (.answered status (.error detail))
          (.error
            (.registry reference ("HTTP " ++ Text.decimal status ++ ": " ++ statusText status)))

/-- What is judged of an outcome is reported of it. -/
theorem reports_judgeOutcome (reference : String) (outcome : HttpOutcome) :
    outcome.Reports reference
      ((judgeOutcome reference outcome).mapError FailedAttempt.error) := by
  cases outcome with
  | unsent detail => exact .unsent
  | answered status body =>
      rw [judgeOutcome.eq_def]
      by_cases success : 200 ≤ status ∧ status ≤ 299
      · have isSuccess : (200 ≤ status && status < 300) = true := by
          simpa [Nat.lt_succ_iff] using success
        simp only [if_pos isSuccess]
        cases body with
        | ok octets => exact .success success
        | error detail => exact .unreadable success
      · have isOther : ¬ (200 ≤ status && status < 300) = true := by
          simpa [Nat.lt_succ_iff] using success
        simp only [if_neg isOther]
        split
        · next refused => exact .unauthorized (by simpa using refused)
        · next notRefused =>
            split
            · next missing =>
                obtain rfl : status = 404 := by simpa using missing
                exact .missing
            · next notMissing =>
                split
                · next transient => exact .transient (isTransientStatus_iff.1 transient)
                · next lasting =>
                    have other : HttpOutcome.IsOther status := by
                      have stays := mt isTransientStatus_iff.2 lasting
                      simp only [Bool.or_eq_true, beq_iff_eq] at notRefused notMissing
                      rw [HttpOutcome.IsOther]
                      omega
                    cases body with
                    | ok octets => exact .explained other
                    | error detail => exact .unexplained other

/-- One thing only is reported of an outcome. -/
theorem HttpOutcome.Reports.unique
    {reference : String}
    {outcome : HttpOutcome}
    {result result' : Except BundleError (List UInt8)}
    (reports : outcome.Reports reference result)
    (reports' : outcome.Reports reference result') :
    result = result' := by
  cases reports <;> cases reports' <;> grind [HttpOutcome.IsOther]

/-! ## Pauses -/

/-- The exponent of a pause is at most five. -/
theorem toNat_pauseExponent (repetition : UInt32) :
    (min repetition 5).toUInt64.toNat = min repetition.toNat 5 := by
  rw [UInt32.toNat_toUInt64, UInt32.toNat_min]
  rfl

/-- The longest pause is what exact arithmetic gives. -/
theorem toNat_longestPause (repetition : UInt32) :
    (longestPause repetition).toNat = 1000 * min (2 ^ min repetition.toNat 5) 30 := by
  have bounded : min repetition.toNat 5 ≤ 5 := Nat.min_le_right _ _
  have power : ((1 : UInt64) <<< (min repetition 5).toUInt64).toNat =
      2 ^ min repetition.toNat 5 := by
    have small : 2 ^ min repetition.toNat 5 ≤ 2 ^ 5 := Nat.pow_le_pow_right (by decide) bounded
    rw [UInt64.toNat_shiftLeft, toNat_pauseExponent,
      Nat.mod_eq_of_lt (Nat.lt_of_le_of_lt bounded (by decide)), UInt64.toNat_one,
      Nat.one_shiftLeft]
    exact Nat.mod_eq_of_lt (Nat.lt_of_le_of_lt small (by decide))
  calc
    (longestPause repetition).toNat =
        1000 * min ((1 : UInt64) <<< (min repetition 5).toUInt64).toNat 30 % 2 ^ 64 := by
      rw [longestPause, UInt64.toNat_mul, UInt64.toNat_min]
      rfl
    _ = 1000 * min (2 ^ min repetition.toNat 5) 30 := by
      rw [power]
      exact Nat.mod_eq_of_lt (by omega)

/-- The pauses before the repetitions that can be counted. -/
theorem longestPause_ofNat {repetition : Nat} (counted : repetition < 2 ^ 32) :
    longestPause (UInt32.ofNat repetition) =
      UInt64.ofNat (1000 * min (2 ^ min repetition 5) 30) := by
  have small : 1000 * min (2 ^ min repetition 5) 30 < 2 ^ 64 := by omega
  rw [← UInt64.toNat_inj, toNat_longestPause, UInt32.toNat_ofNat_of_lt' counted,
    UInt64.toNat_ofNat_of_lt' small]

/-! ## Runs -/

namespace Script

variable {Request : Type} {Reply : Request → Type} {Answer Next State : Type}
  (respond : (request : Request) → State → Reply request × State)

/-- The requests of a run, in order. -/
def asked (script : Script Request Reply Answer) (state : State) : List Request :=
  (script.transcript respond state).map Sigma.fst

theorem asked_bind
    (script : Script Request Reply Answer)
    (second : Answer → Script Request Reply Next)
    (state : State) :
    (script.bind second).asked respond state =
      script.asked respond state ++
        (second (script.run respond state).1).asked respond (script.run respond state).2 := by
  rw [asked, transcript_bind, List.map_append]
  rfl

end Script

/-- A network on which the requests that are sent have given outcomes, one after the other.  Its
state is how many were sent. -/
def replaying (outcomes : Nat → HttpOutcome) :
    (request : ExchangeRequest) → Nat → request.Reply × Nat
  | .send _, sent => (outcomes sent, sent + 1)
  | .pause _, sent => ((), sent)

namespace HttpRequest

/-- Whether a request can be sent. -/
def isSendable (request : HttpRequest) : Bool :=
  (request.authorization.map isHeaderText).getD true

/-- How many requests are sent in some attempts. -/
def sent (request : HttpRequest) (attempts : Nat) : Nat :=
  if request.isSendable then attempts else 0

/-- What is asked in one attempt. -/
def once (request : HttpRequest) : List ExchangeRequest :=
  if request.isSendable then [.send request] else []

/-- The outcome of an attempt; one at a request that cannot be sent fails like one that is lost. -/
def outcomeOf (request : HttpRequest) (outcomes : Nat → HttpOutcome) (attempt : Nat) :
    HttpOutcome :=
  if request.isSendable then outcomes attempt else .unsent "builder error"

end HttpRequest

section Runs

variable (outcomes : Nat → HttpOutcome) (reference : String) (request : HttpRequest)

theorem run_attempt (index : Nat) :
    (attempt reference request).run (replaying outcomes) (request.sent index) =
      (judgeOutcome reference (request.outcomeOf outcomes index), request.sent (index + 1)) := by
  rw [attempt, HttpRequest.outcomeOf, HttpRequest.sent, HttpRequest.sent, ← HttpRequest.isSendable]
  split <;> rfl

theorem asked_attempt
    {State : Type}
    (respond : (request : ExchangeRequest) → State → request.Reply × State)
    (state : State) :
    (attempt reference request).asked respond state = request.once := by
  rw [attempt, HttpRequest.once, ← HttpRequest.isSendable]
  split <;> rfl

/-- A fetch ends with an attempt after which there is no repetition left or whose outcome is
final. -/
theorem run_fetchFrom_of_stops
    (left index : Nat)
    (repetitions : UInt32)
    (stops : left = 0 ∨ (request.outcomeOf outcomes index).IsFinal) :
    (fetchFrom reference request left repetitions).run (replaying outcomes) (request.sent index) =
        ((judgeOutcome reference (request.outcomeOf outcomes index)).mapError
          FailedAttempt.error, request.sent (index + 1)) ∧
      (fetchFrom reference request left repetitions).asked (replaying outcomes)
          (request.sent index) =
        request.once := by
  cases left with
  | zero =>
      rw [fetchFrom, Script.run_bind, Script.asked_bind, run_attempt, asked_attempt]
      exact ⟨rfl, List.append_nil _⟩
  | succ left =>
      have final := stops.resolve_left (Nat.succ_ne_zero left)
      rw [fetchFrom, Script.run_bind, Script.asked_bind, run_attempt, asked_attempt]
      cases judged : judgeOutcome reference (request.outcomeOf outcomes index) with
      | ok body => exact ⟨rfl, List.append_nil _⟩
      | error failure =>
          have lasting := (isFinal_iff reference _).1 final failure judged
          simp only [lasting, Bool.false_eq_true, ↓reduceIte]
          exact ⟨rfl, List.append_nil _⟩

/-- A fetch goes on after a failure that may be gone, if a repetition is left. -/
theorem run_fetchFrom_of_transient
    (left index : Nat)
    (repetitions : UInt32)
    (transient : ¬ (request.outcomeOf outcomes index).IsFinal) :
    (fetchFrom reference request (left + 1) repetitions).run (replaying outcomes)
          (request.sent index) =
        (fetchFrom reference request left (repetitions + 1)).run (replaying outcomes)
          (request.sent (index + 1)) ∧
      (fetchFrom reference request (left + 1) repetitions).asked (replaying outcomes)
          (request.sent index) =
        request.once ++ .pause (longestPause (repetitions + 1)) ::
          (fetchFrom reference request left (repetitions + 1)).asked (replaying outcomes)
            (request.sent (index + 1)) := by
  obtain ⟨failure, judged, mayBeGone⟩ : ∃ failure,
      judgeOutcome reference (request.outcomeOf outcomes index) = .error failure ∧
        failure.isTransient = true := by
    simpa using mt (isFinal_iff reference _).2 transient
  rw [fetchFrom, Script.run_bind, Script.asked_bind, run_attempt, asked_attempt, judged]
  simp only [mayBeGone, ↓reduceIte]
  exact ⟨rfl, rfl⟩

/-- What is asked in an attempt that is followed by a repetition. -/
def HttpRequest.round (index : Nat) : List ExchangeRequest :=
  request.once ++ [.pause (longestPause (UInt32.ofNat (index + 1)))]

/-- How a fetch ends that goes on with an attempt while some repetitions are left: with the first
attempt that is final, or the one after the last repetition. -/
structure FetchEnds (left index last : Nat) : Prop where
  /-- The last attempt is the first one to end with. -/
  isLeast : IsLeast {attempt | attempt = index + left ∨
    index ≤ attempt ∧ (request.outcomeOf outcomes attempt).IsFinal} last
  /-- The result is that of the last attempt. -/
  run_eq : (fetchFrom reference request left (UInt32.ofNat index)).run (replaying outcomes)
      (request.sent index) =
    ((judgeOutcome reference (request.outcomeOf outcomes last)).mapError FailedAttempt.error,
      request.sent (last + 1))
  /-- Each attempt asks for the same, and there is a pause before each repetition. -/
  asked_eq : (fetchFrom reference request left (UInt32.ofNat index)).asked (replaying outcomes)
      (request.sent index) =
    (List.range' index (last - index)).flatMap request.round ++ request.once

variable {outcomes reference request}

/-- An attempt is the last one if no repetition is left or its outcome is final. -/
theorem fetchEnds_of_stops
    {left index : Nat}
    (stops : left = 0 ∨ (request.outcomeOf outcomes index).IsFinal) :
    FetchEnds outcomes reference request left index index := by
  obtain ⟨run, asked⟩ := run_fetchFrom_of_stops outcomes reference request left index
    (UInt32.ofNat index) stops
  refine ⟨⟨?_, ?_⟩, run, ?_⟩
  · exact stops.imp (fun isZero => by rw [isZero, Nat.add_zero]) fun final => ⟨Nat.le_refl _, final⟩
  · rintro other (rfl | ⟨later, -⟩)
    · exact Nat.le_add_right _ _
    · exact later
  · rw [asked, Nat.sub_self]
    rfl

/-- An attempt whose failure may be gone is followed by the others. -/
theorem FetchEnds.of_transient
    {left index last : Nat}
    (ends : FetchEnds outcomes reference request left (index + 1) last)
    (transient : ¬ (request.outcomeOf outcomes index).IsFinal) :
    FetchEnds outcomes reference request (left + 1) index last := by
  obtain ⟨⟨isLast, isLeast⟩, run, asked⟩ := ends
  obtain ⟨goesOn, asksOn⟩ := run_fetchFrom_of_transient outcomes reference request left index
    (UInt32.ofNat index) transient
  rw [← UInt32.ofNat_one, ← UInt32.ofNat_add] at goesOn asksOn
  have later : index + 1 ≤ last := by
    rcases isLast with isLast | ⟨later, -⟩
    · omega
    · exact later
  refine ⟨⟨?_, ?_⟩, goesOn.trans run, ?_⟩
  · rcases isLast with isLast | ⟨later, final⟩
    · exact .inl (by omega)
    · exact .inr ⟨by omega, final⟩
  · rintro other (isOther | ⟨notBefore, final⟩)
    · exact isLeast (.inl (by omega))
    · have isNext : index ≠ other := fun same => transient (same ▸ final)
      exact isLeast (.inr ⟨by omega, final⟩)
  · have rounds : List.range' index (last - index) =
        index :: List.range' (index + 1) (last - (index + 1)) := by
      rw [← List.range'_succ, show last - index = last - (index + 1) + 1 by omega]
    rw [asksOn, asked, rounds, List.flatMap_cons, HttpRequest.round]
    simp

/-- Every fetch ends with some attempt. -/
theorem exists_fetchEnds (left index : Nat) :
    ∃ last, FetchEnds outcomes reference request left index last := by
  -- With a repetition less, the attempts go on at the next number.
  induction left generalizing index with
  | zero => exact ⟨index, fetchEnds_of_stops (.inl rfl)⟩
  | succ left ih =>
      by_cases final : (request.outcomeOf outcomes index).IsFinal
      · exact ⟨index, fetchEnds_of_stops (.inr final)⟩
      · obtain ⟨last, ends⟩ := ih (index + 1)
        exact ⟨last, ends.of_transient final⟩

end Runs

/-! ## Requests that are sent -/

/-- Whether a request goes to a registry. -/
def ExchangeRequest.isSend : ExchangeRequest → Bool
  | .send _ => true
  | .pause _ => false

section Sends

variable {Answer Next State : Type}
  (respond : (request : ExchangeRequest) → State → request.Reply × State)

/-- How many requests are sent to registries in a run. -/
def sendCount (exchange : Exchange Answer) (state : State) : Nat :=
  (exchange.asked respond state).countP ExchangeRequest.isSend

/-- A fetch sends at most one request for each attempt. -/
theorem sendCount_fetchFrom_le
    (reference : String)
    (request : HttpRequest)
    (left : Nat)
    (repetitions : UInt32)
    (state : State) :
    sendCount respond (fetchFrom reference request left repetitions) state ≤ left + 1 := by
  have once : request.once.countP ExchangeRequest.isSend ≤ 1 := by
    rw [HttpRequest.once]
    split <;> simp [ExchangeRequest.isSend]
  induction left generalizing repetitions state with
  | zero =>
      rw [sendCount, fetchFrom, Script.asked_bind, asked_attempt, List.countP_append]
      exact Nat.add_le_add_right once 0
  | succ left ih =>
      rw [sendCount, fetchFrom, Script.asked_bind, asked_attempt, List.countP_append, Nat.add_comm]
      refine Nat.add_le_add ?_ once
      cases ((attempt reference request).run respond state).1 with
      | ok body => exact Nat.zero_le _
      | error failure =>
          dsimp only
          split
          · exact ih (repetitions + 1) _
          · exact Nat.zero_le _

variable {respond}

/-- A pull that goes on sends what its first part sends and then at most what follows sends. -/
theorem PullStep.sendCount_bind_le
    {first : PullStep Answer}
    {next : Answer → PullStep Next}
    {most mostNext : Nat}
    {state : State}
    (sendsFirst : sendCount respond first.run state ≤ most)
    (sendsNext : ∀ answer state, sendCount respond (next answer).run state ≤ mostNext) :
    sendCount respond (first >>= next).run state ≤ most + mostNext := by
  rw [sendCount, show (first >>= next).run = first.run.bind _ from rfl, Script.asked_bind,
    List.countP_append]
  refine Nat.add_le_add sendsFirst ?_
  rcases first.run.run respond state with ⟨failure | answer, later⟩
  · exact Nat.zero_le _
  · exact sendsNext answer later

variable (respond)

/-- A pull sends at most two requests for each attempt: those for the manifest and the blob. -/
theorem PullSettings.sendCount_pull_le
    (settings : PullSettings)
    (reference : String)
    (state : State) :
    sendCount respond (settings.pull reference).run state ≤
      2 * (settings.maxRetries.toNat + 1) := by
  have settled : ∀ {Answer : Type} (result : Except BundleError Answer) (state : State),
      sendCount respond (ExceptT.mk (.done result) : PullStep Answer).run state ≤ 0 :=
    fun _ _ => Nat.le_refl 0
  have fetched : ∀ (reference address : String) (accept : Option String) (state : State),
      sendCount respond (ExceptT.mk (settings.fetch reference address accept)).run state ≤
        settings.maxRetries.toNat + 1 :=
    fun reference address accept =>
      sendCount_fetchFrom_le respond reference (settings.request address accept) _ 0
  have listed : ∀ (artifact : ArtifactReference) (state : State),
      sendCount respond (settings.fetchLayers artifact).run state ≤
        settings.maxRetries.toNat + 1 + 0 :=
    fun artifact state =>
      PullStep.sendCount_bind_le (fetched _ _ _ state) fun body => settled _
  have pulled := PullStep.sendCount_bind_le (settled (ArtifactReference.read reference) state)
    fun artifact state =>
      PullStep.sendCount_bind_le (listed artifact state) fun layers state =>
        PullStep.sendCount_bind_le (settled (selectLayer reference layers) state)
          fun layer state =>
            PullStep.sendCount_bind_le
              (fetched reference (artifact.blobAddress layer.digest settings.isInsecure) none state)
              fun blob => settled (checkBlob reference layer.digest blob)
  refine Nat.le_trans pulled ?_
  omega

end Sends

/-- A fetch ends with the first attempt whose outcome is final, or with the attempt after the last
repetition if that comes earlier, and with what is reported of the outcome of this attempt; before
each repetition there is a pause that grows up to half a minute, computed without overflow.  So a
pull sends at most twice as many requests as there may be attempts. -/
theorem PullSettings.fetch_ends_at_first_final
    (settings : PullSettings)
    (reference address : String)
    (accept : Option String)
    (outcomes : Nat → HttpOutcome) :
    (∃ last result,
      IsLeast {attempt | attempt = settings.maxRetries.toNat ∨
        ((settings.request address accept).outcomeOf outcomes attempt).IsFinal} last ∧
      ((settings.request address accept).outcomeOf outcomes last).Reports reference result ∧
      (settings.fetch reference address accept).run (replaying outcomes) 0 =
        (result, (settings.request address accept).sent (last + 1)) ∧
      (settings.fetch reference address accept).asked (replaying outcomes) 0 =
        (List.range last).flatMap (fun index =>
          (settings.request address accept).once ++
            [.pause (UInt64.ofNat (1000 * min (2 ^ min (index + 1) 5) 30))]) ++
          (settings.request address accept).once) ∧
      (∀ {State : Type} (respond : (request : ExchangeRequest) → State → request.Reply × State)
        (state : State),
        sendCount respond (settings.pull reference).run state ≤
          2 * (settings.maxRetries.toNat + 1)) ∧
      ∀ repetition : UInt32, (min repetition 5).toUInt64.toNat < 64 := by
  refine ⟨?_, fun respond state => settings.sendCount_pull_le respond reference state, ?_⟩
  · obtain ⟨last, ⟨isLeast, run, asked⟩⟩ := @exists_fetchEnds outcomes reference
      (settings.request address accept) settings.maxRetries.toNat 0
    have start : (settings.request address accept).sent 0 = 0 := ite_self 0
    rw [start] at run asked
    simp only [Nat.zero_add, Nat.zero_le, true_and] at isLeast
    have inBudget : last ≤ settings.maxRetries.toNat := isLeast.2 (.inl rfl)
    refine ⟨last, _, isLeast, reports_judgeOutcome reference _, run, asked.trans ?_⟩
    rw [Nat.sub_zero, ← List.range_eq_range']
    refine congrArg (· ++ _) (List.flatMap_congr fun index isBefore => ?_)
    have counted : index + 1 < 2 ^ 32 :=
      Nat.lt_of_le_of_lt (Nat.le_trans (List.mem_range.1 isBefore) inBudget)
        settings.maxRetries.toNat_lt
    rw [HttpRequest.round, longestPause_ofNat counted]
  · intro repetition
    rw [toNat_pauseExponent]
    omega

namespace RetryExample

/-- A network on which the server is busy, then a request is lost, and then there are answers. -/
def outcomes : Nat → HttpOutcome
  | 0 => .answered 503 (.ok (Text.octets "busy"))
  | 1 => .unsent "connection reset"
  | _ => .answered 200 (.ok (Text.octets "content"))

/-- The third attempt is the first one that is final, and the fetch ends with its body. -/
theorem third_attempt_delivers :
    (PullSettings.standard.fetch "bundles" "https://reg.example.com" none).run
        (replaying outcomes) 0 =
      (.ok (Text.octets "content"), 3) := by
  obtain ⟨⟨last, result, isLeast, reports, run, -⟩, -⟩ :=
    PullSettings.standard.fetch_ends_at_first_final "bundles" "https://reg.example.com" none
      outcomes
  have isThird : last = 2 := by
    refine isLeast.unique ⟨.inr ⟨_, rfl⟩, ?_⟩
    rintro attempt (rfl | final)
    · decide
    · match attempt, final with
      | 0, final => exact absurd (by decide) final.2
      | 1, final => exact final.elim
      | _ + 2, _ => exact Nat.le_add_left 2 _
  subst isThird
  obtain rfl := reports.unique (.success (by decide))
  exact run

end RetryExample

end BundleTrust
