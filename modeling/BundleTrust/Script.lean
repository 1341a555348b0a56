/-!
# Scripts

A script is a computation that asks questions of the outside world, one after the other,
and goes on as it is answered.  It can be run against any respondent, step by step beside
other scripts, or against every sequence of replies.

Running a script that continues as another one runs the one and then the other (`run_bind`),
unless the one may fail and does (`run_bind_except`).
-/

namespace BundleTrust

/-- A computation that makes requests and ends with an answer. -/
inductive Script (Request : Type) (Reply : Request → Type) (Answer : Type) where
  /-- End with an answer. -/
  | done (answer : Answer)
  /-- Make a request and go on with the reply. -/
  | ask (request : Request) (next : Reply request → Script Request Reply Answer)

namespace Script

/-- Go on with the answer of a script. -/
def bind {Request : Type} {Reply : Request → Type} {First Second : Type}
    (first : Script Request Reply First) (second : First → Script Request Reply Second) :
    Script Request Reply Second :=
  match first with
  | .done answer => second answer
  | .ask request next => .ask request fun reply => (next reply).bind second

instance {Request : Type} {Reply : Request → Type} : Monad (Script Request Reply) where
  pure := .done
  bind := bind

/-- Make one request; the answer is the reply. -/
def request {Request : Type} {Reply : Request → Type} (request : Request) :
    Script Request Reply (Reply request) :=
  .ask request .done

/-- Run a script against a respondent with a state. -/
def run {Request : Type} {Reply : Request → Type} {Answer State : Type}
    (respond : (request : Request) → State → Reply request × State) :
    Script Request Reply Answer → State → Answer × State
  | .done answer, state => (answer, state)
  | .ask request next, state =>
      let (reply, state) := respond request state
      (next reply).run respond state

/-- To go on with an answer by ending with it changes nothing. -/
theorem bind_done {Request : Type} {Reply : Request → Type} {Answer : Type}
    (script : Script Request Reply Answer) :
    script.bind .done = script := by
  induction script with
  | done answer => rfl
  | ask request next ih => simp only [bind, ih]

/-- Going on twice is going on once. -/
theorem bind_bind {Request : Type} {Reply : Request → Type} {First Second Third : Type}
    (script : Script Request Reply First)
    (second : First → Script Request Reply Second)
    (third : Second → Script Request Reply Third) :
    (script.bind second).bind third = script.bind fun answer => (second answer).bind third := by
  induction script with
  | done answer => rfl
  | ask request next ih => simp only [bind, ih]

instance {Request : Type} {Reply : Request → Type} : LawfulMonad (Script Request Reply) :=
  LawfulMonad.mk' (Script Request Reply) bind_done (fun _ _ => rfl) bind_bind

/-- A script that goes on runs as the one script and then the other. -/
theorem run_bind {Request : Type} {Reply : Request → Type} {First Second State : Type}
    (respond : (request : Request) → State → Reply request × State)
    (script : Script Request Reply First)
    (second : First → Script Request Reply Second)
    (state : State) :
    (script.bind second).run respond state =
      (second (script.run respond state).1).run respond (script.run respond state).2 := by
  induction script generalizing state with
  | done answer => rfl
  | ask request next ih => simp only [bind, run, ih]

/-- A script that may fail goes on unless it fails. -/
theorem run_bind_except {Request : Type} {Reply : Request → Type}
    {Failure First Second State : Type}
    (respond : (request : Request) → State → Reply request × State)
    (first : ExceptT Failure (Script Request Reply) First)
    (second : First → ExceptT Failure (Script Request Reply) Second)
    (state : State) :
    (first >>= second).run.run respond state =
      match first.run.run respond state with
      | (.ok answer, state) => (second answer).run.run respond state
      | (.error failure, state) => (.error failure, state) := by
  refine (run_bind respond first.run _ state).trans ?_
  rcases first.run.run respond state with ⟨_ | _, _⟩ <;> rfl

end Script

end BundleTrust
