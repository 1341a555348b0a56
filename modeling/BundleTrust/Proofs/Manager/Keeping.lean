import BundleTrust.Proofs.Manager.Requests

/-!
# Parts that keep the document

Most parts of a reconciliation ask for something and leave the document that is held as it is.
That they do so whatever they are told, and that they make no request of some kind, is put together
from their parts (`Reconciliation.Keeps`).
-/

namespace BundleTrust

/-- What replies to the requests of a manager, at moments that pass as it replies.  Others may use
the store, the cluster and the registry from one moment to the next. -/
abbrev Respondent (Moment : Type) : Type :=
  (request : ManagerRequest) → Moment → request.Reply × Moment

namespace Reconciliation

variable {Held Answer Next : Type} {isBarred : ManagerRequest → Prop}

/-- Whatever the replies are, a reconciliation leaves the document that it holds as it is, and makes
no request that is barred. -/
structure Keeps (isBarred : ManagerRequest → Prop) (part : Reconciliation Held Answer) : Prop where
  /-- The document stays. -/
  held_eq : ∀ {Moment : Type} (respond : Respondent Moment) (held : Held) (now : Moment),
    (execute respond part held now).1.2 = held
  /-- Nothing is asked that is barred. -/
  unasked : ∀ {Moment : Type} (respond : Respondent Moment) (held : Held) (now : Moment),
    ∀ entry ∈ requests respond part held now, ¬ isBarred entry.1

theorem Keeps.pure (answer : Answer) :
    Keeps isBarred (pure answer : Reconciliation Held Answer) :=
  ⟨fun _ _ _ => rfl, by simp⟩

theorem Keeps.throw (failure : BundleError) :
    Keeps isBarred (throw failure : Reconciliation Held Answer) :=
  ⟨fun _ _ _ => rfl, by simp⟩

theorem Keeps.get : Keeps isBarred (get : Reconciliation Held Held) :=
  ⟨fun _ _ _ => rfl, by simp⟩

theorem Keeps.ask {request : ManagerRequest} (allowed : ¬ isBarred request) :
    Keeps isBarred (ask request : Reconciliation Held request.Reply) :=
  ⟨fun _ _ _ => rfl, fun _ _ _ => by simpa using allowed⟩

theorem Keeps.demand {request : ManagerRequest} (allowed : ¬ isBarred request) :
    Keeps isBarred (demand request : Reconciliation Held request.Result) :=
  ⟨fun _ _ _ => rfl, fun _ _ _ => by simpa using allowed⟩

theorem Keeps.pullBundle {reference : String} (allowed : ¬ isBarred (.pull reference)) :
    Keeps isBarred (pullBundle reference : Reconciliation Held _) :=
  ⟨fun _ _ _ => rfl, fun _ _ _ => by simpa using allowed⟩

theorem Keeps.bind
    {first : Reconciliation Held Answer}
    {next : Answer → Reconciliation Held Next}
    (keeps : Keeps isBarred first)
    (goesOn : ∀ answer, Keeps isBarred (next answer)) :
    Keeps isBarred (first >>= next) := by
  constructor
  case held_eq =>
    intro Moment respond held now
    have same := keeps.held_eq respond held now
    rw [execute_bind]
    rcases ended : execute respond first held now with ⟨⟨failure | answer, left⟩, after⟩
    · rwa [ended] at same
    · rw [ended] at same
      exact ((goesOn answer).held_eq respond left after).trans same
  case unasked =>
    intro Moment respond held now entry isAsked
    rw [requests_bind, List.mem_append] at isAsked
    rcases isAsked with isAsked | isAsked
    · exact keeps.unasked respond held now entry isAsked
    · split at isAsked
      · exact (goesOn _).unasked respond _ _ entry isAsked
      · cases isAsked

theorem Keeps.ite
    {condition : Prop}
    [Decidable condition]
    {first second : Reconciliation Held Answer}
    (isTrue : Keeps isBarred first)
    (isFalse : Keeps isBarred second) :
    Keeps isBarred (if condition then first else second) := by
  split
  · exact isTrue
  · exact isFalse

end Reconciliation
end BundleTrust
