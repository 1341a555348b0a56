import BundleTrust.Manager.Plan
import BundleTrust.Proofs.Store.Versions

/-!
# The conduct of plans

While a plan waits for a reply, others may use the store.  What can be said of a plan in their
midst is said of the document states that were stored so far, a list that only grows: a plan
abides by a rule if every request that it makes is permitted by the states stored until then,
and what it ends with suits the states stored until then, whatever is stored in between and
whatever the replies are, as long as a reply that tells of a stored controller is true
(`Plan.Abides`).
-/

namespace BundleTrust

namespace ManagerRequest

/-- A reply is true of the states that were stored: a controller that is said to have been
stored is one of them. -/
def IsTrue (states : List StoredDocument) :
    (request : ManagerRequest) → request.Reply → Prop
  | .store (.saveController _), reply =>
      ∀ stored, reply = .ok stored → StoredDocument.controller stored ∈ states
  | .store (.saveControllerStatus _), reply =>
      ∀ stored, reply = .ok stored → StoredDocument.controller stored ∈ states
  | _, _ => True

end ManagerRequest

/-- The reply of a store is true once what was stored is entered. -/
theorem Store.isTrue_answer
    (store : Store)
    (states : List StoredDocument)
    (request : StoreRequest) :
    ManagerRequest.IsTrue (states ++ (store.written? (.request request)).toList)
      (.store request) (store.answer request).1 := by
  cases request with
  | saveController controller =>
      intro stored accepted
      have outcome : store.outcome (.request (.saveController controller)) =
          .ok (some (.controller stored)) := congrArg (Except.map _) accepted
      simp [written?_of_outcome outcome]
  | saveControllerStatus controller =>
      intro stored accepted
      have outcome : store.outcome (.request (.saveControllerStatus controller)) =
          .ok (some (.controller stored)) := congrArg (Except.map _) accepted
      simp [written?_of_outcome outcome]
  | _ => trivial

namespace Plan

variable {Answer Next : Type} {permits : List StoredDocument → ManagerRequest → Prop}
  {suits : List StoredDocument → Answer → Prop} {suitsNext : List StoredDocument → Next → Prop}

/-- A plan makes permitted requests only, and what it ends with suits. -/
def Abides (permits : List StoredDocument → ManagerRequest → Prop)
    (suits : List StoredDocument → Answer → Prop) (states : List StoredDocument) :
    Plan Answer → Prop
  | .done answer => suits states answer
  | .ask request next =>
      permits states request ∧
        ∀ reply later, states ⊆ later → request.IsTrue later reply →
          Abides permits suits later (next reply)

/-- A plan still abides after more was stored, if what is permitted and suits still does. -/
theorem Abides.mono
    {plan : Plan Answer}
    {states later : List StoredDocument}
    (permits_mono : ∀ {states later request}, states ⊆ later → permits states request →
      permits later request)
    (suits_mono : ∀ {states later answer}, states ⊆ later → suits states answer →
      suits later answer)
    (grown : states ⊆ later)
    (abides : Abides permits suits states plan) :
    Abides permits suits later plan := by
  cases plan with
  | done answer => exact suits_mono grown abides
  | ask request next =>
      refine ⟨permits_mono grown abides.1, fun reply last grownMore isTrue => ?_⟩
      exact abides.2 reply last (List.Subset.trans grown grownMore) isTrue

/-- A plan that goes on abides if its first part and all that may follow do. -/
theorem Abides.bind
    {first : Plan Answer}
    {second : Answer → Plan Next}
    {states : List StoredDocument}
    (abides : Abides permits suits states first)
    (goesOn : ∀ states answer, suits states answer →
      Abides permits suitsNext states (second answer)) :
    Abides permits suitsNext states (first.bind second) := by
  induction first generalizing states with
  | done answer => exact goesOn states answer abides
  | ask request next ih =>
      exact ⟨abides.1, fun reply later grown isTrue => ih reply (abides.2 reply later grown isTrue)⟩

end Plan

end BundleTrust
