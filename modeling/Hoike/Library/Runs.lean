/-
Runs of a deterministic system whose steps are taken under conditions.

A condition may look at the state in which an action is taken.  What a step
keeps under its condition holds at the end of every run all of whose steps meet
theirs.
-/

namespace Runs

variable {σ α : Type} (step : σ → α → σ) (condition : σ → α → Prop)

/-- Every action meets the condition in the state in which it is taken. -/
def AllMeet : σ → List α → Prop
  | _, [] => True
  | state, action :: rest => condition state action ∧ AllMeet (step state action) rest

instance decidableAllMeet [∀ state action, Decidable (condition state action)] :
    (state : σ) → (actions : List α) → Decidable (AllMeet step condition state actions)
  | _, [] => .isTrue trivial
  | state, action :: rest =>
      have := decidableAllMeet (step state action) rest
      inferInstanceAs (Decidable (condition state action ∧ _))

variable {step} {condition}

theorem AllMeet.invariant (holds : σ → Prop) {actions : List α}
    (preserved : ∀ state, ∀ action ∈ actions, holds state → condition state action →
      holds (step state action))
    {state : σ} (start : holds state) (meets : AllMeet step condition state actions) :
    holds (actions.foldl step state) := by
  induction actions generalizing state with
  | nil =>
      exact start
  | cons action rest ih =>
      refine ih ?_ (preserved state action List.mem_cons_self start meets.1) meets.2
      intro between next member
      exact preserved between next (List.mem_cons_of_mem _ member)

end Runs
