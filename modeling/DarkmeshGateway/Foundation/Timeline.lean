import Mathlib.Data.List.Induction

/-!
Contract: calls at non-decreasing times and the state they leave.

Owns the state after a history of calls, ordered histories, and the induction
that carries an invariant on the history and its state from call to call, and
records that expire.

Does not own any particular call or state.
-/

namespace DarkmeshGateway.Foundation.Timeline

variable {σ γ : Type*} {step : σ → γ → σ} {initial : σ} {time : γ → Int}

/-- The state after a history of calls, the first call first. -/
def after (step : σ → γ → σ) (initial : σ) (history : List γ) : σ := history.foldl step initial

@[simp] theorem after_nil : after step initial [] = initial := rfl

@[simp] theorem after_append_singleton (history : List γ) (call : γ) :
    after step initial (history ++ [call]) = step (after step initial history) call := by
  unfold after
  rw [List.foldl_append]
  rfl

/-- The calls come at non-decreasing times. -/
def Ordered (time : γ → Int) (history : List γ) : Prop :=
  history.Pairwise fun earlier later => time earlier ≤ time later

theorem ordered_append_singleton {history : List γ} {call : γ} :
    Ordered time (history ++ [call]) ↔
      Ordered time history ∧ ∀ earlier ∈ history, time earlier ≤ time call := by
  unfold Ordered
  rw [List.pairwise_append]
  simp

theorem Ordered.before {before rest : List γ} (ordered : Ordered time (before ++ rest)) :
    Ordered time before := (List.pairwise_append.mp ordered).1

/-- An invariant that each call carries over from the history before it, given what
holds of the history it ends, holds after every history of that kind. -/
theorem holds_after_of {admissible : List γ → Prop} {invariant : List γ → σ → Prop}
    (initially : invariant [] initial)
    (earlier : ∀ history call, admissible (history ++ [call]) → admissible history)
    (preserved : ∀ history call state, admissible (history ++ [call]) →
      invariant history state → invariant (history ++ [call]) (step state call))
    {history : List γ} (allowed : admissible history) :
    invariant history (after step initial history) := by
  induction history using List.reverseRecOn with
  | nil => exact initially
  | append_singleton before call inductionHypothesis =>
      rw [after_append_singleton]
      apply preserved before call _ allowed
      exact inductionHypothesis (earlier before call allowed)

/-- Dropping what has expired is invisible later. -/
theorem filter_expired {α : Type*} {current later : α → Bool}
    (lasting : ∀ record, later record = true → current record = true) (held : Option α) :
    (held.filter current).filter later = held.filter later := by
  rw [Option.filter_filter]
  congr 1
  funext record
  simpa only [Bool.and_eq_right_iff_imp] using lasting record

end DarkmeshGateway.Foundation.Timeline
