import Mathlib.Data.List.Basic

/-!
Contract: a request that is repeated a bounded number of times.

Owns the loop, the outcomes it saw, why it repeated a request, and which
outcome its result comes from.

Does not own what a request is or when an outcome is repeated.
-/

namespace DarkmeshGateway.Foundation.Retry

variable {σ ω ρ : Type*}

/-- The outcomes of the requests in order, the result, and the state behind them. -/
structure Trace (σ ω ρ : Type*) where
  outcomes : List ω
  result : ρ
  state : σ

/-- At most `attempts` requests. The judge is told whether another attempt is left
and gives a result, or none to repeat the request. -/
def loop (request : σ → ω × σ) (judge : Bool → ω → Option ρ) (exhausted : ρ) :
    Nat → σ → Trace σ ω ρ
  | 0, state => ⟨[], exhausted, state⟩
  | remaining + 1, state =>
      match judge (0 < remaining) (request state).1 with
      | some result => ⟨[(request state).1], result, (request state).2⟩
      | none =>
          let rest := loop request judge exhausted remaining (request state).2
          { rest with outcomes := (request state).1 :: rest.outcomes }

variable {request : σ → ω × σ} {judge : Bool → ω → Option ρ} {exhausted : ρ}

theorem length_outcomes_le (attempts : Nat) (state : σ) :
    (loop request judge exhausted attempts state).outcomes.length ≤ attempts := by
  induction attempts generalizing state with
  | zero => exact Nat.le_refl 0
  | succ remaining inductionHypothesis =>
      rw [loop]
      split
      next => exact Nat.succ_le_succ (Nat.zero_le _)
      next => exact Nat.succ_le_succ (inductionHypothesis _)

/-- An outcome that another request follows was judged to be repeated. -/
theorem repeated_of_followed {attempts : Nat} {state : σ} {before after : List ω} {outcome : ω}
    (split : (loop request judge exhausted attempts state).outcomes = before ++ outcome :: after)
    (followed : after ≠ []) : judge true outcome = none := by
  induction attempts generalizing state before with
  | zero =>
      have none : [] = before ++ outcome :: after := split
      exact absurd none (by simp)
  | succ remaining inductionHypothesis =>
      rw [loop] at split
      split at split
      next result judged =>
        have alone : [(request state).1] = before ++ outcome :: after := split
        cases before with
        | nil => exact absurd (List.cons.inj alone).2.symm followed
        | cons head tail => exact absurd (List.cons.inj alone).2 (by simp)
      next judged =>
        have cons : (request state).1 ::
            (loop request judge exhausted remaining (request state).2).outcomes =
              before ++ outcome :: after := split
        cases before with
        | nil =>
            obtain ⟨same, rest⟩ := List.cons.inj cons
            have left : 0 < remaining := by
              have few : (loop request judge exhausted remaining (request state).2).outcomes.length
                  ≤ remaining := length_outcomes_le remaining _
              rw [rest] at few
              exact Nat.lt_of_lt_of_le (List.length_pos_iff.mpr followed) few
            rw [← same]
            simpa [left] using judged
        | cons head tail => exact inductionHypothesis (List.cons.inj cons).2

/-- The result is what the last outcome was judged, when the last attempt is
always judged. -/
theorem result_of_last (settles : ∀ outcome, (judge false outcome).isSome) {attempts : Nat}
    (some_left : 0 < attempts) (state : σ) :
    ∃ outcome more,
      (loop request judge exhausted attempts state).outcomes.getLast? = some outcome ∧
        judge more outcome = some (loop request judge exhausted attempts state).result := by
  induction attempts generalizing state with
  | zero => exact absurd some_left (Nat.lt_irrefl 0)
  | succ remaining inductionHypothesis =>
      rw [loop]
      split
      next result judged => exact ⟨_, _, rfl, judged⟩
      next judged =>
        have left : 0 < remaining := by
          by_contra none
          have settled := settles (request state).1
          rw [decide_eq_false none] at judged
          rw [judged] at settled
          cases settled
        obtain ⟨outcome, more, last, settled⟩ := inductionHypothesis left (request state).2
        refine ⟨outcome, more, ?_, settled⟩
        show List.getLast? ((request state).1 :: _) = some outcome
        rw [List.getLast?_cons, last]
        rfl

end DarkmeshGateway.Foundation.Retry
