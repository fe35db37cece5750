import Mathlib.Data.List.Nodup
import Mathlib.Data.List.Perm.Basic

/-!
Contract: runs of actions that each work on one cell of a store.

Owns what it means for an action to be local to its cell, the answers and the
store of a run, and what locality gives for runs: cells that no action works on
are kept, actions on different cells behave as each alone, and a cell sees only
its own actions.

Does not own what the actions do to their cells. A store keeps an invariant of
each cell; a program shows that its actions are local on such stores.
-/

namespace DarkmeshGateway.Foundation.Locality

variable {Key Value Action Answer : Type}

/-- Every cell keeps its invariant. -/
def Sound (invariant : Key → Value → Prop) (store : Key → Value) : Prop :=
  ∀ key, invariant key (store key)

/-- An action writes only its cell, and what it answers and writes depends on
nothing else. -/
structure Local (invariant : Key → Value → Prop) (cell : Action → Option Key)
    (act : Action → (Key → Value) → Answer × (Key → Value)) : Prop where
  keeps : ∀ action store, Sound invariant store → Sound invariant (act action store).2
  frame : ∀ action store, Sound invariant store → ∀ key, cell action ≠ some key →
    (act action store).2 key = store key
  answers : ∀ action left right, Sound invariant left → Sound invariant right →
    (∀ key ∈ cell action, left key = right key) → (act action left).1 = (act action right).1
  writes : ∀ action left right, Sound invariant left → Sound invariant right →
    ∀ key ∈ cell action, left key = right key → (act action left).2 key = (act action right).2 key

/-- Two actions do not work on one cell. -/
def Apart (cell : Action → Option Key) (first second : Action) : Prop :=
  ∀ key, cell first = some key → cell second ≠ some key

/-- The actions one after another: their answers, and the store behind them. -/
def run (act : Action → (Key → Value) → Answer × (Key → Value)) :
    List Action → (Key → Value) → List Answer × (Key → Value)
  | [], store => ([], store)
  | action :: rest, store =>
      let (answer, next) := act action store
      let (answers, final) := run act rest next
      (answer :: answers, final)

section Run

variable {act : Action → (Key → Value) → Answer × (Key → Value)}

@[simp] theorem run_nil (store : Key → Value) : run act [] store = ([], store) := rfl

theorem run_cons (action : Action) (rest : List Action) (store : Key → Value) :
    run act (action :: rest) store =
      ((act action store).1 :: (run act rest (act action store).2).1,
        (run act rest (act action store).2).2) := rfl

theorem run_append (first second : List Action) (store : Key → Value) :
    run act (first ++ second) store =
      ((run act first store).1 ++ (run act second (run act first store).2).1,
        (run act second (run act first store).2).2) := by
  induction first generalizing store with
  | nil => rfl
  | cons action rest inductionHypothesis =>
      rw [List.cons_append, run_cons, run_cons, inductionHypothesis]
      rfl

end Run

namespace Local

variable {invariant : Key → Value → Prop} {cell : Action → Option Key}
  {act : Action → (Key → Value) → Answer × (Key → Value)}

section Steps

variable (isLocal : Local invariant cell act)
include isLocal

theorem run_keeps (actions : List Action) {store : Key → Value} (sound : Sound invariant store) :
    Sound invariant (run act actions store).2 := by
  induction actions generalizing store with
  | nil => exact sound
  | cons action rest inductionHypothesis =>
      rw [run_cons]
      exact inductionHypothesis (isLocal.keeps action store sound)

/-- A cell that no action works on is kept. -/
theorem run_frame {actions : List Action} {key : Key}
    (elsewhere : ∀ action ∈ actions, cell action ≠ some key) {store : Key → Value}
    (sound : Sound invariant store) : (run act actions store).2 key = store key := by
  induction actions generalizing store with
  | nil => rfl
  | cons action rest inductionHypothesis =>
      obtain ⟨head, tail⟩ := List.forall_mem_cons.mp elsewhere
      rw [run_cons, inductionHypothesis tail (isLocal.keeps action store sound)]
      exact isLocal.frame action store sound key head

/-- Actions on different cells behave as each alone: an answer is the one the
action gives in front of the run, and so is what its cell holds behind it. -/
theorem run_alone {actions : List Action} (apart : actions.Pairwise (Apart cell))
    {store : Key → Value} (sound : Sound invariant store) :
    (run act actions store).1 = actions.map (fun action => (act action store).1) ∧
      ∀ action ∈ actions, ∀ key ∈ cell action,
        (run act actions store).2 key = (act action store).2 key := by
  induction actions generalizing store with
  | nil => exact ⟨rfl, fun action member => absurd member List.not_mem_nil⟩
  | cons action rest inductionHypothesis =>
      obtain ⟨fromHead, fromRest⟩ := List.pairwise_cons.mp apart
      have nextSound := isLocal.keeps action store sound
      obtain ⟨answers, cells⟩ := inductionHypothesis fromRest nextSound
      -- The first action leaves the cells of the others as they were.
      have same : ∀ other ∈ rest, ∀ key ∈ cell other, (act action store).2 key = store key := by
        intro other member key works
        exact isLocal.frame action store sound key fun own => fromHead other member key own works
      constructor
      · rw [run_cons, List.map_cons]
        refine congrArg (_ :: ·) (answers.trans (List.map_congr_left ?_))
        intro other member
        exact isLocal.answers other _ _ nextSound sound (same other member)
      · intro other member key works
        rw [run_cons]
        rcases List.mem_cons.mp member with rfl | later
        · exact isLocal.run_frame (fun third listed own => fromHead third listed key works own)
            nextSound
        · rw [cells other later key works]
          exact isLocal.writes other _ _ nextSound sound key works (same other later key works)

/-- A cell sees only its own actions. -/
theorem run_projection [DecidableEq Key] (key : Key) (actions : List Action)
    {left right : Key → Value} (leftSound : Sound invariant left)
    (rightSound : Sound invariant right) (agree : left key = right key) :
    (run act actions left).2 key =
      (run act (actions.filter fun action => cell action = some key) right).2 key := by
  induction actions generalizing left right with
  | nil => exact agree
  | cons action rest inductionHypothesis =>
      have nextSound := isLocal.keeps action left leftSound
      by_cases own : cell action = some key
      · have wrote := isLocal.writes action left right leftSound rightSound key own agree
        rw [List.filter_cons_of_pos (by simpa using own), run_cons, run_cons]
        exact inductionHypothesis nextSound (isLocal.keeps action right rightSound) wrote
      · have kept := isLocal.frame action left leftSound key own
        rw [List.filter_cons_of_neg (by simpa using own), run_cons]
        exact inductionHypothesis nextSound rightSound (kept.trans agree)

end Steps

end Local

end DarkmeshGateway.Foundation.Locality
