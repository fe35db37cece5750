import DarkmeshGateway.Foundation.Machine
import Mathlib.Data.List.TakeWhile

/-!
Contract: two runs of one machine whose events differ in silent ones only.

Owns what a run lets an observer see, two event lists side by side, and the
rule by which two such runs are seen alike.

Does not own any particular machine, nor which of its events are silent.
-/

namespace DarkmeshGateway.Foundation.Stutter

open Foundation.Machine

variable {σ ε ο : Type*}

/-- What the events of a run let an observer see, in their order. -/
def observations (step : σ → ε → σ) (observe : σ → ε → Option ο) (state : σ) :
    List ε → List ο
  | [] => []
  | event :: rest =>
      (observe state event).toList ++ observations step observe (step state event) rest

/-! ### Two lists side by side -/

/-- An event of both runs, or a silent one of a single run. -/
inductive Joint (ε : Type*) where
  | both (event : ε)
  | first (event : ε)
  | second (event : ε)
deriving DecidableEq

def Joint.inFirst : Joint ε → Option ε
  | .both event => some event
  | .first event => some event
  | .second _ => none

def Joint.inSecond : Joint ε → Option ε
  | .both event => some event
  | .first _ => none
  | .second event => some event

/-- The event of a single run is silent. -/
def Joint.Quiet (silent : ε → Bool) : Joint ε → Prop
  | .both _ => True
  | .first event => silent event = true
  | .second event => silent event = true

/-- Two lists with the same events that are not silent, side by side. -/
def align (silent : ε → Bool) : List ε → List ε → List (Joint ε)
  | [], second => second.map .second
  | event :: rest, second =>
      if silent event then .first event :: align silent rest second
      else
        (second.takeWhile silent).map .second ++
          .both event :: align silent rest (second.dropWhile silent).tail

variable {silent : ε → Bool}

theorem filterMap_inFirst_second (events : List ε) :
    (events.map Joint.second).filterMap Joint.inFirst = [] := by
  induction events with
  | nil => rfl
  | cons event rest inductionHypothesis => exact inductionHypothesis

theorem filterMap_inSecond_second (events : List ε) :
    (events.map Joint.second).filterMap Joint.inSecond = events := by
  induction events with
  | nil => rfl
  | cons event rest inductionHypothesis =>
      show event :: (rest.map Joint.second).filterMap Joint.inSecond = event :: rest
      rw [inductionHypothesis]

/-- The events of the first list, read off the two. -/
theorem align_first (silent : ε → Bool) (first second : List ε) :
    (align silent first second).filterMap Joint.inFirst = first := by
  induction first generalizing second with
  | nil => exact filterMap_inFirst_second second
  | cons event rest inductionHypothesis =>
      unfold align
      split
      next =>
        show event :: (align silent rest second).filterMap Joint.inFirst = event :: rest
        rw [inductionHypothesis]
      next =>
        rw [List.filterMap_append, filterMap_inFirst_second]
        show event :: (align silent rest _).filterMap Joint.inFirst = event :: rest
        rw [inductionHypothesis]

/-- A list whose first event that is not silent is known. -/
theorem split_silent {event : ε} {rest events : List ε}
    (loud : events.filter (fun event => !silent event) = event :: rest) :
    ∃ after, events = events.takeWhile silent ++ event :: after ∧
      (events.dropWhile silent).tail = after ∧
      after.filter (fun event => !silent event) = rest := by
  induction events with
  | nil => cases loud
  | cons head tail inductionHypothesis =>
      by_cases quiet : silent head = true
      · rw [List.filter_cons_of_neg (by simp [quiet])] at loud
        obtain ⟨after, whole, dropped, left⟩ := inductionHypothesis loud
        refine ⟨after, ?_, ?_, left⟩
        · rw [List.takeWhile_cons_of_pos quiet, List.cons_append, ← whole]
        · rw [List.dropWhile_cons_of_pos quiet, dropped]
      · rw [List.filter_cons_of_pos (by simp [quiet]), List.cons.injEq] at loud
        obtain ⟨rfl, left⟩ := loud
        refine ⟨tail, ?_, ?_, left⟩
        · rw [List.takeWhile_cons_of_neg quiet, List.nil_append]
        · rw [List.dropWhile_cons_of_neg quiet, List.tail_cons]

/-- The events of the second list, read off the two. -/
theorem align_second {first second : List ε}
    (same : first.filter (fun event => !silent event) =
      second.filter (fun event => !silent event)) :
    (align silent first second).filterMap Joint.inSecond = second := by
  induction first generalizing second with
  | nil => exact filterMap_inSecond_second second
  | cons event rest inductionHypothesis =>
      unfold align
      split
      next quiet =>
        rw [List.filter_cons_of_neg (by simp [quiet])] at same
        exact inductionHypothesis same
      next loud =>
        rw [List.filter_cons_of_pos (by simp [loud])] at same
        obtain ⟨after, whole, dropped, left⟩ := split_silent same.symm
        rw [List.filterMap_append, filterMap_inSecond_second, dropped]
        show _ ++ event :: (align silent rest after).filterMap Joint.inSecond = second
        rw [inductionHypothesis left.symm, ← whole]

/-- What stands in a single list is silent. -/
theorem align_quiet {first second : List ε}
    (same : first.filter (fun event => !silent event) =
      second.filter (fun event => !silent event)) :
    ∀ joint ∈ align silent first second, joint.Quiet silent := by
  induction first generalizing second with
  | nil =>
      intro joint member
      obtain ⟨event, inside, rfl⟩ := List.mem_map.mp member
      have silentAll := List.filter_eq_nil_iff.mp same.symm event inside
      simpa [Joint.Quiet] using silentAll
  | cons event rest inductionHypothesis =>
      unfold align
      split
      next quiet =>
        rw [List.filter_cons_of_neg (by simp [quiet])] at same
        intro joint member
        rcases List.mem_cons.mp member with rfl | later
        · exact quiet
        · exact inductionHypothesis same joint later
      next loud =>
        rw [List.filter_cons_of_pos (by simp [loud])] at same
        obtain ⟨after, -, dropped, left⟩ := split_silent same.symm
        rw [dropped]
        intro joint member
        rcases List.mem_append.mp member with before | later
        · obtain ⟨event, inside, rfl⟩ := List.mem_map.mp before
          exact List.mem_takeWhile_imp inside
        · rcases List.mem_cons.mp later with rfl | later
          · trivial
          · exact inductionHypothesis left.symm joint later

/-! ### Two runs -/

variable {step : σ → ε → σ} {observe : σ → ε → Option ο}

/-- Both machines, or the one whose run has the event, make a step. -/
def pairStep (step : σ → ε → σ) (pair : σ × σ) : Joint ε → Option (σ × σ)
  | .both event => some (step pair.1 event, step pair.2 event)
  | .first event => some (step pair.1 event, pair.2)
  | .second event => some (pair.1, step pair.2 event)

/-- Two runs side by side are seen alike when silent events show nothing and an
invariant of the pair, kept by the steps that meet a condition, makes the other
events show the same. -/
theorem observations_joint {condition : σ × σ → Joint ε → Prop} (invariant : σ × σ → Prop)
    (hidden : ∀ state event, silent event = true → observe state event = none)
    (preserved : ∀ {pair next : σ × σ} {joint : Joint ε}, joint.Quiet silent → invariant pair →
      condition pair joint → pairStep step pair joint = some next → invariant next)
    (alike : ∀ {pair : σ × σ} {event : ε}, invariant pair → condition pair (.both event) →
      observe pair.1 event = observe pair.2 event)
    {pair : σ × σ} {joints : List (Joint ε)} (initially : invariant pair)
    (quiet : ∀ joint ∈ joints, joint.Quiet silent)
    (meets : Meets (pairStep step) condition pair joints) :
    observations step observe pair.1 (joints.filterMap Joint.inFirst) =
      observations step observe pair.2 (joints.filterMap Joint.inSecond) := by
  induction joints generalizing pair with
  | nil => rfl
  | cons joint rest inductionHypothesis =>
      have quietHere := quiet joint List.mem_cons_self
      have quietLater : ∀ joint ∈ rest, joint.Quiet silent :=
        fun joint member => quiet joint (List.mem_cons_of_mem _ member)
      cases joint with
      | both event =>
          have later := inductionHypothesis (preserved quietHere initially meets.1 rfl) quietLater
            (meets.2 _ rfl)
          show (observe pair.1 event).toList ++ _ = (observe pair.2 event).toList ++ _
          rw [alike initially meets.1, later]
      | first event =>
          have later := inductionHypothesis (preserved quietHere initially meets.1 rfl) quietLater
            (meets.2 _ rfl)
          show (observe pair.1 event).toList ++ _ = _
          rw [hidden _ _ quietHere]
          exact later
      | second event =>
          have later := inductionHypothesis (preserved quietHere initially meets.1 rfl) quietLater
            (meets.2 _ rfl)
          show _ = (observe pair.2 event).toList ++ _
          rw [hidden _ _ quietHere]
          exact later

/-- The rule for two runs whose events that are not silent are the same. -/
theorem observations_eq {condition : σ × σ → Joint ε → Prop} (invariant : σ × σ → Prop)
    (hidden : ∀ state event, silent event = true → observe state event = none)
    (preserved : ∀ {pair next : σ × σ} {joint : Joint ε}, joint.Quiet silent → invariant pair →
      condition pair joint → pairStep step pair joint = some next → invariant next)
    (alike : ∀ {pair : σ × σ} {event : ε}, invariant pair → condition pair (.both event) →
      observe pair.1 event = observe pair.2 event)
    {pair : σ × σ} {first second : List ε} (initially : invariant pair)
    (same : first.filter (fun event => !silent event) =
      second.filter (fun event => !silent event))
    (meets : Meets (pairStep step) condition pair (align silent first second)) :
    observations step observe pair.1 first = observations step observe pair.2 second := by
  have joint := observations_joint invariant hidden preserved alike initially (align_quiet same)
    meets
  rwa [align_first, align_second same] at joint

end DarkmeshGateway.Foundation.Stutter
