import Mathlib.Data.List.Induction
import Mathlib.Logic.Function.Basic

/-!
Contract: runs of a machine given by a partial step function.

Owns runs over event lists, conditions on the steps of a run, the induction
that carries an invariant along a run whose steps meet a condition, and what a
table of parties holds behind an update.

Does not own any particular machine.
-/

namespace DarkmeshGateway.Foundation.Machine

variable {σ ε : Type*} (step : σ → ε → Option σ)

/-- The state after all events; `none` when one of them is not enabled. -/
def run (state : σ) : List ε → Option σ
  | [] => some state
  | event :: rest => (step state event).bind fun next => run next rest

/-- Every step of the run meets the condition in the state it starts from. -/
def Meets (condition : σ → ε → Prop) (state : σ) : List ε → Prop
  | [] => True
  | event :: rest =>
      condition state event ∧ ∀ next, step state event = some next → Meets condition next rest

/-- What all successors satisfy, when a step has at most one. -/
private def forallSome {property : σ → Prop} (next : Option σ)
    (decideNext : ∀ state, Decidable (property state)) :
    Decidable (∀ state, next = some state → property state) :=
  match next with
  | none => isTrue (by simp)
  | some state => @decidable_of_iff _ (property state) (by simp) (decideNext state)

/-- A condition that can be decided can be decided along a run. -/
instance Meets.decidable {condition : σ → ε → Prop}
    [decideCondition : ∀ state event, Decidable (condition state event)] :
    (events : List ε) → (state : σ) → Decidable (Meets step condition state events)
  | [], _ => isTrue trivial
  | event :: rest, state =>
      have : Decidable (∀ next, step state event = some next → Meets step condition next rest) :=
        forallSome (step state event) (Meets.decidable rest)
      inferInstanceAs (Decidable (_ ∧ _))

variable {step}

@[simp] theorem run_nil (state : σ) : run step state [] = some state := rfl

theorem run_cons_eq_some {state final : σ} {event : ε} {rest : List ε} :
    run step state (event :: rest) = some final ↔
      ∃ next, step state event = some next ∧ run step next rest = some final := by
  simp [run, Option.bind_eq_some_iff]

theorem Meets.cons {condition : σ → ε → Prop} {state next : σ} {event : ε} {rest : List ε}
    (stepped : step state event = some next) (holds : condition state event)
    (continued : Meets step condition next rest) :
    Meets step condition state (event :: rest) := by
  refine ⟨holds, fun other steppedOther => ?_⟩
  rw [stepped, Option.some.injEq] at steppedOther
  exact steppedOther ▸ continued

/-- A run is a run to any point in it followed by the rest. -/
theorem run_append (state : σ) (before after : List ε) :
    run step state (before ++ after) =
      (run step state before).bind fun middle => run step middle after := by
  induction before generalizing state with
  | nil => rfl
  | cons event rest inductionHypothesis =>
      simp only [List.cons_append, run]
      cases step state event with
      | none => rfl
      | some next => exact inductionHypothesis next

/-- From any point of a run on, its steps meet the condition. -/
theorem Meets.after {condition : σ → ε → Prop} {state middle : σ} {before after : List ε}
    (meets : Meets step condition state (before ++ after))
    (reached : run step state before = some middle) : Meets step condition middle after := by
  induction before generalizing state with
  | nil =>
      obtain rfl : state = middle := by simpa using reached
      exact meets
  | cons event rest inductionHypothesis =>
      obtain ⟨next, stepped, continued⟩ := run_cons_eq_some.mp reached
      exact inductionHypothesis (meets.2 next stepped) continued

/-- Up to any point of a run, its steps meet the condition. -/
theorem Meets.before {condition : σ → ε → Prop} {state : σ} {before after : List ε}
    (meets : Meets step condition state (before ++ after)) :
    Meets step condition state before := by
  induction before generalizing state with
  | nil => trivial
  | cons event rest inductionHypothesis =>
      exact ⟨meets.1, fun next stepped => inductionHypothesis (meets.2 next stepped)⟩

/-- The steps of a run meet a condition when it holds at every point of the run. -/
theorem meets_iff_forall {condition : σ → ε → Prop} {state : σ} {events : List ε} :
    Meets step condition state events ↔
      ∀ before event after middle, events = before ++ event :: after →
        run step state before = some middle → condition middle event := by
  constructor
  · rintro meets before event after middle rfl reached
    exact (meets.after reached).1
  · intro holds
    induction events generalizing state with
    | nil => trivial
    | cons event rest inductionHypothesis =>
        refine ⟨holds [] event rest state rfl rfl, ?_⟩
        intro next stepped
        apply inductionHypothesis
        rintro before other after middle rfl reached
        apply holds (event :: before) other after middle rfl
        exact run_cons_eq_some.mpr ⟨next, stepped, reached⟩

/-- An invariant kept by every step that meets the condition holds after every
run whose steps all meet it. -/
theorem run_invariant {condition : σ → ε → Prop} (invariant : σ → Prop)
    (preserved : ∀ {state next : σ} {event : ε}, invariant state → condition state event →
      step state event = some next → invariant next)
    {state final : σ} {events : List ε} (initially : invariant state)
    (meets : Meets step condition state events) (reached : run step state events = some final) :
    invariant final := by
  induction events generalizing state with
  | nil =>
      obtain rfl : state = final := by simpa using reached
      exact initially
  | cons event rest inductionHypothesis =>
      obtain ⟨next, stepped, continued⟩ := run_cons_eq_some.mp reached
      exact inductionHypothesis (preserved initially meets.1 stepped) (meets.2 next stepped)
        continued

/-- A condition on the events alone holds along a run of events that satisfy it. -/
theorem Meets.of_forall {condition : ε → Prop} {events : List ε}
    (holds : ∀ event ∈ events, condition event) (state : σ) :
    Meets step (fun _ event => condition event) state events := by
  induction events generalizing state with
  | nil => trivial
  | cons event rest inductionHypothesis =>
      exact ⟨holds event (by simp), fun next _ =>
        inductionHypothesis (fun other member => holds other (by simp [member])) next⟩

/-- An invariant kept by every step holds after every run. -/
theorem run_invariant_always (invariant : σ → Prop)
    (preserved : ∀ {state next : σ} {event : ε}, invariant state →
      step state event = some next → invariant next)
    {state final : σ} {events : List ε} (initially : invariant state)
    (reached : run step state events = some final) : invariant final :=
  run_invariant invariant (fun holds _ stepped => preserved holds stepped) initially
    (Meets.of_forall (fun _ _ => trivial) state) reached

/-- A property holds at every point of a run exactly when all its steps meet a
condition, where an invariant that gives the property is kept by the steps that
meet the condition, and a step from the invariant to the property meets it. -/
theorem everywhere_iff_meets {condition : σ → ε → Prop} {property : σ → Prop}
    (invariant : σ → Prop)
    (sound : ∀ {state : σ}, invariant state → property state)
    (preserved : ∀ {state next : σ} {event : ε}, invariant state → condition state event →
      step state event = some next → invariant next)
    (necessary : ∀ {state next : σ} {event : ε}, invariant state →
      step state event = some next → property next → condition state event)
    {state final : σ} {events : List ε} (initially : invariant state)
    (reached : run step state events = some final) :
    (∀ before after middle, events = before ++ after → run step state before = some middle →
      property middle) ↔ Meets step condition state events := by
  constructor
  · intro everywhere
    induction events generalizing state with
    | nil => trivial
    | cons event rest inductionHypothesis =>
        obtain ⟨next, stepped, continued⟩ := run_cons_eq_some.mp reached
        have after : property next :=
          everywhere [event] rest next rfl (run_cons_eq_some.mpr ⟨next, stepped, rfl⟩)
        have holds := necessary initially stepped after
        apply Meets.cons stepped holds
        apply inductionHypothesis (preserved initially holds stepped) continued
        rintro before rest middle rfl passed
        apply everywhere (event :: before) rest middle rfl
        exact run_cons_eq_some.mpr ⟨next, stepped, passed⟩
  · rintro meets before after middle rfl passed
    exact sound (run_invariant invariant preserved initially meets.before passed)

/-- An invariant that speaks of the events so far, kept by every step that meets
the condition. -/
theorem run_history_invariant {condition : σ → ε → Prop} {initial : σ}
    (invariant : List ε → σ → Prop)
    (preserved : ∀ {before : List ε} {state next : σ} {event : ε},
      run step initial before = some state → invariant before state → condition state event →
        step state event = some next → invariant (before ++ [event]) next)
    {final : σ} {events : List ε} (initially : invariant [] initial)
    (meets : Meets step condition initial events)
    (reached : run step initial events = some final) : invariant events final := by
  induction events using List.reverseRecOn generalizing final with
  | nil =>
      obtain rfl : initial = final := by simpa using reached
      exact initially
  | append_singleton before event inductionHypothesis =>
      rw [run_append, Option.bind_eq_some_iff] at reached
      obtain ⟨state, reachedBefore, last⟩ := reached
      obtain ⟨next, stepped, done⟩ := run_cons_eq_some.mp last
      obtain rfl : next = final := by simpa using done
      have holds := inductionHypothesis meets.before reachedBefore
      exact preserved reachedBefore holds (meets.after reachedBefore).1 stepped

/-- What a table of parties holds behind the update of one of them. -/
theorem update_eq_some {ι α : Type*} [DecidableEq ι] {table : ι → Option α} {updated name : ι}
    {value found : α} (present : Function.update table updated (some value) name = some found) :
    (name = updated ∧ found = value) ∨ (name ≠ updated ∧ table name = some found) := by
  by_cases same : name = updated
  · rw [same, Function.update_self, Option.some.injEq] at present
    exact Or.inl ⟨same, present.symm⟩
  · rw [Function.update_of_ne same] at present
    exact Or.inr ⟨same, present⟩

end DarkmeshGateway.Foundation.Machine
