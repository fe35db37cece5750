import Mathlib.Logic.Relation

/-!
Contract: computations over a state that keep their effects when they fail.

Owns the monad, its basic operations, the rule that a relation between states
which is reflexive and transitive holds across a computation when it holds
across each of its parts, the rule for two runs from related states, and the
growth of a state that is a journal.

Does not own any particular state or relation.
-/

namespace DarkmeshGateway.Foundation

/-- A computation that ends with a result or an exception and a state. -/
def Stateful (σ ε α : Type) : Type := σ → Except ε α × σ

namespace Stateful

variable {σ ε α β : Type}

instance : Monad (Stateful σ ε) where
  pure value := fun state => (.ok value, state)
  bind first next := fun state =>
    match first state with
    | (.ok value, middle) => next value middle
    | (.error failure, middle) => (.error failure, middle)

/-- End with an exception. -/
def fail (failure : ε) : Stateful σ ε α := fun state => (.error failure, state)

/-- A result computed without the state. -/
def lift (outcome : Except ε α) : Stateful σ ε α := fun state => (outcome, state)

/-- A value read from the state. -/
def observe (read : σ → α) : Stateful σ ε α := fun state => (.ok (read state), state)

/-- An update of the state. -/
def update (change : σ → σ) : Stateful σ ε Unit := fun state => (.ok (), change state)

/-- The computation relates every state it starts from to the one it ends in,
whether it fails or not. -/
def Relates (related : σ → σ → Prop) (computation : Stateful σ ε α) : Prop :=
  ∀ state, related state (computation state).2

variable {related : σ → σ → Prop}

theorem relates_pure [Std.Refl related] (value : α) :
    Relates related (pure value : Stateful σ ε α) := fun state => Std.Refl.refl state

theorem relates_fail [Std.Refl related] (failure : ε) :
    Relates related (fail failure : Stateful σ ε α) := fun state => Std.Refl.refl state

theorem relates_lift [Std.Refl related] (outcome : Except ε α) :
    Relates related (lift outcome : Stateful σ ε α) := fun state => Std.Refl.refl state

theorem relates_observe [Std.Refl related] (read : σ → α) :
    Relates related (observe read : Stateful σ ε α) := fun state => Std.Refl.refl state

theorem relates_update {change : σ → σ} (changes : ∀ state, related state (change state)) :
    Relates related (update change : Stateful σ ε Unit) := changes

theorem relates_bind [IsTrans σ related] {first : Stateful σ ε α}
    {next : α → Stateful σ ε β} (firstRelates : Relates related first)
    (nextRelates : ∀ value, Relates related (next value)) : Relates related (first >>= next) := by
  intro state
  have start := firstRelates state
  cases outcome : first state with
  | mk result middle =>
      rw [outcome] at start
      cases result with
      | error failure =>
          have same : ((first >>= next) state).2 = middle := by simp [bind, outcome]
          rwa [same]
      | ok value =>
          have same : ((first >>= next) state).2 = (next value middle).2 := by
            simp [bind, outcome]
          rw [same]
          exact IsTrans.trans _ _ _ start (nextRelates value middle)

/-- What holds of a state, and of the end of every continuation from it, holds of
the end of a sequence whose first step does not touch the state. -/
theorem holds_lift_bind {holds : σ → Prop} {outcome : Except ε α} {next : α → Stateful σ ε β}
    {state : σ} (before : holds state)
    (after : ∀ value, outcome = .ok value → holds (next value state).2) :
    holds (((lift outcome : Stateful σ ε α) >>= next) state).2 := by
  cases outcome with
  | error failure => exact before
  | ok value => exact after value rfl

/-- What relates across a first step relates across the sequence when every
continuation from where the first step succeeds does. -/
theorem relates_bind_of_ok [IsTrans σ related] {first : Stateful σ ε α}
    {next : α → Stateful σ ε β} (firstRelates : Relates related first)
    (nextRelates : ∀ state value middle, first state = (.ok value, middle) →
      Relates related (next value)) : Relates related (first >>= next) := by
  intro state
  have start := firstRelates state
  cases outcome : first state with
  | mk result middle =>
      rw [outcome] at start
      cases result with
      | error failure =>
          have same : ((first >>= next) state).2 = middle := by simp [bind, outcome]
          rwa [same]
      | ok value =>
          have same : ((first >>= next) state).2 = (next value middle).2 := by
            simp [bind, outcome]
          rw [same]
          exact IsTrans.trans _ _ _ start (nextRelates state value middle outcome middle)

/-- Behind a step that does not touch the state, only its results matter. -/
theorem relates_lift_bind [Std.Refl related] {outcome : Except ε α} {next : α → Stateful σ ε β}
    (nextRelates : ∀ value, outcome = .ok value → Relates related (next value)) :
    Relates related ((lift outcome : Stateful σ ε α) >>= next) := by
  intro state
  apply holds_lift_bind (Std.Refl.refl state)
  intro value succeeded
  exact nextRelates value succeeded state

theorem relates_ite {condition : Prop} [Decidable condition] {first second : Stateful σ ε α}
    (firstRelates : condition → Relates related first)
    (secondRelates : ¬condition → Relates related second) :
    Relates related (if condition then first else second) := by
  split
  next holds => exact firstRelates holds
  next fails => exact secondRelates fails

/-! ### Runs from related states -/

/-- From two related states the computation has one outcome, and ends in related
states. -/
def Respects (before after : σ → σ → Prop) (computation : Stateful σ ε α) : Prop :=
  ∀ left right, before left right →
    (computation left).1 = (computation right).1 ∧ after (computation left).2 (computation right).2

theorem respects_lift {before after : σ → σ → Prop}
    (weaker : ∀ left right, before left right → after left right) (outcome : Except ε α) :
    Respects before after (lift outcome : Stateful σ ε α) :=
  fun left right start => ⟨rfl, weaker left right start⟩

theorem respects_lift_error {before after : σ → σ → Prop}
    (weaker : ∀ left right, before left right → after left right) (failure : ε)
    (next : α → Stateful σ ε β) :
    Respects before after ((lift (.error failure) : Stateful σ ε α) >>= next) :=
  fun left right start => ⟨rfl, weaker left right start⟩

theorem respects_pure (value : α) : Respects related related (pure value : Stateful σ ε α) :=
  fun _ _ start => ⟨rfl, start⟩

theorem respects_bind {before after : σ → σ → Prop} {first : Stateful σ ε α}
    {next : α → Stateful σ ε β} (firstRespects : Respects before after first)
    (nextRespects : ∀ value, Respects after after (next value)) :
    Respects before after (first >>= next) := by
  intro left right start
  have middle := firstRespects left right start
  simp only [bind]
  cases runLeft : first left with
  | mk outcomeLeft middleLeft =>
      cases runRight : first right with
      | mk outcomeRight middleRight =>
          rw [runLeft, runRight] at middle
          obtain ⟨sameOutcome, related⟩ := middle
          dsimp only at sameOutcome related
          subst sameOutcome
          cases outcomeLeft with
          | error failure => exact ⟨rfl, related⟩
          | ok value => exact nextRespects value middleLeft middleRight related

/-! ### Steps of a run -/

theorem bind_of_ok {first : Stateful σ ε α} {next : α → Stateful σ ε β} {state middle : σ}
    {value : α} (ran : first state = (.ok value, middle)) :
    (first >>= next) state = next value middle := by
  simp [bind, ran]

theorem bind_of_error {first : Stateful σ ε α} {next : α → Stateful σ ε β} {state middle : σ}
    {failure : ε} (ran : first state = (.error failure, middle)) :
    (first >>= next) state = (.error failure, middle) := by
  simp [bind, ran]

theorem lift_bind_of_ok {outcome : Except ε α} {value : α} (succeeded : outcome = .ok value)
    (next : α → Stateful σ ε β) (state : σ) :
    ((lift outcome : Stateful σ ε α) >>= next) state = next value state :=
  bind_of_ok (by rw [succeeded, lift])

theorem lift_bind_of_error {outcome : Except ε α} {failure : ε} (failed : outcome = .error failure)
    (next : α → Stateful σ ε β) (state : σ) :
    ((lift outcome : Stateful σ ε α) >>= next) state = (.error failure, state) :=
  bind_of_error (by rw [failed, lift])

/-- A sequence that succeeds passes through the successful first step. -/
theorem bind_eq_ok {first : Stateful σ ε α} {next : α → Stateful σ ε β} {state final : σ}
    {result : β} :
    (first >>= next) state = (.ok result, final) ↔
      ∃ value middle, first state = (.ok value, middle) ∧ next value middle = (.ok result, final) := by
  cases outcome : first state with
  | mk head middle =>
      cases head with
      | error failure => simp [bind, outcome]
      | ok value =>
          simp only [bind, outcome, Prod.mk.injEq, Except.ok.injEq]
          constructor
          · intro continued
            exact ⟨value, middle, ⟨rfl, rfl⟩, continued⟩
          · rintro ⟨_, _, ⟨rfl, rfl⟩, continued⟩
            exact continued

@[simp] theorem observe_eq_ok {read : σ → α} {state final : σ} {result : α} :
    (observe read : Stateful σ ε α) state = (.ok result, final) ↔
      read state = result ∧ state = final := by
  simp [observe]

@[simp] theorem update_eq_ok {change : σ → σ} {state final : σ} {result : Unit} :
    (update change : Stateful σ ε Unit) state = (.ok result, final) ↔ change state = final := by
  simp [update]

@[simp] theorem pure_eq_ok {value result : α} {state final : σ} :
    (pure value : Stateful σ ε α) state = (.ok result, final) ↔
      value = result ∧ state = final := by
  simp [pure]

@[simp] theorem lift_eq_ok {outcome : Except ε α} {state final : σ} {result : α} :
    (lift outcome : Stateful σ ε α) state = (.ok result, final) ↔
      outcome = .ok result ∧ state = final := by
  simp [lift]

@[simp] theorem fail_ne_ok {failure : ε} {state final : σ} {result : α} :
    ¬(fail failure : Stateful σ ε α) state = (.ok result, final) := by
  simp [fail]

/-! ### Journals -/

variable {ι : Type}

/-- A journal grew by allowed entries. -/
def Appends (allowed : ι → Prop) (before after : List ι) : Prop :=
  ∃ added, after = before ++ added ∧ ∀ entry ∈ added, allowed entry

instance (allowed : ι → Prop) : Std.Refl (Appends allowed) where
  refl journal := ⟨[], by simp, by simp⟩

instance (allowed : ι → Prop) : IsTrans (List ι) (Appends allowed) where
  trans first second third := by
    rintro ⟨early, rfl, earlyAllowed⟩ ⟨late, rfl, lateAllowed⟩
    refine ⟨early ++ late, List.append_assoc .., ?_⟩
    intro entry member
    rcases List.mem_append.mp member with inEarly | inLate
    · exact earlyAllowed entry inEarly
    · exact lateAllowed entry inLate

/-- Write an entry. -/
def record (entry : ι) : Stateful (List ι) ε Unit := update (· ++ [entry])

theorem relates_record {allowed : ι → Prop} {entry : ι} (permitted : allowed entry) :
    Relates (Appends allowed) (record entry : Stateful (List ι) ε Unit) := by
  apply relates_update
  intro journal
  refine ⟨[entry], rfl, ?_⟩
  intro other member
  rw [List.mem_singleton.mp member]
  exact permitted

end Stateful

end DarkmeshGateway.Foundation
