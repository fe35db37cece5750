import Mathlib.Init

/-!
Contract: sequencing of computations that may fail.

Owns the inversion of a successful sequence of `Except` steps and the failures a
sequence can end with.
-/

namespace DarkmeshGateway.Foundation.Outcome

universe u v

variable {ε : Type u} {α β : Type v}

/-- A sequence succeeds exactly when its first step does and the rest does on
its result. -/
theorem bind_eq_ok {first : Except ε α} {next : α → Except ε β} {result : β} :
    (first >>= next) = .ok result ↔ ∃ value, first = .ok value ∧ next value = .ok result := by
  cases first with
  | error failure => simp [bind, Except.bind]
  | ok value => simp [bind, Except.bind]

/-- A check in front of a run lets it through when the check succeeds. -/
theorem then_eq_ok {first : Except ε PUnit} {next : Except ε β} {result : β} :
    (first >>= fun _ => next) = .ok result ↔ first = .ok ⟨⟩ ∧ next = .ok result := by
  cases first with
  | error failure => simp [bind, Except.bind]
  | ok value => simp [bind, Except.bind]

/-- `if refused then throw` in front of a run lets it through exactly when the
test fails. -/
theorem guard_eq_ok {refused : Prop} [Decidable refused] {failure : ε} {next : Except ε α}
    {result : α} :
    (if refused then (throw failure : Except ε PUnit) >>= fun _ => next else next) = .ok result ↔
      ¬refused ∧ next = .ok result := by
  by_cases holds : refused <;> simp [holds, bind, Except.bind, throw, throwThe, MonadExceptOf.throw]

/-- The same with the failure given as a value. -/
theorem error_guard_eq_ok {refused : Prop} [Decidable refused] {failure : ε} {next : Except ε α}
    {result : α} :
    (if refused then (Except.error failure : Except ε PUnit) >>= fun _ => next else next) =
      .ok result ↔ ¬refused ∧ next = .ok result := by
  by_cases holds : refused <;> simp [holds, bind, Except.bind]

/-- A run that throws does not succeed. -/
theorem throw_ne_ok {failure : ε} {result : α} :
    ¬(throw failure : Except ε α) = .ok result := by
  simp [throw, throwThe, MonadExceptOf.throw]

/-- A value that is there, or a throw. -/
theorem elim_throw_eq_ok {value : Option α} {failure : ε} {result : α} :
    value.elim (throw failure : Except ε α) pure = .ok result ↔ value = some result := by
  cases value with
  | none => simp [throw, throwThe, MonadExceptOf.throw]
  | some found => simp [pure, Except.pure]

theorem pure_eq_ok {value result : α} :
    (pure value : Except ε α) = .ok result ↔ value = result := by
  simp [pure, Except.pure]

@[simp] theorem mapError_ok {ε' : Type u} (rename : ε → ε') (value : α) :
    (Except.ok value).mapError rename = .ok value := rfl

@[simp] theorem mapError_error {ε' : Type u} (rename : ε → ε') (failure : ε) :
    (Except.error failure : Except ε α).mapError rename = .error (rename failure) := rfl

/-- A step whose failures are renamed succeeds when it did. -/
theorem mapError_eq_ok {ε' : Type u} {rename : ε → ε'} {step : Except ε α} {result : α} :
    step.mapError rename = .ok result ↔ step = .ok result := by
  cases step with
  | error failure => simp
  | ok value =>
      constructor
      · intro same
        exact congrArg Except.ok (Except.ok.inj same)
      · intro same
        exact congrArg Except.ok (Except.ok.inj same)

/-- The value of a run is seen exactly when it succeeds. -/
theorem toOption_eq_some {run : Except ε α} {result : α} :
    run.toOption = some result ↔ run = .ok result := by
  cases run with
  | error failure => simp [Except.toOption]
  | ok value => simp [Except.toOption]

/-! ### Failures -/

/-- Every failure of a run is allowed. -/
def FailsWith (allowed : ε → Prop) (run : Except ε α) : Prop :=
  ∀ failure, run = .error failure → allowed failure

variable {allowed : ε → Prop}

theorem failsWith_ok (value : α) : FailsWith allowed (.ok value) := by
  intro failure failed
  cases failed

theorem failsWith_error {failure : ε} (permitted : allowed failure) :
    FailsWith allowed (.error failure : Except ε α) := by
  rintro _ ⟨⟩
  exact permitted

theorem failsWith_bind {first : Except ε α} {next : α → Except ε β}
    (firstFails : FailsWith allowed first) (nextFails : ∀ value, FailsWith allowed (next value)) :
    FailsWith allowed (first >>= next) := by
  intro failure failed
  cases outcome : first with
  | error raised =>
      rw [outcome] at failed
      cases failed
      exact firstFails failure outcome
  | ok value =>
      rw [outcome] at failed
      exact nextFails value failure failed

theorem failsWith_ite {condition : Prop} [Decidable condition] {first second : Except ε α}
    (firstFails : FailsWith allowed first) (secondFails : FailsWith allowed second) :
    FailsWith allowed (if condition then first else second) := by
  split
  · exact firstFails
  · exact secondFails

end DarkmeshGateway.Foundation.Outcome
