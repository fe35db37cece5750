import Mathlib.Data.List.Induction

/-!
Contract: services that answer calls, and specifications of their answers.

Owns the conversation of a service with a list of calls, what a specification
allows, the rule that a step-by-step simulation makes every conversation an
allowed one, and invariants of allowed conversations.

Does not own any particular service or specification.
-/

namespace DarkmeshGateway.Foundation.Refinement

variable {σ α ι ο : Type*}

/-- The calls with their answers, and the state behind the last one. -/
def converse (service : σ → ι → ο × σ) (state : σ) : List ι → List (ι × ο) × σ
  | [] => ([], state)
  | call :: rest =>
      let answered := service state call
      let later := converse service answered.2 rest
      ((call, answered.1) :: later.1, later.2)

/-- The answers a state allows to a call, each with the states that may follow. -/
abbrev Specification (α ι ο : Type*) := α → ι → ο → α → Prop

/-- The conversation leads from the first state to the last, answer by answer. -/
inductive Allows (spec : Specification α ι ο) : α → List (ι × ο) → α → Prop
  | nil (state : α) : Allows spec state [] state
  | cons {state next final : α} {call : ι} {answer : ο} {rest : List (ι × ο)} :
      spec state call answer next → Allows spec next rest final →
        Allows spec state ((call, answer) :: rest) final

/-- A service whose every step is one of the specification only has
conversations that the specification allows. -/
theorem converse_allowed {service : σ → ι → ο × σ} {spec : Specification α ι ο}
    {condition : ι → Prop} (related : σ → α → Prop)
    (simulates : ∀ state abstract call, related state abstract → condition call →
      ∃ next, spec abstract call (service state call).1 next ∧ related (service state call).2 next)
    {state : σ} {abstract : α} (start : related state abstract) {calls : List ι}
    (proper : ∀ call ∈ calls, condition call) :
    ∃ final, Allows spec abstract (converse service state calls).1 final ∧
      related (converse service state calls).2 final := by
  induction calls generalizing state abstract with
  | nil => exact ⟨abstract, .nil abstract, start⟩
  | cons call rest inductionHypothesis =>
      obtain ⟨next, allowed, relatedNext⟩ :=
        simulates state abstract call start (proper call List.mem_cons_self)
      obtain ⟨final, later, relatedFinal⟩ := inductionHypothesis relatedNext
        fun other member => proper other (List.mem_cons_of_mem call member)
      exact ⟨final, .cons allowed later, relatedFinal⟩

variable {spec : Specification α ι ο}

/-- A conversation can be cut at every answer. -/
theorem Allows.split {state final : α} {before after : List (ι × ο)}
    (allowed : Allows spec state (before ++ after) final) :
    ∃ middle, Allows spec state before middle ∧ Allows spec middle after final := by
  induction before generalizing state with
  | nil => exact ⟨state, .nil state, allowed⟩
  | cons exchange rest inductionHypothesis =>
      cases allowed with
      | cons first later =>
          obtain ⟨middle, reached, continued⟩ := inductionHypothesis later
          exact ⟨middle, .cons first reached, continued⟩

/-- An invariant of the conversation so far and the state, carried on by every
allowed answer, holds of every allowed conversation. -/
theorem Allows.invariant {initial : α} (invariant : List (ι × ο) → α → Prop)
    (initially : invariant [] initial)
    (preserved : ∀ history state call answer next, invariant history state →
      spec state call answer next → invariant (history ++ [(call, answer)]) next)
    {conversation : List (ι × ο)} {final : α} (allowed : Allows spec initial conversation final) :
    invariant conversation final := by
  induction conversation using List.reverseRecOn generalizing final with
  | nil =>
      cases allowed
      exact initially
  | append_singleton before exchange inductionHypothesis =>
      obtain ⟨middle, reached, last⟩ := allowed.split
      cases last with
      | cons stepped done =>
          cases done
          exact preserved before middle _ _ _ (inductionHypothesis reached) stepped

end DarkmeshGateway.Foundation.Refinement
