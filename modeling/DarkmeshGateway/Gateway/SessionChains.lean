import DarkmeshGateway.Foundation.Chains
import DarkmeshGateway.Foundation.Machine
import DarkmeshGateway.Gateway.SessionLifecycle

/-!
Contract: the sessions that rotations link, in every run of the lifecycle
service.

Owns runs at non-decreasing times over a factory of fresh ids, the chains of
rotated sessions, how statuses move, and what a read returns.

Does not own the operations.
-/

namespace DarkmeshGateway.Gateway.SessionChains

open Foundation
open Foundation.Js
open Foundation.Chains (Follows Member extend)
open SessionLifecycle

/-! ### Runs -/

/-- Fresh ids, none of them blank or untrimmed. -/
structure IdFactory where
  draw : Nat → JsString
  fresh : Function.Injective draw
  nonblank : ∀ count, draw count ≠ []
  trimmed : ∀ count, trim (draw count) = draw count

/-- The store, the number of ids drawn so far, and the time of the last call. -/
structure State where
  store : Store
  drawn : Nat
  clock : Int

def start (clock : Int) : State := ⟨.empty, 0, clock⟩

inductive Operation where
  | create (input : CreateInput)
  | read (sessionId : JsString)
  | rotate (sessionId : JsString)
  | revoke (sessionId : JsString)

structure Call where
  now : Int
  operation : Operation

/-- The ids an operation drew. -/
def draws {α : Type} (result : Except Failure α) : Nat :=
  match result with
  | .ok _ => 1
  | .error _ => 0

/-- The state after an operation, and its answer. -/
def perform (factory : IdFactory) (defaultTtlMs : Nat) (state : State) (now : Int) :
    Operation → State × Except Failure Session
  | .create input =>
      let (store, result) :=
        createSession state.store defaultTtlMs now (factory.draw state.drawn) input
      (⟨store, state.drawn + draws result, now⟩, result)
  | .read sessionId => (⟨state.store, state.drawn, now⟩, readSession state.store now sessionId)
  | .rotate sessionId =>
      let (store, result) := rotateSession state.store now (factory.draw state.drawn) sessionId
      (⟨store, state.drawn + draws result, now⟩, result.map Prod.fst)
  | .revoke sessionId =>
      let (store, result) := revokeSession state.store now sessionId
      (⟨store, state.drawn, now⟩, result.map Prod.fst)

def step (factory : IdFactory) (defaultTtlMs : Nat) (state : State) (call : Call) :
    Option State :=
  if call.now < state.clock then none
  else some (perform factory defaultTtlMs state call.now call.operation).1

/-! ### Chains -/

def rotatedTo (store : Store) (id : JsString) : Option JsString :=
  (store.find id).bind Session.rotatedTo

def rotatedFrom (store : Store) (id : JsString) : Option JsString :=
  (store.find id).bind Session.rotatedFrom

def subjectOf (store : Store) (id : JsString) : Option JsString :=
  (store.find id).map Session.subject

def statusOf (store : Store) (id : JsString) : Option Status :=
  (store.find id).map Session.status

/-- The sessions of a store form disjoint chains: `rotatedTo` leads to the next
session of a chain and `rotatedFrom` back, the sessions of a chain have one
subject, and only the last may be other than rotated. -/
structure Linked (store : Store) (chains : Set (List JsString)) : Prop where
  disjoint : Chains.Disjoint chains
  stored : ∀ id, Member chains id ↔ (store.find id).isSome
  forward : ∀ first second, rotatedTo store first = some second ↔ Follows chains first second
  backward : ∀ first second, rotatedFrom store second = some first ↔ Follows chains first second
  subject : ∀ chain ∈ chains, ∀ first ∈ chain, ∀ second ∈ chain,
    subjectOf store first = subjectOf store second
  retired : ∀ first second, Follows chains first second → statusOf store first = some .rotated

/-- Statuses move from active to rotated or revoked only. -/
def Moves (before after : Status) : Prop := after = before ∨ before = .active

/-- Every session stays, and its status moves as it may. -/
def Keeps (before after : Store) : Prop :=
  ∀ id session, before.find id = some session →
    ∃ later, after.find id = some later ∧ Moves session.status later.status ∧
      later.subject = session.subject

/-! ### What an operation does -/

/-- The session is stored under an id, active and unexpired. -/
def Usable (store : Store) (now : Int) (id : JsString) (session : Session) : Prop :=
  store.find id = some session ∧ session.status = .active ∧ now < session.expiresAt

/-- An operation does nothing to the store, or adds a new session, or replaces
an active one by its rotated form and its successor, or by its revoked form. -/
theorem perform_cases (factory : IdFactory) (ttl : Nat) (state : State) (now : Int)
    (operation : Operation) :
    ((perform factory ttl state now operation).1.store = state.store ∧
      (perform factory ttl state now operation).1.drawn = state.drawn) ∨
    (∃ session, session.id = factory.draw state.drawn ∧ session.rotatedTo = none ∧
      session.rotatedFrom = none ∧
      (perform factory ttl state now operation).1.store = put state.store session ∧
      (perform factory ttl state now operation).1.drawn = state.drawn + 1) ∨
    (∃ id current, Usable state.store now id current ∧
      (perform factory ttl state now operation).1.store =
        put (put state.store (rotatedBy current now (factory.draw state.drawn)))
          (successorOf current now (factory.draw state.drawn)) ∧
      (perform factory ttl state now operation).1.drawn = state.drawn + 1) ∨
    (∃ id current, Usable state.store now id current ∧
      (perform factory ttl state now operation).1.store =
        put state.store (revokedAt current now) ∧
      (perform factory ttl state now operation).1.drawn = state.drawn) := by
  cases operation with
  | read sessionId => exact Or.inl ⟨rfl, rfl⟩
  | create input =>
      simp only [perform, createSession]
      split
      · exact Or.inl ⟨rfl, rfl⟩
      · split
        · exact Or.inl ⟨rfl, rfl⟩
        · exact Or.inr (Or.inl ⟨_, rfl, rfl, rfl, rfl, rfl⟩)
  | rotate sessionId =>
      simp only [perform, rotateSession]
      split
      · exact Or.inl ⟨rfl, rfl⟩
      next current passed =>
        exact Or.inr (Or.inr (Or.inl ⟨_, current, (usable_eq_ok.mp passed).2, rfl, rfl⟩))
  | revoke sessionId =>
      simp only [perform, revokeSession]
      split
      · exact Or.inl ⟨rfl, trivial⟩
      next current passed =>
        exact Or.inr (Or.inr (Or.inr ⟨_, current, (usable_eq_ok.mp passed).2, rfl, trivial⟩))

/-- A refused operation leaves the store as it was. -/
theorem perform_refused {factory : IdFactory} {ttl : Nat} {state : State} {now : Int}
    {operation : Operation} {failure : Failure}
    (refused : (perform factory ttl state now operation).2 = .error failure) :
    (perform factory ttl state now operation).1.store = state.store := by
  cases operation with
  | read sessionId => rfl
  | create input =>
      simp only [perform] at refused ⊢
      exact createSession_refused (Prod.ext rfl refused)
  | rotate sessionId =>
      simp only [perform] at refused ⊢
      cases result : (rotateSession state.store now (factory.draw state.drawn) sessionId).2 with
      | error raised => exact rotateSession_refused (Prod.ext rfl result)
      | ok outcome =>
          rw [result] at refused
          cases refused
  | revoke sessionId =>
      simp only [perform] at refused ⊢
      cases result : (revokeSession state.store now sessionId).2 with
      | error raised => exact revokeSession_refused (Prod.ext rfl result)
      | ok outcome =>
          rw [result] at refused
          cases refused

/-! ### The invariant -/

theorem find_put (store : Store) (session : Session) (id : JsString) :
    (put store session).find id = if id = session.id then some session else store.find id := by
  unfold put
  split
  next same => rw [same, OrderedMap.find_set_self]
  next other => rw [OrderedMap.find_set_other _ other]

/-- Sessions are stored under their own ids, which were drawn before, and are
linked in chains. -/
structure Invariant (factory : IdFactory) (state : State) : Prop where
  keyed : ∀ id session, state.store.find id = some session → session.id = id
  named : ∀ id, (state.store.find id).isSome → ∃ count < state.drawn, id = factory.draw count
  linked : ∃ chains, Linked state.store chains

theorem Invariant.start (factory : IdFactory) (clock : Int) :
    Invariant factory (start clock) where
  keyed := by simp [SessionChains.start]
  named := by simp [SessionChains.start]
  linked := by
    refine ⟨∅, Chains.disjoint_empty, ?_, ?_, ?_, ?_, ?_⟩
    · simp [SessionChains.start, Member]
    · simp [SessionChains.start, rotatedTo, Follows]
    · simp [SessionChains.start, rotatedFrom, Follows]
    · simp
    · simp [Follows]

/-- The next id is not stored yet. -/
theorem Invariant.unused {factory : IdFactory} {state : State}
    (invariant : Invariant factory state) : state.store.find (factory.draw state.drawn) = none := by
  rw [← Option.not_isSome_iff_eq_none]
  intro stored
  obtain ⟨count, early, same⟩ := invariant.named _ stored
  have drawn := factory.fresh same
  omega

/-- An active session has no successor. -/
theorem Linked.unfollowed {store : Store} {chains : Set (List JsString)}
    (linked : Linked store chains) {id : JsString} {session : Session}
    (found : store.find id = some session) (active : session.status = .active) (next : JsString) :
    ¬Follows chains id next := by
  intro follows
  have retired := linked.retired id next follows
  simp [statusOf, found, active] at retired

/-! ### Growing and retiring -/

/-- A store with one more session, at the end of a chain or alone. -/
structure Grows (store grown : Store) (chain : List JsString) (id : JsString) (session : Session) :
    Prop where
  added : grown.find id = some session
  unlinked : session.rotatedTo = none
  origin : session.rotatedFrom = chain.getLast?
  shared : ∀ other ∈ chain, subjectOf store other = some session.subject
  stays : ∀ other, other ≠ id → (grown.find other).isSome = (store.find other).isSome
  subjects : ∀ other, other ≠ id → subjectOf grown other = subjectOf store other
  origins : ∀ other, other ≠ id → rotatedFrom grown other = rotatedFrom store other
  last : ∀ other, chain.getLast? = some other →
    rotatedTo grown other = some id ∧ statusOf grown other = some .rotated
  rest : ∀ other, other ≠ id → chain.getLast? ≠ some other →
    rotatedTo grown other = rotatedTo store other ∧ statusOf grown other = statusOf store other

section Growing

variable {store grown : Store} {chains : Set (List JsString)} {chain : List JsString}
  {id : JsString} {session : Session}

/-- A new session is in no chain. -/
theorem Linked.unknown (linked : Linked store chains) (fresh : store.find id = none) :
    ¬Member chains id := by
  rw [linked.stored, fresh]
  simp

/-- Nor is it in the chain that it is added to. -/
theorem Linked.not_mem_grown (linked : Linked store chains) (fresh : store.find id = none)
    (known : chain ∈ chains ∨ chain = []) : id ∉ chain := by
  intro inside
  rcases known with listed | empty
  · exact linked.unknown fresh ⟨chain, listed, inside⟩
  · rw [empty] at inside
    exact absurd inside List.not_mem_nil

theorem Linked.grow_forward (linked : Linked store chains)
    (known : chain ∈ chains ∨ chain = []) (fresh : store.find id = none)
    (ends : ∀ other, chain.getLast? = some other → ∀ next, ¬Follows chains other next)
    (grows : Grows store grown chain id session) (first second : JsString) :
    rotatedTo grown first = some second ↔ Follows (extend chains chain id) first second := by
  rw [Chains.follows_extend known]
  by_cases new : first = id
  · subst new
    have unlinked : rotatedTo grown first = none := by
      simp [rotatedTo, grows.added, grows.unlinked]
    rw [unlinked]
    constructor
    · intro linkedTo
      cases linkedTo
    · rintro (follows | ⟨last, -⟩)
      · exact absurd follows.left (linked.unknown fresh)
      · exact absurd (List.mem_of_getLast? last) (linked.not_mem_grown fresh known)
  · by_cases last : chain.getLast? = some first
    · rw [(grows.last first last).1]
      constructor
      · intro same
        exact Or.inr ⟨last, (Option.some.inj same).symm⟩
      · rintro (follows | ⟨-, same⟩)
        · exact absurd follows (ends first last second)
        · rw [same]
    · rw [(grows.rest first new last).1, linked.forward]
      simp [last]

theorem Linked.grow_backward (linked : Linked store chains)
    (known : chain ∈ chains ∨ chain = []) (fresh : store.find id = none)
    (grows : Grows store grown chain id session) (first second : JsString) :
    rotatedFrom grown second = some first ↔ Follows (extend chains chain id) first second := by
  rw [Chains.follows_extend known]
  by_cases new : second = id
  · subst new
    have origin : rotatedFrom grown second = chain.getLast? := by
      simp [rotatedFrom, grows.added, grows.origin]
    rw [origin]
    constructor
    · intro last
      exact Or.inr ⟨last, rfl⟩
    · rintro (follows | ⟨last, -⟩)
      · exact absurd follows.right (linked.unknown fresh)
      · exact last
  · rw [grows.origins second new, linked.backward]
    simp [new]

/-- The new session has the subject of its chain. -/
theorem Linked.grow_subject (linked : Linked store chains)
    (known : chain ∈ chains ∨ chain = []) (fresh : store.find id = none)
    (grows : Grows store grown chain id session) :
    ∀ extended ∈ extend chains chain id, ∀ first ∈ extended, ∀ second ∈ extended,
      subjectOf grown first = subjectOf grown second := by
  rintro extended (⟨listed, -⟩ | rfl) first inFirst second inSecond
  · have old (other : JsString) (inside : other ∈ extended) : other ≠ id := by
      rintro rfl
      exact linked.unknown fresh ⟨extended, listed, inside⟩
    rw [grows.subjects first (old first inFirst), grows.subjects second (old second inSecond)]
    exact linked.subject extended listed first inFirst second inSecond
  · have common : ∀ other ∈ chain ++ [id], subjectOf grown other = some session.subject := by
      intro other inside
      rcases List.mem_append.mp inside with before | here
      · have different : other ≠ id := by
          rintro rfl
          exact linked.not_mem_grown fresh known before
        rw [grows.subjects other different]
        exact grows.shared other before
      · simp [List.mem_singleton.mp here, subjectOf, grows.added]
    rw [common first inFirst, common second inSecond]

theorem Linked.grow (linked : Linked store chains)
    (known : chain ∈ chains ∨ chain = []) (fresh : store.find id = none)
    (ends : ∀ other, chain.getLast? = some other → ∀ next, ¬Follows chains other next)
    (grows : Grows store grown chain id session) : Linked grown (extend chains chain id) where
  disjoint := linked.disjoint.extend known (linked.unknown fresh)
  stored other := by
    rw [Chains.member_extend known, linked.stored]
    by_cases new : other = id
    · simp [new, grows.added]
    · simp [new, grows.stays other new]
  forward := linked.grow_forward known fresh ends grows
  backward := linked.grow_backward known fresh grows
  subject := linked.grow_subject known fresh grows
  retired first second := by
    rw [Chains.follows_extend known]
    rintro (follows | ⟨last, -⟩)
    · have different : first ≠ id := by
        rintro rfl
        exact linked.unknown fresh follows.left
      have notEnd : chain.getLast? ≠ some first := fun last => ends first last second follows
      rw [(grows.rest first different notEnd).2]
      exact linked.retired first second follows
    · exact (grows.last first last).2

end Growing

theorem grows_create {store : Store} {session : Session} (unlinked : session.rotatedTo = none)
    (first : session.rotatedFrom = none) :
    Grows store (put store session) [] session.id session where
  added := by rw [find_put, if_pos rfl]
  unlinked := unlinked
  origin := first
  shared := by simp
  stays := by
    intro other different
    rw [find_put, if_neg different]
  subjects := by
    intro other different
    rw [subjectOf, find_put, if_neg different, subjectOf]
  origins := by
    intro other different
    rw [rotatedFrom, find_put, if_neg different, rotatedFrom]
  last := by simp
  rest := by
    intro other different _
    rw [rotatedTo, statusOf, find_put, if_neg different, rotatedTo, statusOf]
    exact ⟨rfl, rfl⟩

theorem find_rotate (store : Store) (current : Session) (now : Int) (fresh id : JsString) :
    (put (put store (rotatedBy current now fresh)) (successorOf current now fresh)).find id =
      if id = fresh then some (successorOf current now fresh)
      else if id = current.id then some (rotatedBy current now fresh) else store.find id := by
  rw [find_put, find_put]
  rfl

theorem grows_rotate {store : Store} {chain : List JsString} {current : Session} {now : Int}
    {fresh : JsString} (found : store.find current.id = some current)
    (unused : store.find fresh = none) (last : chain.getLast? = some current.id)
    (shared : ∀ other ∈ chain, subjectOf store other = some current.subject) :
    Grows store (put (put store (rotatedBy current now fresh)) (successorOf current now fresh))
      chain fresh (successorOf current now fresh) := by
  have own : current.id ≠ fresh := by
    intro same
    rw [same, unused] at found
    cases found
  refine ⟨?_, rfl, last.symm, shared, ?_, ?_, ?_, ?_, ?_⟩
  · rw [find_rotate, if_pos rfl]
  · intro other different
    rw [find_rotate, if_neg different]
    split
    next same => simp [same, found]
    next => rfl
  · intro other different
    rw [subjectOf, find_rotate, if_neg different, subjectOf]
    split
    next same => simp [same, found, rotatedBy]
    next => rfl
  · intro other different
    rw [rotatedFrom, find_rotate, if_neg different, rotatedFrom]
    split
    next same => simp [same, found, rotatedBy]
    next => rfl
  · intro other isLast
    obtain rfl : current.id = other := Option.some.inj (last.symm.trans isLast)
    rw [rotatedTo, statusOf, find_rotate, if_neg own, if_pos rfl]
    exact ⟨rfl, rfl⟩
  · intro other different notLast
    have foreign : other ≠ current.id := by
      intro same
      exact notLast (same ▸ last)
    simp [rotatedTo, statusOf, find_rotate, different, foreign]

/-- Revoking an active session changes no chain. -/
theorem Linked.revoke {store : Store} {chains : Set (List JsString)} {current : Session}
    {now : Int} (linked : Linked store chains) (found : store.find current.id = some current)
    (active : current.status = .active) : Linked (put store (revokedAt current now)) chains := by
  have find (id : JsString) : (put store (revokedAt current now)).find id =
      if id = current.id then some (revokedAt current now) else store.find id := find_put _ _ _
  have onward (id : JsString) : rotatedTo (put store (revokedAt current now)) id =
      rotatedTo store id := by
    rw [rotatedTo, find, rotatedTo]
    split
    next same => simp [same, found, revokedAt]
    next => rfl
  have origin (id : JsString) : rotatedFrom (put store (revokedAt current now)) id =
      rotatedFrom store id := by
    rw [rotatedFrom, find, rotatedFrom]
    split
    next same => simp [same, found, revokedAt]
    next => rfl
  have subject (id : JsString) : subjectOf (put store (revokedAt current now)) id =
      subjectOf store id := by
    rw [subjectOf, find, subjectOf]
    split
    next same => simp [same, found, revokedAt]
    next => rfl
  refine ⟨linked.disjoint, ?_, ?_, ?_, ?_, ?_⟩
  · intro id
    rw [linked.stored, find]
    split
    next same => simp [same, found]
    next => rfl
  · intro first second
    rw [onward]
    exact linked.forward first second
  · intro first second
    rw [origin]
    exact linked.backward first second
  · intro chain listed first inFirst second inSecond
    rw [subject, subject]
    exact linked.subject chain listed first inFirst second inSecond
  · intro first second follows
    have other : first ≠ current.id := by
      intro same
      exact linked.unfollowed found active second (same ▸ follows)
    rw [statusOf, find, if_neg other]
    exact linked.retired first second follows

/-- A stored session is stored under its own id. -/
theorem Invariant.usable {factory : IdFactory} {state : State} {now : Int} {id : JsString}
    {current : Session} (invariant : Invariant factory state)
    (usable : Usable state.store now id current) :
    state.store.find current.id = some current :=
  (invariant.keyed id current usable.1).symm ▸ usable.1

theorem Invariant.created {factory : IdFactory} {state next : State} {session : Session}
    (invariant : Invariant factory state) (id : session.id = factory.draw state.drawn)
    (unlinked : session.rotatedTo = none) (first : session.rotatedFrom = none)
    (store : next.store = put state.store session) (drawn : next.drawn = state.drawn + 1) :
    Invariant factory next := by
  obtain ⟨chains, linked⟩ := invariant.linked
  refine ⟨?_, ?_, ?_⟩
  · rw [store]
    intro other held found
    rw [find_put] at found
    split at found
    next same => rw [same, ← Option.some.inj found]
    next => exact invariant.keyed other held found
  · rw [store, drawn]
    intro other present
    rw [find_put] at present
    split at present
    next same => exact ⟨state.drawn, by omega, same.trans id⟩
    next =>
      obtain ⟨count, early, same⟩ := invariant.named other present
      exact ⟨count, by omega, same⟩
  · rw [store]
    have unused := id ▸ invariant.unused
    exact ⟨_, linked.grow (Or.inr rfl) unused (by simp) (grows_create unlinked first)⟩

theorem Invariant.rotated {factory : IdFactory} {state next : State} {current : Session}
    {now : Int} (invariant : Invariant factory state)
    (found : state.store.find current.id = some current) (active : current.status = .active)
    (store : next.store = put (put state.store (rotatedBy current now (factory.draw state.drawn)))
      (successorOf current now (factory.draw state.drawn)))
    (drawn : next.drawn = state.drawn + 1) : Invariant factory next := by
  obtain ⟨chains, linked⟩ := invariant.linked
  have unused := invariant.unused
  refine ⟨?_, ?_, ?_⟩
  · rw [store]
    intro other held foundOther
    rw [find_rotate] at foundOther
    split at foundOther
    next same => rw [same, ← Option.some.inj foundOther]; rfl
    next =>
      split at foundOther
      next same => rw [same, ← Option.some.inj foundOther]; rfl
      next => exact invariant.keyed other held foundOther
  · rw [store, drawn]
    intro other present
    rw [find_rotate] at present
    split at present
    next same => exact ⟨state.drawn, by omega, same⟩
    next =>
      have before : (state.store.find other).isSome := by
        split at present
        next same => simp [same, found]
        next => exact present
      obtain ⟨count, early, same⟩ := invariant.named other before
      exact ⟨count, by omega, same⟩
  · rw [store]
    have inChain : Member chains current.id := by
      rw [linked.stored, found]
      rfl
    obtain ⟨chain, listed, member⟩ := inChain
    have free := linked.unfollowed found active
    have last := Chains.getLast?_of_unfollowed listed member free
    refine ⟨_, linked.grow (Or.inl listed) unused ?_ (grows_rotate found unused last ?_)⟩
    · intro other isLast
      rw [last, Option.some.injEq] at isLast
      exact isLast ▸ free
    · intro other inside
      rw [linked.subject chain listed other inside current.id member]
      simp [subjectOf, found]

theorem Invariant.revoked {factory : IdFactory} {state next : State} {current : Session}
    {now : Int} (invariant : Invariant factory state)
    (found : state.store.find current.id = some current) (active : current.status = .active)
    (store : next.store = put state.store (revokedAt current now))
    (drawn : next.drawn = state.drawn) : Invariant factory next := by
  obtain ⟨chains, linked⟩ := invariant.linked
  refine ⟨?_, ?_, ?_⟩
  · rw [store]
    intro other held foundOther
    rw [find_put] at foundOther
    split at foundOther
    next same => rw [same, ← Option.some.inj foundOther]
    next => exact invariant.keyed other held foundOther
  · rw [store, drawn]
    intro other present
    apply invariant.named other
    rw [find_put] at present
    split at present
    next same =>
      have own : other = current.id := same
      simp [own, found]
    next => exact present
  · rw [store]
    exact ⟨chains, linked.revoke found active⟩

/-- Every operation keeps the invariant. -/
theorem Invariant.perform {factory : IdFactory} {ttl : Nat} {state : State} {now : Int}
    {operation : Operation} (invariant : Invariant factory state) :
    Invariant factory (perform factory ttl state now operation).1 := by
  rcases perform_cases factory ttl state now operation with ⟨store, drawn⟩ |
    ⟨session, id, unlinked, first, store, drawn⟩ | ⟨id, current, usable, store, drawn⟩ |
    ⟨id, current, usable, store, drawn⟩
  · exact ⟨store ▸ invariant.keyed, store ▸ drawn ▸ invariant.named, store ▸ invariant.linked⟩
  · exact invariant.created id unlinked first store drawn
  · exact invariant.rotated (invariant.usable usable) usable.2.1 store drawn
  · exact invariant.revoked (invariant.usable usable) usable.2.1 store drawn

/-- Replacing an active session moves its status. -/
theorem keeps_put {store : Store} {current later : Session} (id : later.id = current.id)
    (found : store.find current.id = some current) (active : current.status = .active)
    (subject : later.subject = current.subject) : Keeps store (put store later) := by
  intro other session held
  rw [find_put, id]
  by_cases same : other = current.id
  · rw [same, found, Option.some.injEq] at held
    subst held
    exact ⟨later, if_pos same, Or.inr active, subject⟩
  · exact ⟨session, by rw [if_neg same, held], Or.inl rfl, rfl⟩

theorem keeps_put_fresh {store : Store} {session : Session} (fresh : store.find session.id = none) :
    Keeps store (put store session) := by
  intro other held found
  have different : other ≠ session.id := by
    intro same
    rw [same, fresh] at found
    cases found
  exact ⟨held, by rw [find_put, if_neg different, found], Or.inl rfl, rfl⟩

theorem Keeps.refl (store : Store) : Keeps store store := fun _ session found =>
  ⟨session, found, Or.inl rfl, rfl⟩

/-- No operation removes a session, and statuses move from active only. -/
theorem Invariant.keeps {factory : IdFactory} {ttl : Nat} {state : State} {now : Int}
    {operation : Operation} (invariant : Invariant factory state) :
    Keeps state.store (SessionChains.perform factory ttl state now operation).1.store := by
  have unused := invariant.unused
  rcases perform_cases factory ttl state now operation with ⟨store, -⟩ |
    ⟨session, id, -, -, store, -⟩ | ⟨id, current, usable, store, -⟩ |
    ⟨id, current, usable, store, -⟩
  · rw [store]
    exact Keeps.refl _
  · rw [store]
    exact keeps_put_fresh (id ▸ unused)
  · rw [store]
    have found := invariant.usable usable
    intro other session held
    rw [find_rotate]
    have known : other ≠ factory.draw state.drawn := by
      intro same
      rw [same, unused] at held
      cases held
    rw [if_neg known]
    by_cases same : other = current.id
    · rw [same, found, Option.some.injEq] at held
      subst held
      exact ⟨_, if_pos same, Or.inr usable.2.1, rfl⟩
    · exact ⟨session, by rw [if_neg same, held], Or.inl rfl, rfl⟩
  · rw [store]
    have same : (revokedAt current now).id = current.id := rfl
    exact keeps_put same (invariant.usable usable) usable.2.1 rfl

/-! ### Whole runs -/

theorem invariant_run {factory : IdFactory} {ttl : Nat} {clock : Int} {calls : List Call}
    {state : State} (reached : Machine.run (step factory ttl) (start clock) calls = some state) :
    Invariant factory state := by
  apply Machine.run_invariant_always (Invariant factory) _ (Invariant.start factory clock) reached
  intro before next call invariant stepped
  unfold step at stepped
  split at stepped
  next early => cases stepped
  next late =>
    rw [← Option.some.inj stepped]
    exact invariant.perform

/-- A read succeeds exactly for an active, unexpired session. -/
theorem Invariant.readSession_eq_ok {factory : IdFactory} {state : State} {now : Int}
    {sessionId : JsString} {session : Session} (invariant : Invariant factory state) :
    readSession state.store now sessionId = .ok session ↔
      state.store.find (trim sessionId) = some session ∧ session.status = .active ∧
        now < session.expiresAt := by
  unfold readSession
  rw [usable_eq_ok]
  constructor
  · intro passed
    exact passed.2
  · intro usable
    refine ⟨?_, usable⟩
    obtain ⟨count, -, drawn⟩ := invariant.named (trim sessionId) (by simp [usable.1])
    rw [drawn]
    exact factory.nonblank count

/-- In every run the sessions form disjoint chains with one subject and at most
the last session active, `rotatedTo` and `rotatedFrom` undo each other, a read
succeeds exactly for an active, unexpired session, no operation removes a session
or moves its status other than from active, and a refused one changes nothing. -/
theorem lifecycle_holds {factory : IdFactory} {ttl : Nat} {clock : Int} {calls : List Call}
    {state : State} (reached : Machine.run (step factory ttl) (start clock) calls = some state) :
    (∃ chains, Linked state.store chains) ∧
    (∀ first second, rotatedTo state.store first = some second ↔
      rotatedFrom state.store second = some first) ∧
    (∀ now sessionId session, readSession state.store now sessionId = .ok session ↔
      state.store.find (trim sessionId) = some session ∧ session.status = .active ∧
        now < session.expiresAt) ∧
    ∀ now operation, Keeps state.store (perform factory ttl state now operation).1.store ∧
      ∀ failure, (perform factory ttl state now operation).2 = .error failure →
        (perform factory ttl state now operation).1.store = state.store := by
  have invariant := invariant_run reached
  refine ⟨invariant.linked, ?_, ?_, ?_⟩
  · obtain ⟨chains, linked⟩ := invariant.linked
    intro first second
    rw [linked.forward, linked.backward]
  · intro now sessionId session
    exact invariant.readSession_eq_ok
  · intro now operation
    exact ⟨invariant.keeps, fun failure refused => perform_refused refused⟩

/-- Ids of growing length. -/
def lettersFactory : IdFactory where
  draw count := List.replicate (count + 1) 97
  fresh := by
    intro left right same
    have length := congrArg List.length same
    simpa using length
  nonblank := by simp
  trimmed := by
    intro count
    apply trim_of_visible
    simp [isWhitespace]

/-- A session is created, rotated twice, and its last successor revoked. -/
def rotations : List Call :=
  [⟨0, .create { subject := js " alice " }⟩, ⟨5, .rotate (js "a")⟩, ⟨6, .rotate (js "aa ")⟩,
    ⟨9, .revoke (js "aaa")⟩]

theorem rotations_linked :
    ∃ state, Machine.run (step lettersFactory (defaultTtlMs none)) (start 0) rotations =
        some state ∧
      rotatedTo state.store (js "a") = some (js "aa") ∧
      rotatedFrom state.store (js "aa") = some (js "a") ∧
      statusOf state.store (js "aaa") = some .revoked := by
  have runs : (Machine.run (step lettersFactory (defaultTtlMs none)) (start 0) rotations).any
      (fun state => decide (rotatedTo state.store (js "a") = some (js "aa") ∧
        statusOf state.store (js "aaa") = some .revoked)) = true := by
    decide +kernel
  obtain ⟨state, reached, holds⟩ := Option.any_eq_true _ _ |>.mp runs
  obtain ⟨linked, revoked⟩ := of_decide_eq_true holds
  exact ⟨state, reached, linked, ((lifecycle_holds reached).2.1 _ _).mp linked, revoked⟩

end DarkmeshGateway.Gateway.SessionChains
