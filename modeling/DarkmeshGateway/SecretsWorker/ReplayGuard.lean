import DarkmeshGateway.Foundation.Delimited
import DarkmeshGateway.Foundation.ExpiringStore
import DarkmeshGateway.Foundation.Js.Number
import DarkmeshGateway.Foundation.Machine
import Mathlib.Logic.Function.Basic

/-!
Contract: `checkReplay` without a durable lock, as a machine over a shared
key-value store.

Owns the in-isolate claim map, the read, claim, read-back and confirm steps of
each call, storage faults with their retries, and the ownership invariant of
runs without faults.

Does not own the routes that call it or the durable-object lock.
-/

namespace DarkmeshGateway.SecretsWorker.ReplayGuard

open Foundation
open Foundation.Js
open Foundation.Machine

/-! ### Calls -/

def replayKey (subject nonce : JsString) : JsString :=
  js "replay:" ++ subject ++ 58 :: nonce

/-- The calls of a run: their keys, the isolates they run in, the random part
of the id each draws per attempt, and the replay window in seconds. -/
structure Deployment where
  ttl : Nat
  subject : Nat → JsString
  nonce : Nat → JsString
  isolate : Nat → Nat
  random : Nat → Nat → JsString

def Deployment.key (deployment : Deployment) (call : Nat) : JsString :=
  replayKey (deployment.subject call) (deployment.nonce call)

/-- `claim:${randomId('replay')}`. -/
def Deployment.claimMarker (deployment : Deployment) (call attempt : Nat) : JsString :=
  js "claim:replay-" ++ deployment.random call attempt

/-- No two calls draw the same random id. -/
def Deployment.FreshMarkers (deployment : Deployment) : Prop :=
  ∀ call other attempt otherAttempt,
    deployment.random call attempt = deployment.random other otherAttempt → call = other

/-- The point a call has reached; attempts count from zero. -/
inductive Phase where
  | waiting
  | reading (attempt : Nat)
  | claiming (attempt : Nat)
  | checking (attempt : Nat)
  | confirming (attempt : Nat)
  | won
  | replayed
  | failed
deriving DecidableEq

/-- What a storage step meets: a failing write may still have taken effect. -/
inductive Fault where
  | none
  | busy (applied : Bool)
  | broken (applied : Bool)
deriving DecidableEq

/-- The next step of one call. -/
structure Event where
  call : Nat
  now : Nat
  fault : Fault

/-- The shared store, the progress of each call and the claim map of each isolate. -/
structure System where
  store : ExpiringStore JsString JsString
  phase : Nat → Phase
  replayClaims : Nat → OrderedMap JsString Nat

def initial : System where
  store := .empty
  phase := fun _ => .waiting
  replayClaims := fun _ => .empty

/-! ### Steps -/

def System.goto (system : System) (call : Nat) (phase : Phase) : System :=
  { system with phase := Function.update system.phase call phase }

/-- The call ends: `finally` releases its claim. -/
def System.finish (deployment : Deployment) (system : System) (call : Nat) (phase : Phase) :
    System :=
  let isolate := deployment.isolate call
  { system.goto call phase with
    replayClaims := Function.update system.replayClaims isolate
      ((system.replayClaims isolate).erase (deployment.key call)) }

def pruneReplayClaims (claims : OrderedMap JsString Nat) (now : Nat) : OrderedMap JsString Nat :=
  (claims.entries.filter fun entry => entry.2 ≤ now).foldl
    (fun kept entry => kept.erase entry.1) claims

/-- Pruning keeps the claims that have not expired. -/
theorem find_pruneReplayClaims (claims : OrderedMap JsString Nat) (now : Nat) (key : JsString) :
    (pruneReplayClaims claims now).find key =
      (claims.find key).filter fun expiresAt => now < expiresAt := by
  have erased : pruneReplayClaims claims now =
      ((claims.entries.filter fun entry => entry.2 ≤ now).map Prod.fst).foldl
        OrderedMap.erase claims := by
    rw [List.foldl_map]
    rfl
  rw [erased, OrderedMap.foldl_erase, OrderedMap.find_filter]
  cases found : claims.find key with
  | none => rfl
  | some expiresAt =>
      have listed : (key, expiresAt) ∈ claims.entries :=
        (claims.mem_entries_iff key expiresAt).mpr found
      have kept : (((claims.entries.filter fun entry => entry.2 ≤ now).map Prod.fst).all
          fun other => key ≠ other) = decide (now < expiresAt) := by
        rw [Bool.eq_iff_iff, List.all_eq_true, decide_eq_true_eq]
        constructor
        · intro apart
          by_contra expired
          have gone : key ∈ (claims.entries.filter fun entry => entry.2 ≤ now).map Prod.fst :=
            List.mem_map.mpr ⟨_, List.mem_filter.mpr ⟨listed, by simpa using expired⟩, rfl⟩
          exact absurd rfl (of_decide_eq_true (apart key gone))
        · intro alive other gone
          obtain ⟨⟨name, value⟩, member, rfl⟩ := List.mem_map.mp gone
          obtain ⟨entry, expired⟩ := List.mem_filter.mp member
          simp only [decide_eq_true_eq] at expired ⊢
          intro same
          rw [← same, OrderedMap.mem_entries_iff, found, Option.some.injEq] at entry
          omega
      simp only [Option.filter_some, kept]

/-- The in-isolate claim in front of the storage steps. -/
def System.claimReplayKey (deployment : Deployment) (system : System) (call now : Nat) :
    System :=
  let isolate := deployment.isolate call
  let pruned := pruneReplayClaims (system.replayClaims isolate) now
  match pruned.find (deployment.key call) with
  | some _ =>
      { system.goto call .replayed with
        replayClaims := Function.update system.replayClaims isolate pruned }
  | none =>
      { system.goto call (.reading 0) with
        replayClaims := Function.update system.replayClaims isolate
          (pruned.set (deployment.key call) (now + max 1 (min 15 deployment.ttl))) }

def System.write (deployment : Deployment) (system : System) (call now : Nat)
    (value : JsString) : System :=
  { system with
    store := ExpiringStore.put system.store (deployment.key call) value
      (expiresIn now deployment.ttl) }

/-- After a storage error: busy storage is tried again up to the third attempt. -/
def System.retry (deployment : Deployment) (system : System) (call attempt : Nat)
    (busy : Bool) : System :=
  if busy ∧ attempt ≠ 2 then system.goto call (.reading (attempt + 1))
  else system.finish deployment call .failed

/-- A read step with its possible faults. -/
def readStep (deployment : Deployment) (system : System) (event : Event) (attempt : Nat)
    (continuation : Option JsString → System) : System :=
  match event.fault with
  | .none => continuation (ExpiringStore.get system.store event.now (deployment.key event.call))
  | .busy _ => system.retry deployment event.call attempt true
  | .broken _ => system.retry deployment event.call attempt false

/-- A write step with its possible faults. -/
def writeStep (deployment : Deployment) (system : System) (event : Event) (attempt : Nat)
    (value : JsString) (continuation : System → System) : System :=
  let written := system.write deployment event.call event.now value
  match event.fault with
  | .none => continuation written
  | .busy applied =>
      (if applied then written else system).retry deployment event.call attempt true
  | .broken applied =>
      (if applied then written else system).retry deployment event.call attempt false

def step (deployment : Deployment) (system : System) (event : Event) : Option System :=
  let call := event.call
  match system.phase call with
  | .waiting => some (system.claimReplayKey deployment call event.now)
  | .reading attempt =>
      some (readStep deployment system event attempt fun existing =>
        if existing.getD [] ≠ [] then system.finish deployment call .replayed
        else system.goto call (.claiming attempt))
  | .claiming attempt =>
      some (writeStep deployment system event attempt (deployment.claimMarker call attempt)
        fun written => written.goto call (.checking attempt))
  | .checking attempt =>
      some (readStep deployment system event attempt fun owned =>
        if owned ≠ some (deployment.claimMarker call attempt) then
          system.finish deployment call .replayed
        else system.goto call (.confirming attempt))
  | .confirming attempt =>
      some (writeStep deployment system event attempt (js "1")
        fun written => written.finish deployment call .won)
  | .won => none
  | .replayed => none
  | .failed => none

/-! ### Ownership -/

/-- The call has read its own marker back, and has not been interrupted since. -/
def Owner (phase : Phase) : Prop := (∃ attempt, phase = .confirming attempt) ∨ phase = .won

/-- A step without a storage error that does not claim a key another call
already owns. -/
structure ClaimsFreeKey (deployment : Deployment) (system : System) (event : Event) : Prop where
  errorFree : event.fault = .none
  free : ∀ attempt, system.phase event.call = .claiming attempt → ∀ other,
    deployment.key other = deployment.key event.call → ¬Owner (system.phase other)

/-- An owned key holds the owner's marker or the confirmation, and has one owner. -/
structure Exclusive (deployment : Deployment) (system : System) : Prop where
  held : ∀ call, Owner (system.phase call) →
    ∃ entry, system.store.find (deployment.key call) = some entry ∧
      (entry.value = js "1" ∨ ∃ attempt, entry.value = deployment.claimMarker call attempt)
  unique : ∀ call other, deployment.key call = deployment.key other →
    Owner (system.phase call) → Owner (system.phase other) → call = other

private theorem claimMarker_ne_confirmation (deployment : Deployment) (call attempt : Nat) :
    deployment.claimMarker call attempt ≠ js "1" := by
  intro same
  have heads : some (99 : CodeUnit) = some 49 := congrArg List.head? same
  exact absurd heads (by decide)

private theorem claimMarker_injective {deployment : Deployment}
    (fresh : deployment.FreshMarkers) {call other attempt otherAttempt : Nat}
    (same : deployment.claimMarker call attempt = deployment.claimMarker other otherAttempt) :
    call = other :=
  fresh _ _ _ _ (List.append_cancel_left same)

/-- What a step without a storage error can do to the store and to its call. -/
inductive Effect (deployment : Deployment) (system next : System) (event : Event) : Prop where
  | quiet (phase : Phase) (before : ¬Owner (system.phase event.call)) (after : ¬Owner phase)
      (phases : next.phase = Function.update system.phase event.call phase)
      (store : next.store = system.store)
  | claim (attempt : Nat) (before : system.phase event.call = .claiming attempt)
      (phases : next.phase = Function.update system.phase event.call (.checking attempt))
      (store : next.store = ExpiringStore.put system.store (deployment.key event.call)
        (deployment.claimMarker event.call attempt) (expiresIn event.now deployment.ttl))
  | own (attempt : Nat) (before : ¬Owner (system.phase event.call))
      (phases : next.phase = Function.update system.phase event.call (.confirming attempt))
      (store : next.store = system.store)
      (seen : ExpiringStore.get system.store event.now (deployment.key event.call) =
        some (deployment.claimMarker event.call attempt))
  | confirm (before : Owner (system.phase event.call))
      (phases : next.phase = Function.update system.phase event.call .won)
      (store : next.store = ExpiringStore.put system.store (deployment.key event.call)
        (js "1") (expiresIn event.now deployment.ttl))

theorem step_effect {deployment : Deployment} {system next : System} {event : Event}
    (errorFree : event.fault = .none) (stepped : step deployment system event = some next) :
    Effect deployment system next event := by
  unfold step at stepped
  cases phase : system.phase event.call with
  | waiting =>
      simp only [phase, Option.some.injEq] at stepped
      subst stepped
      unfold System.claimReplayKey
      extract_lets isolate pruned
      split
      · exact .quiet .replayed (by simp [Owner, phase]) (by simp [Owner]) rfl rfl
      · exact .quiet (.reading 0) (by simp [Owner, phase]) (by simp [Owner]) rfl rfl
  | reading attempt =>
      simp only [phase, readStep, errorFree, Option.some.injEq] at stepped
      subst stepped
      split
      · exact .quiet .replayed (by simp [Owner, phase]) (by simp [Owner]) rfl rfl
      · exact .quiet (.claiming attempt) (by simp [Owner, phase]) (by simp [Owner]) rfl rfl
  | claiming attempt =>
      simp only [phase, writeStep, errorFree, Option.some.injEq] at stepped
      subst stepped
      exact .claim attempt phase rfl rfl
  | checking attempt =>
      simp only [phase, readStep, errorFree, Option.some.injEq] at stepped
      subst stepped
      split
      next => exact .quiet .replayed (by simp [Owner, phase]) (by simp [Owner]) rfl rfl
      next seen => exact .own attempt (by simp [Owner, phase]) rfl rfl (not_not.mp seen)
  | confirming attempt =>
      simp only [phase, writeStep, errorFree, Option.some.injEq] at stepped
      subst stepped
      exact .confirm (Or.inl ⟨attempt, phase⟩) rfl rfl
  | won => simp [phase] at stepped
  | replayed => simp [phase] at stepped
  | failed => simp [phase] at stepped

private theorem find_of_get {store : ExpiringStore JsString JsString} {now : Nat}
    {key value : JsString} (seen : ExpiringStore.get store now key = some value) :
    ∃ entry, store.find key = some entry ∧ entry.value = value := by
  simp only [ExpiringStore.get, Option.bind_eq_some_iff] at seen
  obtain ⟨entry, found, alive⟩ := seen
  exact ⟨entry, found, by simpa using (Option.ite_none_right_eq_some.mp alive).2⟩

/-- A call that passes its read-back is the only owner of its key. -/
private theorem Exclusive.own {deployment : Deployment} (fresh : deployment.FreshMarkers)
    {system : System} (exclusive : Exclusive deployment system) {call attempt now : Nat}
    (seen : ExpiringStore.get system.store now (deployment.key call) =
      some (deployment.claimMarker call attempt))
    {other : Nat} (sameKey : deployment.key other = deployment.key call)
    (owner : Owner (system.phase other)) : other = call := by
  obtain ⟨entry, found, held⟩ := exclusive.held other owner
  obtain ⟨read, readFound, value⟩ := find_of_get seen
  rw [sameKey, readFound, Option.some.injEq] at found
  rw [← found, value] at held
  rcases held with confirmed | ⟨otherAttempt, claimed⟩
  · exact absurd confirmed (claimMarker_ne_confirmation _ _ _)
  · exact (claimMarker_injective fresh claimed).symm

/-- A step of a call makes no owner of another. -/
private theorem owner_update {phases : Nat → Phase} {actor call : Nat} {phase : Phase}
    (owner : Owner (Function.update phases actor phase call)) :
    (call = actor ∧ Owner phase) ∨ (call ≠ actor ∧ Owner (phases call)) := by
  by_cases same : call = actor
  · rw [same, Function.update_self] at owner
    exact Or.inl ⟨same, owner⟩
  · rw [Function.update_of_ne same] at owner
    exact Or.inr ⟨same, owner⟩

theorem Exclusive.step {deployment : Deployment} (fresh : deployment.FreshMarkers)
    {system next : System} {event : Event} (exclusive : Exclusive deployment system)
    (claims : ClaimsFreeKey deployment system event)
    (stepped : step deployment system event = some next) : Exclusive deployment next := by
  cases step_effect claims.errorFree stepped with
  | quiet phase before after phases store =>
      have kept (call : Nat) (owner : Owner (next.phase call)) : Owner (system.phase call) := by
        rw [phases] at owner
        rcases owner_update owner with ⟨-, owner⟩ | ⟨-, owner⟩
        · exact absurd owner after
        · exact owner
      constructor
      · intro call owner
        rw [store]
        exact exclusive.held call (kept call owner)
      · intro call other sameKey owner otherOwner
        exact exclusive.unique call other sameKey (kept call owner) (kept other otherOwner)
  | claim attempt before phases store =>
      have kept (call : Nat) (owner : Owner (next.phase call)) :
          Owner (system.phase call) ∧ deployment.key call ≠ deployment.key event.call := by
        rw [phases] at owner
        rcases owner_update owner with ⟨-, owner⟩ | ⟨-, owner⟩
        · simp [Owner] at owner
        · exact ⟨owner, fun sameKey => claims.free attempt before call sameKey owner⟩
      constructor
      · intro call owner
        rw [store, ExpiringStore.put, OrderedMap.find_set_other _ (kept call owner).2]
        exact exclusive.held call (kept call owner).1
      · intro call other sameKey owner otherOwner
        exact exclusive.unique call other sameKey (kept call owner).1 (kept other otherOwner).1
  | own attempt before phases store seen =>
      have kept (call : Nat) (owner : Owner (next.phase call)) :
          call = event.call ∨ Owner (system.phase call) := by
        rw [phases] at owner
        rcases owner_update owner with ⟨same, -⟩ | ⟨-, owner⟩
        · exact Or.inl same
        · exact Or.inr owner
      have alone (call : Nat) (owner : Owner (next.phase call))
          (sameKey : deployment.key call = deployment.key event.call) : call = event.call := by
        rcases kept call owner with same | owner
        · exact same
        · exact exclusive.own fresh seen sameKey owner
      constructor
      · intro call owner
        rw [store]
        rcases kept call owner with rfl | owner
        · obtain ⟨entry, found, value⟩ := find_of_get seen
          exact ⟨entry, found, Or.inr ⟨attempt, value⟩⟩
        · exact exclusive.held call owner
      · intro call other sameKey owner otherOwner
        rcases kept call owner with same | callOwner
        · rw [same, alone other otherOwner (by rw [← sameKey, same])]
        · rcases kept other otherOwner with same | otherOwner
          · rw [same, alone call owner (by rw [sameKey, same])]
          · exact exclusive.unique call other sameKey callOwner otherOwner
  | confirm before phases store =>
      have kept (call : Nat) (owner : Owner (next.phase call)) : Owner (system.phase call) := by
        rw [phases] at owner
        rcases owner_update owner with ⟨same, -⟩ | ⟨-, owner⟩
        · rw [same]
          exact before
        · exact owner
      constructor
      · intro call owner
        rw [store, ExpiringStore.put]
        by_cases sameKey : deployment.key call = deployment.key event.call
        · exact ⟨_, by rw [sameKey, OrderedMap.find_set_self], Or.inl rfl⟩
        · rw [OrderedMap.find_set_other _ sameKey]
          exact exclusive.held call (kept call owner)
      · intro call other sameKey owner otherOwner
        exact exclusive.unique call other sameKey (kept call owner) (kept other otherOwner)

theorem exclusive_initial (deployment : Deployment) : Exclusive deployment initial := by
  constructor
  · intro call owner
    simp [initial, Owner] at owner
  · intro call other _ owner
    simp [initial, Owner] at owner

/-- In every run without storage errors in which no call claims a key after
another call has passed its read-back, at most one call for a subject and
nonce completes without a replay rejection. -/
theorem at_most_one_winner {deployment : Deployment} (fresh : deployment.FreshMarkers)
    {events : List Event} {final : System}
    (reached : run (step deployment) initial events = some final)
    (meets : Meets (step deployment) (ClaimsFreeKey deployment) initial events)
    {call other : Nat} (sameKey : deployment.key call = deployment.key other)
    (callWon : final.phase call = .won) (otherWon : final.phase other = .won) : call = other := by
  have exclusive : Exclusive deployment final :=
    run_invariant _ (fun holds claims stepped => Exclusive.step fresh holds claims stepped)
      (exclusive_initial deployment) meets reached
  exact exclusive.unique call other sameKey (Or.inr callWon) (Or.inr otherWon)

/-- Calls for one subject and nonce, each in an isolate of its own. -/
def isolatedCalls : Deployment where
  ttl := 600
  subject := fun _ => js "s"
  nonce := fun _ => js "n"
  isolate := id
  random := fun call attempt => List.replicate call 49 ++ 45 :: List.replicate attempt 49

private theorem isolatedCalls_fresh : isolatedCalls.FreshMarkers := by
  intro call other attempt otherAttempt same
  have free (count : Nat) : (45 : CodeUnit) ∉ List.replicate count 49 := fun member =>
    absurd (List.eq_of_mem_replicate member) (by decide)
  have prefixes := (Delimited.field_unique (free call) (free other) same).1
  simpa using congrArg List.length prefixes

/-- A step of a call at second `1000` without a fault. -/
def faultless (call : Nat) : Event where
  call := call
  now := 1000
  fault := .none

/-- One undisturbed call. -/
def undisturbedRun : List Event := [0, 0, 0, 0, 0].map faultless

private def Phase.isClaiming : Phase → Bool
  | .claiming _ => true
  | _ => false

theorem at_most_one_winner_undisturbed :
    ∃ final, run (step isolatedCalls) initial undisturbedRun = some final ∧
      final.phase 0 = .won ∧ ∀ other, final.phase other = .won → 0 = other := by
  refine ⟨_, rfl, rfl, fun other otherWon => ?_⟩
  refine @at_most_one_winner _ isolatedCalls_fresh undisturbedRun _ rfl ?_ _ _ rfl rfl otherWon
  have notClaiming {phase : Phase} (quiet : phase.isClaiming = false) {motive : Prop} (attempt : Nat)
      (claiming : phase = .claiming attempt) : motive := by
    simp [claiming, Phase.isClaiming] at quiet
  refine .cons rfl ⟨rfl, notClaiming rfl⟩ (.cons rfl ⟨rfl, notClaiming rfl⟩
    (.cons rfl ⟨rfl, fun _ _ other _ => ?_⟩ (.cons rfl ⟨rfl, notClaiming rfl⟩
      (.cons rfl ⟨rfl, notClaiming rfl⟩ trivial))))
  change ¬Owner (Function.update (Function.update (fun _ => Phase.waiting) 0 (Phase.reading 0)) 0
    (Phase.claiming 0) other)
  by_cases same : other = 0
  · simp [same, Owner]
  · simp [Function.update_of_ne same, Owner]

/-- Both calls read the empty key; the second claims it after the first has
passed its read-back. -/
def overtakenRun : List Event := [0, 1, 0, 1, 0, 0, 1, 1, 0, 1].map faultless

/-- Two isolates accept one nonce within a second. -/
theorem two_winners :
    ¬∀ (deployment : Deployment), deployment.FreshMarkers →
      (∀ call other, deployment.isolate call = deployment.isolate other → call = other) →
      ∀ (start : Nat) (events : List Event) (final : System),
        (∀ event ∈ events, event.fault = .none ∧ start ≤ event.now ∧
          event.now ≤ start + deployment.ttl) →
        run (step deployment) initial events = some final →
        ∀ call other, deployment.key call = deployment.key other →
          final.phase call = .won → final.phase other = .won → call = other := by
  intro claim
  have equal := claim isolatedCalls isolatedCalls_fresh (fun _ _ same => same) 1000 overtakenRun _
    (by simp [overtakenRun, faultless, isolatedCalls]) rfl 0 1 rfl rfl rfl
  exact absurd equal (by decide)

end DarkmeshGateway.SecretsWorker.ReplayGuard
