import DarkmeshGateway.AsyncWorker.EntryCoherence

/-!
Contract: refreshes of one domain that run at the same time.

Owns the get and put steps of the persistences of any number of refreshes over
one store, the success fields a run leaves in the record of the domain, and when
these are the ones of the success persisted last.

A store answers a get with the text put last under the key.

Does not own what happens in a refresh before it is persisted.
-/

namespace DarkmeshGateway.AsyncWorker.RefreshInterleaving

open Foundation
open Foundation.Js
open AsyncWorker.ConfigSignature (Platform)
open AsyncWorker.DomainMap
open AsyncWorker.DomainState
open AsyncWorker.Refresh
open AsyncWorker.EntryCoherence (recordKey domainMapKey_eq)

/-! ### Refreshes in progress -/

/-- What a refresh has to persist. -/
inductive Task where
  | success (result : RefreshResult)
  | failure (cause : Failure)

def Task.outcome (task : Task) (nowMs : Int) : DomainRefreshOutcome :=
  match task with
  | .success result => .success (successOutcome result nowMs)
  | .failure cause => .failure (failureOutcome cause nowMs)

/-- A refresh is about to read the record, or about to put what it computed. -/
inductive Phase where
  | reading (task : Task)
  | writing (task : Task) (put : Put)
  | done

/-- A success that cannot be persisted is recorded as a failure; a failure that
cannot be persisted is only logged. -/
def Task.thrown : Task → Phase
  | .success _ => .reading (.failure domainMapWriteFailed)
  | .failure _ => .done

/-- The put a persistence computes from what it has read; `none` is a thrown error. -/
def prepare (store : Store) (domain : JsString) (task : Task) (env : Env) (nowMs : Int) :
    Option Put := do
  let current ← getDomainMapEntry store domain nowMs
  let entry ← applyRefreshOutcome current (task.outcome nowMs) domain nowMs
    (domainStateOptionsFromEnv env)
  let key ← domainMapKey entry.host
  return ⟨key, entry⟩

/-- The phase after the checks of a refresh. -/
def start (platform : Platform) (env : Env) (input : DomainRefreshRequest) (answers : Answers) :
    Phase :=
  match runDomainRefresh platform env input answers with
  | .error cause => .reading (.failure cause)
  | .ok result => .reading (.success result)

section Machine

variable {ι : Type} [DecidableEq ι]

structure World (ι : Type) where
  store : Store
  phase : ι → Phase

def World.enter (world : World ι) (party : ι) (phase : Phase) : World ι :=
  { world with phase := Function.update world.phase party phase }

/-- The get or the put of one refresh. -/
inductive Event (ι : Type) where
  | get (party : ι) (nowMs : Int) (throws : Bool)
  | put (party : ι) (outcome : PutOutcome)

/-- One step of one refresh; `none` when it is not at that point. -/
def step (domain : JsString) (env : ι → Env) (world : World ι) : Event ι → Option (World ι)
  | .get party nowMs throws =>
      match world.phase party with
      | .reading task =>
          let next := if throws then none else prepare world.store domain task (env party) nowMs
          some (world.enter party (next.elim task.thrown (Phase.writing task)))
      | _ => none
  | .put party outcome =>
      match world.phase party with
      | .writing task put =>
          let store := if outcome = .lost then world.store
            else DomainMap.Store.put world.store put.key put.entry
          let next := if outcome = .written then Phase.done else task.thrown
          some (World.enter { world with store } party next)
      | _ => none

/-! ### A refresh that is not interleaved -/

theorem persistOutcome_eq (store : Store) (domain : JsString) (task : Task) (env : Env)
    (nowMs : Int) (behaviour : StoreBehaviour) :
    persistOutcome store domain (task.outcome nowMs) env nowMs behaviour =
      if behaviour.readThrows then ⟨[], true⟩
      else match prepare store domain task env nowMs with
        | none => ⟨[], true⟩
        | some put =>
            match behaviour.put with
            | .written => ⟨[put], false⟩
            | .lost => ⟨[], true⟩
            | .late => ⟨[put], true⟩ := rfl

/-- The get and the put of a persistence, one right after the other, do what the
persistence does. -/
theorem persist_alone (domain : JsString) (env : ι → Env) {world : World ι} {party : ι}
    {task : Task} (reading : world.phase party = .reading task) (nowMs : Int)
    (behaviour : StoreBehaviour) :
    let persisted := persistOutcome world.store domain (task.outcome nowMs) (env party) nowMs
      behaviour
    ∃ events, Machine.run (step domain env) world events =
      some (World.enter { world with store := Store.putAll world.store persisted.puts } party
        (if persisted.threw then task.thrown else .done)) := by
  rw [persistOutcome_eq]
  cases throws : behaviour.readThrows with
  | true =>
      refine ⟨[.get party nowMs true], ?_⟩
      simp [Machine.run, step, reading, Store.putAll]
  | false =>
      cases prepared : prepare world.store domain task (env party) nowMs with
      | none =>
          refine ⟨[.get party nowMs false], ?_⟩
          simp [Machine.run, step, reading, prepared, Store.putAll]
      | some put =>
          refine ⟨[.get party nowMs false, .put party behaviour.put], ?_⟩
          cases behaviour.put with
          | written =>
              simp [Machine.run, step, reading, prepared, Store.putAll, World.enter]
          | lost =>
              simp [Machine.run, step, reading, prepared, Store.putAll, World.enter]
          | late =>
              simp [Machine.run, step, reading, prepared, Store.putAll, World.enter]

/-- A refresh of which no other one runs at the same time does what the tracked
refresh does. -/
theorem tracked_alone {platform : Platform} {domain : JsString} {env : ι → Env}
    {world : World ι} {party : ι} {input : DomainRefreshRequest} {answers : Answers}
    {persistence : PersistenceAnswers}
    (requested : normalizeDomain (some (.str input.domain)) = .ok domain)
    (bound : (env party).domainMapKv = true)
    (starts : world.phase party = start platform (env party) { input with domain } answers) :
    ∃ events final, Machine.run (step domain env) world events = some final ∧
      final.phase party = .done ∧
      final.store = Store.putAll world.store (runDomainRefreshTracked platform (env party) input
        answers world.store persistence).puts := by
  cases refreshed : runDomainRefresh platform (env party) { input with domain } answers with
  | error cause =>
      rw [start, refreshed] at starts
      obtain ⟨events, ran⟩ := persist_alone domain env starts persistence.failureNowMs
        persistence.failure
      refine ⟨events, _, ran, by simp [World.enter, Task.thrown], ?_⟩
      rw [runDomainRefreshTracked_error requested bound refreshed]
      rfl
  | ok result =>
      rw [start, refreshed] at starts
      have sameDomain := runDomainRefresh_domain requested refreshed
      let persisted := persistDomainRefreshSuccess result (env party) world.store
        persistence.successNowMs persistence.success
      obtain ⟨events, ran⟩ := persist_alone domain env starts persistence.successNowMs
        persistence.success
      rw [← sameDomain] at ran
      change Machine.run (step result.domain env) world events =
        some (World.enter { world with store := Store.putAll world.store persisted.puts } party
          (if persisted.threw then Task.thrown (.success result) else .done)) at ran
      rw [sameDomain] at ran
      cases threw : persisted.threw with
      | false =>
          rw [threw] at ran
          refine ⟨events, _, ran, by simp [World.enter], ?_⟩
          rw [runDomainRefreshTracked_written requested bound refreshed threw]
          rfl
      | true =>
          rw [threw] at ran
          let next := World.enter { world with store := Store.putAll world.store persisted.puts }
            party (Task.thrown (.success result))
          have reading : next.phase party = .reading (.failure domainMapWriteFailed) :=
            Function.update_self _ _ _
          obtain ⟨retry, ranRetry⟩ := persist_alone domain env reading persistence.failureNowMs
            persistence.failure
          have ranOn : Machine.run (step domain env) world (events ++ retry) =
              Machine.run (step domain env) next retry := by
            rw [Machine.run_append, ran]
            rfl
          refine ⟨events ++ retry, _, ranOn.trans ranRetry, by simp [World.enter, Task.thrown], ?_⟩
          rw [runDomainRefreshTracked_thrown requested bound refreshed threw]
          exact (List.foldl_append).symm

/-! ### The record -/

/-- The fields only a success sets. -/
structure SuccessFields where
  cfgTx : Option JsString
  resolvedTarget : Option JsString
  expiresAt : Option Number
  hardExpiresAt : Option Number
deriving DecidableEq

def SuccessFields.none : SuccessFields := ⟨.none, .none, .none, .none⟩

def successFields (entry : DomainMapEntry) : SuccessFields :=
  ⟨entry.cfgTx, entry.resolvedTarget, entry.expiresAt, entry.hardExpiresAt⟩

/-- Whenever the record is read it has the fields. -/
def Holds (domain : JsString) (store : Store) (fields : SuccessFields) : Prop :=
  ∀ nowMs, ∃ current, getDomainMapEntry store domain nowMs = some current ∧
    current.elim SuccessFields.none successFields = fields

/-- An entry of the domain as this worker writes it. -/
structure Written (domain : JsString) (entry : DomainMapEntry) : Prop where
  version : entry.schemaVersion = 2
  host : entry.host = domain
  expiresAt : ∀ number ∈ entry.expiresAt, number.isFinite = true
  hardExpiresAt : ∀ number ∈ entry.hardExpiresAt, number.isFinite = true

/-- The store holds such an entry with the fields, or no record. -/
def Recorded (domain : JsString) (store : Store) (fields : SuccessFields) : Prop :=
  (store (recordKey domain) = none ∧ fields = SuccessFields.none) ∨
    ∃ entry, Written domain entry ∧ successFields entry = fields ∧
      store (recordKey domain) = some (.json (.obj entry.toFields))

section Record

variable {domain : JsString}

/-- What is read from a record. -/
structure Reads (domain : JsString) (fields : SuccessFields) (current : Option DomainMapEntry) :
    Prop where
  written : ∀ entry, current = some entry → Written domain entry
  fields : current.elim SuccessFields.none successFields = fields

theorem reads_recorded (host : normalizeDomainHost domain = some domain) {store : Store}
    {fields : SuccessFields} (recorded : Recorded domain store fields) (nowMs : Int) :
    ∃ current, getDomainMapEntry store domain nowMs = some current ∧
      Reads domain fields current := by
  have key := domainMapKey_eq host
  rcases recorded with ⟨absent, rfl⟩ | ⟨entry, written, rfl, present⟩
  · refine ⟨none, ?_, ?_, rfl⟩
    · simp [getDomainMapEntry, key, absent]
    · intro entry impossible
      cases impossible
  · have normal : normalizeDomainHost entry.host = some entry.host := by
      rw [written.host]
      exact host
    let read := migratedEntry entry.toFields 2 nowMs (emptyEntry entry.host nowMs)
    obtain ⟨cfgTx, resolvedTarget, -, -⟩ := migrated_routing entry 2 nowMs
      (emptyEntry entry.host nowMs)
    have expiresAt : read.expiresAt = entry.expiresAt :=
      asNullableNumber_optionalNumber written.expiresAt
    have hardExpiresAt : read.hardExpiresAt = entry.hardExpiresAt :=
      asNullableNumber_optionalNumber written.hardExpiresAt
    refine ⟨some read, ?_, ?_, ?_⟩
    · simp [getDomainMapEntry, key, present, parse_toFields written.version,
        migrate_toFields normal, read]
    · rintro _ ⟨⟩
      refine ⟨rfl, written.host, ?_, ?_⟩
      · rw [expiresAt]
        exact written.expiresAt
      · rw [hardExpiresAt]
        exact written.hardExpiresAt
    · have sameTx : read.cfgTx = entry.cfgTx := cfgTx
      have sameTarget : read.resolvedTarget = entry.resolvedTarget := resolvedTarget
      rw [Option.elim_some, successFields, successFields, sameTx, sameTarget, expiresAt,
        hardExpiresAt]

theorem Recorded.holds (host : normalizeDomainHost domain = some domain) {store : Store}
    {fields : SuccessFields} (recorded : Recorded domain store fields) :
    Holds domain store fields := by
  intro nowMs
  obtain ⟨current, read, reads⟩ := reads_recorded host recorded nowMs
  exact ⟨current, read, reads.fields⟩

/-- A record has one reading. -/
theorem Recorded.unique (host : normalizeDomainHost domain = some domain) {store : Store}
    {fields other : SuccessFields} (recorded : Recorded domain store fields)
    (holds : Holds domain store other) : fields = other := by
  obtain ⟨current, read, reads⟩ := reads_recorded host recorded 0
  obtain ⟨again, readAgain, same⟩ := holds 0
  obtain rfl : current = again := by simpa [read] using readAgain
  exact reads.fields.symm.trans same

theorem recorded_put {entry : DomainMapEntry} (written : Written domain entry) (store : Store) :
    Recorded domain (DomainMap.Store.put store (recordKey domain) entry) (successFields entry) :=
  Or.inr ⟨entry, written, rfl, Function.update_self _ _ _⟩

/-! ### What a persistence computes -/

theorem Written.startingEntry (host : normalizeDomainHost domain = some domain)
    {fields : SuccessFields} {current : Option DomainMapEntry} (reads : Reads domain fields current)
    (nowMs : Int) :
    ∃ entry, startingEntry current domain nowMs = some entry ∧ Written domain entry ∧
      successFields entry = fields := by
  have expiry (entry : DomainMapEntry) :
      successFields (applyHardExpiry entry nowMs) = successFields entry := by
    unfold applyHardExpiry
    split <;> rfl
  have expired {entry : DomainMapEntry} (written : Written domain entry) :
      Written domain (applyHardExpiry entry nowMs) := by
    unfold applyHardExpiry
    split
    · exact written
    · exact ⟨written.version, written.host, written.expiresAt, written.hardExpiresAt⟩
  cases current with
  | some entry =>
      refine ⟨applyHardExpiry entry nowMs, rfl, expired (reads.written entry rfl), ?_⟩
      exact (expiry entry).trans reads.fields
  | none =>
      have empty : Written domain (emptyEntry domain nowMs) := by
        refine ⟨rfl, rfl, ?_, ?_⟩ <;> simp [emptyEntry]
      refine ⟨applyHardExpiry (emptyEntry domain nowMs) nowMs, ?_, expired empty, ?_⟩
      · simp [DomainState.startingEntry, createEmptyDomainMapEntry, host]
      · exact (expiry _).trans reads.fields

/-- A persistence never throws by itself. It puts an entry of the domain; a
failure carries the success fields it has read. -/
theorem prepare_recorded (host : normalizeDomainHost domain = some domain) {store : Store}
    {fields : SuccessFields} (recorded : Recorded domain store fields) (task : Task) (env : Env)
    (nowMs : Int) :
    ∃ entry, prepare store domain task env nowMs = some ⟨recordKey domain, entry⟩ ∧
      Written domain entry ∧
      ∀ cause, task = .failure cause → successFields entry = fields := by
  obtain ⟨current, read, reads⟩ := reads_recorded host recorded nowMs
  obtain ⟨starting, started, written, same⟩ := Written.startingEntry host reads nowMs
  have key (entry : DomainMapEntry) (sameHost : entry.host = domain) :
      domainMapKey entry.host = some (recordKey domain) := by
    rw [sameHost, domainMapKey_eq host]
  cases task with
  | success result =>
      let entry := succeed starting (successOutcome result nowMs) nowMs
        (domainStateOptionsFromEnv env)
      refine ⟨entry, ?_, ⟨written.version, written.host, ?_, ?_⟩, ?_⟩
      · have keyed := key entry written.host
        simp [prepare, read, Task.outcome, applyRefreshOutcome, started, keyed, entry]
      · simp [entry, succeed, Number.isFinite_ofInt]
      · simp [entry, succeed, Number.isFinite_ofInt]
      · intro cause impossible
        cases impossible
  | failure cause =>
      let entry := { recordError starting (failureOutcome cause nowMs) nowMs with
        refreshAttempts := nextAttempt starting.refreshAttempts }
      refine ⟨entry, ?_, ⟨written.version, written.host, written.expiresAt,
        written.hardExpiresAt⟩, fun _ _ => same⟩
      have keyed := key entry written.host
      simp [prepare, read, Task.outcome, applyRefreshOutcome, started, keyed, entry]

end Record

/-! ### Interleavings -/

/-- The task and the put a step persists. -/
def landed (world : World ι) : Event ι → Option (Task × Put)
  | .get _ _ _ => none
  | .put party outcome =>
      match world.phase party with
      | .writing task put => if outcome = .lost then none else some (task, put)
      | _ => none

/-- A run with the fields of the success persisted last, and what these were
when each refresh read the record. -/
structure History (ι : Type) where
  world : World ι
  latest : SuccessFields
  seen : ι → SuccessFields

def History.after (history : History ι) (event : Event ι) (world : World ι) : History ι where
  world := world
  latest := match landed history.world event with
    | some (.success _, put) => successFields put.entry
    | _ => history.latest
  seen := match event with
    | .get party _ _ => Function.update history.seen party history.latest
    | .put _ _ => history.seen

def History.step (domain : JsString) (env : ι → Env) (history : History ι) (event : Event ι) :
    Option (History ι) :=
  (RefreshInterleaving.step domain env history.world event).map (history.after event)

/-- A failure is not put over a success with other fields that was persisted
after the failure had read the record. -/
def Undisturbed (history : History ι) : Event ι → Prop
  | .get _ _ _ => True
  | .put party outcome =>
      ∀ cause put, landed history.world (.put party outcome) = some (.failure cause, put) →
        history.seen party = history.latest

/-- The record has the fields of the success persisted last, and a failure about
to be put has the ones of the success its refresh has seen. -/
structure Tracks (domain : JsString) (history : History ι) : Prop where
  recorded : Recorded domain history.world.store history.latest
  written : ∀ party task put, history.world.phase party = .writing task put →
    put.key = recordKey domain ∧ Written domain put.entry ∧
      ∀ cause, task = .failure cause → successFields put.entry = history.seen party

section Steps

variable {domain : JsString} {env : ι → Env} {history next : History ι}

/-- Everything a step can do. -/
theorem step_cases {world after : World ι} {event : Event ι}
    (stepped : step domain env world event = some after) :
    (∃ party nowMs throws task, event = .get party nowMs throws ∧
      world.phase party = .reading task ∧
      after = world.enter party ((if throws then none
        else prepare world.store domain task (env party) nowMs).elim task.thrown
          (Phase.writing task))) ∨
    ∃ party outcome task put, event = .put party outcome ∧
      world.phase party = .writing task put ∧
      let store := if outcome = .lost then world.store
        else DomainMap.Store.put world.store put.key put.entry
      after = World.enter { world with store } party
        (if outcome = .written then .done else task.thrown) := by
  cases event with
  | get party nowMs throws =>
      simp only [step] at stepped
      split at stepped
      next task reading =>
        cases stepped
        exact Or.inl ⟨party, nowMs, throws, task, rfl, reading, rfl⟩
      next => cases stepped
  | put party outcome =>
      simp only [step] at stepped
      split at stepped
      next task put writing =>
        cases stepped
        exact Or.inr ⟨party, outcome, task, put, rfl, writing, rfl⟩
      next => cases stepped

omit [DecidableEq ι] in
theorem landed_put {world : World ι} {party : ι} {task : Task} {put : Put}
    (outcome : PutOutcome) (writing : world.phase party = .writing task put) :
    landed world (.put party outcome) = if outcome = .lost then none else some (task, put) := by
  simp only [landed, writing]

/-- After its put a refresh is not about to put. -/
theorem settled_ne_writing (task : Task) (outcome : PutOutcome) (other : Task) (put : Put) :
    (if outcome = .written then Phase.done else task.thrown) ≠ .writing other put := by
  split
  · simp
  · cases task <;> simp [Task.thrown]

/-- A get leaves the record, and what it prepares carries the latest fields. -/
theorem Tracks.get (host : normalizeDomainHost domain = some domain) (tracks : Tracks domain history)
    {party : ι} {nowMs : Int} {throws : Bool}
    (stepped : History.step domain env history (.get party nowMs throws) = some next) :
    Tracks domain next := by
  obtain ⟨world, took, rfl⟩ := Option.map_eq_some_iff.mp stepped
  obtain ⟨_, _, _, task, ⟨⟩, reading, rfl⟩ | ⟨_, _, _, _, ⟨⟩, _⟩ := step_cases took
  refine ⟨tracks.recorded, ?_⟩
  intro other otherTask put writing
  simp only [History.after, World.enter, Function.update_apply] at writing ⊢
  split at writing
  next same =>
    subst same
    rw [if_pos rfl]
    cases throws with
    | true => cases task <;> simp [Task.thrown] at writing
    | false =>
        obtain ⟨entry, prepared, written, carries⟩ :=
          prepare_recorded host tracks.recorded task (env other) nowMs
        simp only [Bool.false_eq_true, if_false, prepared, Option.elim_some] at writing
        obtain ⟨rfl, rfl⟩ := Phase.writing.inj writing
        exact ⟨rfl, written, carries⟩
  next apart =>
    rw [if_neg apart]
    exact tracks.written other otherTask put writing

/-- A put of which the success fields are the latest ones afterwards. -/
theorem Tracks.put (tracks : Tracks domain history) {party : ι} {outcome : PutOutcome}
    (undisturbed : Undisturbed history (.put party outcome))
    (stepped : History.step domain env history (.put party outcome) = some next) :
    Tracks domain next := by
  obtain ⟨world, took, rfl⟩ := Option.map_eq_some_iff.mp stepped
  obtain ⟨_, _, _, _, ⟨⟩, _⟩ | ⟨_, _, task, put, ⟨⟩, writing, rfl⟩ := step_cases took
  obtain ⟨key, written, carries⟩ := tracks.written party task put writing
  constructor
  · have lands := landed_put outcome writing
    by_cases lost : outcome = .lost
    · rw [if_pos lost] at lands
      simp only [History.after, World.enter, lands, if_pos lost]
      exact tracks.recorded
    · rw [if_neg lost] at lands
      have recorded := recorded_put written history.world.store
      cases task with
      | success result =>
          simp only [History.after, World.enter, lands, if_neg lost, key]
          exact recorded
      | failure cause =>
          simp only [History.after, World.enter, lands, if_neg lost, key]
          rw [← undisturbed cause put lands, ← carries cause rfl]
          exact recorded
  · intro other otherTask otherPut otherWriting
    simp only [History.after, World.enter, Function.update_apply] at otherWriting
    split at otherWriting
    next => exact absurd otherWriting (settled_ne_writing task outcome otherTask otherPut)
    next => exact tracks.written other otherTask otherPut otherWriting

/-- Where the record has the latest fields after a put, the put was undisturbed. -/
theorem Tracks.undisturbed (host : normalizeDomainHost domain = some domain)
    (tracks : Tracks domain history) {event : Event ι}
    (stepped : History.step domain env history event = some next)
    (holds : Holds domain next.world.store next.latest) : Undisturbed history event := by
  cases event with
  | get party nowMs throws => trivial
  | put party outcome =>
      intro cause put lands
      obtain ⟨world, took, rfl⟩ := Option.map_eq_some_iff.mp stepped
      obtain ⟨_, _, _, _, ⟨⟩, _⟩ | ⟨_, _, task, written, ⟨⟩, writing, rfl⟩ := step_cases took
      have landing := landed_put outcome writing
      by_cases lost : outcome = .lost
      · rw [lands, if_pos lost] at landing
        cases landing
      · rw [lands, if_neg lost] at landing
        obtain ⟨rfl, rfl⟩ := Prod.mk.inj (Option.some.inj landing)
        obtain ⟨key, entryOf, carries⟩ := tracks.written party _ put writing
        simp only [History.after, World.enter, lands, if_neg lost, key] at holds
        have latest := (recorded_put entryOf history.world.store).unique host holds
        exact (carries cause rfl).symm.trans latest

/-- Over every interleaving of any number of refreshes of a domain, the record
has the success fields of the success persisted last at every point exactly when
no failure is put over a success with other fields that was persisted after the
failure had read the record. -/
theorem no_lost_refresh_iff {initial final : History ι} {events : List (Event ι)}
    (host : normalizeDomainHost domain = some domain)
    (recorded : Recorded domain initial.world.store initial.latest)
    (idle : ∀ party task put, initial.world.phase party ≠ .writing task put)
    (reached : Machine.run (History.step domain env) initial events = some final) :
    (∀ before after middle, events = before ++ after →
      Machine.run (History.step domain env) initial before = some middle →
        Holds domain middle.world.store middle.latest) ↔
      Machine.Meets (History.step domain env) Undisturbed initial events := by
  have initially : Tracks domain initial :=
    ⟨recorded, fun party task put writing => absurd writing (idle party task put)⟩
  have preserved {history next : History ι} {event : Event ι} (tracks : Tracks domain history)
      (undisturbed : Undisturbed history event)
      (stepped : History.step domain env history event = some next) : Tracks domain next := by
    cases event with
    | get party nowMs throws => exact tracks.get host stepped
    | put party outcome => exact tracks.put undisturbed stepped
  exact Machine.everywhere_iff_meets (Tracks domain) (fun tracks => tracks.recorded.holds host)
    preserved (fun tracks stepped holds => tracks.undisturbed host stepped holds) initially reached

end Steps

end Machine

/-! ### Two refreshes of one shop -/

def shop : JsString := js "shop.example"

def shopEnv : Env where
  domainMapKv := true

/-- A refresh that has found a config. -/
def found (cfgTx : String) : RefreshResult where
  domain := shop
  cfgTx := js cfgTx
  ttlSec := 600
  resolvedTarget := js "cfg:" ++ js cfgTx
  writeProcess := none
  configHash := js "hash"
  hbProbe := ⟨.ok, none, none⟩
  routeAssertion := ⟨.skipped, false, none⟩

/-- The record the first config has left. -/
def olderEntry : DomainMapEntry :=
  succeed (emptyEntry shop 1000) (successOutcome (found "first") 1000) 1000
    (domainStateOptionsFromEnv shopEnv)

/-- One refresh has found the second config, the other one could not reach the resolver. -/
def twoRefreshes : History Bool where
  world :=
    { store := DomainMap.Store.put Store.empty (recordKey shop) olderEntry
      phase := fun party => .reading <|
        if party then .success (found "second") else .failure (.unexpected (js "timeout")) }
  latest := successFields olderEntry
  seen := fun _ => successFields olderEntry

private theorem shop_host : normalizeDomainHost shop = some shop := by decide +kernel

private theorem olderEntry_recorded :
    Recorded shop twoRefreshes.world.store twoRefreshes.latest := by
  have written : Written shop olderEntry := by
    refine ⟨rfl, rfl, ?_, ?_⟩
    · simp [olderEntry, succeed, Number.isFinite_ofInt]
    · simp [olderEntry, succeed, Number.isFinite_ofInt]
  exact recorded_put written Store.empty

private theorem twoRefreshes_idle (party : Bool) (task : Task) (put : Put) :
    twoRefreshes.world.phase party ≠ .writing task put := by
  simp [twoRefreshes]

/-- The success is put before the failure reads. -/
def oneAfterTheOther : List (Event Bool) :=
  [.get true 2000 false, .put true .written, .get false 2001 false, .put false .written]

theorem no_lost_refresh_shop :
    ∃ final, Machine.run (History.step shop fun _ => shopEnv) twoRefreshes oneAfterTheOther =
        some final ∧
      ((∀ before after middle, oneAfterTheOther = before ++ after →
        Machine.run (History.step shop fun _ => shopEnv) twoRefreshes before = some middle →
          Holds shop middle.world.store middle.latest) ↔
        Machine.Meets (History.step shop fun _ => shopEnv) Undisturbed twoRefreshes
          oneAfterTheOther) := by
  have runs : (Machine.run (History.step shop fun _ => shopEnv) twoRefreshes
      oneAfterTheOther).isSome = true := by
    decide +kernel
  obtain ⟨final, reached⟩ := Option.isSome_iff_exists.mp runs
  exact ⟨final, reached,
    no_lost_refresh_iff shop_host olderEntry_recorded twoRefreshes_idle reached⟩

/-- The failure has read the record before the success was put, and puts the
first config back over the second one. -/
theorem failure_restores_first_config :
    ¬∀ (initial final : History Bool) (events : List (Event Bool)),
      Recorded shop initial.world.store initial.latest →
      (∀ party task put, initial.world.phase party ≠ .writing task put) →
      Machine.run (History.step shop fun _ => shopEnv) initial events = some final →
      Holds shop final.world.store final.latest := by
  intro kept
  have evaluated : (Machine.run (History.step shop fun _ => shopEnv) twoRefreshes
      [.get false 2000 false, .get true 2000 false, .put true .written, .put false .written]).map
        (fun final => (final.latest.cfgTx,
          (getDomainMapEntry final.world.store shop 0).map
            fun current => current.bind DomainMapEntry.cfgTx)) =
      some (some (js "second"), some (some (js "first"))) := by
    decide +kernel
  obtain ⟨final, reached, fields⟩ := Option.map_eq_some_iff.mp evaluated
  obtain ⟨latest, restored⟩ := Prod.mk.inj fields
  obtain ⟨current, read, same⟩ := kept _ _ _ olderEntry_recorded twoRefreshes_idle reached 0
  rw [read, Option.map_some, Option.some.injEq] at restored
  cases current with
  | none => cases restored
  | some entry =>
      have sameTx := congrArg SuccessFields.cfgTx same
      rw [latest] at sameTx
      have both : some (js "first") = some (js "second") := restored.symm.trans sameTx
      exact absurd both (by decide)

end DarkmeshGateway.AsyncWorker.RefreshInterleaving
