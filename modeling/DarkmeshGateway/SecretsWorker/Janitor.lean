import DarkmeshGateway.Foundation.Js.Double
import DarkmeshGateway.Foundation.Machine
import DarkmeshGateway.SecretsWorker.Inbox
import DarkmeshGateway.SecretsWorker.InboxRetention

/-!
Contract: one scheduled run of the janitor over the namespace it shares with
`checkReplay`, the inbox and the notifications.

Owns the records in the namespace as the text that is parsed back, the pages,
reads and delayed deletes of the janitor, the writes and removals of the other
operations between them, and when the janitor deletes expired items only.

A stored record carries the number of writes before it, which nothing reads. The
store may drop a record at any time, as it does when the record expires.

Does not own when an operation makes its writes.
-/

namespace DarkmeshGateway.SecretsWorker.Janitor

open Foundation
open Foundation.Js
open Foundation.Machine
open SecretsWorker.Fields
open SecretsWorker.InboxRetention (ItemExp)
open SecretsWorker.ReplayGuard (replayKey)

/-! ### Records -/

/-- The texts the operations store. -/
inductive Record where
  | item (payload : Json) (exp : ItemExp)
  | marker
  | claim (random : JsString)
  | seen
  | counter (count reset : Json)
  | breaker (state : Fields)

/-- `exp` as it is parsed back. -/
def expJson : ItemExp → Json
  | .number value => .num (Double.finite value).toNumber
  | .text value => .str value
  | .null => .null

/-- `JSON.parse` of the text; `none` where it throws. -/
def Record.parsed : Record → Option Json
  | .item payload exp => some (.obj [(js "payload", payload), (js "exp", expJson exp)])
  | .marker => some (.num (Number.ofInt 1))
  | .claim _ => none
  | .seen => some (.num (Number.ofInt 1))
  | .counter count reset => some (.obj [(js "count", count), (js "reset", reset)])
  | .breaker state => some (.obj state)

structure Stored where
  record : Record
  stamp : Nat

/-- The counters of the rate limits. -/
inductive Counter where
  | rate (ip : JsString)
  | notifyRate (ip : JsString)
  | signRate (ip : JsString)
  | sprayCount (ip : JsString)
  | notifySubject (subject : JsString)

def Counter.key : Counter → JsString
  | .rate ip => js "rl:" ++ ip
  | .notifyRate ip => js "rl:notify:" ++ ip
  | .signRate ip => js "rl:sign:" ++ ip
  | .sprayCount ip => js "rlsubcount:" ++ ip
  | .notifySubject subject => js "notify:subj:" ++ subject

def breakerKey (name : JsString) : JsString := js "notify:breaker:" ++ name

/-- A write of an operation that does not depend on what is stored. -/
inductive Write where
  | item (subject nonce : JsString) (payload : Json) (exp : ItemExp)
  | claim (subject nonce random : JsString)
  | mark (subject nonce : JsString)
  | spray (ip subject : JsString)
  | dedupe (hash : JsString)
  | tally (counter : Counter) (count reset : Json)
  | reopen (name : JsString) (count openUntil : Json)

def Write.key : Write → JsString
  | .item subject nonce _ _ => Inbox.key subject nonce
  | .claim subject nonce _ => replayKey subject nonce
  | .mark subject nonce => replayKey subject nonce
  | .spray ip subject => js "rlsub:" ++ ip ++ 58 :: subject
  | .dedupe hash => js "notify:hash:" ++ hash
  | .tally counter _ _ => counter.key
  | .reopen name _ _ => breakerKey name

def Write.record : Write → Record
  | .item _ _ payload exp => .item payload exp
  | .claim _ _ random => .claim random
  | .mark _ _ => .marker
  | .spray _ _ => .seen
  | .dedupe _ => .seen
  | .tally _ count reset => .counter count reset
  | .reopen _ count openUntil =>
      .breaker [(js "count", count), (js "openUntil", openUntil)]

/-- The state a breaker note starts from: an object as it was parsed, or a fresh
one. A text that parses to anything else makes the note throw. -/
def noteState : Option Record → Option Fields
  | none => some [(js "count", .num (Number.ofInt 0)), (js "openUntil", .num (Number.ofInt 0))]
  | some record =>
      match record.parsed with
      | none => some [(js "count", .num (Number.ofInt 0)), (js "openUntil", .num (Number.ofInt 0))]
      | some (.obj fields) => some fields
      | some _ => none

/-! ### The janitor -/

/-- `item.exp && item.exp < now`; `none` where reading or comparing it throws. -/
def expired (now : Nat) : Json → Option Bool
  | .null => none
  | .obj fields =>
      match Fields.get fields (js "exp") with
      | none => some false
      | some exp =>
          if exp.truthy then exp.toNumber.map fun value => value.lt (.finite now) else some false
  | _ => some false

/-- The record is deleted: it has expired, or the `try` around its parsing fails. -/
def condemned (now : Nat) (record : Record) : Bool :=
  ((record.parsed.bind (expired now)).getD true)

structure JanitorEnv where
  disableJanitor : Option JsString := none
  maxJanitorKeys : Option JsString := none

/-- More keys were read under one prefix than are allowed in a run. -/
def JanitorEnv.exceeded (env : JanitorEnv) (processed : Nat) : Bool :=
  (envNumber [env.maxJanitorKeys] "2000").any (· < (processed : Int))

/-- The variables of the run: the second it started at, the prefix it lists and
those after it, and the keys it has read under this prefix. -/
structure Sweep where
  now : Nat
  listed : JsString
  later : List JsString
  processed : Nat

/-- The end of a page: its cursor, unless the list is complete. -/
structure Page where
  keys : List JsString
  cursor : Option JsString

inductive Phase where
  | waiting
  | listing (sweep : Sweep) (cursor : Option JsString)
  | reading (sweep : Sweep) (key : JsString) (rest : Page)
  | finished

/-- The next step of the loops. -/
def Sweep.next (env : JanitorEnv) (sweep : Sweep) (page : Page) : Phase :=
  match page.keys with
  | key :: keys =>
      if env.exceeded (sweep.processed + 1) then .finished
      else .reading { sweep with processed := sweep.processed + 1 } key { page with keys }
  | [] =>
      match page.cursor with
      | some cursor => .listing sweep (some cursor)
      | none =>
          match sweep.later with
          | [] => .finished
          | listed :: later => .listing { sweep with listed, later, processed := 0 } none

/-! ### The machine -/

/-- A delete the janitor has issued, with the record it has read. -/
structure Condemned where
  key : JsString
  stamp : Nat
deriving DecidableEq

/-- A record the janitor has deleted, the record it had read under its key, and
the second of the delete. -/
structure Deleted where
  stored : Stored
  condemned : Condemned
  second : Nat

structure System where
  store : OrderedMap JsString Stored
  writes : Nat
  notes : Nat → Option (JsString × Fields)
  phase : Phase
  pending : List Condemned
  deleted : List Deleted
  clock : Nat

def initial : System := ⟨.empty, 0, fun _ => none, .waiting, [], [], 0⟩

/-- A step of another operation, or of the janitor: its start, a page it lists, a
read, a delete that takes effect, and a storage error, which ends it. -/
inductive Event where
  | write (now : Nat) (write : Write)
  | noteLoad (now note : Nat) (name : JsString)
  | noteSave (now note : Nat) (count openUntil : Json)
  | remove (now : Nat) (key : JsString)
  | scheduled (now : Nat)
  | list (now : Nat) (page : Page)
  | read (now : Nat)
  | delete (now : Nat) (condemned : Condemned)
  | abort (now : Nat)

def Event.now : Event → Nat
  | .write now _ => now
  | .noteLoad now _ _ => now
  | .noteSave now _ _ _ => now
  | .remove now _ => now
  | .scheduled now => now
  | .list now _ => now
  | .read now => now
  | .delete now _ => now
  | .abort now => now

def System.put (system : System) (key : JsString) (record : Record) : System :=
  { system with
    store := system.store.set key ⟨record, system.writes⟩
    writes := system.writes + 1 }

/-- `st.count = …`, `st.openUntil = …`. -/
def noted (state : Fields) (count openUntil : Json) : Fields :=
  Fields.set (Fields.set state (js "count") count) (js "openUntil") openUntil

/-- The read of a key. -/
def System.read (env : JanitorEnv) (system : System) (sweep : Sweep) (key : JsString)
    (rest : Page) : System :=
  let next := { system with phase := sweep.next env rest }
  match system.store.find key with
  | none => next
  | some stored =>
      if condemned sweep.now stored.record then
        { next with pending := ⟨key, stored.stamp⟩ :: system.pending }
      else next

/-- A delete takes effect. -/
def System.delete (system : System) (condemned : Condemned) : System :=
  let next := { system with
    store := system.store.erase condemned.key
    pending := system.pending.erase condemned }
  match system.store.find condemned.key with
  | none => next
  | some stored => { next with deleted := ⟨stored, condemned, system.clock⟩ :: system.deleted }

/-- What an event does; none when it cannot happen now. -/
def effect (env : JanitorEnv) (system : System) : Event → Option System
  | .write _ write => some (system.put write.key write.record)
  | .noteLoad _ note name =>
      (noteState ((system.store.find (breakerKey name)).map Stored.record)).map fun state =>
        { system with notes := Function.update system.notes note (some (breakerKey name, state)) }
  | .noteSave _ note count openUntil =>
      (system.notes note).map fun loaded =>
        system.put loaded.1 (.breaker (noted loaded.2 count openUntil))
  | .remove _ key => some { system with store := system.store.erase key }
  | .scheduled now =>
      match system.phase with
      | .waiting =>
          if env.disableJanitor = some (js "1") then some { system with phase := .finished }
          else some { system with phase := .listing ⟨now, [], [js "replay:"], 0⟩ none }
      | _ => none
  | .list _ page =>
      match system.phase with
      | .listing sweep _ =>
          if page.keys.all (startsWith · sweep.listed) ∧ page.keys.length ≤ 1000 then
            some { system with phase := sweep.next env page }
          else none
      | _ => none
  | .read _ =>
      match system.phase with
      | .reading sweep key rest => some (system.read env sweep key rest)
      | _ => none
  | .delete _ condemned =>
      if condemned ∈ system.pending then some (system.delete condemned) else none
  | .abort _ => some { system with phase := .finished }

/-- The clock never goes back. -/
def step (env : JanitorEnv) (system : System) (event : Event) : Option System :=
  if event.now < system.clock then none
  else effect env { system with clock := event.now } event

/-! ### Expired items -/

/-- `exp < now`. -/
def Past (exp : ItemExp) (now : Nat) : Prop :=
  (expJson exp).toNumber.any (fun value => value.lt (.finite now)) = true

/-- The record is an inbox item whose `exp` is in the past. -/
def ExpiredItem (record : Record) (now : Nat) : Prop :=
  ∃ payload exp, record = .item payload exp ∧ Past exp now

theorem lt_later {value : Double} {now later : Nat} (ordered : now ≤ later)
    (before : value.lt (.finite now) = true) : value.lt (.finite later) = true := by
  cases value with
  | nan => exact before
  | infinity negative => cases negative <;> exact before
  | finite value =>
      have beforeNow : value < (now : ℚ) := of_decide_eq_true before
      have orderedRat : (now : ℚ) ≤ later := by exact_mod_cast ordered
      exact decide_eq_true (lt_of_lt_of_le beforeNow orderedRat)

theorem ExpiredItem.later {record : Record} {now later : Nat} (expired : ExpiredItem record now)
    (ordered : now ≤ later) : ExpiredItem record later := by
  obtain ⟨payload, exp, same, past⟩ := expired
  refine ⟨payload, exp, same, ?_⟩
  rw [Past, Option.any_eq_true] at past ⊢
  obtain ⟨value, number, before⟩ := past
  exact ⟨value, number, lt_later ordered before⟩

theorem toNumber_expJson (exp : ItemExp) : ∃ value, (expJson exp).toNumber = some value := by
  cases exp with
  | number value => exact ⟨_, rfl⟩
  | text value => exact ⟨_, rfl⟩
  | null => exact ⟨_, rfl⟩

/-- An item is condemned when it has expired. -/
theorem expiredItem_of_condemned {payload : Json} {exp : ItemExp} {now : Nat}
    (condemned : condemned now (.item payload exp) = true) :
    ExpiredItem (.item payload exp) now := by
  refine ⟨payload, exp, rfl, ?_⟩
  obtain ⟨value, number⟩ := toNumber_expJson exp
  have field : Fields.get [(js "payload", payload), (js "exp", expJson exp)] (js "exp") =
      some (expJson exp) := rfl
  simp only [Janitor.condemned, Record.parsed, Option.bind_some, expired, field, number] at condemned
  split at condemned
  next => simpa [Past, number] using condemned
  next => simp at condemned

/-- A claim is condemned whenever it is read. -/
theorem condemned_claim (now : Nat) (random : JsString) :
    condemned now (.claim random) = true := rfl

/-- Markers and counters have no expiry. -/
theorem condemned_spec {now : Nat} {record : Record} (judged : condemned now record = true) :
    ExpiredItem record now ∨ (∃ random, record = .claim random) ∨
      ∃ state, record = .breaker state := by
  cases record with
  | item payload exp => exact Or.inl (expiredItem_of_condemned judged)
  | marker => simp [condemned, Record.parsed, expired] at judged
  | claim random => exact Or.inr (Or.inl ⟨random, rfl⟩)
  | seen => simp [condemned, Record.parsed, expired] at judged
  | counter count reset =>
      have field : Fields.get [(js "count", count), (js "reset", reset)] (js "exp") = none := rfl
      simp [condemned, Record.parsed, expired, field] at judged
  | breaker state => exact Or.inr (Or.inr ⟨state, rfl⟩)

/-! ### Safe runs -/

/-- Every record the janitor has deleted, and every one a delete it has issued
would remove, is the expired item it has read. -/
structure Safe (system : System) : Prop where
  deleted : ∀ entry ∈ system.deleted,
    ExpiredItem entry.stored.record entry.second ∧ entry.stored.stamp = entry.condemned.stamp
  pending : ∀ entry ∈ system.pending, ∀ stored, system.store.find entry.key = some stored →
    ExpiredItem stored.record system.clock ∧ stored.stamp = entry.stamp

/-- The janitor reads neither a claim nor a breaker with an expired `exp`, and no
operation writes a key while a delete of it is under way. -/
def Spares (system : System) : Event → Prop
  | .write _ write => ∀ entry ∈ system.pending, entry.key ≠ write.key
  | .noteSave _ note _ _ => ∀ loaded, system.notes note = some loaded →
      ∀ entry ∈ system.pending, entry.key ≠ loaded.1
  | .read _ => ∀ sweep key rest stored, system.phase = .reading sweep key rest →
      system.store.find key = some stored →
        (∀ random, stored.record ≠ .claim random) ∧
          ∀ state, stored.record = .breaker state → condemned sweep.now stored.record = false
  | _ => True

/-- Stamps count writes, and a run of the janitor started in the past. -/
structure Timely (system : System) : Prop where
  stored : ∀ key stored, system.store.find key = some stored → stored.stamp < system.writes
  pending : ∀ entry ∈ system.pending, entry.stamp < system.writes
  listing : ∀ sweep cursor, system.phase = .listing sweep cursor → sweep.now ≤ system.clock
  reading : ∀ sweep key rest, system.phase = .reading sweep key rest → sweep.now ≤ system.clock

theorem safe_initial : Safe initial ∧ Timely initial := by
  refine ⟨⟨?_, ?_⟩, ⟨?_, ?_, ?_, ?_⟩⟩
  · simp [initial]
  · simp [initial]
  · simp [initial]
  · simp [initial]
  · simp [initial]
  · simp [initial]

/-- The clock moves on. -/
theorem Safe.later {system : System} {now : Nat} (safe : Safe system)
    (ordered : system.clock ≤ now) : Safe { system with clock := now } where
  deleted := safe.deleted
  pending entry member stored found := by
    have before := safe.pending entry member stored found
    exact ⟨before.1.later ordered, before.2⟩

theorem Timely.later {system : System} {now : Nat} (timely : Timely system)
    (ordered : system.clock ≤ now) : Timely { system with clock := now } where
  stored := timely.stored
  pending := timely.pending
  listing sweep cursor phase := Nat.le_trans (timely.listing sweep cursor phase) ordered
  reading sweep key rest phase := Nat.le_trans (timely.reading sweep key rest phase) ordered

/-- A write is safe exactly when no delete of its key is under way. -/
theorem Safe.put {system : System} (safe : Safe system) {key : JsString} (record : Record)
    (spared : ∀ entry ∈ system.pending, entry.key ≠ key) : Safe (system.put key record) where
  deleted := safe.deleted
  pending entry member stored found := by
    have different : entry.key ≠ key := spared entry member
    rw [System.put, OrderedMap.find_set_other _ different] at found
    exact safe.pending entry member stored found

theorem Timely.put {system : System} (timely : Timely system) (key : JsString) (record : Record) :
    Timely (system.put key record) where
  stored other stored found := by
    rw [System.put] at found ⊢
    dsimp only at found ⊢
    by_cases same : other = key
    · subst same
      rw [OrderedMap.find_set_self, Option.some.injEq] at found
      subst found
      exact Nat.lt_succ_self _
    · rw [OrderedMap.find_set_other _ same] at found
      exact Nat.lt_succ_of_lt (timely.stored other stored found)
  pending entry member := Nat.lt_succ_of_lt (timely.pending entry member)
  listing := timely.listing
  reading := timely.reading

theorem spared_of_put {system : System} (timely : Timely system) {key : JsString} {record : Record}
    (safe : Safe (system.put key record)) (entry : Condemned) (member : entry ∈ system.pending) :
    entry.key ≠ key := by
  intro same
  subst same
  have written : (system.put entry.key record).store.find entry.key = some ⟨record, system.writes⟩ :=
    OrderedMap.find_set_self _ _ _
  have stamps := (safe.pending entry member _ written).2
  have earlier := timely.pending entry member
  dsimp only at stamps
  omega

theorem Safe.erase {system : System} (safe : Safe system) (key : JsString) :
    Safe { system with store := system.store.erase key } where
  deleted := safe.deleted
  pending entry member stored found :=
    safe.pending entry member stored (OrderedMap.find_of_erase found)

theorem Timely.erase {system : System} (timely : Timely system) (key : JsString) :
    Timely { system with store := system.store.erase key } where
  stored other stored found := timely.stored other stored (OrderedMap.find_of_erase found)
  pending := timely.pending
  listing := timely.listing
  reading := timely.reading

/-! ### The steps of the janitor -/

/-- A run that has started keeps its second. -/
theorem Timely.phase {env : JanitorEnv} {system : System} {sweep : Sweep} (page : Page)
    (timely : Timely system) (started : sweep.now ≤ system.clock) :
    Timely { system with phase := sweep.next env page } where
  stored := timely.stored
  pending := timely.pending
  listing other cursor phase := by
    dsimp only at phase ⊢
    unfold Sweep.next at phase
    split at phase
    · split at phase <;> simp at phase
    · split at phase
      · simp only [Phase.listing.injEq] at phase
        rw [← phase.1]
        exact started
      · split at phase
        · simp at phase
        · simp only [Phase.listing.injEq] at phase
          rw [← phase.1]
          exact started
  reading other key rest phase := by
    dsimp only at phase ⊢
    unfold Sweep.next at phase
    split at phase
    · split at phase
      · simp at phase
      · simp only [Phase.reading.injEq] at phase
        rw [← phase.1]
        exact started
    · split at phase
      · simp at phase
      · split at phase <;> simp at phase

theorem safe_phase {system : System} (phase : Phase) :
    Safe { system with phase := phase } ↔ Safe system :=
  ⟨fun safe => ⟨safe.deleted, safe.pending⟩, fun safe => ⟨safe.deleted, safe.pending⟩⟩

theorem Timely.read {env : JanitorEnv} {system : System} {sweep : Sweep} {key : JsString}
    {rest : Page} (timely : Timely system) (started : sweep.now ≤ system.clock) :
    Timely (system.read env sweep key rest) := by
  have moved : Timely { system with phase := sweep.next env rest } := timely.phase rest started
  unfold System.read
  dsimp only
  split
  · exact moved
  next stored found =>
    split
    · refine ⟨moved.stored, ?_, moved.listing, moved.reading⟩
      intro entry member
      rcases List.mem_cons.mp member with rfl | before
      · exact timely.stored key stored found
      · exact timely.pending entry before
    · exact moved

/-- A read is safe exactly when it does not take a claim or a breaker for an
expired item. -/
theorem safe_read_iff {env : JanitorEnv} {system : System} {sweep : Sweep} {key : JsString}
    {rest : Page} (timely : Timely system) (safe : Safe system)
    (phase : system.phase = .reading sweep key rest) (now : Nat) :
    Safe (system.read env sweep key rest) ↔ Spares system (.read now) := by
  have started := timely.reading sweep key rest phase
  have moved : Safe { system with phase := sweep.next env rest } := (safe_phase _).mpr safe
  constructor
  · intro after otherSweep otherKey otherRest stored otherPhase found
    rw [phase] at otherPhase
    cases otherPhase
    have clean (judged : condemned sweep.now stored.record = true) :
        ExpiredItem stored.record system.clock := by
      have issued : (⟨key, stored.stamp⟩ : Condemned) ∈
          (system.read env sweep key rest).pending := by
        simp [System.read, found, judged]
      have sameStore : (system.read env sweep key rest).store = system.store := by
        simp [System.read, found, judged]
      have sameClock : (system.read env sweep key rest).clock = system.clock := by
        simp [System.read, found, judged]
      rw [← sameClock]
      exact (after.pending _ issued stored (by rw [sameStore]; exact found)).1
    constructor
    · intro random claim
      obtain ⟨payload, exp, item, -⟩ := clean (by rw [claim]; exact condemned_claim _ _)
      rw [claim] at item
      cases item
    · intro state breaker
      cases judged : condemned sweep.now stored.record with
      | false => rfl
      | true =>
          obtain ⟨payload, exp, item, -⟩ := clean judged
          rw [breaker] at item
          cases item
  · intro spares
    unfold System.read
    dsimp only
    split
    · exact moved
    next stored found =>
      obtain ⟨noClaim, noBreaker⟩ := spares sweep key rest stored phase found
      split
      next judged =>
        have item : ExpiredItem stored.record sweep.now := by
          rcases condemned_spec judged with expired | ⟨random, claim⟩ | ⟨state, breaker⟩
          · exact expired
          · exact absurd claim (noClaim random)
          · exact absurd judged (by simp [noBreaker state breaker])
        refine ⟨moved.deleted, ?_⟩
        intro entry member other foundOther
        rcases List.mem_cons.mp member with rfl | before
        · have same : other = stored := Option.some.inj (foundOther.symm.trans found)
          subst same
          exact ⟨item.later started, rfl⟩
        · exact safe.pending entry before other foundOther
      · exact moved

theorem Timely.delete {system : System} (timely : Timely system) (condemned : Condemned) :
    Timely (system.delete condemned) := by
  have erased := timely.erase condemned.key
  have fewer : ∀ entry ∈ system.pending.erase condemned, entry.stamp < system.writes :=
    fun entry member => timely.pending entry (List.mem_of_mem_erase member)
  unfold System.delete
  dsimp only
  split
  · exact ⟨erased.stored, fewer, erased.listing, erased.reading⟩
  · exact ⟨erased.stored, fewer, erased.listing, erased.reading⟩

theorem Safe.delete {system : System} {condemned : Condemned} (safe : Safe system)
    (issued : condemned ∈ system.pending) : Safe (system.delete condemned) := by
  have erased := safe.erase condemned.key
  have fewer (entry : Condemned) (member : entry ∈ system.pending.erase condemned) :
      entry ∈ system.pending := List.mem_of_mem_erase member
  unfold System.delete
  dsimp only
  split
  · exact ⟨erased.deleted, fun entry member => erased.pending entry (fewer entry member)⟩
  next stored found =>
    refine ⟨?_, fun entry member => erased.pending entry (fewer entry member)⟩
    intro entry member
    rcases List.mem_cons.mp member with rfl | before
    · exact safe.pending condemned issued stored found
    · exact safe.deleted entry before

/-! ### Runs -/

theorem effect_timely {env : JanitorEnv} {system next : System} {event : Event}
    (timely : Timely system) (now : event.now = system.clock)
    (stepped : effect env system event = some next) : Timely next := by
  cases event with
  | write moment write =>
      cases stepped
      exact timely.put _ _
  | noteLoad moment note name =>
      obtain ⟨state, -, rfl⟩ := Option.map_eq_some_iff.mp stepped
      exact ⟨timely.stored, timely.pending, timely.listing, timely.reading⟩
  | noteSave moment note count openUntil =>
      obtain ⟨loaded, -, rfl⟩ := Option.map_eq_some_iff.mp stepped
      exact timely.put _ _
  | remove moment key =>
      cases stepped
      exact timely.erase key
  | scheduled moment =>
      cases phase : system.phase <;> simp only [effect, phase, reduceCtorEq] at stepped
      split at stepped
      · cases stepped
        exact ⟨timely.stored, timely.pending, by simp, by simp⟩
      · cases stepped
        refine ⟨timely.stored, timely.pending, ?_, by simp⟩
        intro sweep cursor listing
        simp only [Phase.listing.injEq] at listing
        rw [← listing.1]
        exact le_of_eq now
  | list moment page =>
      cases phase : system.phase <;> simp only [effect, phase, reduceCtorEq] at stepped
      split at stepped
      · cases stepped
        exact timely.phase page (timely.listing _ _ phase)
      · cases stepped
  | read moment =>
      cases phase : system.phase <;> simp only [effect, phase, reduceCtorEq] at stepped
      cases stepped
      exact timely.read (timely.reading _ _ _ phase)
  | delete moment condemned =>
      simp only [effect] at stepped
      split at stepped
      · cases stepped
        exact timely.delete condemned
      · cases stepped
  | abort moment =>
      cases stepped
      exact ⟨timely.stored, timely.pending, by simp, by simp⟩

/-- One step keeps the run safe exactly when it spares what is no expired item. -/
theorem effect_safe_iff {env : JanitorEnv} {system next : System} {event : Event}
    (timely : Timely system) (safe : Safe system)
    (stepped : effect env system event = some next) : Safe next ↔ Spares system event := by
  have quiet {next : System} (kept : Safe next) : Safe next ↔ True := ⟨fun _ => trivial, fun _ => kept⟩
  cases event with
  | write moment write =>
      cases stepped
      exact ⟨spared_of_put timely, safe.put _⟩
  | noteLoad moment note name =>
      obtain ⟨state, -, rfl⟩ := Option.map_eq_some_iff.mp stepped
      exact quiet ⟨safe.deleted, safe.pending⟩
  | noteSave moment note count openUntil =>
      obtain ⟨loaded, found, rfl⟩ := Option.map_eq_some_iff.mp stepped
      constructor
      · intro after other foundOther
        rw [found, Option.some.injEq] at foundOther
        subst foundOther
        exact spared_of_put timely after
      · intro spares
        exact safe.put _ (spares loaded found)
  | remove moment key =>
      cases stepped
      exact quiet (safe.erase key)
  | scheduled moment =>
      cases phase : system.phase <;> simp only [effect, phase, reduceCtorEq] at stepped
      split at stepped
      · cases stepped
        exact quiet ((safe_phase _).mpr safe)
      · cases stepped
        exact quiet ((safe_phase _).mpr safe)
  | list moment page =>
      cases phase : system.phase <;> simp only [effect, phase, reduceCtorEq] at stepped
      split at stepped
      · cases stepped
        exact quiet ((safe_phase _).mpr safe)
      · cases stepped
  | read moment =>
      cases phase : system.phase <;> simp only [effect, phase, reduceCtorEq] at stepped
      cases stepped
      exact safe_read_iff timely safe phase moment
  | delete moment condemned =>
      simp only [effect] at stepped
      split at stepped
      next issued =>
        cases stepped
        exact quiet (safe.delete issued)
      next => cases stepped
  | abort moment =>
      cases stepped
      exact quiet ((safe_phase _).mpr safe)

theorem step_eq_some {env : JanitorEnv} {system next : System} {event : Event}
    (stepped : step env system event = some next) :
    system.clock ≤ event.now ∧
      effect env { system with clock := event.now } event = some next := by
  unfold step at stepped
  split at stepped
  · cases stepped
  next ordered => exact ⟨by omega, stepped⟩

/-- Along a run the janitor deletes expired items only, the ones it has read, and
so would every delete it has issued, exactly when every step spares the rest. -/
theorem janitor_safe_iff {env : JanitorEnv} {events : List Event} {final : System}
    (reached : run (step env) initial events = some final) :
    (∀ before after middle, events = before ++ after →
        run (step env) initial before = some middle → Safe middle) ↔
      Meets (step env) Spares initial events := by
  apply everywhere_iff_meets (fun system => Safe system ∧ Timely system) And.left _ _ safe_initial reached
  · intro state next event invariant spares stepped
    obtain ⟨ordered, effects⟩ := step_eq_some stepped
    have timely := invariant.2.later ordered
    have safe := invariant.1.later ordered
    exact ⟨(effect_safe_iff timely safe effects).mpr (by cases event <;> exact spares),
      effect_timely timely rfl effects⟩
  · intro state next event invariant stepped after
    obtain ⟨ordered, effects⟩ := step_eq_some stepped
    have spares := (effect_safe_iff (invariant.2.later ordered) (invariant.1.later ordered)
      effects).mp after
    cases event <;> exact spares

/-! ### A claim that is taken for a stray item -/

/-- A check claims its key; the janitor lists and reads the claim and deletes it
before the check has read it back. -/
def strayClaim : List Event :=
  [.write 1000 (.claim (js "s") (js "n") (js "1")), .scheduled 1000,
    .list 1000 ⟨[js "replay:s:n"], none⟩, .read 1000, .delete 1000 ⟨js "replay:s:n", 0⟩]

/-- An item is read after its expiry and stored again before the delete. -/
def storedAgain : List Event :=
  [.write 1000 (.item (js "s") (js "n") (.str (js "p")) (.number 1060)), .scheduled 2000,
    .list 2000 ⟨[js "s:n"], none⟩, .read 2000,
    .write 2000 (.item (js "s") (js "n") (.str (js "p")) (.number 3000)),
    .delete 2000 ⟨js "s:n", 0⟩]

theorem strayClaim_safe_iff :
    (∀ before after middle, strayClaim = before ++ after →
        run (step {}) initial before = some middle → Safe middle) ↔
      Meets (step {}) Spares initial strayClaim :=
  janitor_safe_iff rfl

/-- The janitor deletes the claim of a check, and an item that has been stored
after it read an expired one. -/
theorem janitor_deletes_others :
    (∃ final, run (step {}) initial strayClaim = some final ∧
      ∃ entry ∈ final.deleted, entry.stored.record = .claim (js "1")) ∧
    ∃ final, run (step {}) initial storedAgain = some final ∧
      ∃ entry ∈ final.deleted, entry.condemned.stamp < entry.stored.stamp := by
  constructor
  · exact ⟨_, rfl, _, .head _, rfl⟩
  · have ran : (run (step {}) initial storedAgain).any (fun final =>
        final.deleted.any fun entry => entry.condemned.stamp < entry.stored.stamp) = true := by
      decide +kernel
    obtain ⟨final, reached, found⟩ := (Option.any_eq_true _ _).mp ran
    obtain ⟨entry, member, later⟩ := List.any_eq_true.mp found
    exact ⟨final, reached, entry, member, of_decide_eq_true later⟩

end DarkmeshGateway.SecretsWorker.Janitor
