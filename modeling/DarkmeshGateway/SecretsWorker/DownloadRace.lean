import DarkmeshGateway.Foundation.Machine
import DarkmeshGateway.SecretsWorker.Inbox
import Mathlib.Logic.Function.Basic

/-!
Contract: downloads of inbox envelopes that run at the same time.

Owns the read and delete steps of any number of downloads and the writes of
posts over one store, which envelopes were returned and which were deleted by a
download of another, and runs along which neither happens twice or wrongly.

Does not own the guards in front of these steps. Every write of a post makes a
new envelope.
-/

namespace DarkmeshGateway.SecretsWorker.DownloadRace

open Foundation
open Foundation.Js
open SecretsWorker.Fields
open SecretsWorker.Inbox

/-! ### Interleaved steps -/

/-- The item of a subject and nonce. -/
structure Pair where
  subject : JsString
  nonce : JsString
deriving DecidableEq

def Pair.record (pair : Pair) : RecordId := .item pair.subject pair.nonce

def Pair.key (pair : Pair) : JsString := pair.record.encode

/-- An envelope: which of the writes under a key it is. -/
structure EnvelopeId where
  key : JsString
  version : Nat
deriving DecidableEq

/-- A download between its read and its delete. -/
structure Download where
  pair : Pair
  envelope : EnvelopeId
  payload : Option JsString
  exp : Option JsString
  /-- The deletes under the key before the read. -/
  deletes : Nat

structure System where
  kv : Kv
  clock : Nat
  /-- How many envelopes were written under a key. -/
  versions : JsString → Nat
  /-- How many downloads deleted under a key. -/
  deletes : JsString → Nat
  downloads : List Download
  /-- The envelopes that were returned, one for each response. -/
  returned : List EnvelopeId
  /-- The envelopes that a download of another one deleted. -/
  lost : List EnvelopeId

def initial : System := ⟨.empty, 0, fun _ => 0, fun _ => 0, [], [], []⟩

inductive Event where
  | post (now : Nat) (pair : Pair) (payload : JsString) (exp : Expiry)
  | read (now : Nat) (pair : Pair)
  | delete (now : Nat) (index : Nat)

def Event.now : Event → Nat
  | .post now _ _ _ => now
  | .read now _ => now
  | .delete now _ => now

/-- The envelope written last under a key. -/
def System.latest (system : System) (key : JsString) : EnvelopeId := ⟨key, system.versions key⟩

/-- The write of a post. -/
def System.post (system : System) (pair : Pair) (payload : JsString) (exp : Expiry) : System :=
  { system with
    kv := (writeRecord pair.record (.item payload exp.json) exp.last system.kv).2
    versions := Function.update system.versions pair.key (system.versions pair.key + 1) }

/-- The read of a download; without an item the download ends. -/
def System.read (system : System) (now : Nat) (pair : Pair) : System :=
  match (readRecord now pair.record system.kv).1 with
  | .ok (some raw) =>
      match raw.itemView with
      | .ok (payload, exp) =>
          { system with
            downloads := system.downloads ++
              [⟨pair, system.latest pair.key, payload, exp, system.deletes pair.key⟩] }
      | .error _ => system
  | _ => system

/-- The envelope that is deleted under a key although it is not the given one. -/
def System.deletedOther (system : System) (now : Nat) (download : Download) : List EnvelopeId :=
  if (ExpiringStore.get system.kv now download.pair.key).isSome ∧
    system.latest download.pair.key ≠ download.envelope then [system.latest download.pair.key]
  else []

/-- The delete of a download, and its response. -/
def System.delete (system : System) (now : Nat) (index : Nat) : Option System :=
  system.downloads[index]?.map fun download =>
    { system with
      kv := (deleteRecord download.pair.record system.kv).2
      deletes := Function.update system.deletes download.pair.key
        (system.deletes download.pair.key + 1)
      downloads := system.downloads.eraseIdx index
      returned := download.envelope :: system.returned
      lost := system.deletedOther now download ++ system.lost }

def step (system : System) (event : Event) : Option System :=
  if event.now < system.clock then none
  else
    let timely := { system with clock := event.now }
    match event with
    | .post _ pair payload exp => some (timely.post pair payload exp)
    | .read now pair => some (timely.read now pair)
    | .delete now index => timely.delete now index

/-- No envelope was returned twice, and none was deleted by a download of another. -/
def Exclusive (system : System) : Prop := system.returned.Nodup ∧ system.lost = []

/-- When a download deletes, no other download has deleted under its key since
it read, and no post has written there. -/
def Undisturbed (system : System) : Event → Prop
  | .delete _ index => ∀ download, system.downloads[index]? = some download →
      system.deletes download.pair.key = download.deletes ∧
        system.latest download.pair.key = download.envelope
  | _ => True

/-! ### Invariant -/

/-- What is stored was not returned yet, and what a download has read was not
returned since, as long as nothing happened under its key. -/
structure Invariant (system : System) : Prop where
  exclusive : Exclusive system
  past : ∀ envelope ∈ system.returned, envelope.version ≤ system.versions envelope.key
  current : ∀ key entry, system.kv.find key = some entry → system.latest key ∉ system.returned
  keyed : ∀ download ∈ system.downloads, download.envelope.key = download.pair.key
  started : ∀ download ∈ system.downloads,
    download.deletes ≤ system.deletes download.pair.key ∧
      download.envelope.version ≤ system.versions download.pair.key
  pending : ∀ download ∈ system.downloads,
    system.deletes download.pair.key = download.deletes →
      system.latest download.pair.key = download.envelope →
        download.envelope ∉ system.returned

theorem Invariant.initial : Invariant initial where
  exclusive := ⟨List.nodup_nil, rfl⟩
  past := by simp [DownloadRace.initial]
  current := by simp [DownloadRace.initial]
  keyed := by simp [DownloadRace.initial]
  started := by simp [DownloadRace.initial]
  pending := by simp [DownloadRace.initial]

theorem Invariant.clock {system : System} (invariant : Invariant system) (now : Nat) :
    Invariant { system with clock := now } :=
  ⟨invariant.exclusive, invariant.past, invariant.current, invariant.keyed, invariant.started,
    invariant.pending⟩

theorem latest_post_self (system : System) (pair : Pair) (payload : JsString) (exp : Expiry) :
    (system.post pair payload exp).latest pair.key =
      ⟨pair.key, system.versions pair.key + 1⟩ := by
  simp [System.latest, System.post]

theorem latest_post_other (system : System) {pair : Pair} {key : JsString}
    (other : key ≠ pair.key) (payload : JsString) (exp : Expiry) :
    (system.post pair payload exp).latest key = system.latest key := by
  simp [System.latest, System.post, other]

theorem versions_post_le (system : System) (pair : Pair) (payload : JsString) (exp : Expiry)
    (key : JsString) : system.versions key ≤ (system.post pair payload exp).versions key := by
  by_cases same : key = pair.key
  · subst same
    simp [System.post]
  · simp [System.post, same]

theorem Invariant.post {system : System} (invariant : Invariant system) (pair : Pair)
    (payload : JsString) (exp : Expiry) : Invariant (system.post pair payload exp) := by
  refine ⟨invariant.exclusive, ?_, ?_, invariant.keyed, ?_, ?_⟩
  · intro envelope member
    exact Nat.le_trans (invariant.past envelope member) (versions_post_le _ _ _ _ _)
  · intro key entry found returned
    by_cases same : key = pair.key
    · rw [same, latest_post_self] at returned
      have bound := invariant.past _ returned
      simp at bound
    · rw [latest_post_other system same] at returned
      have kept : system.kv.find key = some entry := by
        rw [← found]
        exact (OrderedMap.find_set_other _ same _).symm
      exact invariant.current key entry kept returned
  · intro download member
    have before := invariant.started download member
    exact ⟨before.1, Nat.le_trans before.2 (versions_post_le _ _ _ _ _)⟩
  · intro download member unchanged latest
    by_cases same : download.pair.key = pair.key
    · rw [same, latest_post_self] at latest
      have bound := (invariant.started download member).2
      rw [same, ← latest] at bound
      simp at bound
    · rw [latest_post_other system same] at latest
      exact invariant.pending download member unchanged latest

/-- What a read does: nothing, or it starts a download of a stored item. -/
theorem read_cases (system : System) (now : Nat) (pair : Pair) :
    system.read now pair = system ∨
      ∃ entry payload exp, system.kv.find pair.key = some entry ∧
        system.read now pair =
          { system with
            downloads := system.downloads ++
              [⟨pair, system.latest pair.key, payload, exp, system.deletes pair.key⟩] } := by
  unfold System.read
  split
  next raw found =>
    split
    next payload exp view =>
      right
      have held : (ExpiringStore.get system.kv now pair.key).isSome := by
        have read : (ExpiringStore.get system.kv now pair.record.encode).map Record.value =
            some raw := by
          simpa [readRecord, Stateful.observe] using found
        show (ExpiringStore.get system.kv now pair.record.encode).isSome
        rw [← Option.isSome_map, read]
        rfl
      cases stored : system.kv.find pair.key with
      | none => simp [ExpiringStore.get, stored] at held
      | some entry => exact ⟨entry, payload, exp, rfl, rfl⟩
    next => exact Or.inl rfl
  next => exact Or.inl rfl

theorem Invariant.read {system : System} (invariant : Invariant system) (now : Nat)
    (pair : Pair) : Invariant (system.read now pair) := by
  rcases read_cases system now pair with same | ⟨entry, payload, exp, found, started⟩
  · rw [same]
    exact invariant
  · rw [started]
    refine ⟨invariant.exclusive, invariant.past, invariant.current, ?_, ?_, ?_⟩
    · exact List.forall_mem_append.mpr ⟨invariant.keyed, by simp [System.latest]⟩
    · exact List.forall_mem_append.mpr ⟨invariant.started, by simp [System.latest]⟩
    · intro download member
      rcases List.mem_append.mp member with before | here
      · exact invariant.pending download before
      · intro _ _
        rw [List.mem_singleton.mp here]
        exact invariant.current pair.key entry found

theorem Invariant.delete {system next : System} (invariant : Invariant system) {now index : Nat}
    (undisturbed : Undisturbed system (.delete now index))
    (deleted : system.delete now index = some next) : Invariant next := by
  unfold System.delete at deleted
  rw [Option.map_eq_some_iff] at deleted
  obtain ⟨download, listed, rfl⟩ := deleted
  obtain ⟨alone, latest⟩ := undisturbed download listed
  have member := List.mem_of_getElem? listed
  have keyed := invariant.keyed download member
  have rest : ∀ other ∈ system.downloads.eraseIdx index, other ∈ system.downloads :=
    fun _ kept => List.mem_of_mem_eraseIdx kept
  refine ⟨⟨?_, ?_⟩, ?_, ?_, ?_, ?_, ?_⟩
  · exact List.nodup_cons.mpr
      ⟨invariant.pending download member alone latest, invariant.exclusive.1⟩
  · show system.deletedOther now download ++ system.lost = []
    rw [System.deletedOther, if_neg (fun both => both.2 latest), invariant.exclusive.2]
    rfl
  · intro envelope returned
    rcases List.mem_cons.mp returned with here | before
    · rw [here, keyed]
      exact (invariant.started download member).2
    · exact invariant.past envelope before
  · intro key entry found returned
    by_cases same : key = download.pair.key
    · rw [same] at found
      have gone : (system.kv.erase download.pair.key).find download.pair.key = none :=
        OrderedMap.find_erase_self _ _
      exact absurd (gone.symm.trans found) (by simp)
    · rcases List.mem_cons.mp returned with here | before
      · have key_eq := congrArg EnvelopeId.key here
        exact same (key_eq.trans keyed)
      · exact invariant.current key entry (OrderedMap.find_of_erase found) before
  · intro other kept
    exact invariant.keyed other (rest other kept)
  · intro other kept
    have before := invariant.started other (rest other kept)
    refine ⟨?_, before.2⟩
    by_cases same : other.pair.key = download.pair.key
    · rw [same] at before
      simp only [same, Function.update_self]
      omega
    · simp only [Function.update_of_ne same]
      exact before.1
  · intro other kept unchanged otherLatest
    have before := invariant.started other (rest other kept)
    by_cases same : other.pair.key = download.pair.key
    · rw [same] at before
      simp only [same, Function.update_self] at unchanged
      omega
    · simp only [Function.update_of_ne same] at unchanged
      intro returned
      rcases List.mem_cons.mp returned with here | earlier
      · have key_eq := congrArg EnvelopeId.key here
        rw [invariant.keyed other (rest other kept), keyed] at key_eq
        exact same key_eq
      · exact invariant.pending other (rest other kept) unchanged otherLatest earlier

theorem Invariant.step {system next : System} {event : Event} (invariant : Invariant system)
    (undisturbed : Undisturbed system event) (stepped : step system event = some next) :
    Invariant next := by
  unfold DownloadRace.step at stepped
  split at stepped
  next early => cases stepped
  next late =>
    have timely := invariant.clock event.now
    cases event with
    | post now pair payload exp =>
        rw [← Option.some.inj stepped]
        exact timely.post pair payload exp
    | read now pair =>
        rw [← Option.some.inj stepped]
        exact timely.read now pair
    | delete now index => exact timely.delete undisturbed stepped

/-- Along a run whose downloads are not disturbed between their read and their
delete, every envelope is returned at most once, and no download deletes another
envelope than the one it returns. -/
theorem exclusive_of_undisturbed {events : List Event} {final : System}
    (reached : Machine.run step initial events = some final)
    (undisturbed : Machine.Meets step Undisturbed initial events) : Exclusive final :=
  (Machine.run_invariant Invariant Invariant.step Invariant.initial undisturbed reached).exclusive

def secret : Pair := ⟨js "s", js "n"⟩

def lasting : Expiry := ⟨js "9000", some 9000⟩

/-- Two downloads read one after the other, and a new envelope after them. -/
def separate : List Event :=
  [.post 0 secret (js "p") lasting, .read 1 secret, .delete 2 0, .read 2 secret,
    .post 700 secret (js "q") lasting, .read 701 secret, .delete 702 0]

/-- Both envelopes of such a run are returned, each once. -/
theorem separate_exclusive :
    ∃ final, Machine.run step initial separate = some final ∧ final.returned.length = 2 ∧
      Exclusive final := by
  have reached : ∃ final, Machine.run step initial separate = some final ∧
      final.returned.length = 2 := ⟨_, rfl, by decide⟩
  obtain ⟨final, reached, both⟩ := reached
  refine ⟨final, reached, both, exclusive_of_undisturbed reached ?_⟩
  refine Machine.Meets.cons rfl trivial ?_
  refine Machine.Meets.cons rfl trivial ?_
  refine Machine.Meets.cons rfl ?_ ?_
  · intro download listed
    obtain rfl := Option.some.inj listed
    exact ⟨by decide, by decide⟩
  refine Machine.Meets.cons rfl trivial ?_
  refine Machine.Meets.cons rfl trivial ?_
  refine Machine.Meets.cons rfl trivial ?_
  refine Machine.Meets.cons rfl ?_ trivial
  intro download listed
  obtain rfl := Option.some.inj listed
  exact ⟨by decide, by decide⟩

/-! ### Disturbed downloads -/

/-- Two downloads read the envelope before one of them deletes it. -/
def doubled : List Event :=
  [.post 0 secret (js "p") ⟨js "900", some 900⟩, .read 1 secret, .read 1 secret, .delete 2 0, .delete 2 0]

/-- The replay window ends and a second envelope is posted before the second delete. -/
def overtaken : List Event :=
  [.post 0 secret (js "p") lasting, .read 1 secret, .read 1 secret, .delete 2 0,
    .post 700 secret (js "q") lasting, .delete 701 0]

/-- One envelope is returned twice; another is deleted without being returned. -/
theorem downloads_race :
    (∃ final, Machine.run step initial doubled = some final ∧
      ¬final.returned.Nodup ∧ final.lost = []) ∧
    ∃ final, Machine.run step initial overtaken = some final ∧
      final.lost = [⟨secret.key, 2⟩] ∧ ⟨secret.key, 2⟩ ∉ final.returned := by
  refine ⟨⟨_, rfl, ?_, ?_⟩, ⟨_, rfl, ?_, ?_⟩⟩ <;> decide

/-! ### A download alone -/

/-- The two steps, one right after the other, are the route behind its rate limit. -/
theorem download_alone {env : Env} {ip : JsString} {pair : Pair} {now : Nat} {kv final : Kv}
    {system : System} {payload exp : Option JsString}
    (passed : rateLimit env ip now kv = (.ok (), system.kv)) (idle : system.downloads = [])
    (early : system.clock ≤ now)
    (answered : getInbox env ip pair.subject pair.nonce now kv =
      (.ok (.envelope payload exp), final)) :
    ∃ last, Machine.run step system [.read now pair, .delete now 0] = some last ∧
      last.kv = final ∧ last.returned = system.latest pair.key :: system.returned := by
  unfold getInbox at answered
  obtain ⟨_, limited, limitedEq, answered⟩ := Stateful.bind_eq_ok.mp answered
  obtain rfl : system.kv = limited := (Prod.mk.inj (passed.symm.trans limitedEq)).2
  obtain ⟨raw, read, readEq, answered⟩ := Stateful.bind_eq_ok.mp answered
  cases raw with
  | none => exact absurd answered Stateful.fail_ne_ok
  | some raw =>
      obtain ⟨view, middle, viewEq, answered⟩ := Stateful.bind_eq_ok.mp answered
      obtain ⟨viewOk, rfl⟩ := Stateful.lift_eq_ok.mp viewEq
      obtain ⟨_, erased, eraseEq, done⟩ := Stateful.bind_eq_ok.mp answered
      have finalEq : erased = final := (Stateful.pure_eq_ok.mp done).2
      have sameRead : system.kv = read := (Stateful.observe_eq_ok.mp readEq).2
      subst sameRead
      let download : Download :=
        ⟨pair, system.latest pair.key, view.1, view.2, system.deletes pair.key⟩
      let reading : System := { system with clock := now, downloads := [download] }
      have started : step system (.read now pair) = some reading := by
        have readOk : (readRecord now pair.record system.kv).1 = .ok (some raw) :=
          congrArg Prod.fst readEq
        have timely : ¬(Event.read now pair).now < system.clock := Nat.not_lt.mpr early
        unfold step
        rw [if_neg timely]
        simp only [Event.now, System.read, readOk, viewOk, idle, List.nil_append]
        rfl
      have finished : ∃ last, step reading (.delete now 0) = some last ∧
          last.kv = (deleteRecord pair.record system.kv).2 ∧
            last.returned = system.latest pair.key :: system.returned := by
        have timely : ¬(Event.delete now 0).now < reading.clock := Nat.lt_irrefl now
        unfold step
        rw [if_neg timely]
        exact ⟨_, rfl, rfl, rfl⟩
      obtain ⟨last, deleted, kv_eq, returned⟩ := finished
      have whole : Machine.run step system [.read now pair, .delete now 0] = some last :=
        Machine.run_cons_eq_some.mpr
          ⟨reading, started, Machine.run_cons_eq_some.mpr ⟨last, deleted, rfl⟩⟩
      refine ⟨last, whole, ?_, returned⟩
      rw [kv_eq, ← finalEq]
      exact congrArg Prod.snd eraseEq

end DarkmeshGateway.SecretsWorker.DownloadRace
