import DarkmeshGateway.SecretsWorker.Inbox

/-!
Contract: isolation of the inbox records of different subjects and nonces.

Owns the injectivity of the record keys on plain subjects, the frame of every
route, the provenance of items, and the isolation of each request after any
run whose requests name plain subjects, under a limit of forgotten keys that
is a number.
-/

namespace DarkmeshGateway.SecretsWorker.InboxIsolation

open Foundation
open Foundation.Js
open Foundation.Machine
open Foundation.Delimited
open SecretsWorker.Fields
open SecretsWorker.ReplayGuard (replayKey)
open SecretsWorker.Inbox

/-! ### Keys -/

/-- A subject without the key separator that is not the name of a record family. -/
structure PlainSubject (subject : JsString) : Prop where
  free : 58 ∉ subject
  notReplay : subject ≠ js "replay"
  notRate : subject ≠ js "rl"
  notSpray : subject ≠ js "rlsub"
  notSprayCount : subject ≠ js "rlsubcount"

/-- The subject of the record, if it has one, is plain. -/
def PlainId : RecordId → Prop
  | .item subject _ => PlainSubject subject
  | .marker subject _ => PlainSubject subject
  | .rate _ => True
  | .spray _ subject => PlainSubject subject
  | .sprayCount _ => True

/-- The text in front of the first separator of a key. -/
def family : RecordId → JsString
  | .item subject _ => subject
  | .marker _ _ => js "replay"
  | .rate _ => js "rl"
  | .spray _ _ => js "rlsub"
  | .sprayCount _ => js "rlsubcount"

/-- The text behind the first separator of a key. -/
def familyRest : RecordId → JsString
  | .item _ nonce => nonce
  | .marker subject nonce => subject ++ 58 :: nonce
  | .rate ip => ip
  | .spray ip subject => ip ++ 58 :: subject
  | .sprayCount ip => ip

private theorem encode_eq (id : RecordId) : id.encode = family id ++ 58 :: familyRest id := by
  cases id <;> rfl

private theorem family_free {id : RecordId} (plain : PlainId id) : 58 ∉ family id := by
  cases id with
  | item subject nonce => exact plain.free
  | marker subject nonce => exact (by decide : (58 : CodeUnit) ∉ js "replay")
  | rate ip => exact (by decide : (58 : CodeUnit) ∉ js "rl")
  | spray ip subject => exact (by decide : (58 : CodeUnit) ∉ js "rlsub")
  | sprayCount ip => exact (by decide : (58 : CodeUnit) ∉ js "rlsubcount")

/-- Records about plain subjects have different keys. -/
theorem encode_injective {left right : RecordId} (leftPlain : PlainId left)
    (rightPlain : PlainId right) (same : left.encode = right.encode) : left = right := by
  rw [encode_eq, encode_eq] at same
  obtain ⟨families, rests⟩ := field_unique (family_free leftPlain) (family_free rightPlain) same
  cases left <;> cases right <;> simp only [family, familyRest] at families rests
  case item.item => rw [families, rests]
  case item.marker => exact absurd families leftPlain.notReplay
  case item.rate => exact absurd families leftPlain.notRate
  case item.spray => exact absurd families leftPlain.notSpray
  case item.sprayCount => exact absurd families leftPlain.notSprayCount
  case marker.item => exact absurd families.symm rightPlain.notReplay
  case rate.item => exact absurd families.symm rightPlain.notRate
  case spray.item => exact absurd families.symm rightPlain.notSpray
  case sprayCount.item => exact absurd families.symm rightPlain.notSprayCount
  case marker.marker =>
    obtain ⟨rfl, rfl⟩ := field_unique leftPlain.free rightPlain.free rests
    rfl
  case rate.rate => rw [rests]
  case spray.spray =>
    obtain ⟨rfl, rfl⟩ := last_field_unique leftPlain.free rightPlain.free rests
    rfl
  case sprayCount.sprayCount => rw [rests]
  all_goals exact absurd families (by decide)

private theorem startsWith_iff {text start : JsString} :
    startsWith text start = true ↔ ∃ rest, text = start ++ rest := by
  rw [startsWith, List.isPrefixOf_iff_prefix]
  exact ⟨fun ⟨rest, same⟩ => ⟨rest, same.symm⟩, fun ⟨rest, same⟩ => ⟨rest, same.symm⟩⟩

/-- The keys that start with a plain subject are those of its items. -/
theorem startsWith_item {id : RecordId} {subject : JsString} (plain : PlainId id)
    (subjectPlain : PlainSubject subject) :
    startsWith id.encode (itemPrefix subject) = true ↔ ∃ nonce, id = .item subject nonce := by
  rw [startsWith_iff, itemPrefix]
  constructor
  · rintro ⟨nonce, same⟩
    have item : id.encode = (RecordId.item subject nonce).encode := by
      rw [same]
      simp [RecordId.encode, key]
    exact ⟨nonce, encode_injective plain subjectPlain item⟩
  · rintro ⟨nonce, rfl⟩
    exact ⟨nonce, by simp [RecordId.encode, key]⟩

/-- The keys that start with the marker prefix of a plain subject are those of
its markers. -/
theorem startsWith_marker {id : RecordId} {subject : JsString} (plain : PlainId id)
    (subjectPlain : PlainSubject subject) :
    startsWith id.encode (replayPrefix subject) = true ↔
      ∃ nonce, id = .marker subject nonce := by
  rw [startsWith_iff, replayPrefix]
  constructor
  · rintro ⟨nonce, same⟩
    have marker : id.encode = (RecordId.marker subject nonce).encode := by
      rw [same]
      simp [RecordId.encode, replayKey]
    exact ⟨nonce, encode_injective plain subjectPlain marker⟩
  · rintro ⟨nonce, rfl⟩
    exact ⟨nonce, by simp [RecordId.encode, replayKey]⟩

/-! ### Genuine stores -/

/-- An item with this payload was posted for the subject and nonce. -/
def Posted (log : List Request) (subject nonce payload : JsString) : Prop :=
  ∃ ip exp random, Request.post ip subject nonce payload exp random ∈ log

/-- A record about a plain subject; an item is one that was posted for its owner. -/
structure Genuine (log : List Request) (record : Record) : Prop where
  plain : PlainId record.owner
  item : ∀ subject nonce, record.owner = .item subject nonce →
    ∃ payload exp, record.value = .item payload exp ∧ Posted log subject nonce payload

/-- Every record is genuine and lies under the key of its owner. -/
def Keyed (log : List Request) (kv : Kv) : Prop :=
  ∀ key entry, kv.find key = some entry →
    key = entry.value.owner.encode ∧ Genuine log entry.value

theorem Posted.mono {log : List Request} {request : Request} {subject nonce payload : JsString}
    (posted : Posted log subject nonce payload) :
    Posted (log ++ [request]) subject nonce payload := by
  obtain ⟨ip, exp, random, member⟩ := posted
  exact ⟨ip, exp, random, List.mem_append_left _ member⟩

theorem Keyed.mono {log : List Request} {request : Request} {kv : Kv} (keyed : Keyed log kv) :
    Keyed (log ++ [request]) kv := by
  intro key entry found
  obtain ⟨keyEq, genuine⟩ := keyed key entry found
  refine ⟨keyEq, genuine.plain, fun subject nonce owner => ?_⟩
  obtain ⟨payload, exp, value, posted⟩ := genuine.item subject nonce owner
  exact ⟨payload, exp, value, posted.mono⟩

/-- A genuine store stays genuine and keeps the records of all other owners. -/
structure Confined (log : List Request) (own : RecordId → Prop) (before after : Kv) : Prop where
  confined : Keyed log before → Keyed log after ∧ ∀ key entry, before.find key = some entry →
    ¬own entry.value.owner → after.find key = some entry

section Routes

variable {log : List Request} {own : RecordId → Prop}

instance : Std.Refl (Confined log own) where
  refl _ := ⟨fun keyed => ⟨keyed, fun _ _ found _ => found⟩⟩

instance : IsTrans Kv (Confined log own) where
  trans _ _ _ first second := ⟨fun keyed => by
    obtain ⟨middleKeyed, firstKept⟩ := first.confined keyed
    obtain ⟨finalKeyed, secondKept⟩ := second.confined middleKeyed
    exact ⟨finalKeyed, fun key entry found foreign =>
      secondKept key entry (firstKept key entry found foreign) foreign⟩⟩

/-- A foreign record does not lie under the key of an own record. -/
private theorem foreign_key {kv : Kv} (keyed : Keyed log kv) {id : RecordId} (plain : PlainId id)
    (mine : own id) {key : JsString} {entry : Expiring Record} (found : kv.find key = some entry)
    (foreign : ¬own entry.value.owner) : key ≠ id.encode := by
  rintro rfl
  obtain ⟨keyEq, genuine⟩ := keyed _ entry found
  exact foreign (encode_injective plain genuine.plain keyEq ▸ mine)

theorem writeRecord_confined {id : RecordId} {value : KvValue} {expires : Option Nat}
    (mine : own id) (genuine : Genuine log ⟨id, value⟩) :
    Stateful.Relates (Confined log own) (writeRecord id value expires) := by
  refine Stateful.relates_update fun kv => ⟨fun keyed => ⟨?_, ?_⟩⟩
  · intro key entry found
    by_cases same : key = id.encode
    · rw [same, ExpiringStore.put, OrderedMap.find_set_self, Option.some.injEq] at found
      subst found
      exact ⟨same, genuine⟩
    · rw [ExpiringStore.put, OrderedMap.find_set_other _ same] at found
      exact keyed key entry found
  · intro key entry found foreign
    rw [ExpiringStore.put,
      OrderedMap.find_set_other _ (foreign_key keyed genuine.plain mine found foreign)]
    exact found

theorem deleteRecord_confined {id : RecordId} (mine : own id) (plain : PlainId id) :
    Stateful.Relates (Confined log own) (deleteRecord id) := by
  refine Stateful.relates_update fun kv => ⟨fun keyed => ⟨?_, ?_⟩⟩
  · intro key entry found
    by_cases same : key = id.encode
    · rw [same, OrderedMap.find_erase_self] at found
      simp at found
    · rw [OrderedMap.find_erase_other _ same] at found
      exact keyed key entry found
  · intro key entry found foreign
    rw [OrderedMap.find_erase_other _ (foreign_key keyed plain mine found foreign)]
    exact found

/-- A record other than an item is genuine whatever it holds. -/
private theorem genuine_other (id : RecordId) (plain : PlainId id)
    (other : ∀ subject nonce, id ≠ .item subject nonce) (value : KvValue) :
    Genuine log ⟨id, value⟩ :=
  ⟨plain, fun subject nonce same => absurd same (other subject nonce)⟩

private theorem lift_confined {α : Type} (outcome : Except HttpException α) :
    Stateful.Relates (Confined log own) (Stateful.lift outcome : KvHandler α) :=
  Stateful.relates_lift outcome

private theorem fail_confined {α : Type} (failure : HttpException) :
    Stateful.Relates (Confined log own) (Stateful.fail failure : KvHandler α) :=
  Stateful.relates_fail failure

private theorem pure_confined {α : Type} (value : α) :
    Stateful.Relates (Confined log own) (pure value : KvHandler α) :=
  Stateful.relates_pure value

private theorem readRecord_confined (now : Nat) (id : RecordId) :
    Stateful.Relates (Confined log own) (readRecord now id) :=
  Stateful.relates_observe _

theorem rateLimit_confined {env : Env} {ip : JsString} {now : Nat} (mine : own (.rate ip)) :
    Stateful.Relates (Confined log own) (rateLimit env ip now) := by
  have writes (value : KvValue) (expires : Option Nat) :
      Stateful.Relates (Confined log own) (writeRecord (.rate ip) value expires) :=
    writeRecord_confined mine (genuine_other (.rate ip) trivial (by simp) value)
  unfold rateLimit
  extract_lets max ttl fresh
  refine Stateful.relates_ite (fun _ => pure_confined ()) fun _ =>
    Stateful.relates_bind (readRecord_confined now _) fun raw => ?_
  cases raw with
  | none => exact writes _ _
  | some raw =>
      refine Stateful.relates_bind (lift_confined _) fun view => ?_
      exact Stateful.relates_ite (fun _ => fail_confined _) fun _ => writes _ _

private theorem currentSprayCount_confined (ip : JsString) (now : Nat) :
    Stateful.Relates (Confined log own) (currentSprayCount ip now) := by
  refine Stateful.relates_bind (readRecord_confined now _) fun raw => ?_
  cases raw with
  | none => exact pure_confined _
  | some raw => exact Stateful.relates_bind (lift_confined _) fun view => pure_confined _

theorem subjectSprayGuard_confined {env : Env} {ip subject : JsString} {now : Nat}
    (plain : PlainSubject subject) (sprayMine : own (.spray ip subject))
    (countMine : own (.sprayCount ip)) :
    Stateful.Relates (Confined log own) (subjectSprayGuard env ip subject now) := by
  unfold subjectSprayGuard
  extract_lets max ttl
  refine Stateful.relates_ite (fun _ => pure_confined ()) fun _ =>
    Stateful.relates_bind (readRecord_confined now _) fun seen => ?_
  cases seen with
  | some _ => exact pure_confined ()
  | none =>
      refine Stateful.relates_bind (currentSprayCount_confined ip now) fun count =>
        Stateful.relates_ite (fun _ => fail_confined _) fun _ => ?_
      exact Stateful.relates_bind
        (writeRecord_confined sprayMine
          (genuine_other (.spray ip subject) plain (by simp) _))
        fun _ => writeRecord_confined countMine
          (genuine_other (.sprayCount ip) trivial (by simp) _)

theorem claimReplayMarker_confined {subject nonce random : JsString} {ttl : Int} {now : Nat}
    (plain : PlainSubject subject) (mine : own (.marker subject nonce)) :
    Stateful.Relates (Confined log own) (claimReplayMarker subject nonce random ttl now) := by
  have writes (value : KvValue) (expires : Option Nat) :
      Stateful.Relates (Confined log own) (writeRecord (.marker subject nonce) value expires) :=
    writeRecord_confined mine
      (genuine_other (.marker subject nonce) plain (by simp) value)
  unfold claimReplayMarker
  refine Stateful.relates_bind (readRecord_confined now _) fun existing => ?_
  cases existing with
  | some _ => exact fail_confined _
  | none =>
      refine Stateful.relates_bind (writes _ _) fun _ =>
        Stateful.relates_bind (readRecord_confined now _) fun owned => ?_
      exact Stateful.relates_ite (fun _ => fail_confined _) fun _ => writes _ _

/-! ### Locks -/

/-- The namespace is confined, and the locks of the markers of others are kept. -/
structure Apart (log : List Request) (own : RecordId → Prop) (before after : Storage) : Prop where
  records : Confined log own before.kv after.kv
  locks : Keyed log before.kv → ∀ subject nonce, PlainSubject subject →
    ¬own (.marker subject nonce) →
    after.locks (replayKey subject nonce) = before.locks (replayKey subject nonce)

instance : Std.Refl (Apart log own) where
  refl _ := ⟨Std.Refl.refl _, fun _ _ _ _ _ => rfl⟩

instance : IsTrans Storage (Apart log own) where
  trans _ _ _ first second := ⟨IsTrans.trans _ _ _ first.records second.records,
    fun keyed subject nonce plain foreign =>
      (second.locks (first.records.confined keyed).1 subject nonce plain foreign).trans
        (first.locks keyed subject nonce plain foreign)⟩

theorem onKv_apart {α : Type} {action : KvHandler α}
    (confined : Stateful.Relates (Confined log own) action) :
    Stateful.Relates (Apart log own) (onKv action) :=
  relates_onKv (fun _ _ related => ⟨related, fun _ _ _ _ _ => rfl⟩) confined

/-- The key of a marker of a plain subject is not the key of another one. -/
private theorem replayKey_ne {subject nonce other otherNonce : JsString}
    (plain : PlainSubject subject) (mine : own (.marker subject nonce))
    (otherPlain : PlainSubject other) (foreign : ¬own (.marker other otherNonce)) :
    replayKey other otherNonce ≠ replayKey subject nonce := by
  intro same
  have equal : RecordId.marker other otherNonce = .marker subject nonce :=
    encode_injective otherPlain plain same
  rw [equal] at foreign
  exact foreign mine

/-- A claim of the lock of a marker leaves the other locks. -/
theorem checkReplayWithDurableObject_apart {subject nonce : JsString} {ttl : Int} {now : Nat}
    (plain : PlainSubject subject) (mine : own (.marker subject nonce)) :
    Stateful.Relates (Apart log own)
      (checkReplayWithDurableObject (replayKey subject nonce) ttl now) := by
  intro storage
  have claimed (lock : ReplayLock.Lock) : Apart log own storage { storage with
      locks := Function.update storage.locks (replayKey subject nonce) lock } := by
    refine ⟨Std.Refl.refl _, ?_⟩
    intro _ other otherNonce otherPlain foreign
    exact Function.update_of_ne (replayKey_ne plain mine otherPlain foreign) _ _
  unfold checkReplayWithDurableObject
  extract_lets answer next
  split
  next => exact claimed _
  next =>
    split
    next => exact claimed _
    next => exact claimed _

theorem checkReplay_apart {env : Env} {bound : Bool} {subject nonce random : JsString} {now : Nat}
    (plain : PlainSubject subject) (mine : own (.marker subject nonce)) :
    Stateful.Relates (Apart log own) (checkReplay env bound subject nonce random now) := by
  unfold checkReplay
  refine Stateful.relates_bind (Stateful.relates_lift _) fun ttl => Stateful.relates_ite ?_ ?_
  · intro _
    apply Stateful.relates_bind (checkReplayWithDurableObject_apart plain mine)
    intro _
    exact onKv_apart (writeRecord_confined mine
      (genuine_other (.marker subject nonce) plain (by simp) _))
  · intro _
    apply Stateful.relates_ite
    · intro _
      exact Stateful.relates_fail _
    · intro _
      exact onKv_apart (claimReplayMarker_confined plain mine)

end Routes

/-! ### What each request owns -/

/-- The records that belong to a request. -/
def Owns : Request → RecordId → Prop
  | .post ip subject nonce _ _ _, id =>
      id = .item subject nonce ∨ id = .marker subject nonce ∨ id = .rate ip ∨
        id = .spray ip subject ∨ id = .sprayCount ip
  | .get ip subject nonce, id => id = .item subject nonce ∨ id = .rate ip
  | .forget subject, id => ∃ nonce, id = .item subject nonce ∨ id = .marker subject nonce

/-- The subject of a request. -/
def requestSubject : Request → JsString
  | .post _ subject _ _ _ _ => subject
  | .get _ subject _ => subject
  | .forget subject => subject

theorem putInbox_confined {log : List Request} {own : RecordId → Prop} {env : Env}
    {subject nonce payload : JsString} {exp : Expiry} {now : Nat} (plain : PlainSubject subject)
    (mine : own (.item subject nonce)) (posted : Posted log subject nonce payload) :
    Stateful.Relates (Confined log own) (putInbox env subject nonce payload exp now) := by
  unfold putInbox
  refine Stateful.relates_bind (lift_confined _) fun _ =>
    Stateful.relates_bind (Stateful.relates_observe _) fun count =>
    Stateful.relates_bind (lift_confined _) fun _ =>
    Stateful.relates_bind (writeRecord_confined mine ⟨plain, ?_⟩) fun _ => pure_confined _
  rintro itemSubject itemNonce ⟨⟩
  exact ⟨payload, exp.json, rfl, posted⟩

theorem postInbox_apart {log : List Request} {env : Env} {bound : Bool}
    {ip subject nonce payload random : JsString} {exp : Expiry} {now : Nat}
    (plain : PlainSubject subject)
    (logged : Request.post ip subject nonce payload exp random ∈ log) :
    Stateful.Relates (Apart log (Owns (.post ip subject nonce payload exp random)))
      (postInbox env bound ip subject nonce payload exp random now) := by
  unfold postInbox
  refine Stateful.relates_ite (fun _ => Stateful.relates_fail _) fun _ =>
    Stateful.relates_bind (onKv_apart (rateLimit_confined (by simp [Owns]))) fun _ =>
    Stateful.relates_bind (onKv_apart
      (subjectSprayGuard_confined plain (by simp [Owns]) (by simp [Owns]))) fun _ =>
    Stateful.relates_bind (checkReplay_apart plain (by simp [Owns])) fun _ => ?_
  exact onKv_apart (putInbox_confined plain (by simp [Owns]) ⟨ip, exp, random, logged⟩)

theorem getInbox_confined {log : List Request} {env : Env} {ip subject nonce : JsString}
    {now : Nat} (plain : PlainSubject subject) :
    Stateful.Relates (Confined log (Owns (.get ip subject nonce)))
      (getInbox env ip subject nonce now) := by
  unfold getInbox
  refine Stateful.relates_bind (rateLimit_confined (by simp [Owns])) fun _ =>
    Stateful.relates_bind (readRecord_confined now _) fun raw => ?_
  cases raw with
  | none => exact fail_confined _
  | some raw =>
      exact Stateful.relates_bind (lift_confined _) fun view =>
        Stateful.relates_bind (deleteRecord_confined (by simp [Owns]) plain) fun _ =>
        pure_confined _

/-! ### Forgetting -/

/-- A planned key is the key of a record that belongs to the subject. -/
private theorem forgetPlan_owns {log : List Request} {env : Env} {subject key : JsString}
    {now : Nat} {kv : Kv} (keyed : Keyed log kv) (plain : PlainSubject subject)
    (planned : key ∈ (forgetPlan env subject now kv).inboxKeys ∨
      key ∈ (forgetPlan env subject now kv).replayKeys)
    {entry : Expiring Record} (found : kv.find key = some entry) :
    Owns (.forget subject) entry.value.owner := by
  obtain ⟨rfl, genuine⟩ := keyed key entry found
  obtain ⟨items, markers⟩ := forgetPlan_sublist env subject now kv
  rcases planned with inbox | replay
  · obtain ⟨nonce, owner⟩ :=
      (startsWith_item genuine.plain plain).mp (mem_keysFrom.mp (items.mem inbox)).2
    exact ⟨nonce, Or.inl owner⟩
  · obtain ⟨nonce, owner⟩ :=
      (startsWith_marker genuine.plain plain).mp (mem_keysFrom.mp (markers.mem replay)).2
    exact ⟨nonce, Or.inr owner⟩

/-- A planned marker key is the key of a marker of the subject. -/
private theorem forgetPlan_marker {log : List Request} {env : Env} {subject key : JsString}
    {now : Nat} {kv : Kv} (keyed : Keyed log kv) (plain : PlainSubject subject)
    (planned : key ∈ (forgetPlan env subject now kv).replayKeys) :
    ∃ nonce, key = replayKey subject nonce := by
  have listed := mem_keysFrom.mp ((forgetPlan_sublist env subject now kv).2.mem planned)
  obtain ⟨record, live⟩ := Option.isSome_iff_exists.mp listed.1
  obtain ⟨entry, found, -⟩ := Option.bind_eq_some_iff.mp live
  obtain ⟨rfl, genuine⟩ := keyed key entry found
  obtain ⟨nonce, owner⟩ := (startsWith_marker genuine.plain plain).mp listed.2
  exact ⟨nonce, congrArg RecordId.encode owner⟩

theorem runDeletes_apart {log : List Request} {env : Env} {bound : Bool} {subject : JsString}
    {now : Nat} (plain : PlainSubject subject) (storage : Storage) :
    Apart log (Owns (.forget subject)) storage
      (runDeletes bound (forgetPlan env subject now storage.kv) now storage) := by
  constructor
  · refine ⟨fun keyed => ⟨?_, ?_⟩⟩
    · intro key entry found
      simp only [runDeletes, find_eraseAll, Option.ite_none_left_eq_some] at found
      exact keyed key entry found.2.2
    · intro key entry found foreign
      have notReplay : key ∉ (forgetPlan env subject now storage.kv).replayKeys := fun member =>
        foreign (forgetPlan_owns keyed plain (Or.inr member) found)
      have notInbox : key ∉ (forgetPlan env subject now storage.kv).inboxKeys := fun member =>
        foreign (forgetPlan_owns keyed plain (Or.inl member) found)
      rw [runDeletes, find_eraseAll, find_eraseAll, if_neg notReplay, if_neg notInbox, found]
  · intro keyed other nonce otherPlain foreign
    have kept : replayKey other nonce ∉ (forgetPlan env subject now storage.kv).replayKeys := by
      intro member
      obtain ⟨own, same⟩ := forgetPlan_marker keyed plain member
      have mine : Owns (.forget subject) (.marker subject own) := ⟨own, Or.inr rfl⟩
      exact replayKey_ne plain mine otherPlain foreign same
    simp [runDeletes, forgetReplayLocks_apply, kept]

theorem forget_apart {log : List Request} {env : Env} {bound : Bool} {subject : JsString}
    {now : Nat} (plain : PlainSubject subject) :
    Stateful.Relates (Apart log (Owns (.forget subject))) (forget env bound subject now) := by
  intro storage
  by_cases empty : subject = []
  · have unchanged : (forget env bound subject now storage).2 = storage := by
      simp [forget, empty, Stateful.fail]
    rw [unchanged]
    exact Std.Refl.refl _
  · rw [forget_eq env bound empty]
    exact runDeletes_apart plain storage

theorem handle_apart {log : List Request} {env : Env} {bound : Bool} {call : Call}
    (plain : PlainSubject (requestSubject call.request)) (logged : call.request ∈ log) :
    Stateful.Relates (Apart log (Owns call.request)) (handle env bound call) := by
  unfold handle
  refine Stateful.relates_bind (Stateful.relates_lift _) fun _ => ?_
  obtain ⟨now, guard, request⟩ := call
  cases request with
  | post ip subject nonce payload exp random => exact postInbox_apart plain logged
  | get ip subject nonce => exact onKv_apart (getInbox_confined plain)
  | forget subject => exact forget_apart plain

/-! ### Isolation over runs -/

/-- What the isolation of subjects and nonces demands of one request: records
and locks of other owners are kept, a fetched envelope was posted for its
subject and nonce, and forgetting without overflow removes exactly the live
items and markers of its subject. -/
structure Isolated (env : Env) (bound : Bool) (world : World) (call : Call) : Prop where
  others : ∀ key entry, world.storage.kv.find key = some entry →
    ¬Owns call.request entry.value.owner →
    (handle env bound call world.storage).2.kv.find key = some entry
  otherLocks : ∀ subject nonce, PlainSubject subject →
    ¬Owns call.request (.marker subject nonce) →
    (handle env bound call world.storage).2.locks (replayKey subject nonce) =
      world.storage.locks (replayKey subject nonce)
  fetched : ∀ ip subject nonce payload exp, call.request = .get ip subject nonce →
    (handle env bound call world.storage).1 = .ok (.envelope payload exp) →
    ∃ text, payload = some text ∧ Posted world.log subject nonce text
  forgotten : ∀ subject deleted replayDeleted, call.request = .forget subject →
    (handle env bound call world.storage).1 = .ok (.forgotten deleted replayDeleted) →
    ∀ key entry, world.storage.kv.find key = some entry → entry.alive call.now = true →
      ((handle env bound call world.storage).2.kv.find key = none ↔
        ∃ nonce, entry.value.owner = .item subject nonce ∨ entry.value.owner = .marker subject nonce)

private theorem readRecord_some {kv final : Kv} {now : Nat} {id : RecordId} {raw : KvValue}
    (read : readRecord now id kv = (.ok (some raw), final)) :
    final = kv ∧ ∃ entry, kv.find id.encode = some entry ∧ entry.value.value = raw := by
  simp only [readRecord, Stateful.observe_eq_ok, Option.map_eq_some_iff] at read
  obtain ⟨⟨record, live, rfl⟩, rfl⟩ := read
  simp only [ExpiringStore.get, Option.bind_eq_some_iff] at live
  obtain ⟨entry, found, alive⟩ := live
  have same : entry.value = record := by
    simpa using (Option.ite_none_right_eq_some.mp alive).2
  exact ⟨rfl, entry, found, by rw [same]⟩

/-- A fetched envelope is the item posted for its subject and nonce. -/
private theorem getInbox_fetched {log : List Request} {env : Env} {ip subject nonce : JsString}
    {now : Nat} {kv : Kv} {payload exp : Option JsString} (keyed : Keyed log kv)
    (plain : PlainSubject subject)
    (fetched : (getInbox env ip subject nonce now kv).1 = .ok (.envelope payload exp)) :
    ∃ text, payload = some text ∧ Posted log subject nonce text := by
  have result : getInbox env ip subject nonce now kv =
      (.ok (.envelope payload exp), (getInbox env ip subject nonce now kv).2) :=
    Prod.ext fetched rfl
  unfold getInbox at result
  obtain ⟨_, limited, limitedEq, result⟩ := Stateful.bind_eq_ok.mp result
  have limitedKeyed : Keyed log limited := by
    have confined := @rateLimit_confined log (fun _ => True) env ip now trivial kv
    rw [limitedEq] at confined
    exact (confined.confined keyed).1
  obtain ⟨raw, read, readEq, result⟩ := Stateful.bind_eq_ok.mp result
  cases raw with
  | none => simp at result
  | some raw =>
      obtain ⟨rfl, entry, found, rfl⟩ := readRecord_some readEq
      obtain ⟨keyEq, genuine⟩ := limitedKeyed _ entry found
      have owner : entry.value.owner = .item subject nonce :=
        encode_injective genuine.plain plain keyEq.symm
      obtain ⟨text, itemExp, value, posted⟩ := genuine.item subject nonce owner
      simp only [value, KvValue.itemView, Stateful.bind_eq_ok, Stateful.lift_eq_ok,
        Stateful.pure_eq_ok] at result
      obtain ⟨view, _, ⟨viewEq, -⟩, _, _, -, responseEq, -⟩ := result
      cases viewEq
      cases responseEq
      exact ⟨text, rfl, posted⟩

/-- Without overflow the plan lists every live item and marker of the subject. -/
private theorem forgetPlan_complete {log : List Request} {env : Env} {subject key : JsString}
    {now : Nat} {kv : Kv} (keyed : Keyed log kv) (number : forgetMaxKeys env ≠ none)
    (whole : (forgetPlan env subject now kv).overflow = false) {entry : Expiring Record}
    (found : kv.find key = some entry) (alive : entry.alive now = true) {nonce : JsString}
    (owner : entry.value.owner = .item subject nonce ∨
      entry.value.owner = .marker subject nonce) :
    key ∈ (forgetPlan env subject now kv).inboxKeys ∨
      key ∈ (forgetPlan env subject now kv).replayKeys := by
  have live : (ExpiringStore.get kv now key).isSome = true := by
    simp [ExpiringStore.get, found, alive]
  have keyEq := (keyed key entry found).1
  obtain ⟨items, markers⟩ := forgetPlan_whole number whole
  rw [items, markers]
  rcases owner with item | marker
  · left
    refine mem_keysFrom.mpr ⟨live, startsWith_iff.mpr ⟨nonce, ?_⟩⟩
    rw [keyEq, item]
    simp [RecordId.encode, Inbox.key, itemPrefix]
  · right
    refine mem_keysFrom.mpr ⟨live, startsWith_iff.mpr ⟨nonce, ?_⟩⟩
    rw [keyEq, marker]
    simp [RecordId.encode, replayKey, replayPrefix]

private theorem forget_exact {log : List Request} {env : Env} {bound : Bool} {subject : JsString}
    {now : Nat} {storage : Storage} {deleted replayDeleted : Nat} (keyed : Keyed log storage.kv)
    (plain : PlainSubject subject) (number : forgetMaxKeys env ≠ none)
    (forgotten : (forget env bound subject now storage).1 = .ok (.forgotten deleted replayDeleted))
    {key : JsString} {entry : Expiring Record} (found : storage.kv.find key = some entry)
    (alive : entry.alive now = true) :
    (forget env bound subject now storage).2.kv.find key = none ↔
      ∃ nonce, entry.value.owner = .item subject nonce ∨
        entry.value.owner = .marker subject nonce := by
  by_cases empty : subject = []
  · simp [forget, empty, Stateful.fail] at forgotten
  rw [forget_eq env bound empty] at forgotten ⊢
  have whole : (forgetPlan env subject now storage.kv).overflow = false := by
    cases overflow : (forgetPlan env subject now storage.kv).overflow with
    | false => rfl
    | true => simp [overflow] at forgotten
  simp only [runDeletes, find_eraseAll]
  constructor
  · intro gone
    by_contra foreign
    have notReplay : key ∉ (forgetPlan env subject now storage.kv).replayKeys := fun member =>
      foreign (forgetPlan_owns keyed plain (Or.inr member) found)
    have notInbox : key ∉ (forgetPlan env subject now storage.kv).inboxKeys := fun member =>
      foreign (forgetPlan_owns keyed plain (Or.inl member) found)
    simp [notReplay, notInbox, found] at gone
  · rintro ⟨nonce, owner⟩
    rcases forgetPlan_complete keyed number whole found alive owner with member | member
    · simp [member]
    · simp [member]

/-- A guard that lets a request through leaves the storage to its route. -/
private theorem handle_eq {env : Env} {bound : Bool} {call : Call} {storage : Storage}
    {response : Response} (answered : (handle env bound call storage).1 = .ok response) :
    call.guard = .ok () := by
  unfold handle at answered
  cases guard : call.guard with
  | ok _ => rfl
  | error failure => simp [guard, bind, Stateful.lift] at answered

private theorem isolated_of_keyed {env : Env} {bound : Bool} {world : World} {call : Call}
    (number : forgetMaxKeys env ≠ none) (keyed : Keyed world.log world.storage.kv)
    (plain : PlainSubject (requestSubject call.request)) : Isolated env bound world call := by
  have logged : call.request ∈ world.log ++ [call.request] :=
    List.mem_append_right world.log (List.mem_singleton_self _)
  have apart := @handle_apart _ env bound _ plain logged world.storage
  constructor
  · exact (apart.records.confined keyed.mono).2
  · exact apart.locks keyed.mono
  · intro ip subject nonce payload exp request answered
    rw [request] at plain
    have guard := handle_eq answered
    simp only [handle, request, guard, bind, Stateful.lift] at answered
    exact getInbox_fetched keyed plain answered
  · intro subject deleted replayDeleted request answered key entry found alive
    rw [request] at plain
    have guard := handle_eq answered
    simp only [handle, request, guard, bind, Stateful.lift] at answered ⊢
    exact forget_exact keyed plain number answered found alive

private theorem keyed_step {env : Env} {bound : Bool} {world next : World} {call : Call}
    (keyed : Keyed world.log world.storage.kv)
    (plain : PlainSubject (requestSubject call.request))
    (stepped : step env bound world call = some next) : Keyed next.log next.storage.kv := by
  obtain rfl : _ = next := Option.some.inj stepped
  exact ((handle_apart plain (List.mem_append_right world.log (List.mem_singleton_self _))
    world.storage).records.confined keyed.mono).1

/-- After every run of inbox requests about plain subjects, the next request
about a plain subject is isolated, as long as the limit of forgotten keys is a
number. -/
theorem inbox_isolated {env : Env} {bound : Bool} (number : forgetMaxKeys env ≠ none)
    {calls : List Call} {world : World} (reached : run (step env bound) initial calls = some world)
    (plain : ∀ call ∈ calls, PlainSubject (requestSubject call.request)) {call : Call}
    (callPlain : PlainSubject (requestSubject call.request)) : Isolated env bound world call := by
  have keyed : Keyed world.log world.storage.kv :=
    run_invariant (fun world => Keyed world.log world.storage.kv)
      (fun holds plain stepped => keyed_step holds plain stepped)
      (by intro key entry found; simp [initial, Storage.empty] at found)
      (Meets.of_forall plain _) reached
  exact isolated_of_keyed number keyed callPlain

/-- An envelope posted for a subject and nonce at second 1000, its guard passed. -/
def postCall (subject nonce : String) : Call where
  now := 1000
  guard := .ok ()
  request := .post (js "203.0.113.7") (js subject) (js nonce) (js "envelope")
    ⟨js "4600", some 4600⟩ (js "1-a")

/-- A download of the envelope of a subject and nonce a second later. -/
def getCall (subject nonce : String) : Call where
  now := 1001
  guard := .ok ()
  request := .get (js "203.0.113.7") (js subject) (js nonce)

set_option maxRecDepth 20000 in
theorem inbox_isolated_alice :
    ∃ world, run (step {} true) initial [postCall "alice" "n-1", postCall "bob" "n-1"] =
        some world ∧
      Isolated {} true world (getCall "alice" "n-1") := by
  have plain : PlainSubject (js "alice") := by constructor <;> decide
  refine ⟨_, rfl, @inbox_isolated {} true (by decide)
    [postCall "alice" "n-1", postCall "bob" "n-1"] _ rfl ?_ _ plain⟩
  intro call member
  rcases List.mem_cons.mp member with rfl | member
  · exact plain
  · rw [List.mem_singleton.mp member]
    constructor <;> decide

/-- The subject and nonce of a request are not empty. -/
def Named : Request → Prop
  | .post _ subject nonce _ _ _ => subject ≠ [] ∧ nonce ≠ []
  | .get _ subject nonce => subject ≠ [] ∧ nonce ≠ []
  | .forget subject => subject ≠ []

set_option maxRecDepth 20000 in
/-- The envelope of subject `a:b` and nonce `c` is handed out for subject `a`
and nonce `b:c`. -/
theorem inbox_not_isolated :
    ¬∀ (env : Env) (bound : Bool) (calls : List Call) (world : World),
      (∀ call ∈ calls, Named call.request) → run (step env bound) initial calls = some world →
      ∀ call : Call, Named call.request → Isolated env bound world call := by
  intro claim
  have isolated := claim {} true [postCall "a:b" "c"] _
    (by simp [Named, postCall]; decide) rfl (getCall "a" "b:c") (by simp [Named, getCall]; decide)
  obtain ⟨text, -, ip, exp, random, member⟩ :=
    isolated.fetched (js "203.0.113.7") (js "a") (js "b:c") _ _ rfl rfl
  have subjects : js "a" = js "a:b" := by
    simp only [initial, List.nil_append, List.mem_singleton] at member
    exact (Request.post.inj member).2.1
  exact absurd subjects (by decide)

end DarkmeshGateway.SecretsWorker.InboxIsolation
