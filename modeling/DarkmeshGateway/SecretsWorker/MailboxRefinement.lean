import DarkmeshGateway.SecretsWorker.InboxIsolation
import DarkmeshGateway.SecretsWorker.Mailbox

/-!
Contract: the inbox routes refine the mailbox.

Owns the mailbox that the records and the lock objects present, the soundness
of storages, what each route does to both, and the conversations of the routes:
all of them are allowed by the mailbox, whether the lock objects are bound or
not.

Does not own concurrent requests, nor subjects that contain the key separator
or are the name of a record family.
-/

namespace DarkmeshGateway.SecretsWorker.MailboxRefinement

open Foundation
open Foundation.Js
open Foundation.Refinement
open SecretsWorker.Fields
open SecretsWorker.ReplayGuard (replayKey)
open SecretsWorker.ReplayLock (Lock Lock.held)
open SecretsWorker.Inbox
open SecretsWorker.InboxIsolation
open SecretsWorker.Mailbox

/-! ### Records by their owner -/

/-- The value and the expiry of the record with this owner. -/
def held (kv : Kv) (id : RecordId) : Option (Expiring KvValue) :=
  (kv.find id.encode).bind fun entry =>
    if entry.value.owner = id then some ⟨entry.value.value, entry.expires⟩ else none

/-- What the records of each family look like. -/
def Fits : RecordId → Expiring KvValue → Prop
  | .item _ _, entry => ∃ payload json, entry.value = .item payload json
  | .marker _ _, entry => ∃ last, entry.expires = some last
  | .rate _, entry => ∃ count reset, entry.value = .counter count reset
  | .spray _ _, _ => True
  | .sprayCount _, entry => ∃ count reset, entry.value = .counter count reset

/-- Every record lies under the key of its owner, is about a plain subject and
looks like its family. -/
structure Sound (kv : Kv) : Prop where
  keyed : ∀ key entry, kv.find key = some entry → key = entry.value.owner.encode
  plain : ∀ key entry, kv.find key = some entry → PlainId entry.value.owner
  fits : ∀ key entry, kv.find key = some entry →
    Fits entry.value.owner ⟨entry.value.value, entry.expires⟩

theorem sound_empty : Sound .empty := by constructor <;> simp

section Records

variable {kv : Kv} {id : RecordId}

/-- In a sound store the record under the key of an owner is the owner's. -/
theorem owner_of_find (sound : Sound kv) (plain : PlainId id) {entry : Expiring Record}
    (found : kv.find id.encode = some entry) : entry.value.owner = id :=
  (encode_injective plain (sound.plain _ entry found) (sound.keyed _ entry found)).symm

theorem held_eq_some (sound : Sound kv) (plain : PlainId id) {entry : Expiring Record}
    (found : kv.find id.encode = some entry) :
    held kv id = some ⟨entry.value.value, entry.expires⟩ := by
  simp [held, found, owner_of_find sound plain found]

/-- Of two owners with one key, a sound store holds a record of a plain one only. -/
theorem held_of_collision (sound : Sound kv) (plain : PlainId id) {other : RecordId}
    (different : other ≠ id) (sameKey : other.encode = id.encode) : held kv other = none := by
  simp only [held, sameKey, Option.bind_eq_none_iff, ite_eq_right_iff]
  intro entry found owner
  exact absurd (owner.symm.trans (owner_of_find sound plain found)) different

/-- A sound store holds records of plain owners only. -/
theorem plain_of_held (sound : Sound kv) {entry : Expiring KvValue}
    (holds : held kv id = some entry) : PlainId id := by
  simp only [held, Option.bind_eq_some_iff, Option.ite_none_right_eq_some] at holds
  obtain ⟨found, present, owner, -⟩ := holds
  exact owner ▸ sound.plain _ found present

theorem fits_of_held (sound : Sound kv) {entry : Expiring KvValue}
    (holds : held kv id = some entry) : Fits id entry := by
  simp only [held, Option.bind_eq_some_iff, Option.ite_none_right_eq_some] at holds
  obtain ⟨found, present, owner, same⟩ := holds
  cases same
  exact owner ▸ sound.fits _ found present

theorem sound_put (sound : Sound kv) (plain : PlainId id) {value : KvValue}
    {expires : Option Nat} (fits : Fits id ⟨value, expires⟩) :
    Sound (ExpiringStore.put kv id.encode ⟨id, value⟩ expires) := by
  have cases (key : JsString) (entry : Expiring Record)
      (found : (ExpiringStore.put kv id.encode ⟨id, value⟩ expires).find key = some entry) :
      (key = id.encode ∧ entry = ⟨⟨id, value⟩, expires⟩) ∨ kv.find key = some entry := by
    by_cases same : key = id.encode
    · rw [same, ExpiringStore.put, OrderedMap.find_set_self, Option.some.injEq] at found
      exact Or.inl ⟨same, found.symm⟩
    · rw [ExpiringStore.put, OrderedMap.find_set_other _ same] at found
      exact Or.inr found
  constructor
  · intro key entry found
    rcases cases key entry found with ⟨rfl, rfl⟩ | kept
    · rfl
    · exact sound.keyed key entry kept
  · intro key entry found
    rcases cases key entry found with ⟨rfl, rfl⟩ | kept
    · exact plain
    · exact sound.plain key entry kept
  · intro key entry found
    rcases cases key entry found with ⟨rfl, rfl⟩ | kept
    · exact fits
    · exact sound.fits key entry kept

/-- A store whose records were all there before is sound. -/
theorem sound_of_part {after : Kv} (sound : Sound kv)
    (part : ∀ key entry, after.find key = some entry → kv.find key = some entry) : Sound after :=
  ⟨fun key entry found => sound.keyed key entry (part key entry found),
    fun key entry found => sound.plain key entry (part key entry found),
    fun key entry found => sound.fits key entry (part key entry found)⟩

theorem held_put (sound : Sound kv) (plain : PlainId id) (value : KvValue)
    (expires : Option Nat) :
    held (ExpiringStore.put kv id.encode ⟨id, value⟩ expires) =
      Function.update (held kv) id (some ⟨value, expires⟩) := by
  funext other
  by_cases same : other = id
  · subst same
    simp [held, ExpiringStore.put]
  rw [Function.update_of_ne same]
  by_cases sameKey : other.encode = id.encode
  · rw [held_of_collision sound plain same sameKey]
    simp [held, ExpiringStore.put, sameKey, Ne.symm same]
  · simp [held, ExpiringStore.put, OrderedMap.find_set_other _ sameKey]

theorem held_erase (sound : Sound kv) (plain : PlainId id) :
    held (OrderedMap.erase kv id.encode) = Function.update (held kv) id none := by
  funext other
  by_cases same : other = id
  · subst same
    simp [held]
  rw [Function.update_of_ne same]
  by_cases sameKey : other.encode = id.encode
  · rw [held_of_collision sound plain same sameKey]
    simp [held, sameKey]
  · simp [held, OrderedMap.find_erase_other _ sameKey]

/-- The value a route reads. -/
def liveValue (kv : Kv) (now : Nat) (id : RecordId) : Option KvValue :=
  (held kv id).bind fun entry => if entry.alive now then some entry.value else none

theorem readRecord_eq (sound : Sound kv) (plain : PlainId id) (now : Nat) :
    readRecord now id kv = (.ok (liveValue kv now id), kv) := by
  simp only [readRecord, Stateful.observe, ExpiringStore.get, liveValue]
  cases found : kv.find id.encode with
  | none => simp [held, found]
  | some entry =>
      rw [held_eq_some sound plain found]
      cases alive : entry.alive now <;> simp_all [Expiring.alive]

end Records

/-! ### The presented mailbox -/

def presentedEnvelope (entry : Expiring KvValue) : Option Envelope :=
  match entry.value with
  | .item payload json => some ⟨payload, ⟨json, entry.expires⟩⟩
  | _ => none

/-- The nonce is kept by its lock, or by its marker where no lock is bound. -/
def presentedMark (bound : Bool) (lock : Lock) (last : Nat) : Mark where
  until_ := if bound then (lock.getD 0).toNat else last + 1
  listed := last

/-- The mailbox in a table of records, beside the locks. -/
def boxOf (bound : Bool) (locks : JsString → Lock)
    (table : RecordId → Option (Expiring KvValue)) : Box where
  envelopes slot := (table (.item slot.1 slot.2)).bind presentedEnvelope
  marks slot := ((table (.marker slot.1 slot.2)).bind Expiring.expires).map
    (presentedMark bound (locks (replayKey slot.1 slot.2)))

/-- The mailbox that a storage presents. -/
def mailbox (bound : Bool) (storage : Storage) : Box :=
  boxOf bound storage.locks (held storage.kv)

/-- The records are sound, and where locks are bound a lock is set beside a marker
only. -/
structure Kept (bound : Bool) (storage : Storage) : Prop where
  sound : Sound storage.kv
  marked : bound = true → ∀ subject nonce, PlainSubject subject →
    (storage.locks (replayKey subject nonce)).isSome →
    (held storage.kv (.marker subject nonce)).isSome

theorem kept_empty (bound : Bool) : Kept bound .empty :=
  ⟨sound_empty, fun _ _ _ _ impossible => absurd impossible Bool.false_ne_true⟩

theorem boxOf_update_item (bound : Bool) (locks : JsString → Lock)
    (table : RecordId → Option (Expiring KvValue)) (subject nonce : JsString)
    (entry : Option (Expiring KvValue)) :
    boxOf bound locks (Function.update table (.item subject nonce) entry) =
      { boxOf bound locks table with
        envelopes := Function.update (boxOf bound locks table).envelopes (subject, nonce)
          (entry.bind presentedEnvelope) } := by
  simp only [boxOf, Box.mk.injEq]
  constructor
  · funext slot
    by_cases same : slot = (subject, nonce)
    · subst same
      simp
    · have different : RecordId.item slot.1 slot.2 ≠ .item subject nonce := fun equal =>
        same (by injection equal with first second; exact Prod.ext first second)
      simp [same, different]
  · funext slot
    simp

/-- A marker that is written with its lock marks its nonce. -/
theorem mailbox_mark {bound : Bool} {storage : Storage} (sound : Sound storage.kv)
    {subject nonce : JsString} (plain : PlainSubject subject) (value : KvValue) (last : Nat)
    {locks : JsString → Lock}
    (others : ∀ key, key ≠ replayKey subject nonce → locks key = storage.locks key) :
    mailbox bound ⟨ExpiringStore.put storage.kv (RecordId.marker subject nonce).encode
        ⟨.marker subject nonce, value⟩ (some last), locks⟩ =
      (mailbox bound storage).mark (subject, nonce)
        (presentedMark bound (locks (replayKey subject nonce)) last) := by
  have markerPlain : PlainId (.marker subject nonce) := plain
  simp only [mailbox, held_put sound markerPlain, boxOf, Box.mark, Box.mk.injEq]
  constructor
  · funext slot
    simp
  · funext slot
    by_cases same : slot = (subject, nonce)
    · subst same
      simp
    · have different : RecordId.marker slot.1 slot.2 ≠ .marker subject nonce := fun equal =>
        same (by injection equal with first second; exact Prod.ext first second)
      rw [Function.update_of_ne different, Function.update_of_ne same]
      cases holds : held storage.kv (.marker slot.1 slot.2) with
      | none => rfl
      | some entry =>
          have otherKey : replayKey slot.1 slot.2 ≠ replayKey subject nonce := fun sameKey =>
            different (encode_injective (plain_of_held sound holds) markerPlain sameKey)
          rw [others _ otherKey]

/-- What a fetch reads is the live envelope. -/
theorem liveValue_item {bound : Bool} {storage : Storage} (sound : Sound storage.kv) (now : Nat)
    (subject nonce : JsString) :
    liveValue storage.kv now (.item subject nonce) =
      ((mailbox bound storage).live now (subject, nonce)).map fun envelope =>
        .item envelope.payload envelope.exp.json := by
  simp only [liveValue, Box.live, mailbox, boxOf]
  cases holds : held storage.kv (.item subject nonce) with
  | none => rfl
  | some entry =>
      obtain ⟨payload, json, written⟩ := fits_of_held sound holds
      have presented : presentedEnvelope entry = some ⟨payload, json, entry.expires⟩ := by
        rw [presentedEnvelope, written]
      rw [Option.bind_some, Option.bind_some, presented]
      show (if entry.alive now then some entry.value else none) = _
      have same : entry.alive now = Expiry.alive ⟨json, entry.expires⟩ now := rfl
      cases alive : entry.alive now <;> simp [Option.filter, ← same, alive, written]

/-- A marker can be read while its mark is listed. -/
theorem liveValue_marker {bound : Bool} {storage : Storage} (sound : Sound storage.kv) (now : Nat)
    (subject nonce : JsString) :
    (liveValue storage.kv now (.marker subject nonce)).isSome =
      (mailbox bound storage).listed now (subject, nonce) := by
  simp only [liveValue, Box.listed, mailbox, boxOf]
  cases entry : held storage.kv (.marker subject nonce) with
  | none => rfl
  | some entry =>
      obtain ⟨last, expires⟩ := fits_of_held sound entry
      by_cases alive : now ≤ last <;> simp [Expiring.alive, expires, presentedMark, alive]

/-- Without locks a nonce counts as used while its marker can be read. -/
theorem used_unbound {storage : Storage} (sound : Sound storage.kv) (now : Nat)
    (subject nonce : JsString) :
    (mailbox false storage).used now (subject, nonce) =
      (liveValue storage.kv now (.marker subject nonce)).isSome := by
  rw [@liveValue_marker false storage sound]
  simp only [Box.used, Box.listed, mailbox, boxOf, Option.any_map]
  congr 1
  funext last
  simp [presentedMark]

/-- With locks it counts as used while its lock is held. -/
theorem used_bound {storage : Storage} (kept : Kept true storage) (now : Nat)
    {subject : JsString} (plain : PlainSubject subject) (nonce : JsString) :
    (mailbox true storage).used now (subject, nonce) =
      (storage.locks (replayKey subject nonce)).held now := by
  simp only [Box.used, mailbox, boxOf]
  cases lock : storage.locks (replayKey subject nonce) with
  | none =>
      cases ((held storage.kv (.marker subject nonce)).bind Expiring.expires) with
      | none => rfl
      | some last => simp [presentedMark, Lock.held]
  | some exp =>
      have marked := kept.marked rfl subject nonce plain (by rw [lock]; rfl)
      obtain ⟨entry, holds⟩ := Option.isSome_iff_exists.mp marked
      obtain ⟨last, expires⟩ := fits_of_held kept.sound holds
      simp only [holds, Option.bind_some, expires, Option.map_some, Option.any_some,
        presentedMark, if_true, Option.getD_some, Lock.held]
      congr 1
      exact propext (by omega)

/-! ### Guards beside the mailbox -/

/-- A sound store stays sound and keeps its items and its markers. -/
structure Beside (before after : Kv) : Prop where
  beside : Sound before → Sound after ∧ ∀ subject nonce,
    held after (.item subject nonce) = held before (.item subject nonce) ∧
      held after (.marker subject nonce) = held before (.marker subject nonce)

instance : Std.Refl Beside := ⟨fun _ => ⟨fun sound => ⟨sound, fun _ _ => ⟨rfl, rfl⟩⟩⟩⟩

instance : IsTrans Kv Beside where
  trans _ _ _ first second := ⟨fun sound => by
    obtain ⟨middle, firstSame⟩ := first.beside sound
    obtain ⟨final, secondSame⟩ := second.beside middle
    refine ⟨final, fun subject nonce => ?_⟩
    obtain ⟨firstItem, firstMarker⟩ := firstSame subject nonce
    obtain ⟨secondItem, secondMarker⟩ := secondSame subject nonce
    exact ⟨secondItem.trans firstItem, secondMarker.trans firstMarker⟩⟩

/-- So a storage presents the same mailbox. -/
theorem Beside.mailbox_eq {bound : Bool} {storage : Storage} {kv : Kv}
    (beside : Beside storage.kv kv) (kept : Kept bound storage) :
    Kept bound { storage with kv } ∧
      mailbox bound { storage with kv } = mailbox bound storage := by
  obtain ⟨sound, same⟩ := beside.beside kept.sound
  refine ⟨⟨sound, fun isBound subject nonce plain locked => ?_⟩, ?_⟩
  · rw [(same subject nonce).2]
    exact kept.marked isBound subject nonce plain locked
  · simp only [mailbox, boxOf, (same _ _).1, (same _ _).2]

theorem writeRecord_beside {id : RecordId} {value : KvValue} {expires : Option Nat}
    (plain : PlainId id) (notItem : ∀ subject nonce, id ≠ .item subject nonce)
    (notMarker : ∀ subject nonce, id ≠ .marker subject nonce) (fits : Fits id ⟨value, expires⟩) :
    Stateful.Relates Beside (writeRecord id value expires) :=
  Stateful.relates_update fun kv => ⟨fun sound => ⟨sound_put sound plain fits, fun _ _ => by
    rw [held_put sound plain, Function.update_of_ne (notItem _ _).symm,
      Function.update_of_ne (notMarker _ _).symm]
    exact ⟨rfl, rfl⟩⟩⟩

private theorem readRecord_beside (now : Nat) (id : RecordId) :
    Stateful.Relates Beside (readRecord now id) :=
  Stateful.relates_observe _

theorem rateLimit_beside (env : Env) (ip : JsString) (now : Nat) :
    Stateful.Relates Beside (rateLimit env ip now) := by
  have writes (count : Nat) (reset : Option Int) (expires : Option Nat) :
      Stateful.Relates Beside (writeRecord (.rate ip) (.counter count reset) expires) :=
    writeRecord_beside trivial (by simp) (by simp) ⟨count, reset, rfl⟩
  unfold rateLimit
  extract_lets max ttl fresh
  refine Stateful.relates_ite (fun _ => Stateful.relates_pure ()) fun _ =>
    Stateful.relates_bind (readRecord_beside now _) fun raw => ?_
  cases raw with
  | none => exact writes _ _ _
  | some raw =>
      refine Stateful.relates_bind (Stateful.relates_lift _) fun view =>
        Stateful.relates_ite (fun _ => Stateful.relates_fail _) fun _ => ?_
      split
      · exact writes _ _ _
      · exact writes _ _ _

private theorem currentSprayCount_beside (ip : JsString) (now : Nat) :
    Stateful.Relates Beside (currentSprayCount ip now) := by
  refine Stateful.relates_bind (readRecord_beside now _) fun raw => ?_
  cases raw with
  | none => exact Stateful.relates_pure _
  | some raw =>
      exact Stateful.relates_bind (Stateful.relates_lift _) fun view => Stateful.relates_pure _

theorem subjectSprayGuard_beside {env : Env} {ip subject : JsString} {now : Nat}
    (plain : PlainSubject subject) :
    Stateful.Relates Beside (subjectSprayGuard env ip subject now) := by
  unfold subjectSprayGuard
  extract_lets max ttl
  refine Stateful.relates_ite (fun _ => Stateful.relates_pure ()) fun _ =>
    Stateful.relates_bind (readRecord_beside now _) fun seen => ?_
  cases seen with
  | some _ => exact Stateful.relates_pure ()
  | none =>
      refine Stateful.relates_bind (currentSprayCount_beside ip now) fun count =>
        Stateful.relates_ite (fun _ => Stateful.relates_fail _) fun _ => ?_
      exact Stateful.relates_bind (writeRecord_beside plain (by simp) (by simp) trivial)
        fun _ => writeRecord_beside trivial (by simp) (by simp) ⟨_, _, rfl⟩

/-- A counter record that is read is a counter. -/
theorem counter_of_liveValue {kv : Kv} (sound : Sound kv) {now : Nat}
    {raw : KvValue} (id : RecordId)
    (counts : ∀ entry, Fits id entry → ∃ count reset, entry.value = .counter count reset)
    (live : liveValue kv now id = some raw) : ∃ count reset, raw = .counter count reset := by
  simp only [liveValue, Option.bind_eq_some_iff, Option.ite_none_right_eq_some,
    Option.some.injEq] at live
  obtain ⟨entry, holds, -, rfl⟩ := live
  exact counts entry (fits_of_held sound holds)

/-- The rate limit either lets a request pass or names itself. -/
theorem rateLimit_outcome {kv : Kv} (sound : Sound kv) (env : Env) (ip : JsString) (now : Nat) :
    (rateLimit env ip now kv).1 = .ok () ∨
      (rateLimit env ip now kv).1 = .error ⟨429, "rate_limited"⟩ := by
  unfold rateLimit
  extract_lets
  split
  · exact Or.inl rfl
  rw [Stateful.bind_of_ok (readRecord_eq sound (show PlainId (.rate ip) from trivial) now)]
  cases live : liveValue kv now (.rate ip) with
  | none => exact Or.inl rfl
  | some raw =>
      obtain ⟨count, reset, rfl⟩ := counter_of_liveValue sound (.rate ip) (fun _ => id) live
      simp only [KvValue.counterView]
      rw [Stateful.lift_bind_of_ok rfl]
      dsimp only
      split
      · exact Or.inr rfl
      · exact Or.inl rfl

theorem currentSprayCount_ok {kv : Kv} (sound : Sound kv) (ip : JsString) (now : Nat) :
    ∃ count, currentSprayCount ip now kv = (.ok count, kv) := by
  unfold currentSprayCount
  rw [Stateful.bind_of_ok (readRecord_eq sound (show PlainId (.sprayCount ip) from trivial) now)]
  cases live : liveValue kv now (.sprayCount ip) with
  | none => exact ⟨0, rfl⟩
  | some raw =>
      obtain ⟨count, reset, rfl⟩ :=
        counter_of_liveValue sound (.sprayCount ip) (fun _ => id) live
      exact ⟨_, rfl⟩

theorem subjectSprayGuard_outcome {kv : Kv} (sound : Sound kv) (env : Env) (ip : JsString)
    {subject : JsString} (plain : PlainSubject subject) (now : Nat) :
    (subjectSprayGuard env ip subject now kv).1 = .ok () ∨
      (subjectSprayGuard env ip subject now kv).1 = .error ⟨429, "notify_subject_spray"⟩ := by
  unfold subjectSprayGuard
  split
  · exact Or.inl rfl
  rw [Stateful.bind_of_ok (readRecord_eq sound (show PlainId (.spray ip subject) from plain) now)]
  cases liveValue kv now (.spray ip subject) with
  | some _ => exact Or.inl rfl
  | none =>
      obtain ⟨count, counted⟩ := currentSprayCount_ok sound ip now
      dsimp only
      rw [Stateful.bind_of_ok counted]
      split
      · exact Or.inr rfl
      · exact Or.inl rfl

/-! ### Routes -/

/-- The outcome of a call on a sound storage is one its mailbox allows. -/
structure Presents (env : Env) (bound : Bool) (call : Call) (before : Storage)
    (result : Except HttpException Response × Storage) : Prop where
  kept : Kept bound result.2
  reacts : Reacts env bound (mailbox bound before) call result.1 (mailbox bound result.2)

variable {env : Env} {bound : Bool} {call : Call} {storage : Storage}

theorem presents_failure (kept : Kept bound storage) {failure : HttpException}
    (reacts : Reacts env bound (mailbox bound storage) call (.error failure)
      (mailbox bound storage)) :
    Presents env bound call storage (.error failure, storage) := ⟨kept, reacts⟩

/-- Behind a step beside the mailbox a route goes on from the same mailbox. -/
theorem presents_bind {α : Type} {first : KvHandler α} {next : α → Handler Response}
    (beside : Stateful.Relates Beside first) (kept : Kept bound storage)
    (fails : ∀ failure, (first storage.kv).1 = .error failure →
      Reacts env bound (mailbox bound storage) call (.error failure) (mailbox bound storage))
    (continues : ∀ value middle, (first storage.kv).1 = .ok value → Kept bound middle →
      mailbox bound middle = mailbox bound storage →
      Presents env bound call middle (next value middle)) :
    Presents env bound call storage ((onKv first >>= next) storage) := by
  obtain ⟨keptMiddle, same⟩ := (beside storage.kv).mailbox_eq kept
  cases ran : first storage.kv with
  | mk result middle =>
      rw [ran] at keptMiddle same
      cases result with
      | error failure =>
          rw [Stateful.bind_of_error (onKv_of_error ran)]
          refine ⟨keptMiddle, ?_⟩
          rw [same]
          exact fails failure (by rw [ran])
      | ok value =>
          rw [Stateful.bind_of_ok (onKv_of_ok ran)]
          obtain ⟨keptFinal, reacts⟩ := continues value _ (by rw [ran]) keptMiddle same
          exact ⟨keptFinal, same ▸ reacts⟩

/-- The rate limit in front of a metered route. -/
theorem presents_metered {now : Nat} {ip : JsString} {request : Request}
    (metered : Metered request) {next : Unit → Handler Response} (kept : Kept bound storage)
    (continues : ∀ middle, Kept bound middle → mailbox bound middle = mailbox bound storage →
      Presents env bound ⟨now, .ok (), request⟩ middle (next () middle)) :
    Presents env bound ⟨now, .ok (), request⟩ storage
      ((onKv (rateLimit env ip now) >>= next) storage) := by
  apply presents_bind (rateLimit_beside env ip now) kept
  · intro failure failed
    rcases rateLimit_outcome kept.sound env ip now with passed | limited
    · rw [passed] at failed
      cases failed
    · rw [limited] at failed
      cases failed
      exact .limited metered
  · intro _ middle _ keptMiddle same
    exact continues middle keptMiddle same

theorem getInbox_presents {now : Nat} {ip subject nonce : JsString} (kept : Kept bound storage)
    (plain : PlainSubject subject) :
    Presents env bound ⟨now, .ok (), .get ip subject nonce⟩ storage
      (onKv (getInbox env ip subject nonce now) storage) := by
  unfold getInbox
  rw [onKv_bind]
  apply presents_metered (show Metered (.get ip subject nonce) from trivial) kept
  intro middle keptMiddle _
  have itemPlain : PlainId (.item subject nonce) := plain
  rw [onKv_bind, Stateful.bind_of_ok (onKv_of_ok (readRecord_eq keptMiddle.sound itemPlain now)),
    @liveValue_item bound middle keptMiddle.sound now subject nonce]
  cases live : (mailbox bound middle).live now (subject, nonce) with
  | none => exact presents_failure keptMiddle (.notFound live)
  | some envelope =>
      have erased := held_erase keptMiddle.sound itemPlain
      have removed : mailbox bound
          { middle with kv := OrderedMap.erase middle.kv (RecordId.item subject nonce).encode } =
            (mailbox bound middle).remove (subject, nonce) := by
        rw [mailbox, erased, boxOf_update_item]
        rfl
      refine ⟨⟨?_, ?_⟩, ?_⟩
      · exact sound_of_part keptMiddle.sound fun key entry found => OrderedMap.find_of_erase found
      · intro isBound other otherNonce otherPlain locked
        show (held (OrderedMap.erase middle.kv (RecordId.item subject nonce).encode) _).isSome
        rw [erased, Function.update_of_ne (by simp)]
        exact keptMiddle.marked isBound other otherNonce otherPlain locked
      · exact removed ▸ Reacts.fetched live

/-! ### Posting -/

/-- The store behind the claim of a nonce. -/
def claimedKv (kv : Kv) (subject nonce random : JsString) (last : Nat) : Kv :=
  ExpiringStore.put kv (RecordId.marker subject nonce).encode
    ⟨.marker subject nonce, .text (js "claim:replay-" ++ random)⟩ (some last)

/-- The store behind the acceptance of a nonce. -/
def markedKv (kv : Kv) (subject nonce : JsString) (last : Nat) : Kv :=
  ExpiringStore.put kv (RecordId.marker subject nonce).encode
    ⟨.marker subject nonce, .text (js "1")⟩ (some last)

/-- The storage behind the acceptance of a nonce. -/
def markedStorage (bound : Bool) (storage : Storage) (subject nonce random : JsString) (now : Nat)
    (ttl : Int) : Storage :=
  if bound then {
    kv := markedKv storage.kv subject nonce (now + ttl).toNat
    locks := Function.update storage.locks (replayKey subject nonce) (some (now + min 86400 ttl)) }
  else { storage with
    kv := markedKv (claimedKv storage.kv subject nonce random (now + ttl).toNat) subject nonce
      (now + ttl).toNat }

section Markers

variable {subject : JsString}

theorem sound_claimedKv {kv : Kv} (sound : Sound kv) (plain : PlainSubject subject)
    (nonce random : JsString) (last : Nat) : Sound (claimedKv kv subject nonce random last) :=
  sound_put sound (show PlainId (.marker subject nonce) from plain) ⟨last, rfl⟩

theorem held_claimedKv {kv : Kv} (sound : Sound kv) (plain : PlainSubject subject)
    (nonce random : JsString) (last : Nat) :
    held (claimedKv kv subject nonce random last) =
      Function.update (held kv) (.marker subject nonce)
        (some ⟨.text (js "claim:replay-" ++ random), some last⟩) :=
  held_put sound (show PlainId (.marker subject nonce) from plain) _ _

theorem sound_markedKv {kv : Kv} (sound : Sound kv) (plain : PlainSubject subject)
    (nonce : JsString) (last : Nat) : Sound (markedKv kv subject nonce last) :=
  sound_put sound (show PlainId (.marker subject nonce) from plain) ⟨last, rfl⟩

theorem expirationTtl_window {ttl : Int} (positive : 0 < ttl) (now : Nat) :
    expirationTtl now (some ttl) = some (now + ttl).toNat := by
  have nonzero : ¬(ttl = 0 ∨ now + ttl = 0) := by omega
  simp [expirationTtl, nonzero]

/-- A lock is set beside the marker of the accepted nonce. -/
theorem kept_markedStorage (kept : Kept bound storage) (plain : PlainSubject subject)
    (nonce random : JsString) (now : Nat) (ttl : Int) :
    Kept bound (markedStorage bound storage subject nonce random now ttl) := by
  have markerPlain : PlainId (.marker subject nonce) := plain
  cases bound with
  | false =>
      refine ⟨?_, fun isBound => absurd isBound Bool.false_ne_true⟩
      exact sound_markedKv (sound_claimedKv kept.sound plain nonce random _) plain nonce _
  | true =>
      refine ⟨sound_markedKv kept.sound plain nonce _, ?_⟩
      intro _ other otherNonce otherPlain locked
      have table : held (markedKv storage.kv subject nonce (now + ttl).toNat) =
          Function.update (held storage.kv) (.marker subject nonce)
            (some ⟨.text (js "1"), some (now + ttl).toNat⟩) := held_put kept.sound markerPlain _ _
      show (held (markedKv storage.kv subject nonce (now + ttl).toNat) _).isSome
      rw [table]
      by_cases same : RecordId.marker other otherNonce = .marker subject nonce
      · rw [same, Function.update_self]
        rfl
      · have otherKey : replayKey other otherNonce ≠ replayKey subject nonce := fun sameKey =>
          same (encode_injective otherPlain plain sameKey)
        rw [Function.update_of_ne same]
        apply kept.marked rfl other otherNonce otherPlain
        have unlocked := locked
        simp only [markedStorage, if_true, Function.update_of_ne otherKey] at unlocked
        exact unlocked

theorem mailbox_markedStorage (kept : Kept bound storage) (plain : PlainSubject subject)
    (nonce random : JsString) (now : Nat) (ttl : Int) (positive : 0 < ttl) :
    mailbox bound (markedStorage bound storage subject nonce random now ttl) =
      (mailbox bound storage).mark (subject, nonce) (newMark bound now ttl) := by
  cases bound with
  | false =>
      have claimed := @mailbox_mark false storage kept.sound subject nonce plain
        (.text (js "claim:replay-" ++ random)) (now + ttl).toNat storage.locks fun _ _ => rfl
      have confirmed := @mailbox_mark false
        { storage with kv := claimedKv storage.kv subject nonce random (now + ttl).toNat }
        (sound_claimedKv kept.sound plain nonce random _) subject nonce plain (.text (js "1"))
        (now + ttl).toNat storage.locks fun _ _ => rfl
      have mark : presentedMark false (storage.locks (replayKey subject nonce)) (now + ttl).toNat =
          newMark false now ttl := by
        simp only [presentedMark, newMark, reuseAfter, Bool.false_eq_true, if_false, Mark.mk.injEq,
          and_true]
        omega
      rw [← mark]
      refine confirmed.trans ?_
      rw [show mailbox false { storage with
        kv := claimedKv storage.kv subject nonce random (now + ttl).toNat } = _ from claimed]
      simp [Box.mark]
  | true =>
      have marked := @mailbox_mark true storage kept.sound subject nonce plain (.text (js "1"))
        (now + ttl).toNat (Function.update storage.locks (replayKey subject nonce)
          (some (now + min 86400 ttl))) fun key other => Function.update_of_ne other _ _
      rw [Function.update_self] at marked
      exact marked

/-- The replay check accepts exactly the nonces that do not count as used, and
marks what it accepts. -/
theorem checkReplay_eq (kept : Kept bound storage) (plain : PlainSubject subject)
    (nonce random : JsString) (now : Nat) {ttl : Int} (window : replayWindow env = .ok ttl)
    (usable : bound = true ∨ cleanEnv env.replayStrongMode ≠ js "1") :
    checkReplay env bound subject nonce random now storage =
      if (mailbox bound storage).used now (subject, nonce) then (.error replayed, storage)
      else (.ok (), markedStorage bound storage subject nonce random now ttl) := by
  have markerPlain : PlainId (.marker subject nonce) := plain
  have positive := replayWindow_pos window
  unfold checkReplay
  rw [Stateful.lift_bind_of_ok window]
  cases bound with
  | true =>
      have claimed := checkReplayWithDurableObject_eq positive (replayKey subject nonce) now storage
      rw [if_pos rfl, used_bound kept now plain nonce]
      cases held : (storage.locks (replayKey subject nonce)).held now with
      | true =>
          rw [held, if_pos rfl] at claimed
          rw [Stateful.bind_of_error claimed]
          rfl
      | false =>
          rw [held, if_neg Bool.false_ne_true] at claimed
          rw [Stateful.bind_of_ok claimed, persistReplayMarker, expirationTtl_window positive]
          rfl
  | false =>
      have weak := usable.resolve_left Bool.false_ne_true
      rw [if_neg Bool.false_ne_true, if_neg weak, used_unbound kept.sound]
      unfold claimReplayMarker
      rw [onKv_bind, Stateful.bind_of_ok (onKv_of_ok (readRecord_eq kept.sound markerPlain now)),
        expirationTtl_window positive]
      cases live : liveValue storage.kv now (.marker subject nonce) with
      | some raw => rfl
      | none =>
          have claimed := sound_claimedKv kept.sound plain nonce random (now + ttl).toNat
          have readBack : liveValue (claimedKv storage.kv subject nonce random (now + ttl).toNat) now
              (.marker subject nonce) = some (.text (js "claim:replay-" ++ random)) := by
            have alive : now ≤ (now + ttl).toNat := by omega
            simp [liveValue, held_claimedKv kept.sound plain, Expiring.alive, alive]
          have written : writeRecord (.marker subject nonce) (.text (js "claim:replay-" ++ random))
              (some (now + ttl).toNat) storage.kv =
                (.ok (), claimedKv storage.kv subject nonce random (now + ttl).toNat) := rfl
          dsimp only
          rw [onKv_bind, Stateful.bind_of_ok (onKv_of_ok written), onKv_bind,
            Stateful.bind_of_ok (onKv_of_ok (readRecord_eq claimed markerPlain now)), readBack,
            persistReplayMarker, expirationTtl_window positive]
          simp [onKv, writeRecord, Stateful.update, markedStorage, markedKv]

end Markers

/-! ### Listings -/

/-- A list of distinct values of an injection is as long as the set of their arguments. -/
theorem length_eq_ncard {α β : Type*} [DecidableEq β] {list : List β} (distinct : list.Nodup)
    {f : α → β} (injective : Function.Injective f) (range : ∀ key ∈ list, ∃ argument, f argument = key) :
    list.length = {argument | f argument ∈ list}.ncard := by
  have preimage : {argument | f argument ∈ list} = Set.preimage f (list.toFinset : Set β) := by
    ext argument
    simp
  rw [preimage, Set.ncard_preimage_of_injective_subset_range injective, Set.ncard_coe_finset,
    List.toFinset_card_of_nodup distinct]
  intro key member
  exact range key (by simpa using member)

theorem nodup_keysFrom (kv : Kv) (now : Nat) (start : JsString) :
    (keysFrom kv now start).Nodup :=
  (kv.distinct.sublist (List.filter_sublist.map Prod.fst)).filter _

section Families

variable {now : Nat} {subject : JsString}

/-- The keys of one family that a listing selects are those of its live records. -/
theorem mem_keysFrom_family {kv : Kv} (sound : Sound kv) (start : JsString)
    (id : JsString → RecordId) (plain : ∀ nonce, PlainId (id nonce))
    (exact : ∀ owner, PlainId owner →
      (startsWith owner.encode start = true ↔ ∃ nonce, owner = id nonce)) (key : JsString) :
    key ∈ keysFrom kv now start ↔
      ∃ nonce, key = (id nonce).encode ∧ (liveValue kv now (id nonce)).isSome := by
  have live (nonce : JsString) :
      (ExpiringStore.get kv now (id nonce).encode).isSome = (liveValue kv now (id nonce)).isSome := by
    have read := readRecord_eq sound (plain nonce) now
    simp only [readRecord, Stateful.observe, Prod.mk.injEq, Except.ok.injEq, and_true] at read
    rw [← read, Option.isSome_map]
  rw [mem_keysFrom]
  constructor
  · rintro ⟨present, chosen⟩
    obtain ⟨record, found⟩ := Option.isSome_iff_exists.mp present
    simp only [ExpiringStore.get, Option.bind_eq_some_iff] at found
    obtain ⟨entry, found, -⟩ := found
    have keyed := sound.keyed key entry found
    obtain ⟨nonce, owner⟩ := (exact _ (sound.plain key entry found)).mp (keyed ▸ chosen)
    rw [owner] at keyed
    exact ⟨nonce, keyed, by rw [← live nonce, ← keyed, present]⟩
  · rintro ⟨nonce, rfl, present⟩
    exact ⟨by rw [live nonce, present], (exact _ (plain nonce)).mpr ⟨nonce, rfl⟩⟩

theorem mem_keysFrom_items (sound : Sound storage.kv) (plain : PlainSubject subject)
    (key : JsString) :
    key ∈ keysFrom storage.kv now (itemPrefix subject) ↔
      ∃ nonce, key = (RecordId.item subject nonce).encode ∧
        nonce ∈ (mailbox bound storage).liveNonces now subject := by
  rw [mem_keysFrom_family sound (itemPrefix subject) (.item subject) (fun _ => plain)
    fun owner ownerPlain => startsWith_item ownerPlain plain]
  simp only [@liveValue_item bound storage sound, Option.isSome_map, Box.liveNonces,
    Set.mem_ofPred_eq]

theorem mem_keysFrom_markers (sound : Sound storage.kv) (plain : PlainSubject subject)
    (key : JsString) :
    key ∈ keysFrom storage.kv now (replayPrefix subject) ↔
      ∃ nonce, key = (RecordId.marker subject nonce).encode ∧
        nonce ∈ (mailbox bound storage).markedNonces now subject := by
  rw [mem_keysFrom_family sound (replayPrefix subject) (.marker subject) (fun _ => plain)
    fun owner ownerPlain => startsWith_marker ownerPlain plain]
  simp only [@liveValue_marker bound storage sound, Box.markedNonces, Set.mem_ofPred_eq]

theorem encode_item_injective (plain : PlainSubject subject) :
    Function.Injective fun nonce => (RecordId.item subject nonce).encode := by
  intro first second same
  have equal : RecordId.item subject first = .item subject second :=
    encode_injective plain plain same
  injection equal

theorem encode_marker_injective (plain : PlainSubject subject) :
    Function.Injective fun nonce => (RecordId.marker subject nonce).encode := by
  intro first second same
  have equal : RecordId.marker subject first = .marker subject second :=
    encode_injective plain plain same
  injection equal

/-- The first keys of a listing of a family: they are as many as the limit and
the family allow, and all of them where the limit allows it. -/
structure Chosen (keys : List JsString) (encode : JsString → JsString) (family : Set JsString)
    (limit : Nat) : Prop where
  range : ∀ key ∈ keys, ∃ nonce, encode nonce = key
  part : {nonce | encode nonce ∈ keys} ⊆ family
  length : keys.length = min limit family.ncard
  count : {nonce | encode nonce ∈ keys}.ncard = min limit family.ncard
  whole : family.ncard ≤ limit → {nonce | encode nonce ∈ keys} = family

section Chosen

variable {keys : List JsString} {encode : JsString → JsString} {family : Set JsString}

/-- A listing of a family is as long as the family. -/
theorem length_of_listed (distinct : keys.Nodup) (injective : Function.Injective encode)
    (listed : ∀ key, key ∈ keys ↔ ∃ nonce, key = encode nonce ∧ nonce ∈ family) :
    keys.length = family.ncard ∧ {nonce | encode nonce ∈ keys} = family := by
  have familyEq : {nonce | encode nonce ∈ keys} = family := by
    ext nonce
    rw [Set.mem_ofPred_eq, listed]
    constructor
    · rintro ⟨other, same, member⟩
      exact injective same ▸ member
    · intro member
      exact ⟨nonce, rfl, member⟩
  refine ⟨?_, familyEq⟩
  rw [length_eq_ncard distinct injective, familyEq]
  intro key member
  obtain ⟨nonce, same, -⟩ := (listed key).mp member
  exact ⟨nonce, same.symm⟩

theorem chosen_take (distinct : keys.Nodup) (injective : Function.Injective encode)
    (listed : ∀ key, key ∈ keys ↔ ∃ nonce, key = encode nonce ∧ nonce ∈ family) (limit : Nat) :
    Chosen (keys.take limit) encode family limit := by
  obtain ⟨total, familyEq⟩ := length_of_listed distinct injective listed
  have range : ∀ key ∈ keys.take limit, ∃ nonce, encode nonce = key := by
    intro key member
    obtain ⟨nonce, same, -⟩ := (listed key).mp (List.mem_of_mem_take member)
    exact ⟨nonce, same.symm⟩
  have length : (keys.take limit).length = min limit family.ncard := by
    rw [List.length_take, total]
  refine ⟨range, ?_, length, ?_, ?_⟩
  · intro nonce member
    rw [← familyEq]
    exact List.mem_of_mem_take (show encode nonce ∈ keys.take limit from member)
  · rw [← length, length_eq_ncard (distinct.sublist (List.take_sublist _ _)) injective range]
  · intro few
    rw [List.take_of_length_le (total ▸ few), familyEq]

end Chosen

theorem chosen_items (sound : Sound storage.kv) (plain : PlainSubject subject) (now limit : Nat) :
    Chosen ((keysFrom storage.kv now (itemPrefix subject)).take limit)
      (fun nonce => (RecordId.item subject nonce).encode)
      ((mailbox bound storage).liveNonces now subject) limit :=
  chosen_take (nodup_keysFrom storage.kv now _) (encode_item_injective plain)
    (mem_keysFrom_items sound plain) limit

theorem chosen_markers (sound : Sound storage.kv) (plain : PlainSubject subject)
    (now limit : Nat) :
    Chosen ((keysFrom storage.kv now (replayPrefix subject)).take limit)
      (fun nonce => (RecordId.marker subject nonce).encode)
      ((mailbox bound storage).markedNonces now subject) limit :=
  chosen_take (nodup_keysFrom storage.kv now _) (encode_marker_injective plain)
    (mem_keysFrom_markers sound plain) limit

/-- The subject quota counts live envelopes, up to the page of the listing. -/
theorem currentSubjectCount_eq (sound : Sound storage.kv) (plain : PlainSubject subject)
    (now : Nat) :
    currentSubjectCount subject now storage.kv =
      (.ok (min 50 ((mailbox bound storage).liveNonces now subject).ncard), storage.kv) := by
  have length := (@chosen_items bound storage subject sound plain now 50).length
  rw [← length]
  rfl

end Families

/-- Behind the acceptance of its nonce a post is stored or rejected. -/
theorem putInbox_presents {now : Nat} {ip subject nonce payload random : JsString} {exp : Expiry}
    {ttl : Int} (kept : Kept bound storage) (plain : PlainSubject subject)
    (complete : subject ≠ [] ∧ nonce ≠ [] ∧ payload ≠ []) (window : replayWindow env = .ok ttl)
    (fresh : (mailbox bound storage).used now (subject, nonce) = false) :
    Presents env bound ⟨now, .ok (), .post ip subject nonce payload exp random⟩ storage
      (onKv (putInbox env subject nonce payload exp now)
        (markedStorage bound storage subject nonce random now ttl)) := by
  have keptMarked := kept_markedStorage kept plain nonce random now ttl
  have marked := mailbox_markedStorage kept plain nonce random now ttl (replayWindow_pos window)
  generalize markedStorage bound storage subject nonce random now ttl = middle at keptMarked marked ⊢
  have rejects {failure : HttpException}
      (excess : validatePayloadSize env payload = .error failure ∨ subjectLimit env
        (min 50 ((mailbox bound storage).liveNonces now subject).ncard) = .error failure) :
      Presents env bound ⟨now, .ok (), .post ip subject nonce payload exp random⟩ storage
        (.error failure, middle) :=
    ⟨keptMarked, marked ▸ .rejected window fresh excess⟩
  unfold putInbox
  cases sized : validatePayloadSize env payload with
  | error failure =>
      rw [onKv_of_error (Stateful.lift_bind_of_error rfl _ _)]
      exact rejects (Or.inl sized)
  | ok _ =>
      have count := @currentSubjectCount_eq bound middle subject keptMarked.sound plain now
      -- A marker does not change which envelopes are live.
      have sameNonces : (mailbox bound middle).liveNonces now subject =
          (mailbox bound storage).liveNonces now subject := by
        rw [marked]
        rfl
      rw [sameNonces] at count
      have passed : (Stateful.lift (.ok ()) : KvHandler Unit) middle.kv = (.ok (), middle.kv) := rfl
      rw [onKv_bind, Stateful.bind_of_ok (onKv_of_ok passed), onKv_bind,
        Stateful.bind_of_ok (onKv_of_ok count)]
      cases room : subjectLimit env (min 50 ((mailbox bound storage).liveNonces now subject).ncard) with
      | error failure =>
          rw [onKv_of_error (Stateful.lift_bind_of_error rfl _ _)]
          exact rejects (Or.inr room)
      | ok _ =>
          have itemPlain : PlainId (.item subject nonce) := plain
          have table := held_put keptMarked.sound itemPlain (.item payload exp.json) exp.last
          have deposited : mailbox bound { middle with
              kv := ExpiringStore.put middle.kv (RecordId.item subject nonce).encode
                ⟨.item subject nonce, .item payload exp.json⟩ exp.last } =
              ((mailbox bound storage).mark (subject, nonce) (newMark bound now ttl)).deposit
                (subject, nonce) ⟨payload, exp⟩ := by
            rw [mailbox, table, boxOf_update_item, ← marked]
            rfl
          refine ⟨⟨sound_put keptMarked.sound itemPlain ⟨payload, exp.json, rfl⟩, ?_⟩, ?_⟩
          · intro isBound other otherNonce otherPlain locked
            show (held (ExpiringStore.put middle.kv (RecordId.item subject nonce).encode
              ⟨.item subject nonce, .item payload exp.json⟩ exp.last) _).isSome
            rw [table, Function.update_of_ne (by simp)]
            exact keptMarked.marked isBound other otherNonce otherPlain locked
          · exact deposited ▸ Reacts.stored complete window fresh sized room

theorem postInbox_presents {now : Nat} {ip subject nonce payload random : JsString} {exp : Expiry}
    (kept : Kept bound storage) (plain : PlainSubject subject) :
    Presents env bound ⟨now, .ok (), .post ip subject nonce payload exp random⟩ storage
      (postInbox env bound ip subject nonce payload exp random now storage) := by
  unfold postInbox
  by_cases missing : subject = [] ∨ nonce = [] ∨ payload = []
  · rw [if_pos missing]
    exact presents_failure kept (.missingFields missing)
  have complete : subject ≠ [] ∧ nonce ≠ [] ∧ payload ≠ [] := by simpa only [not_or] using missing
  rw [if_neg missing]
  apply presents_metered (show Metered (.post ip subject nonce payload exp random) from trivial)
    kept
  intro limited keptLimited _
  apply presents_bind (subjectSprayGuard_beside plain) keptLimited
  · intro failure failed
    rcases subjectSprayGuard_outcome keptLimited.sound env ip plain now with passed | sprayed
    · rw [passed] at failed
      cases failed
    · rw [sprayed] at failed
      cases failed
      exact .sprayed
  intro _ guarded _ keptGuarded _
  cases window : replayWindow env with
  | error failure =>
      have checked : checkReplay env bound subject nonce random now guarded =
          (.error failure, guarded) := Stateful.lift_bind_of_error window _ _
      rw [Stateful.bind_of_error checked]
      exact presents_failure keptGuarded (.misconfigured (Or.inl window))
  | ok ttl =>
      by_cases unusable : bound = false ∧ cleanEnv env.replayStrongMode = js "1"
      · obtain ⟨rfl, strong⟩ := unusable
        have checked : checkReplay env false subject nonce random now guarded =
            (.error ⟨500, "missing_replay_lock_binding"⟩, guarded) := by
          unfold checkReplay
          rw [Stateful.lift_bind_of_ok window, if_neg Bool.false_ne_true, if_pos strong]
          rfl
        rw [Stateful.bind_of_error checked]
        exact presents_failure keptGuarded (.misconfigured (Or.inr ⟨rfl, strong, rfl⟩))
      have usable : bound = true ∨ cleanEnv env.replayStrongMode ≠ js "1" := by
        rw [not_and_or, Bool.not_eq_false] at unusable
        exact unusable
      have checked := checkReplay_eq keptGuarded plain nonce random now window usable
      cases used : (mailbox bound guarded).used now (subject, nonce) with
      | true =>
          rw [used, if_pos rfl] at checked
          rw [Stateful.bind_of_error checked]
          exact presents_failure keptGuarded (.replayed used)
      | false =>
          rw [used, if_neg Bool.false_ne_true] at checked
          rw [Stateful.bind_of_ok checked]
          exact putInbox_presents keptGuarded plain complete window used

/-! ### Forgetting -/

section Plans

variable {now : Nat} {subject : JsString}

/-- A page of a page is a prefix. -/
theorem sliceTo_sliceTo (keys : List JsString) (limit : Int) :
    sliceTo (sliceTo keys (some (limit + 1))) (some limit) =
      keys.take (pageLength limit keys.length) := by
  rw [sliceTo, length_sliceTo, sliceTo, List.take_take]
  congr 1
  simp only [pageLength, sliceEnd]
  omega

/-- The plan holds all keys of both listings, or the first of them when there are
too many. -/
theorem forgetPlan_eq {env : Env} {limit : Int} (setting : forgetMaxKeys env = some limit)
    (subject : JsString) (now : Nat) (kv : Kv) :
    let items := keysFrom kv now (itemPrefix subject)
    let markers := keysFrom kv now (replayPrefix subject)
    let overflow : Bool := limit < (items.length : Int) ∨ limit < (markers.length : Int)
    forgetPlan env subject now kv =
      { inboxKeys := items.take (if overflow then pageLength limit items.length else items.length)
        replayKeys :=
          markers.take (if overflow then pageLength limit markers.length else markers.length)
        overflow } := by
  simp only [forgetPlan, setting, Option.map_some, Option.any_some, length_sliceTo,
    lt_sliceEnd_iff]
  split
  next many => simp only [many, sliceTo_sliceTo]
  next few =>
    simp only [decide_eq_true_eq, not_or, not_lt] at few
    simp only [sliceTo_whole few.1, sliceTo_whole few.2, not_lt.mpr few.1, not_lt.mpr few.2,
      or_self, decide_false, List.take_length]

/-- A record whose key is one of a family is of the family. -/
theorem of_family {keys : List JsString} {id : JsString → RecordId}
    (range : ∀ key ∈ keys, ∃ nonce, (id nonce).encode = key) (plain : ∀ nonce, PlainId (id nonce))
    {owner : RecordId} (ownerPlain : PlainId owner) (member : owner.encode ∈ keys) :
    ∃ nonce, id nonce = owner := by
  obtain ⟨nonce, same⟩ := range _ member
  exact ⟨nonce, encode_injective (plain nonce) ownerPlain same⟩

/-- Deleting keys of items and keys of markers discards their envelopes and marks. -/
theorem mailbox_runDeletes (sound : Sound storage.kv) (plain : PlainSubject subject)
    {plan : ForgetPlan}
    (items : ∀ key ∈ plan.inboxKeys, ∃ nonce, (RecordId.item subject nonce).encode = key)
    (markers : ∀ key ∈ plan.replayKeys, ∃ nonce, (RecordId.marker subject nonce).encode = key) :
    mailbox bound (runDeletes bound plan now storage) =
      (mailbox bound storage).discard subject
        {nonce | (RecordId.item subject nonce).encode ∈ plan.inboxKeys}
        {nonce | (RecordId.marker subject nonce).encode ∈ plan.replayKeys} := by
  have heldErased (id : RecordId) : held (runDeletes bound plan now storage).kv id =
      if id.encode ∈ plan.inboxKeys ∨ id.encode ∈ plan.replayKeys then none
      else held storage.kv id := by
    simp only [held, runDeletes, find_eraseAll]
    by_cases item : id.encode ∈ plan.inboxKeys <;>
      by_cases marker : id.encode ∈ plan.replayKeys <;> simp [item, marker]
  simp only [mailbox, boxOf, Box.discard, Box.mk.injEq]
  constructor
  · funext slot
    rw [heldErased]
    cases holds : held storage.kv (.item slot.1 slot.2) with
    | none => simp
    | some entry =>
        have itemPlain := plain_of_held sound holds
        have notMarker : (RecordId.item slot.1 slot.2).encode ∉ plan.replayKeys := by
          intro member
          obtain ⟨nonce, same⟩ := of_family markers (fun _ => plain) itemPlain member
          cases same
        have exactly : (RecordId.item slot.1 slot.2).encode ∈ plan.inboxKeys ↔ slot.1 = subject ∧
            slot.2 ∈ {nonce | (RecordId.item subject nonce).encode ∈ plan.inboxKeys} := by
          constructor
          · intro member
            obtain ⟨nonce, same⟩ := of_family items (fun _ => plain) itemPlain member
            injection same with sameSubject sameNonce
            subst sameSubject
            exact ⟨rfl, member⟩
          · rintro ⟨rfl, member⟩
            exact member
        simp only [notMarker, or_false, exactly]
        split <;> rfl
  · funext slot
    rw [heldErased]
    cases holds : held storage.kv (.marker slot.1 slot.2) with
    | none => simp
    | some entry =>
        have markerPlain := plain_of_held sound holds
        have notItem : (RecordId.marker slot.1 slot.2).encode ∉ plan.inboxKeys := by
          intro member
          obtain ⟨nonce, same⟩ := of_family items (fun _ => plain) markerPlain member
          cases same
        have exactly : (RecordId.marker slot.1 slot.2).encode ∈ plan.replayKeys ↔
            slot.1 = subject ∧
              slot.2 ∈ {nonce | (RecordId.marker subject nonce).encode ∈ plan.replayKeys} := by
          constructor
          · intro member
            obtain ⟨nonce, same⟩ := of_family markers (fun _ => plain) markerPlain member
            injection same with sameSubject sameNonce
            subst sameSubject
            exact ⟨rfl, member⟩
          · rintro ⟨rfl, member⟩
            exact member
        -- A lock is released with its marker only.
        by_cases gone : (RecordId.marker slot.1 slot.2).encode ∈ plan.replayKeys
        · rw [if_pos (Or.inr gone), if_pos (exactly.mp gone)]
          rfl
        · have keptLock : (runDeletes bound plan now storage).locks (replayKey slot.1 slot.2) =
              storage.locks (replayKey slot.1 slot.2) := by
            show forgetReplayLocks bound plan.replayKeys now storage.locks _ = _
            rw [forgetReplayLocks_apply, if_neg]
            exact fun released => gone released.2
          rw [if_neg (not_or.mpr ⟨notItem, gone⟩), if_neg (fun member => gone (exactly.mpr member)),
            keptLock]

/-- And a lock stays set beside a marker only. -/
theorem kept_runDeletes (kept : Kept bound storage) (plain : PlainSubject subject)
    {plan : ForgetPlan}
    (items : ∀ key ∈ plan.inboxKeys, ∃ nonce, (RecordId.item subject nonce).encode = key) :
    Kept bound (runDeletes bound plan now storage) := by
  constructor
  · apply sound_of_part kept.sound
    intro key entry found
    simp only [runDeletes, find_eraseAll, Option.ite_none_left_eq_some] at found
    exact found.2.2
  · intro isBound other nonce otherPlain locked
    have markerPlain : PlainId (.marker other nonce) := otherPlain
    simp only [runDeletes, forgetReplayLocks_apply, isBound, true_and] at locked
    have kept_ : replayKey other nonce ∉ plan.replayKeys := by
      intro member
      rw [if_pos member] at locked
      cases locked
    rw [if_neg kept_] at locked
    have notItem : (RecordId.marker other nonce).encode ∉ plan.inboxKeys := by
      intro member
      obtain ⟨itemNonce, same⟩ := of_family items (fun _ => plain) markerPlain member
      cases same
    have notMarker : (RecordId.marker other nonce).encode ∉ plan.replayKeys := kept_
    have marked := kept.marked isBound other nonce otherPlain locked
    rw [held] at marked ⊢
    simpa only [runDeletes, find_eraseAll, if_neg notItem, if_neg notMarker] using marked

end Plans

theorem forget_presents {now : Nat} {subject : JsString} (kept : Kept bound storage)
    (plain : PlainSubject subject) :
    Presents env bound ⟨now, .ok (), .forget subject⟩ storage
      (forget env bound subject now storage) := by
  by_cases unnamed : subject = []
  · subst unnamed
    exact presents_failure kept .missingSubject
  cases setting : forgetMaxKeys env with
  | none =>
      rw [forget_unreadable setting unnamed]
      exact ⟨kept, .ignored unnamed setting⟩
  | some limit =>
      obtain ⟨itemTotal, -⟩ := length_of_listed (nodup_keysFrom storage.kv now _)
        (encode_item_injective plain) (@mem_keysFrom_items bound storage now subject kept.sound plain)
      obtain ⟨markerTotal, -⟩ := length_of_listed (nodup_keysFrom storage.kv now _)
        (encode_marker_injective plain)
        (@mem_keysFrom_markers bound storage now subject kept.sound plain)
      have planned := forgetPlan_eq setting subject now storage.kv
      dsimp only at planned
      rw [itemTotal, markerTotal] at planned
      have items := @chosen_items bound storage subject kept.sound plain now
      have markers := @chosen_markers bound storage subject kept.sound plain now
      rw [forget_eq env bound unnamed]
      by_cases many : limit < (((mailbox bound storage).liveNonces now subject).ncard : Int) ∨
          limit < (((mailbox bound storage).markedNonces now subject).ncard : Int)
      · simp only [many, decide_true, if_true] at planned
        rw [planned]
        have itemPage := items (pageLength limit
          ((mailbox bound storage).liveNonces now subject).ncard)
        have markerPage := markers (pageLength limit
          ((mailbox bound storage).markedNonces now subject).ncard)
        have few := pageLength_le limit
        refine ⟨kept_runDeletes kept plain itemPage.range, ?_⟩
        rw [mailbox_runDeletes kept.sound plain itemPage.range markerPage.range]
        have itemCount := itemPage.count
        have markerCount := markerPage.count
        rw [min_eq_left (few _)] at itemCount markerCount
        have reacts : Reacts env bound (mailbox bound storage) ⟨now, .ok (), .forget subject⟩ _ _ :=
          .tooManyKeys unnamed setting many itemPage.part itemCount markerPage.part markerCount
        rw [itemPage.count, ← itemPage.length, markerPage.count, ← markerPage.length] at reacts
        exact reacts
      · simp only [many, decide_false, Bool.false_eq_true, if_false] at planned
        rw [planned]
        have itemPage := items ((mailbox bound storage).liveNonces now subject).ncard
        have markerPage := markers ((mailbox bound storage).markedNonces now subject).ncard
        refine ⟨kept_runDeletes kept plain itemPage.range, ?_⟩
        rw [mailbox_runDeletes kept.sound plain itemPage.range markerPage.range,
          itemPage.whole le_rfl, markerPage.whole le_rfl]
        have few := not_or.mp many
        simp only [not_lt] at few
        have itemLength := itemPage.length
        have markerLength := markerPage.length
        rw [min_self] at itemLength markerLength
        have reacts : Reacts env bound (mailbox bound storage) ⟨now, .ok (), .forget subject⟩ _ _ :=
          .forgotten unnamed setting few
        rw [← itemLength, ← markerLength] at reacts
        exact reacts

/-! ### Conversations -/

theorem handle_presents (env : Env) (call : Call) (kept : Kept bound storage)
    (plain : PlainSubject (requestSubject call.request)) :
    Presents env bound call storage (handle env bound call storage) := by
  obtain ⟨now, guard, request⟩ := call
  unfold handle
  cases guard with
  | error failure =>
      rw [Stateful.lift_bind_of_error rfl]
      exact presents_failure kept .refused
  | ok _ =>
      rw [Stateful.lift_bind_of_ok rfl]
      cases request with
      | post ip subject nonce payload exp random => exact postInbox_presents kept plain
      | get ip subject nonce => exact getInbox_presents kept plain
      | forget subject => exact forget_presents kept plain

/-- The inbox service: one request after another on one storage. -/
def service (env : Env) (bound : Bool) (storage : Storage) (call : Call) :
    Except HttpException Response × Storage :=
  handle env bound call storage

/-- The answers of the inbox service to requests about plain subjects are
answers of a mailbox: whatever the requests, their times and the settings,
the conversation from the empty storage is one that the empty mailbox allows,
and the storage presents the mailbox it ends in. -/
theorem inbox_refines_mailbox (env : Env) (bound : Bool) (calls : List Call)
    (plain : ∀ call ∈ calls, PlainSubject (requestSubject call.request)) :
    ∃ final,
      Allows (Reacts env bound) .empty (converse (service env bound) .empty calls).1 final ∧
      Kept bound (converse (service env bound) .empty calls).2 ∧
      mailbox bound (converse (service env bound) .empty calls).2 = final := by
  have simulates (storage : Storage) (box : Box) (call : Call)
      (related : Kept bound storage ∧ mailbox bound storage = box)
      (callPlain : PlainSubject (requestSubject call.request)) :
      ∃ next, Reacts env bound box call (service env bound storage call).1 next ∧
        Kept bound (service env bound storage call).2 ∧
        mailbox bound (service env bound storage call).2 = next := by
    obtain ⟨kept, rfl⟩ := related
    obtain ⟨keptNext, reacts⟩ := handle_presents env call kept callPlain
    exact ⟨_, reacts, keptNext, rfl⟩
  exact converse_allowed (fun storage box => Kept bound storage ∧ mailbox bound storage = box)
    simulates ⟨kept_empty bound, rfl⟩ plain

def alicePost : Call :=
  ⟨0, .ok (), .post (js "10.0.0.1") (js "alice") (js "n1") (js "hello") ⟨js "3600", some 3600⟩ (js "0")⟩

def aliceFetch : Call := ⟨5, .ok (), .get (js "10.0.0.2") (js "alice") (js "n1")⟩

/-- A later post under the same nonce, in the first second it is accepted again. -/
def aliceRepost : Call :=
  ⟨600, .ok (), .post (js "10.0.0.1") (js "alice") (js "n1") (js "again") ⟨js "4200", some 4200⟩ (js "1")⟩

def aliceCalls : List Call := [alicePost, aliceFetch, aliceFetch, aliceRepost]

theorem alice_plain : PlainSubject (js "alice") := by constructor <;> decide

theorem aliceCalls_plain : ∀ call ∈ aliceCalls, PlainSubject (requestSubject call.request) := by
  have same : ∀ call ∈ aliceCalls, requestSubject call.request = js "alice" := by decide
  intro call member
  rw [same call member]
  exact alice_plain

theorem alice_refines_mailbox :
    ∃ final,
      Allows (Reacts {} true) .empty (converse (service {} true) .empty aliceCalls).1 final ∧
      Kept true (converse (service {} true) .empty aliceCalls).2 ∧
      mailbox true (converse (service {} true) .empty aliceCalls).2 = final :=
  inbox_refines_mailbox {} true aliceCalls aliceCalls_plain

theorem aliceCalls_answered :
    (converse (service {} true) .empty aliceCalls).1 =
      [(alicePost, .ok (.stored (js "3600"))),
        (aliceFetch, .ok (.envelope (some (js "hello")) (some (js "3600")))),
        (aliceFetch, .error ⟨404, "not_found"⟩), (aliceRepost, .ok (.stored (js "4200")))] := by
  rfl

/-- Every envelope the service hands out is the one of the latest post stored
for the subject and nonce; since that post neither another one for them was
stored nor was it handed out or completely forgotten, and it has not expired.
The limit of forgotten keys is a number. -/
theorem delivered_is_waiting (env : Env) (bound : Bool) (number : forgetMaxKeys env ≠ none)
    (calls : List Call) (plain : ∀ call ∈ calls, PlainSubject (requestSubject call.request))
    {before after : List Exchange} {call : Call} {ip subject nonce : JsString} {answer : Response}
    (conversation :
      (converse (service env bound) .empty calls).1 = before ++ (call, .ok answer) :: after)
    (fetch : call.request = .get ip subject nonce) :
    ∃ envelope, Waiting before (subject, nonce) envelope ∧ envelope.exp.alive call.now ∧
      answer = .envelope (some envelope.payload) (some envelope.exp.json) := by
  obtain ⟨final, allowed, -⟩ := inbox_refines_mailbox env bound calls plain
  rw [conversation] at allowed
  exact delivery_of_waiting number fetch allowed

theorem alice_is_waiting :
    ∃ envelope, Waiting [(alicePost, .ok (.stored (js "3600")))] (js "alice", js "n1") envelope ∧
      envelope.exp.alive 5 ∧
      Response.envelope (some (js "hello")) (some (js "3600")) =
        .envelope (some envelope.payload) (some envelope.exp.json) := by
  have conversation : (converse (service {} true) .empty aliceCalls).1 =
      [(alicePost, .ok (.stored (js "3600")))] ++
        (aliceFetch, .ok (.envelope (some (js "hello")) (some (js "3600")))) ::
          [(aliceFetch, .error ⟨404, "not_found"⟩), (aliceRepost, .ok (.stored (js "4200")))] :=
    aliceCalls_answered
  exact delivered_is_waiting {} true (by decide) aliceCalls aliceCalls_plain conversation rfl

/-- Two posts the service stored for one subject and nonce, with no answered
forget request of the subject in between, lie at least the time apart for which
a nonce is kept. -/
theorem stored_window_apart (env : Env) (bound : Bool) (calls : List Call)
    (plain : ∀ call ∈ calls, PlainSubject (requestSubject call.request)) {ttl : Int}
    (window : replayWindow env = .ok ttl) {early middle late : List Exchange}
    {first second : Exchange} {slot : Slot} {firstTime secondTime : Nat}
    {firstEnvelope secondEnvelope : Envelope}
    (conversation : (converse (service env bound) .empty calls).1 =
      early ++ first :: middle ++ second :: late)
    (firstStored : storedIn slot first = some (firstTime, firstEnvelope))
    (secondStored : storedIn slot second = some (secondTime, secondEnvelope))
    (unforgotten : ∀ exchange ∈ middle, forgetsIn slot.1 exchange = false) :
    firstTime + reuseAfter bound ttl ≤ secondTime := by
  obtain ⟨final, allowed, -⟩ := inbox_refines_mailbox env bound calls plain
  rw [conversation] at allowed
  exact window_between window allowed firstStored secondStored unforgotten

theorem alice_window_apart :
    replayWindow {} = .ok 600 ∧
      ((alicePost.now : Nat) : Int) + reuseAfter true 600 ≤ (aliceRepost.now : Nat) := by
  have window : replayWindow {} = .ok 600 := by decide
  have conversation : (converse (service {} true) .empty aliceCalls).1 =
      [] ++ (alicePost, .ok (.stored (js "3600"))) ::
        [(aliceFetch, .ok (.envelope (some (js "hello")) (some (js "3600")))),
          (aliceFetch, .error ⟨404, "not_found"⟩)] ++
          (aliceRepost, .ok (.stored (js "4200"))) :: [] := aliceCalls_answered
  have firstStored : storedIn (js "alice", js "n1") (alicePost, .ok (.stored (js "3600"))) =
      some (0, ⟨js "hello", js "3600", some 3600⟩) := rfl
  have secondStored : storedIn (js "alice", js "n1") (aliceRepost, .ok (.stored (js "4200"))) =
      some (600, ⟨js "again", js "4200", some 4200⟩) := rfl
  exact ⟨window, stored_window_apart {} true aliceCalls aliceCalls_plain window conversation
    firstStored secondStored (by simp [forgetsIn, aliceFetch])⟩

end DarkmeshGateway.SecretsWorker.MailboxRefinement
