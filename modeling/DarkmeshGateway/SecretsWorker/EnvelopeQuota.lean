import DarkmeshGateway.Foundation.Timeline
import DarkmeshGateway.SecretsWorker.InboxIsolation
import Mathlib.Data.List.Perm.Subperm

/-!
Contract: how many live envelopes a subject of the inbox can have.

Owns the live envelopes of a subject, what each route does to their number,
and the quota over runs of inbox requests one after another, whether the lock
objects are bound or not.

Does not own the routes.
-/

namespace DarkmeshGateway.SecretsWorker.EnvelopeQuota

open Foundation
open Foundation.Js
open Foundation.Timeline
open SecretsWorker.Fields
open SecretsWorker.Inbox
open SecretsWorker.InboxIsolation (PlainSubject PlainId encode_injective)
open SecretsWorker.ReplayGuard (replayKey)
open SecretsWorker.ReplayLock (Lock Lock.held)

/-! ### Envelopes -/

/-- The record is an envelope of the subject. -/
def envelopeOf (subject : JsString) : RecordId → Bool
  | .item owner _ => owner = subject
  | _ => false

/-- The keys of the live envelopes of a subject. -/
def liveEnvelopes (kv : Kv) (now : Nat) (subject : JsString) : List JsString :=
  (kv.entries.filter fun entry =>
    entry.2.alive now && envelopeOf subject entry.2.value.owner).map Prod.fst

/-- The storage after some requests, one after another. -/
def storageAfter (env : Env) (bound : Bool) (calls : List Call) : Storage :=
  after (fun storage call => (handle env bound call storage).2) .empty calls

def kvAfter (env : Env) (bound : Bool) (calls : List Call) : Kv := (storageAfter env bound calls).kv

theorem mem_liveEnvelopes (kv : Kv) (now : Nat) (subject key : JsString) :
    key ∈ liveEnvelopes kv now subject ↔
      ∃ entry, kv.find key = some entry ∧ entry.alive now = true ∧
        envelopeOf subject entry.value.owner = true := by
  simp only [liveEnvelopes, List.mem_map, List.mem_filter, Prod.exists, Bool.and_eq_true,
    OrderedMap.mem_entries_iff]
  constructor
  · intro listed
    obtain ⟨name, entry, ⟨found, holds⟩, same⟩ := listed
    exact ⟨entry, same ▸ found, holds⟩
  · intro held
    obtain ⟨entry, found, holds⟩ := held
    exact ⟨key, entry, ⟨found, holds⟩, rfl⟩

theorem nodup_liveEnvelopes (kv : Kv) (now : Nat) (subject : JsString) :
    (liveEnvelopes kv now subject).Nodup :=
  kv.distinct.sublist (List.filter_sublist.map Prod.fst)

/-- An entry that is alive was alive before. -/
theorem alive_earlier {entry : Expiring Record} {now later : Nat} (passed : now ≤ later)
    (alive : entry.alive later = true) : entry.alive now = true := by
  cases expires : entry.expires with
  | none => simp [Expiring.alive, expires]
  | some last =>
      simp only [Expiring.alive, expires, Option.all_some, decide_eq_true_eq] at alive ⊢
      omega

/-! ### Quotas -/

/-- Every record lies under the key of its owner, and no subject has more than
`max` live envelopes. -/
structure WithinQuota (max : Int) (now : Nat) (kv : Kv) : Prop where
  keyed : ∀ key entry, kv.find key = some entry → key = entry.value.owner.encode
  bounded : ∀ subject, ((liveEnvelopes kv now subject).length : Int) ≤ max

/-- The quota is kept. -/
def Keeps (max : Int) (now : Nat) (before after : Kv) : Prop :=
  WithinQuota max now before → WithinQuota max now after

/-- So it is in the namespace of a storage. -/
def KeepsIn (max : Int) (now : Nat) (before after : Storage) : Prop :=
  Keeps max now before.kv after.kv

section Routes

variable {max : Int} {now : Nat}

instance : Std.Refl (Keeps max now) := ⟨fun _ within => within⟩

instance : IsTrans Kv (Keeps max now) :=
  ⟨fun _ _ _ first second within => second (first within)⟩

instance : Std.Refl (KeepsIn max now) := ⟨fun _ within => within⟩

instance : IsTrans Storage (KeepsIn max now) :=
  ⟨fun _ _ _ first second within => second (first within)⟩

theorem onKv_keeps {α : Type} {action : KvHandler α}
    (keeps : Stateful.Relates (Keeps max now) action) :
    Stateful.Relates (KeepsIn max now) (onKv action) := relates_onKv (fun _ _ kept => kept) keeps

/-- A store whose envelopes were there before keeps the quota. -/
theorem keeps_of_subset {before after : Kv}
    (keyed : ∀ key entry, after.find key = some entry →
      before.find key = some entry ∨
        (key = entry.value.owner.encode ∧ ∀ subject, envelopeOf subject entry.value.owner = false)) :
    Keeps max now before after := by
  intro within
  constructor
  · intro key entry found
    rcases keyed key entry found with kept | other
    · exact within.keyed key entry kept
    · exact other.1
  · intro subject
    apply Int.le_trans _ (within.bounded subject)
    have part : liveEnvelopes after now subject ⊆ liveEnvelopes before now subject := by
      intro key member
      rw [mem_liveEnvelopes] at member ⊢
      obtain ⟨entry, found, alive, envelope⟩ := member
      rcases keyed key entry found with kept | other
      · exact ⟨entry, kept, alive, envelope⟩
      · rw [other.2 subject] at envelope
        cases envelope
    exact Int.ofNat_le.mpr ((nodup_liveEnvelopes after now subject).subperm part).length_le

theorem writeRecord_keeps {id : RecordId} {value : KvValue} {expires : Option Nat}
    (other : ∀ subject, envelopeOf subject id = false) :
    Stateful.Relates (Keeps max now) (writeRecord id value expires) := by
  intro kv
  apply keeps_of_subset
  intro key entry found
  by_cases same : key = id.encode
  · rw [same] at found ⊢
    have written : entry = ⟨⟨id, value⟩, expires⟩ := by
      simpa [writeRecord, Stateful.update, ExpiringStore.put] using found.symm
    rw [written]
    exact Or.inr ⟨rfl, other⟩
  · left
    rwa [writeRecord, Stateful.update, ExpiringStore.put, OrderedMap.find_set_other _ same] at found

theorem deleteRecord_keeps (id : RecordId) :
    Stateful.Relates (Keeps max now) (deleteRecord id) := by
  intro kv
  apply keeps_of_subset
  intro key entry found
  exact Or.inl (OrderedMap.find_of_erase found)

theorem readRecord_keeps (second : Nat) (id : RecordId) :
    Stateful.Relates (Keeps max now) (readRecord second id) := Stateful.relates_observe _

theorem rateLimit_keeps (env : Env) (ip : JsString) (second : Nat) :
    Stateful.Relates (Keeps max now) (rateLimit env ip second) := by
  have writes (value : KvValue) (expires : Option Nat) :
      Stateful.Relates (Keeps max now) (writeRecord (.rate ip) value expires) :=
    writeRecord_keeps fun _ => rfl
  unfold rateLimit
  extract_lets limit ttl fresh
  apply Stateful.relates_ite
  · intro _
    exact Stateful.relates_pure ()
  · intro _
    apply Stateful.relates_bind (readRecord_keeps second _)
    intro raw
    cases raw with
    | none => exact writes _ _
    | some raw =>
        refine Stateful.relates_bind (Stateful.relates_lift _) ?_
        intro view
        apply Stateful.relates_ite
        · intro _
          exact Stateful.relates_fail _
        · intro _
          exact writes _ _

theorem currentSprayCount_keeps (ip : JsString) (second : Nat) :
    Stateful.Relates (Keeps max now) (currentSprayCount ip second) := by
  unfold currentSprayCount
  apply Stateful.relates_bind (readRecord_keeps second _)
  intro raw
  cases raw with
  | none => exact Stateful.relates_pure _
  | some raw =>
      refine Stateful.relates_bind (Stateful.relates_lift _) ?_
      intro view
      exact Stateful.relates_pure _

theorem subjectSprayGuard_keeps (env : Env) (ip subject : JsString) (second : Nat) :
    Stateful.Relates (Keeps max now) (subjectSprayGuard env ip subject second) := by
  unfold subjectSprayGuard
  extract_lets limit ttl
  apply Stateful.relates_ite
  · intro _
    exact Stateful.relates_pure ()
  · intro _
    apply Stateful.relates_bind (readRecord_keeps second _)
    intro known
    cases known with
    | some _ => exact Stateful.relates_pure ()
    | none =>
        apply Stateful.relates_bind (currentSprayCount_keeps ip second)
        intro count
        apply Stateful.relates_ite
        · intro _
          exact Stateful.relates_fail _
        · intro _
          apply Stateful.relates_bind (writeRecord_keeps fun _ => rfl)
          intro _
          exact writeRecord_keeps fun _ => rfl

theorem claimReplayMarker_keeps (subject nonce random : JsString) (ttl : Int) (second : Nat) :
    Stateful.Relates (Keeps max now) (claimReplayMarker subject nonce random ttl second) := by
  unfold claimReplayMarker
  apply Stateful.relates_bind (readRecord_keeps second _)
  intro seen
  cases seen with
  | some _ => exact Stateful.relates_fail _
  | none =>
      extract_lets claimMarker
      apply Stateful.relates_bind (writeRecord_keeps fun _ => rfl)
      intro _
      apply Stateful.relates_bind (readRecord_keeps second _)
      intro owned
      apply Stateful.relates_ite
      · intro _
        exact Stateful.relates_fail _
      · intro _
        exact writeRecord_keeps fun _ => rfl

/-- A lock object is apart from the namespace. -/
theorem checkReplayWithDurableObject_kv (key : JsString) (ttl : Int) (second : Nat)
    (storage : Storage) :
    (checkReplayWithDurableObject key ttl second storage).2.kv = storage.kv := by
  unfold checkReplayWithDurableObject
  extract_lets answer claimed
  split
  next => rfl
  next => split <;> rfl

theorem checkReplay_keeps (env : Env) (bound : Bool) (subject nonce random : JsString)
    (second : Nat) :
    Stateful.Relates (KeepsIn max now) (checkReplay env bound subject nonce random second) := by
  unfold checkReplay
  refine Stateful.relates_bind (Stateful.relates_lift _) ?_
  intro ttl
  apply Stateful.relates_ite
  · intro _
    have locked : Stateful.Relates (KeepsIn max now)
        (checkReplayWithDurableObject (replayKey subject nonce) ttl second) := by
      intro storage within
      rwa [checkReplayWithDurableObject_kv]
    apply Stateful.relates_bind locked
    intro _
    exact onKv_keeps (writeRecord_keeps fun _ => rfl)
  · intro _
    apply Stateful.relates_ite
    · intro _
      exact Stateful.relates_fail _
    · intro _
      exact onKv_keeps (claimReplayMarker_keeps subject nonce random ttl second)

theorem getInbox_keeps (env : Env) (ip subject nonce : JsString) (second : Nat) :
    Stateful.Relates (Keeps max now) (getInbox env ip subject nonce second) := by
  unfold getInbox
  apply Stateful.relates_bind (rateLimit_keeps env ip second)
  intro _
  apply Stateful.relates_bind (readRecord_keeps second _)
  intro raw
  cases raw with
  | none => exact Stateful.relates_fail _
  | some raw =>
      refine Stateful.relates_bind (Stateful.relates_lift _) ?_
      intro view
      apply Stateful.relates_bind (deleteRecord_keeps _)
      intro _
      exact Stateful.relates_pure _

theorem forget_keeps (env : Env) (bound : Bool) (subject : JsString) (second : Nat) :
    Stateful.Relates (KeepsIn max now) (forget env bound subject second) := by
  unfold forget
  apply Stateful.relates_ite
  · intro _
    exact Stateful.relates_fail _
  · intro _
    refine Stateful.relates_bind (onKv_keeps (Stateful.relates_observe _)) ?_
    intro plan
    have erases : Stateful.Relates (KeepsIn max now)
        (Stateful.update (runDeletes bound plan second) : Handler Unit) := by
      intro storage
      apply keeps_of_subset
      intro key entry found
      simp only [Stateful.update, runDeletes, find_eraseAll, Option.ite_none_left_eq_some] at found
      exact Or.inl found.2.2
    apply Stateful.relates_bind erases
    intro _
    exact Stateful.relates_pure _

/-- The listing that is counted contains every live envelope of the subject, as
long as it does not reach its limit. -/
theorem liveEnvelopes_le_count {kv : Kv} (within : WithinQuota max now kv) (subject : JsString)
    (whole : (ExpiringStore.list kv now (startsWith · (itemPrefix subject)) 50).length < 50) :
    (liveEnvelopes kv now subject).length ≤
      (ExpiringStore.list kv now (startsWith · (itemPrefix subject)) 50).length := by
  apply ((nodup_liveEnvelopes kv now subject).subperm _).length_le
  intro key member
  rw [mem_liveEnvelopes] at member
  obtain ⟨entry, found, alive, envelope⟩ := member
  rw [ExpiringStore.mem_list_iff kv now whole]
  have live : (ExpiringStore.get kv now key).isSome := by
    simp [ExpiringStore.get, found, alive]
  refine ⟨live, ?_⟩
  rw [within.keyed key entry found]
  cases owner : entry.value.owner with
  | item name nonce =>
      have same : name = subject := by simpa [envelopeOf, owner] using envelope
      rw [same, startsWith, List.isPrefixOf_iff_prefix]
      exact ⟨nonce, by simp [RecordId.encode, Inbox.key, itemPrefix]⟩
  | marker | rate | spray | sprayCount => simp [envelopeOf, owner] at envelope

/-- A subject below the quota may have one more envelope. -/
theorem put_within {kv : Kv} (within : WithinQuota max now kv) {subject nonce payload : JsString}
    {exp : Expiry} (room : ((liveEnvelopes kv now subject).length : Int) < max) :
    WithinQuota max now (ExpiringStore.put kv (RecordId.item subject nonce).encode
      ⟨.item subject nonce, .item payload exp.json⟩ exp.last) := by
  constructor
  · intro key entry found
    by_cases same : key = (RecordId.item subject nonce).encode
    · rw [same] at found ⊢
      rw [ExpiringStore.put, OrderedMap.find_set_self, Option.some.injEq] at found
      rw [← found]
    · rw [ExpiringStore.put, OrderedMap.find_set_other _ same] at found
      exact within.keyed key entry found
  · intro other
    by_cases own : other = subject
    · have part : liveEnvelopes (ExpiringStore.put kv (RecordId.item subject nonce).encode
          ⟨.item subject nonce, .item payload exp.json⟩ exp.last) now other ⊆
          (RecordId.item subject nonce).encode :: liveEnvelopes kv now subject := by
        intro key member
        rw [mem_liveEnvelopes] at member
        obtain ⟨entry, found, holds⟩ := member
        by_cases same : key = (RecordId.item subject nonce).encode
        · rw [same]
          exact List.mem_cons_self
        · rw [ExpiringStore.put, OrderedMap.find_set_other _ same] at found
          exact List.mem_cons_of_mem _ ((mem_liveEnvelopes _ _ _ _).mpr ⟨entry, found, own ▸ holds⟩)
      have length := ((nodup_liveEnvelopes _ now other).subperm part).length_le
      rw [List.length_cons] at length
      omega
    · apply Int.le_trans _ (within.bounded other)
      have part : liveEnvelopes (ExpiringStore.put kv (RecordId.item subject nonce).encode
          ⟨.item subject nonce, .item payload exp.json⟩ exp.last) now other ⊆
          liveEnvelopes kv now other := by
        intro key member
        rw [mem_liveEnvelopes] at member ⊢
        obtain ⟨entry, found, alive, envelope⟩ := member
        by_cases same : key = (RecordId.item subject nonce).encode
        · rw [same, ExpiringStore.put, OrderedMap.find_set_self, Option.some.injEq] at found
          rw [← found] at envelope
          exact absurd (of_decide_eq_true envelope).symm own
        · rw [ExpiringStore.put, OrderedMap.find_set_other _ same] at found
          exact ⟨entry, found, alive, envelope⟩
      exact Int.ofNat_le.mpr ((nodup_liveEnvelopes _ now other).subperm part).length_le

/-- The replay check can succeed. -/
def Accepting (env : Env) (bound : Bool) : Prop :=
  (bound = true ∨ cleanEnv env.replayStrongMode ≠ js "1") ∧ ∃ ttl, replayWindow env = .ok ttl

theorem accepting_of_checkReplay {env : Env} {bound : Bool} {subject nonce random : JsString}
    {second : Nat} {storage final : Storage} {result : Unit}
    (passed : checkReplay env bound subject nonce random second storage = (.ok result, final)) :
    Accepting env bound := by
  unfold checkReplay at passed
  obtain ⟨ttl, middle, window, rest⟩ := Stateful.bind_eq_ok.mp passed
  refine ⟨?_, ttl, (Stateful.lift_eq_ok.mp window).1⟩
  cases bound with
  | true => exact Or.inl rfl
  | false =>
      refine Or.inr fun strong => ?_
      rw [if_neg Bool.false_ne_true, if_pos strong] at rest
      exact Stateful.fail_ne_ok rest

/-- The part of a post behind its replay check keeps a quota the listing can see. -/
theorem putInbox_keeps {env : Env} (subject nonce payload : JsString) (exp : Expiry)
    (configured : envNumber [env.subjectMaxEnvelopes] "10" = some max) (positive : 0 < max)
    (visible : max ≤ 50) :
    Stateful.Relates (Keeps max now) (putInbox env subject nonce payload exp now) := by
  unfold putInbox
  refine Stateful.relates_bind (Stateful.relates_lift _) ?_
  intro _ kv within
  show WithinQuota max now (((Stateful.lift (subjectLimit env
    (ExpiringStore.list kv now (startsWith · (itemPrefix subject)) 50).length) : KvHandler Unit) >>=
      fun _ => writeRecord (.item subject nonce) (.item payload exp.json) exp.last >>=
        fun _ => (pure (.stored exp.json) : KvHandler Response)) kv).2
  apply Stateful.holds_lift_bind within
  intro _ passed
  have room : ((ExpiringStore.list kv now (startsWith · (itemPrefix subject)) 50).length : Int) <
      max := by
    simpa [subjectLimit, configured, positive] using passed
  apply put_within within
  have counted := liveEnvelopes_le_count within subject (by omega)
  omega

/-- So does a post. -/
theorem postInbox_keeps {env : Env} {bound : Bool} (ip subject nonce payload : JsString)
    (exp : Expiry) (random : JsString)
    (configured : envNumber [env.subjectMaxEnvelopes] "10" = some max)
    (positive : 0 < max) (listed : Accepting env bound → max ≤ 50) :
    Stateful.Relates (KeepsIn max now)
      (postInbox env bound ip subject nonce payload exp random now) := by
  unfold postInbox
  apply Stateful.relates_ite
  · intro _
    exact Stateful.relates_fail _
  · intro _
    apply Stateful.relates_bind (onKv_keeps (rateLimit_keeps env ip now))
    intro _
    apply Stateful.relates_bind (onKv_keeps (subjectSprayGuard_keeps env ip subject now))
    intro _
    apply Stateful.relates_bind_of_ok (checkReplay_keeps env bound subject nonce random now)
    intro before _ claimed passedReplay
    have visible := listed (accepting_of_checkReplay passedReplay)
    exact onKv_keeps (putInbox_keeps subject nonce payload exp configured positive visible)

end Routes

/-! ### Posts that pass -/

/-- The computation succeeds and changes only the given keys. -/
def Passes {α : Type} (computation : KvHandler α) (kv : Kv) (touched : List JsString)
    (result : α) : Prop :=
  ∃ final, computation kv = (.ok result, final) ∧
    ∀ key, key ∉ touched → final.find key = kv.find key

/-- A first step that succeeds, and what it leaves unchanged for the rest. -/
theorem passes_bind {α β : Type} {first : KvHandler α} {next : α → KvHandler β} {kv : Kv}
    {early late : List JsString} {value : α} {result : β}
    (firstPasses : Passes first kv early value)
    (nextPasses : ∀ middle : Kv, (∀ key, key ∉ early → middle.find key = kv.find key) →
      Passes (next value) middle late result) :
    Passes (first >>= next) kv (early ++ late) result := by
  obtain ⟨middle, succeeded, kept⟩ := firstPasses
  obtain ⟨final, ended, keptLate⟩ := nextPasses middle kept
  refine ⟨final, Stateful.bind_eq_ok.mpr ⟨value, middle, succeeded, ended⟩, ?_⟩
  intro key untouched
  rw [List.mem_append, not_or] at untouched
  exact (keptLate key untouched.2).trans (kept key untouched.1)

/-- A first step whose end is known. -/
theorem passes_bind_eq {α β : Type} {first : KvHandler α} {next : α → KvHandler β} {kv middle : Kv}
    {touched : List JsString} {value : α} {result : β} (succeeded : first kv = (.ok value, middle))
    (kept : ∀ key, key ∉ touched → middle.find key = kv.find key)
    (nextPasses : Passes (next value) middle touched result) :
    Passes (first >>= next) kv touched result := by
  obtain ⟨final, ended, keptLate⟩ := nextPasses
  refine ⟨final, Stateful.bind_eq_ok.mpr ⟨value, middle, succeeded, ended⟩, ?_⟩
  intro key untouched
  exact (keptLate key untouched).trans (kept key untouched)

theorem passes_write (id : RecordId) (value : KvValue) (expires : Option Nat) (kv : Kv) :
    Passes (writeRecord id value expires) kv [id.encode] () := by
  refine ⟨_, rfl, ?_⟩
  intro key untouched
  exact OrderedMap.find_set_other _ (by simpa using untouched) _

theorem readRecord_absent {kv : Kv} {id : RecordId} (absent : kv.find id.encode = none)
    (now : Nat) : readRecord now id kv = (.ok none, kv) := by
  simp [readRecord, Stateful.observe, ExpiringStore.get, absent]

theorem rateLimit_passes {kv : Kv} {ip : JsString}
    (fresh : kv.find (RecordId.rate ip).encode = none) (env : Env) (now : Nat) :
    Passes (rateLimit env ip now) kv [(RecordId.rate ip).encode] () := by
  unfold rateLimit
  extract_lets limit ttl counter
  split
  · exact ⟨kv, rfl, fun _ _ => rfl⟩
  · exact passes_bind_eq (readRecord_absent fresh now) (fun _ _ => rfl) (passes_write _ _ _ kv)

theorem subjectSprayGuard_passes {kv : Kv} {ip subject : JsString}
    (fresh : kv.find (RecordId.spray ip subject).encode = none)
    (uncounted : kv.find (RecordId.sprayCount ip).encode = none) (env : Env) (now : Nat) :
    Passes (subjectSprayGuard env ip subject now) kv
      ([(RecordId.spray ip subject).encode] ++ [(RecordId.sprayCount ip).encode]) () := by
  unfold subjectSprayGuard
  extract_lets limit ttl
  split
  · exact ⟨kv, rfl, fun _ _ => rfl⟩
  next enabled =>
    have below : atLimit limit 0 = false := by
      simpa [atLimit] using enabled
    have counted : currentSprayCount ip now kv = (.ok 0, kv) :=
      Stateful.bind_eq_ok.mpr ⟨none, kv, readRecord_absent uncounted now, rfl⟩
    apply passes_bind_eq (readRecord_absent fresh now) (fun _ _ => rfl)
    apply passes_bind_eq counted (fun _ _ => rfl)
    simp only [below, Bool.false_eq_true, if_false]
    apply passes_bind (passes_write _ _ _ kv)
    intro middle _
    exact passes_write _ _ _ middle

/-- What was just written for longer than nothing is read. -/
theorem readRecord_written {ttl : Int} (positive : 0 < ttl) (kv : Kv) (id : RecordId)
    (value : KvValue) (now : Nat) :
    readRecord now id (ExpiringStore.put kv id.encode ⟨id, value⟩ (expirationTtl now (some ttl))) =
      (.ok (some value),
        ExpiringStore.put kv id.encode ⟨id, value⟩ (expirationTtl now (some ttl))) := by
  have expires : expirationTtl now (some ttl) = some (now + ttl).toNat := by
    have nonzero : ¬(ttl = 0 ∨ (now : Int) + ttl = 0) := by omega
    simp [expirationTtl, nonzero]
  have alive : (Expiring.mk (⟨id, value⟩ : Record) (some (now + ttl).toNat)).alive now = true := by
    simp only [Expiring.alive, Option.all_some, decide_eq_true_eq]
    omega
  simp [readRecord, Stateful.observe, expires, ExpiringStore.get_put_self, alive]

theorem claimReplayMarker_passes {ttl : Int} (positive : 0 < ttl) {kv : Kv}
    {subject nonce : JsString} (fresh : kv.find (RecordId.marker subject nonce).encode = none)
    (random : JsString) (now : Nat) :
    Passes (claimReplayMarker subject nonce random ttl now) kv
      [(RecordId.marker subject nonce).encode] () := by
  unfold claimReplayMarker
  apply passes_bind_eq (readRecord_absent fresh now) (fun _ _ => rfl)
  have claimed : ∀ key, key ∉ [(RecordId.marker subject nonce).encode] →
      (ExpiringStore.put kv (RecordId.marker subject nonce).encode
        ⟨.marker subject nonce, .text (js "claim:replay-" ++ random)⟩
        (expirationTtl now (some ttl))).find key = kv.find key := by
    intro key untouched
    exact OrderedMap.find_set_other _ (by simpa using untouched) _
  have wrote : writeRecord (.marker subject nonce) (.text (js "claim:replay-" ++ random))
      (expirationTtl now (some ttl)) kv = (.ok (), _) := rfl
  apply passes_bind_eq wrote claimed
  apply passes_bind_eq (readRecord_written positive kv _ _ now) (fun _ _ => rfl)
  simp only [ne_eq, not_true_eq_false, if_false]
  exact passes_write _ _ _ _

/-- A check of a new key succeeds, and changes only its marker and its lock. -/
theorem checkReplay_passes {env : Env} {bound : Bool} (accepting : Accepting env bound)
    {storage : Storage} {subject nonce : JsString}
    (fresh : storage.kv.find (RecordId.marker subject nonce).encode = none)
    (free : storage.locks (replayKey subject nonce) = none) (random : JsString) (now : Nat) :
    ∃ final, checkReplay env bound subject nonce random now storage = (.ok (), final) ∧
      (∀ key, key ∉ [(RecordId.marker subject nonce).encode] →
        final.kv.find key = storage.kv.find key) ∧
      ∀ key, key ≠ replayKey subject nonce → final.locks key = storage.locks key := by
  obtain ⟨usable, ttl, window⟩ := accepting
  have positive := replayWindow_pos window
  unfold checkReplay
  rw [Stateful.lift_bind_of_ok window]
  cases bound with
  | true =>
      have claimed := checkReplayWithDurableObject_eq positive (replayKey subject nonce) now storage
      rw [free, show Lock.held none (now : Int) = false from rfl,
        if_neg Bool.false_ne_true] at claimed
      rw [if_pos rfl, Stateful.bind_of_ok claimed]
      obtain ⟨kv, wrote, kept⟩ := passes_write (.marker subject nonce) (.text (js "1"))
        (expirationTtl now (some ttl)) storage.kv
      refine ⟨_, onKv_of_ok wrote, kept, ?_⟩
      intro key other
      exact Function.update_of_ne other _ _
  | false =>
      have weak : cleanEnv env.replayStrongMode ≠ js "1" := usable.resolve_left Bool.false_ne_true
      rw [if_neg Bool.false_ne_true, if_neg weak]
      obtain ⟨kv, passed, kept⟩ := claimReplayMarker_passes positive fresh random now
      exact ⟨_, onKv_of_ok passed, kept, fun _ _ => rfl⟩

/-- A record that a post of one subject writes before the envelope. -/
inductive Touched (ip subject nonce : JsString) : RecordId → Prop
  | rate : Touched ip subject nonce (.rate ip)
  | spray : Touched ip subject nonce (.spray ip subject)
  | sprayCount : Touched ip subject nonce (.sprayCount ip)
  | marker : Touched ip subject nonce (.marker subject nonce)

theorem Touched.plain {ip subject nonce : JsString} {id : RecordId}
    (touched : Touched ip subject nonce id) (plain : PlainSubject subject) : PlainId id := by
  cases touched with
  | rate => trivial
  | spray => exact plain
  | sprayCount => trivial
  | marker => exact plain

/-- A record that two posts touch is of one address or one nonce. -/
theorem Touched.meets {ip other subject nonce fresh : JsString} {id : RecordId}
    (first : Touched ip subject nonce id) (second : Touched other subject fresh id) :
    ip = other ∨ nonce = fresh := by
  cases first with
  | rate => cases second; exact Or.inl rfl
  | spray => cases second; exact Or.inl rfl
  | sprayCount => cases second; exact Or.inl rfl
  | marker => cases second; exact Or.inr rfl

/-- With a quota beyond the listing there is always room. -/
theorem putInbox_stores {env : Env} {max : Int}
    (configured : envNumber [env.subjectMaxEnvelopes] "10" = some max) (beyond : 50 < max)
    (subject nonce : JsString) (exp : Expiry) (now : Nat) (kv : Kv) :
    putInbox env subject nonce [112] exp now kv =
      (.ok (.stored exp.json), ExpiringStore.put kv (RecordId.item subject nonce).encode
        ⟨.item subject nonce, .item [112] exp.json⟩ exp.last) := by
  have small : validatePayloadSize env [112] = .ok () := by
    have size : utf8Length [112] = 1 := by decide
    have never : ∀ limit : Int, ¬(0 < limit ∧ limit < ((1 : Nat) : Int)) := by omega
    simp only [validatePayloadSize, size, never, decide_false, Option.any_false]
    rfl
  have counted : subjectLimit env (ExpiringStore.list kv now
      (startsWith · (itemPrefix subject)) 50).length = .ok () := by
    have page : (ExpiringStore.list kv now (startsWith · (itemPrefix subject)) 50).length ≤ 50 :=
      List.length_take_le _ _
    have room : ¬max ≤ ((ExpiringStore.list kv now
      (startsWith · (itemPrefix subject)) 50).length : Int) := by omega
    simp [subjectLimit, configured, room]
  unfold putInbox
  rw [Stateful.lift_bind_of_ok small]
  refine Stateful.bind_eq_ok.mpr ⟨_, _, rfl, ?_⟩
  exact Stateful.bind_eq_ok.mpr ⟨_, _, Stateful.lift_eq_ok.mpr ⟨counted, rfl⟩, rfl⟩

/-- A post from a new address under a new nonce is accepted when the quota is
beyond the listing. -/
theorem postInbox_passes {env : Env} {bound : Bool} {max : Int} (accepting : Accepting env bound)
    (configured : envNumber [env.subjectMaxEnvelopes] "10" = some max) (beyond : 50 < max)
    {storage : Storage} {ip subject nonce : JsString} (present : subject ≠ [])
    (named : nonce ≠ []) (plain : PlainSubject subject)
    (fresh : ∀ id, Touched ip subject nonce id → storage.kv.find id.encode = none)
    (free : storage.locks (replayKey subject nonce) = none) (exp : Expiry) (random : JsString)
    (now : Nat) :
    let final := (postInbox env bound ip subject nonce [112] exp random now storage).2
    final.kv.find (RecordId.item subject nonce).encode =
        some ⟨⟨.item subject nonce, .item [112] exp.json⟩, exp.last⟩ ∧
      (∀ id, PlainId id → ¬Touched ip subject nonce id → id ≠ .item subject nonce →
        final.kv.find id.encode = storage.kv.find id.encode) ∧
      ∀ key, key ≠ replayKey subject nonce → final.locks key = storage.locks key := by
  have apart {left right : RecordId} (leftPlain : PlainId left) (rightPlain : PlainId right)
      (different : left ≠ right) : left.encode ≠ right.encode :=
    fun same => different (encode_injective leftPlain rightPlain same)
  obtain ⟨limited, limitedEq, keptLimited⟩ := rateLimit_passes (fresh _ .rate) env now
  have freshLimited {id : RecordId} (touched : Touched ip subject nonce id)
      (other : id ≠ .rate ip) : limited.find id.encode = none := by
    rw [keptLimited, fresh id touched]
    exact List.mem_singleton.not.mpr (apart (touched.plain plain) trivial other)
  obtain ⟨sprayed, sprayedEq, keptSprayed⟩ := subjectSprayGuard_passes
    (freshLimited .spray (by simp)) (freshLimited .sprayCount (by simp)) env now
  have freshSprayed : sprayed.find (RecordId.marker subject nonce).encode = none := by
    rw [keptSprayed, freshLimited .marker (by simp)]
    simp only [List.singleton_append, List.mem_cons, List.not_mem_nil, or_false, not_or]
    exact ⟨apart plain plain (by simp), apart plain trivial (by simp)⟩
  obtain ⟨checked, checkedEq, keptChecked, keptLocks⟩ :=
    @checkReplay_passes env bound accepting { storage with kv := sprayed } subject nonce
      freshSprayed free random now
  have stored : postInbox env bound ip subject nonce [112] exp random now storage =
      (.ok (.stored exp.json), { checked with
        kv := ExpiringStore.put checked.kv (RecordId.item subject nonce).encode
          ⟨.item subject nonce, .item [112] exp.json⟩ exp.last }) := by
    unfold postInbox
    rw [if_neg (by simp [present, named]), Stateful.bind_of_ok (onKv_of_ok limitedEq),
      Stateful.bind_of_ok (onKv_of_ok sprayedEq), Stateful.bind_of_ok checkedEq]
    exact onKv_of_ok (putInbox_stores configured beyond subject nonce exp now checked.kv)
  rw [stored]
  refine ⟨OrderedMap.find_set_self _ _ _, ?_, keptLocks⟩
  intro id plainId untouched other
  have missed {touched : RecordId} (known : Touched ip subject nonce touched) :
      id.encode ≠ touched.encode :=
    apart plainId (known.plain plain) fun same => untouched (same ▸ known)
  have itemPlain : PlainId (.item subject nonce) := plain
  calc (ExpiringStore.put checked.kv (RecordId.item subject nonce).encode
        ⟨.item subject nonce, .item [112] exp.json⟩ exp.last).find id.encode
      = checked.kv.find id.encode := OrderedMap.find_set_other _ (apart plainId itemPlain other) _
    _ = sprayed.find id.encode := keptChecked _ (by simpa using missed .marker)
    _ = limited.find id.encode :=
        keptSprayed _ (by simpa using ⟨missed .spray, missed .sprayCount⟩)
    _ = storage.kv.find id.encode := keptLimited _ (by simpa using missed .rate)

/-! ### Whole runs -/

theorem WithinQuota.later {max : Int} {now later : Nat} {kv : Kv}
    (within : WithinQuota max now kv) (passed : now ≤ later) : WithinQuota max later kv := by
  refine ⟨within.keyed, ?_⟩
  intro subject
  apply Int.le_trans _ (within.bounded subject)
  have part : liveEnvelopes kv later subject ⊆ liveEnvelopes kv now subject := by
    intro key member
    rw [mem_liveEnvelopes] at member ⊢
    obtain ⟨entry, found, alive, envelope⟩ := member
    exact ⟨entry, found, alive_earlier passed alive, envelope⟩
  exact Int.ofNat_le.mpr ((nodup_liveEnvelopes kv later subject).subperm part).length_le

theorem handle_keeps {env : Env} {bound : Bool} {max : Int} (call : Call)
    (configured : envNumber [env.subjectMaxEnvelopes] "10" = some max) (positive : 0 < max)
    (listed : Accepting env bound → max ≤ 50) :
    Stateful.Relates (KeepsIn max call.now) (handle env bound call) := by
  unfold handle
  refine Stateful.relates_bind (Stateful.relates_lift _) ?_
  intro _
  cases call.request with
  | post ip subject nonce payload exp random =>
      exact postInbox_keeps ip subject nonce payload exp random configured positive listed
  | get ip subject nonce => exact onKv_keeps (getInbox_keeps env ip subject nonce call.now)
  | forget subject => exact forget_keeps env bound subject call.now

/-- After every run of inbox requests, one after another, no subject has more
live envelopes than a quota that the listing can see. -/
theorem live_le_quota {env : Env} {bound : Bool} {max : Int} {calls : List Call} {now : Nat}
    (configured : envNumber [env.subjectMaxEnvelopes] "10" = some max) (positive : 0 < max)
    (listed : Accepting env bound → max ≤ 50)
    (ordered : Ordered (fun call : Call => (call.now : Int)) calls)
    (late : ∀ call ∈ calls, call.now ≤ now) (subject : JsString) :
    ((liveEnvelopes (kvAfter env bound calls) now subject).length : Int) ≤ max := by
  have within : ∀ now, (∀ call ∈ calls, call.now ≤ now) →
      WithinQuota max now (kvAfter env bound calls) := by
    clear late
    induction calls using List.reverseRecOn with
    | nil =>
        intro now _
        refine ⟨by simp [kvAfter, storageAfter, Storage.empty], ?_⟩
        intro subject
        have none : liveEnvelopes (kvAfter env bound []) now subject = [] := rfl
        rw [none]
        exact Int.le_of_lt positive
    | append_singleton before call inductionHypothesis =>
        intro now late
        have past : ∀ earlier ∈ before, earlier.now ≤ call.now := by
          intro earlier member
          exact Int.ofNat_le.mp ((ordered_append_singleton.mp ordered).2 earlier member)
        have start := inductionHypothesis ordered.before call.now past
        have stepped : storageAfter env bound (before ++ [call]) =
            (handle env bound call (storageAfter env bound before)).2 :=
          after_append_singleton before call
        rw [kvAfter, stepped]
        have kept := handle_keeps call configured positive listed (storageAfter env bound before)
          start
        exact kept.later (late call (by simp))
  exact (within now late).bounded subject

/-! ### Beyond the listing -/

/-- A text of its own for every index. -/
def tag (index : Nat) : JsString := List.replicate (index + 1) 120

theorem tag_injective {left right : Nat} (same : tag left = tag right) : left = right := by
  have length := congrArg List.length same
  simpa [tag] using length

theorem tag_ne_nil (index : Nat) : tag index ≠ [] := by simp [tag]

/-- The expiry of a post at second zero under the default time to live. -/
def inAnHour : Expiry := ⟨js "3600", some 3600⟩

/-- An envelope of one subject, from an address and under a nonce of its own. -/
def crowdCall (index : Nat) : Call where
  now := 0
  guard := .ok ()
  request := .post (tag index) (js "s") (tag index) [112] inAnHour (js "r")

theorem plain_s : PlainSubject (js "s") := by constructor <;> decide

/-- Every post of the crowd is accepted. -/
theorem crowd_stored {env : Env} {bound : Bool} {max : Int} (accepting : Accepting env bound)
    (configured : envNumber [env.subjectMaxEnvelopes] "10" = some max) (beyond : 50 < max)
    (count : Nat) :
    let storage := storageAfter env bound ((List.range count).map crowdCall)
    (∀ index < count, storage.kv.find (RecordId.item (js "s") (tag index)).encode =
      some ⟨⟨.item (js "s") (tag index), .item [112] (js "3600")⟩, some 3600⟩) ∧
    ∀ index, count ≤ index →
      (∀ id, Touched (tag index) (js "s") (tag index) id → storage.kv.find id.encode = none) ∧
      storage.locks (replayKey (js "s") (tag index)) = none := by
  induction count with
  | zero =>
      refine ⟨by simp, ?_⟩
      intro index _
      exact ⟨fun _ _ => rfl, rfl⟩
  | succ count inductionHypothesis =>
      obtain ⟨stored, fresh⟩ := inductionHypothesis
      have extended : storageAfter env bound ((List.range (count + 1)).map crowdCall) =
          (postInbox env bound (tag count) (js "s") (tag count) [112] inAnHour (js "r") 0
            (storageAfter env bound ((List.range count).map crowdCall))).2 := by
        rw [List.range_succ, List.map_append]
        exact after_append_singleton _ _
      rw [extended]
      obtain ⟨untouched, free⟩ := fresh count (Nat.le_refl count)
      obtain ⟨accepted, kept, keptLocks⟩ := postInbox_passes accepting configured beyond
        (by decide) (tag_ne_nil count) plain_s untouched free inAnHour (js "r") 0
      constructor
      · intro index early
        by_cases last : index = count
        · rw [last]
          exact accepted
        · rw [kept (.item (js "s") (tag index)) plain_s (by rintro ⟨⟩)]
          · exact stored index (by omega)
          · intro same
            exact last (tag_injective (RecordId.item.inj same).2)
      · intro index late
        obtain ⟨absent, unlocked⟩ := fresh index (by omega)
        constructor
        · intro id touched
          have other : ¬Touched (tag count) (js "s") (tag count) id := by
            intro both
            have equal : index = count := (touched.meets both).elim tag_injective tag_injective
            omega
          rw [kept id (touched.plain plain_s) other]
          · exact absent id touched
          · rintro rfl
            cases touched
        · rw [keptLocks]
          · exact unlocked
          · intro same
            have markers : RecordId.marker (js "s") (tag index) = .marker (js "s") (tag count) :=
              encode_injective plain_s plain_s same
            have equal := tag_injective (RecordId.marker.inj markers).2
            omega

/-- A crowd has as many live envelopes as posts. -/
theorem crowd_live {env : Env} {bound : Bool} {max : Int} (accepting : Accepting env bound)
    (configured : envNumber [env.subjectMaxEnvelopes] "10" = some max) (beyond : 50 < max)
    (count : Nat) :
    count ≤
      (liveEnvelopes (kvAfter env bound ((List.range count).map crowdCall)) 0 (js "s")).length := by
  have keys : ((List.range count).map fun index =>
      (RecordId.item (js "s") (tag index)).encode).Nodup := by
    apply List.Nodup.map _ List.nodup_range
    intro left right same
    exact tag_injective (RecordId.item.inj (encode_injective plain_s plain_s same)).2
  have part : ((List.range count).map fun index => (RecordId.item (js "s") (tag index)).encode) ⊆
      liveEnvelopes (kvAfter env bound ((List.range count).map crowdCall)) 0 (js "s") := by
    intro key member
    rw [List.mem_map] at member
    obtain ⟨index, early, rfl⟩ := member
    rw [mem_liveEnvelopes]
    exact ⟨_, (crowd_stored accepting configured beyond count).1 index (List.mem_range.mp early),
      rfl, by simp [envelopeOf]⟩
  have length := (keys.subperm part).length_le
  simpa using length

/-- A quota is kept in every run of inbox requests, one after another, exactly
when it is within the listing that is counted, or no post can pass the replay
check at all. -/
theorem quota_kept_iff {env : Env} {bound : Bool} {max : Int}
    (configured : envNumber [env.subjectMaxEnvelopes] "10" = some max) (positive : 0 < max) :
    (∀ calls : List Call, Ordered (fun call : Call => (call.now : Int)) calls → ∀ now,
      (∀ call ∈ calls, call.now ≤ now) → ∀ subject,
        ((liveEnvelopes (kvAfter env bound calls) now subject).length : Int) ≤ max) ↔
      (Accepting env bound → max ≤ 50) := by
  constructor
  · intro kept accepting
    by_contra beyond
    have crowded := crowd_live accepting configured (by omega) (max.toNat + 1)
    have crowd : ∀ call ∈ (List.range (max.toNat + 1)).map crowdCall, call.now = 0 := by
      intro call member
      obtain ⟨index, -, rfl⟩ := List.mem_map.mp member
      rfl
    have ordered : Ordered (fun call : Call => (call.now : Int))
        ((List.range (max.toNat + 1)).map crowdCall) := by
      apply List.pairwise_of_forall_mem_list
      intro earlier first later last
      show (earlier.now : Int) ≤ later.now
      rw [crowd earlier first, crowd later last]
    have bounded := kept _ ordered 0 (fun call member => Nat.le_of_eq (crowd call member)) (js "s")
    omega
  · intro listed calls ordered now late subject
    exact live_le_quota configured positive listed ordered late subject

/-- The shipped replay settings: strong mode, and a lock that is bound. -/
def shippedEnv : Env := { replayStrongMode := some (js "1"), replayTtl := some (js "600") }

/-- The default quota of ten, under them. -/
theorem default_quota_kept :
    envNumber [shippedEnv.subjectMaxEnvelopes] "10" = some 10 ∧
    ∀ calls : List Call, Ordered (fun call : Call => (call.now : Int)) calls → ∀ now,
      (∀ call ∈ calls, call.now ≤ now) → ∀ subject,
        ((liveEnvelopes (kvAfter shippedEnv true calls) now subject).length : Int) ≤ 10 := by
  have configured : envNumber [shippedEnv.subjectMaxEnvelopes] "10" = some 10 := by decide
  exact ⟨configured, (quota_kept_iff configured (by decide)).mpr fun _ => by decide⟩

/-- A quota just beyond the listing, otherwise as shipped. -/
def fiftyOne : Env := { shippedEnv with subjectMaxEnvelopes := some (js "51") }

/-- The count stops at 50, below the quota, so the 52nd post is accepted too. -/
theorem quota_exceeded :
    envNumber [fiftyOne.subjectMaxEnvelopes] "10" = some 51 ∧
    51 < (liveEnvelopes (kvAfter fiftyOne true ((List.range 52).map crowdCall)) 0
      (js "s")).length := by
  have configured : envNumber [fiftyOne.subjectMaxEnvelopes] "10" = some 51 := by decide
  have accepting : Accepting fiftyOne true := ⟨Or.inl rfl, 600, by decide⟩
  exact ⟨configured, crowd_live accepting configured (by decide) 52⟩

end DarkmeshGateway.SecretsWorker.EnvelopeQuota
