import DarkmeshGateway.Foundation.Timeline
import DarkmeshGateway.Gateway.WebhookIdempotency
import Mathlib.Data.List.Perm.Subperm

/-!
Contract: the idempotency boundary of the GoPay webhook against an unbounded
ledger of accepted ids.

Owns the ledger, what it answers to a call, and the proof that the boundary
answers alike as long as its capacity is not exceeded.

Does not own the boundary's operations.
-/

namespace DarkmeshGateway.Gateway.WebhookLedger

open Foundation
open Foundation.Js
open Foundation.Timeline
open WebhookIdempotency

/-! ### The unbounded ledger -/

/-- A call of `classify`: the clock at the expiry check, the clock at the new
entry, and the arguments. -/
structure Call where
  now : Int
  seenAt : Int
  eventId : Option JsString
  fingerprint : JsString
  policy : Policy

/-- Every acceptance so far, the latest first. Nothing is ever removed. -/
abbrev Book := List (JsString × Entry)

/-- The acceptance is at most `ttlMs` ago. -/
def within (options : Options) (now : Int) (entry : Entry) : Bool :=
  now - entry.seenAt ≤ options.ttlMs

/-- The latest acceptance of an id, if it is recent. -/
def Book.recent (options : Options) (book : Book) (now : Int) (id : JsString) : Option Entry :=
  (book.lookup id).filter (within options now)

/-- What the unbounded ledger answers. -/
def judge (options : Options) (book : Book) (call : Call) : Status :=
  match normalizedEventId options call.eventId with
  | none => .missingId
  | some id =>
      match book.recent options call.now id with
      | none => .accepted
      | some prior => if prior.fingerprint = call.fingerprint then .duplicate else .conflict

/-- Only an accepted call is entered. -/
def enter (options : Options) (book : Book) (call : Call) : Book :=
  match normalizedEventId options call.eventId with
  | none => book
  | some id =>
      if judge options book call = .accepted then (id, ⟨call.fingerprint, call.seenAt⟩) :: book
      else book

def bookAfter (options : Options) (history : List Call) : Book :=
  after (enter options) [] history

/-! ### Runs -/

/-- The boundary after a history of calls. -/
def ledgerAfter (options : Options) (history : List Call) : Ledger :=
  after (fun ledger call =>
    (classify options ledger call.now call.seenAt call.eventId call.fingerprint call.policy).1)
    .empty history

/-- No clock reading is before an earlier one. -/
structure Monotone (history : List Call) : Prop where
  reading : ∀ call ∈ history, call.now ≤ call.seenAt
  ordered : history.Pairwise fun earlier later => earlier.seenAt ≤ later.now

/-- After no call are there more than `maxKeys` ids accepted within `ttlMs`. -/
def Uncrowded (options : Options) (history : List Call) : Prop :=
  ∀ before call rest, history = before ++ call :: rest → ∀ ids : List JsString, ids.Nodup →
    (∀ id ∈ ids, ((bookAfter options (before ++ [call])).recent options call.seenAt id).isSome) →
      ids.length ≤ options.maxKeys

structure Admissible (options : Options) (history : List Call) : Prop where
  monotone : Monotone history
  uncrowded : Uncrowded options history

theorem Admissible.before {options : Options} {history : List Call} {call : Call}
    (admissible : Admissible options (history ++ [call])) : Admissible options history := by
  refine ⟨⟨?_, ?_⟩, ?_⟩
  · intro earlier member
    exact admissible.monotone.reading earlier (List.mem_append_left _ member)
  · exact (List.pairwise_append.mp admissible.monotone.ordered).1
  · intro earlier other rest split
    apply admissible.uncrowded earlier other (rest ++ [call])
    simp [split]

theorem Admissible.past {options : Options} {history : List Call} {call : Call}
    (admissible : Admissible options (history ++ [call])) :
    ∀ earlier ∈ history, earlier.seenAt ≤ call.now := by
  have ordered := (List.pairwise_append.mp admissible.monotone.ordered).2.2
  intro earlier member
  exact ordered earlier member call (by simp)

theorem Admissible.reading {options : Options} {history : List Call} {call : Call}
    (admissible : Admissible options (history ++ [call])) : call.now ≤ call.seenAt :=
  admissible.monotone.reading call (by simp)

/-! ### The oldest entry -/

/-- The scan for the oldest entry ends on a least one. -/
theorem scan_spec (rest : List (JsString × Entry)) (first : JsString × Entry) :
    let oldest := rest.foldl (fun oldest entry =>
      if entry.2.seenAt < oldest.2.seenAt then entry else oldest) first
    oldest ∈ first :: rest ∧ ∀ entry ∈ first :: rest, oldest.2.seenAt ≤ entry.2.seenAt := by
  induction rest generalizing first with
  | nil => simp
  | cons head tail inductionHypothesis =>
      simp only [List.foldl_cons]
      split
      next earlier =>
        obtain ⟨member, least⟩ := inductionHypothesis head
        refine ⟨List.mem_cons_of_mem first member, ?_⟩
        intro entry listed
        rcases List.mem_cons.mp listed with same | listed
        · have bound := least head List.mem_cons_self
          rw [same]
          omega
        · exact least entry listed
      next later =>
        obtain ⟨member, least⟩ := inductionHypothesis first
        have bound := least first List.mem_cons_self
        constructor
        · rcases List.mem_cons.mp member with same | listed
          · rw [same]
            exact List.mem_cons_self
          · exact List.mem_cons_of_mem _ (List.mem_cons_of_mem _ listed)
        · intro entry listed
          rcases List.mem_cons.mp listed with same | listed
          · rw [same]
            exact bound
          · rcases List.mem_cons.mp listed with same | listed
            · rw [same]
              omega
            · exact least entry (List.mem_cons_of_mem _ listed)

theorem oldestEntry_spec {entries : List (JsString × Entry)} {oldest : JsString × Entry}
    (found : oldestEntry entries = some oldest) :
    oldest ∈ entries ∧ ∀ entry ∈ entries, oldest.2.seenAt ≤ entry.2.seenAt := by
  cases entries with
  | nil => simp [oldestEntry] at found
  | cons first rest =>
      rw [oldestEntry, Option.some.injEq] at found
      exact found ▸ scan_spec rest first

/-- A ledger of proper ids loses one of its earliest entries. -/
theorem pruneOldest_spec {ledger : Ledger} (nonempty : 0 < ledger.size)
    (proper : ∀ id, (ledger.find id).isSome → id ≠ []) :
    ∃ gone entry, ledger.find gone = some entry ∧ pruneOldest ledger = ledger.erase gone ∧
      ∀ id other, ledger.find id = some other → entry.seenAt ≤ other.seenAt := by
  cases found : oldestEntry ledger.entries with
  | none =>
      cases entries : ledger.entries with
      | nil => simp [OrderedMap.size, entries] at nonempty
      | cons first rest => simp [oldestEntry, entries] at found
  | some oldest =>
      obtain ⟨member, least⟩ := oldestEntry_spec found
      have held := (ledger.mem_entries_iff oldest.1 oldest.2).mp member
      have named := proper oldest.1 (by simp [held])
      refine ⟨oldest.1, oldest.2, held, ?_, ?_⟩
      · simp [pruneOldest, found, named]
      · intro id other foundOther
        exact least (id, other) ((ledger.mem_entries_iff id other).mpr foundOther)

/-! ### Simulation -/

theorem not_expired_eq (options : Options) (now : Int) (entry : Entry) :
    (!expired options now entry) = within options now entry := by
  unfold expired within
  rw [← decide_not]
  exact decide_eq_decide.mpr Int.not_lt

theorem find_pruned (options : Options) (ledger : Ledger) (now : Int) (id : JsString) :
    (pruneExpired options ledger now).find id = (ledger.find id).filter (within options now) := by
  rw [find_pruneExpired]
  congr 1
  funext entry
  exact not_expired_eq options now entry

/-- What is recent later was recent before. -/
theorem filter_later {options : Options} {now later : Int} (passed : now ≤ later)
    (entry : Option Entry) :
    (entry.filter (within options now)).filter (within options later) =
      entry.filter (within options later) := by
  apply Timeline.filter_expired
  intro held recent
  simp only [within, decide_eq_true_eq] at recent ⊢
  omega

/-- The boundary holds exactly the recent acceptances, within its capacity. -/
structure Mirrors (options : Options) (book : Book) (ledger : Ledger) (now : Int) : Prop where
  agree : ∀ id, (ledger.find id).filter (within options now) = book.recent options now id
  bounded : ledger.size ≤ options.maxKeys
  proper : ∀ id, (ledger.find id).isSome → id ≠ []

theorem Mirrors.later {options : Options} {book : Book} {ledger : Ledger} {now later : Int}
    (mirrors : Mirrors options book ledger now) (passed : now ≤ later) :
    Mirrors options book ledger later := by
  refine ⟨?_, mirrors.bounded, mirrors.proper⟩
  intro id
  rw [← filter_later passed, mirrors.agree id]
  exact filter_later passed _

/-- Dropping the expired entries is invisible. -/
theorem Mirrors.pruneExpired {options : Options} {book : Book} {ledger : Ledger} {now : Int}
    (mirrors : Mirrors options book ledger now) :
    Mirrors options book (pruneExpired options ledger now) now := by
  refine ⟨?_, ?_, ?_⟩
  · intro id
    rw [find_pruned, filter_later (Int.le_refl now)]
    exact mirrors.agree id
  · exact Nat.le_trans (OrderedMap.size_filter_le _ _) mirrors.bounded
  · intro id present
    obtain ⟨entry, found⟩ := Option.isSome_iff_exists.mp present
    apply mirrors.proper id
    rw [find_of_pruneExpired found]
    rfl

/-- The boundary decides like the unbounded ledger. -/
theorem Mirrors.status {options : Options} {book : Book} {ledger : Ledger} {call : Call}
    (mirrors : Mirrors options book ledger call.now) :
    (classify options ledger call.now call.seenAt call.eventId call.fingerprint
      call.policy).2.status = judge options book call := by
  unfold classify judge
  cases normalized : normalizedEventId options call.eventId with
  | none => rfl
  | some id =>
      have same : (WebhookIdempotency.pruneExpired options ledger call.now).find id =
          book.recent options call.now id := (find_pruned _ _ _ _).trans (mirrors.agree id)
      simp only [same]
      cases book.recent options call.now id with
      | none => rfl
      | some prior =>
          by_cases repeated : prior.fingerprint = call.fingerprint
          · cases call.policy <;> simp [repeated]
          · simp [repeated]

/-- What a call leaves of the boundary's ledger. -/
theorem classify_ledger (options : Options) (ledger : Ledger) (call : Call) :
    (classify options ledger call.now call.seenAt call.eventId call.fingerprint call.policy).1 =
      match normalizedEventId options call.eventId with
      | none => ledger
      | some id =>
          let current := pruneExpired options ledger call.now
          if (current.find id).isSome then current
          else (if options.maxKeys ≤ current.size then pruneOldest current else current).set id
            ⟨call.fingerprint, call.seenAt⟩ := by
  unfold classify
  cases normalizedEventId options call.eventId with
  | none => rfl
  | some id =>
      simp only
      cases (pruneExpired options ledger call.now).find id with
      | none => rfl
      | some prior =>
          by_cases repeated : prior.fingerprint = call.fingerprint
          · cases call.policy <;> simp [repeated]
          · simp [repeated]

/-- The oldest entry of a full ledger has ended when there is room for a new one:
otherwise every entry and the new one would be recent, one too many. -/
theorem Mirrors.oldest_ended {options : Options} {book : Book} {ledger : Ledger} {now : Int}
    {id : JsString} {call : Call} {entry : Entry} (mirrors : Mirrors options book ledger now)
    (absent : ledger.find id = none) (reading : now ≤ call.seenAt)
    (roomy : ∀ ids : List JsString, ids.Nodup →
      (∀ other ∈ ids, (Book.recent options ((id, ⟨call.fingerprint, call.seenAt⟩) :: book)
        call.seenAt other).isSome) → ids.length ≤ options.maxKeys)
    (full : options.maxKeys ≤ ledger.size)
    (least : ∀ other held, ledger.find other = some held → entry.seenAt ≤ held.seenAt) :
    within options call.seenAt entry = false := by
  have accepted : (Book.recent options ((id, ⟨call.fingerprint, call.seenAt⟩) :: book)
      call.seenAt id).isSome := by
    simp [Book.recent, within]
  by_contra recent
  rw [Bool.not_eq_false] at recent
  have crowd := roomy (id :: ledger.keys) ?_ ?_
  · rw [List.length_cons, OrderedMap.keys, List.length_map] at crowd
    rw [OrderedMap.size] at full
    omega
  · refine List.nodup_cons.mpr ⟨?_, ledger.distinct⟩
    rw [OrderedMap.mem_keys_iff, absent]
    simp
  · intro other member
    rcases List.mem_cons.mp member with same | listed
    · rw [same]
      exact accepted
    · rw [OrderedMap.mem_keys_iff, Option.isSome_iff_exists] at listed
      obtain ⟨kept, found⟩ := listed
      have different : other ≠ id := by
        intro same
        rw [same, absent] at found
        cases found
      have still : within options call.seenAt kept = true := by
        have bound := least other kept found
        simp only [within, decide_eq_true_eq] at recent ⊢
        omega
      have inLedger : (ledger.find other).filter (within options call.seenAt) = some kept := by
        simp [found, still]
      rw [← filter_later reading, mirrors.agree other, Book.recent, filter_later reading]
        at inLedger
      have miss : (other == id) = false := by simpa using different
      simp [Book.recent, List.lookup_cons, miss, inLedger]

/-- The other entries survive a new acceptance as long as they are recent: an
entry that goes to make room has expired by then. -/
theorem Mirrors.room {options : Options} {book : Book} {ledger : Ledger} {now : Int}
    {id : JsString} {call : Call} (mirrors : Mirrors options book ledger now)
    (absent : ledger.find id = none) (reading : now ≤ call.seenAt)
    (roomy : ∀ ids : List JsString, ids.Nodup →
      (∀ other ∈ ids, (Book.recent options ((id, ⟨call.fingerprint, call.seenAt⟩) :: book)
        call.seenAt other).isSome) → ids.length ≤ options.maxKeys) :
    let room := if options.maxKeys ≤ ledger.size then pruneOldest ledger else ledger
    room.size < options.maxKeys ∧ (∀ other, (room.find other).isSome → other ≠ []) ∧
      room.find id = none ∧ ∀ other, (room.find other).filter (within options call.seenAt) =
        (ledger.find other).filter (within options call.seenAt) := by
  intro room
  have accepted : (Book.recent options ((id, ⟨call.fingerprint, call.seenAt⟩) :: book)
      call.seenAt id).isSome := by
    simp [Book.recent, within]
  have positive : 0 < options.maxKeys := roomy [id] (List.nodup_singleton id) (by simpa using accepted)
  by_cases full : options.maxKeys ≤ ledger.size
  · have size := Nat.le_antisymm mirrors.bounded full
    obtain ⟨gone, entry, held, pruned, least⟩ := pruneOldest_spec (by omega) mirrors.proper
    have roomEq : room = ledger.erase gone := (if_pos full).trans pruned
    have ended := mirrors.oldest_ended absent reading roomy full least
    rw [roomEq]
    refine ⟨?_, ?_, ?_, ?_⟩
    · rw [← size]
      exact OrderedMap.size_erase_lt (by simp [held])
    · intro other present
      obtain ⟨kept, found⟩ := Option.isSome_iff_exists.mp present
      exact mirrors.proper other (by simp [OrderedMap.find_of_erase found])
    · cases found : (ledger.erase gone).find id with
      | none => rfl
      | some kept =>
          rw [OrderedMap.find_of_erase found] at absent
          cases absent
    · intro other
      by_cases same : other = gone
      · have dropped : (some entry).filter (within options call.seenAt) = none := by
          rw [Option.filter_some, ended]
          rfl
        rw [same, OrderedMap.find_erase_self, held, dropped]
        rfl
      · rw [OrderedMap.find_erase_other _ same]
  · have roomEq : room = ledger := if_neg full
    rw [roomEq]
    exact ⟨Nat.not_le.mp full, mirrors.proper, absent, fun _ => rfl⟩

theorem normalized_ne_nil {options : Options} {eventId : Option JsString} {id : JsString}
    (normalized : normalizedEventId options eventId = some id) : id ≠ [] :=
  (normalizedEventId_eq normalized).2

theorem enter_missing {options : Options} {book : Book} {call : Call}
    (normalized : normalizedEventId options call.eventId = none) :
    enter options book call = book := by
  simp [enter, normalized]

theorem enter_fresh {options : Options} {book : Book} {call : Call} {id : JsString}
    (normalized : normalizedEventId options call.eventId = some id)
    (fresh : book.recent options call.now id = none) :
    enter options book call = (id, ⟨call.fingerprint, call.seenAt⟩) :: book := by
  simp [enter, judge, normalized, fresh]

theorem enter_known {options : Options} {book : Book} {call : Call} {id : JsString} {prior : Entry}
    (normalized : normalizedEventId options call.eventId = some id)
    (known : book.recent options call.now id = some prior) : enter options book call = book := by
  by_cases repeated : prior.fingerprint = call.fingerprint <;>
    simp [enter, judge, normalized, known, repeated]

/-- One call keeps the boundary in step with the unbounded ledger. -/
theorem Mirrors.step {options : Options} {book : Book} {ledger : Ledger} {call : Call}
    (mirrors : Mirrors options book ledger call.now) (reading : call.now ≤ call.seenAt)
    (roomy : ∀ ids : List JsString, ids.Nodup →
      (∀ id ∈ ids, ((enter options book call).recent options call.seenAt id).isSome) →
        ids.length ≤ options.maxKeys) :
    Mirrors options (enter options book call)
      (classify options ledger call.now call.seenAt call.eventId call.fingerprint call.policy).1
      call.seenAt := by
  rw [classify_ledger]
  cases normalized : normalizedEventId options call.eventId with
  | none =>
      rw [enter_missing normalized]
      exact mirrors.later reading
  | some id =>
      have pruned := mirrors.pruneExpired
      have same : (WebhookIdempotency.pruneExpired options ledger call.now).find id =
          book.recent options call.now id := (find_pruned _ _ _ _).trans (mirrors.agree id)
      cases fresh : book.recent options call.now id with
      | some prior =>
          rw [enter_known normalized fresh]
          simp only [same, fresh, Option.isSome_some, if_true]
          exact pruned.later reading
      | none =>
          rw [enter_fresh normalized fresh] at roomy ⊢
          simp only [same, fresh, Option.isSome_none, Bool.false_eq_true, if_false]
          obtain ⟨small, proper, missing, survive⟩ :=
            pruned.room (same.trans fresh) reading roomy
          refine ⟨?_, ?_, ?_⟩
          · intro other
            by_cases own : other = id
            · subst own
              simp [OrderedMap.find_set_self, Book.recent]
            · have miss : (other == id) = false := by simpa using own
              rw [OrderedMap.find_set_other _ own, survive other,
                (pruned.later reading).agree other]
              simp [Book.recent, List.lookup_cons, miss]
          · exact Nat.le_trans (OrderedMap.size_set_le _ _ _) small
          · intro other present
            by_cases own : other = id
            · rw [own]
              exact normalized_ne_nil normalized
            · rw [OrderedMap.find_set_other _ own] at present
              exact proper other present

/-! ### Whole runs -/

theorem Mirrors.start (options : Options) (now : Int) : Mirrors options [] .empty now :=
  ⟨fun _ => rfl, Nat.zero_le _, by simp⟩

/-- From the last clock reading on, the boundary mirrors the unbounded ledger. -/
def Tracks (options : Options) (history : List Call) (ledger : Ledger) : Prop :=
  ∀ now, (∀ call ∈ history, call.seenAt ≤ now) →
    Mirrors options (bookAfter options history) ledger now

theorem tracks_ledgerAfter {options : Options} {history : List Call}
    (admissible : Admissible options history) :
    Tracks options history (ledgerAfter options history) := by
  apply holds_after_of _ _ _ admissible
  · intro now _
    exact Mirrors.start options now
  · intro before call
    exact Admissible.before
  · intro before call ledger admissible tracks now late
    have entered : bookAfter options (before ++ [call]) =
        enter options (bookAfter options before) call := after_append_singleton before call
    have roomy := admissible.uncrowded before call [] rfl
    rw [entered] at roomy ⊢
    have stepped := (tracks call.now admissible.past).step admissible.reading roomy
    exact stepped.later (late call (by simp))

/-- Dropping expired entries does not show from then on. -/
theorem pruneExpired_later {options : Options} {now later : Int} (passed : now ≤ later)
    (ledger : Ledger) :
    pruneExpired options (pruneExpired options ledger now) later =
      pruneExpired options ledger later := by
  unfold pruneExpired
  rw [OrderedMap.filter_filter]
  apply OrderedMap.filter_congr
  intro id entry _
  simp only [not_expired_eq, within, Bool.and_eq_right_iff_imp, decide_eq_true_eq]
  omega

/-- A call that is not accepted changes nothing but expired entries. -/
theorem pruneExpired_classify {options : Options} {ledger : Ledger} {call : Call} {later : Int}
    (refused : (classify options ledger call.now call.seenAt call.eventId call.fingerprint
      call.policy).2.status ≠ .accepted) (passed : call.now ≤ later) :
    pruneExpired options (classify options ledger call.now call.seenAt call.eventId
      call.fingerprint call.policy).1 later = pruneExpired options ledger later := by
  rw [classify_ledger]
  unfold classify at refused
  cases normalized : normalizedEventId options call.eventId with
  | none => rfl
  | some id =>
      simp only [normalized] at refused ⊢
      cases found : (pruneExpired options ledger call.now).find id with
      | none =>
          rw [found] at refused
          exact absurd rfl refused
      | some prior => exact pruneExpired_later passed ledger

/-- The boundary refines the unbounded ledger. As long as no more than `maxKeys`
ids are accepted within `ttlMs`, each call is decided as the ledger decides it,
a call that is not accepted changes no entry that has not expired, and the
capacity is never exceeded. -/
theorem classify_refines {options : Options} {history : List Call} {call : Call}
    (monotone : Monotone (history ++ [call])) (uncrowded : Uncrowded options (history ++ [call])) :
    (classify options (ledgerAfter options history) call.now call.seenAt call.eventId
        call.fingerprint call.policy).2.status =
      judge options (bookAfter options history) call ∧
    (judge options (bookAfter options history) call ≠ .accepted →
      bookAfter options (history ++ [call]) = bookAfter options history ∧
      ∀ later, call.now ≤ later →
        pruneExpired options (ledgerAfter options (history ++ [call])) later =
          pruneExpired options (ledgerAfter options history) later) ∧
    (ledgerAfter options (history ++ [call])).size ≤ options.maxKeys := by
  have admissible : Admissible options (history ++ [call]) := ⟨monotone, uncrowded⟩
  have mirrors := tracks_ledgerAfter admissible.before call.now admissible.past
  have stepped : ledgerAfter options (history ++ [call]) = _ :=
    after_append_singleton history call
  refine ⟨mirrors.status, ?_, ?_⟩
  · intro refused
    constructor
    · have entered : bookAfter options (history ++ [call]) =
          enter options (bookAfter options history) call := after_append_singleton history call
      rw [entered, enter]
      cases normalizedEventId options call.eventId with
      | none => rfl
      | some id => exact if_neg refused
    · intro later passed
      rw [stepped]
      exact pruneExpired_classify (mirrors.status.symm ▸ refused) passed
  · have late : ∀ earlier ∈ history ++ [call], earlier.seenAt ≤ call.seenAt := by
      intro earlier member
      rcases List.mem_append.mp member with before | here
      · exact Int.le_trans (admissible.past earlier before) admissible.reading
      · exact Int.le_of_eq (congrArg Call.seenAt (List.mem_singleton.mp here))
    exact (tracks_ledgerAfter admissible call.seenAt late).bounded

/-- Only ids that were called are entered. -/
theorem called_of_recent {options : Options} {history : List Call} {now : Int} {id : JsString}
    (recent : ((bookAfter options history).recent options now id).isSome) :
    ∃ call ∈ history, normalizedEventId options call.eventId = some id := by
  obtain ⟨entry, found⟩ := Option.isSome_iff_exists.mp recent
  have listed : (bookAfter options history).lookup id = some entry :=
    (Option.filter_eq_some_iff.mp found).1
  clear found recent
  induction history using List.reverseRecOn with
  | nil => simp [bookAfter] at listed
  | append_singleton before call inductionHypothesis =>
      have entered : bookAfter options (before ++ [call]) =
          enter options (bookAfter options before) call := after_append_singleton before call
      have earlier (kept : (bookAfter options before).lookup id = some entry) :
          ∃ known ∈ before ++ [call], normalizedEventId options known.eventId = some id := by
        obtain ⟨known, member, named⟩ := inductionHypothesis kept
        exact ⟨known, List.mem_append_left _ member, named⟩
      rw [entered] at listed
      unfold enter at listed
      split at listed
      next missing => exact earlier listed
      next other normalized =>
        split at listed
        next accepted =>
          rw [List.lookup_cons] at listed
          by_cases same : id = other
          · exact ⟨call, by simp, same ▸ normalized⟩
          · have miss : (id == other) = false := by simpa using same
            rw [miss] at listed
            exact earlier listed
        next refused => exact earlier listed

/-- Calls of no more ids than the cap are never too many. -/
theorem uncrowded_of_few {options : Options} {history : List Call} {known : List JsString}
    (few : known.length ≤ options.maxKeys)
    (listed : ∀ call ∈ history, ∀ id, normalizedEventId options call.eventId = some id →
      id ∈ known) : Uncrowded options history := by
  intro before call rest split ids distinct recent
  apply Nat.le_trans _ few
  apply (distinct.subperm _).length_le
  intro id member
  obtain ⟨earlier, inHistory, named⟩ := called_of_recent (recent id member)
  apply listed earlier _ id named
  rw [split, List.append_cons]
  exact List.mem_append_left rest inHistory

/-- Two ids are remembered for 100 ms. -/
def twoIds : Options := ⟨100, 2, 64⟩

def evt1 : Option JsString := some (js " evt-1 ")

def evt2 : Option JsString := some (js "evt-2")

/-- The first id is accepted, expires and is accepted again. -/
def spaced : List Call :=
  [⟨0, 0, evt1, js "a", .dedupe⟩, ⟨60, 61, evt2, js "b", .reject⟩,
    ⟨101, 101, evt1, js "c", .dedupe⟩]

theorem spaced_refines :
    (classify twoIds (ledgerAfter twoIds spaced) 161 161 evt2 (js "c") .dedupe).2.status =
        judge twoIds (bookAfter twoIds spaced) ⟨161, 161, evt2, js "c", .dedupe⟩ ∧
      judge twoIds (bookAfter twoIds spaced) ⟨161, 161, evt2, js "c", .dedupe⟩ = .conflict := by
  have monotone : Monotone (spaced ++ [⟨161, 161, evt2, js "c", .dedupe⟩]) :=
    ⟨by decide, by decide⟩
  have few : [js "evt-1", js "evt-2"].length ≤ twoIds.maxKeys := by decide
  have uncrowded : Uncrowded twoIds (spaced ++ [⟨161, 161, evt2, js "c", .dedupe⟩]) := by
    apply uncrowded_of_few few
    have named : ∀ call ∈ spaced ++ [⟨161, 161, evt2, js "c", .dedupe⟩],
        normalizedEventId twoIds call.eventId = some (js "evt-1") ∨
          normalizedEventId twoIds call.eventId = some (js "evt-2") := by decide
    intro call member id normalized
    rcases named call member with first | second
    · rw [first, Option.some.injEq] at normalized
      simp [normalized]
    · rw [second, Option.some.injEq] at normalized
      simp [normalized]
  exact ⟨(classify_refines monotone uncrowded).1, by decide⟩

end DarkmeshGateway.Gateway.WebhookLedger
