import DarkmeshGateway.Foundation.Machine
import DarkmeshGateway.Gateway.ReplayStore
import Mathlib.Data.Finset.Card

/-!
Contract: how long the replay store of the gateway remembers a mark.

Owns runs of marks and sweeps at non-decreasing times, the keys accepted since a mark,
the bound on the size, and the runs along which each mark is remembered for
its whole lifetime unless enough other keys were accepted since.

Does not own the store's operations.
-/

namespace DarkmeshGateway.Gateway.ReplayWindow

open Foundation
open Foundation.Js
open ReplayStore

/-! ### Runs -/

/-- A key that was marked: newly accepted, or reported as a replay. -/
structure Mark where
  key : JsString
  now : Int
  replay : Bool
deriving DecidableEq, Repr

/-- The store, the marks so far (the latest first) and the time of the last call. -/
structure State where
  store : Store
  marks : List Mark
  clock : Int

structure Call where
  now : Int
  key : JsString
deriving DecidableEq, Repr

/-- A public call of the store: `markAndCheck` or `sweep`. -/
inductive Event where
  | mark (call : Call)
  | sweep (now : Int)
deriving DecidableEq, Repr

def start (clock : Int) : State := ⟨ReplayStore.empty, [], clock⟩

/-- A mark, no earlier than the last call. A rejected key is not marked. -/
def markStep (options : Options) (state : State) (call : Call) : Option State :=
  if call.now < state.clock then none
  else
    let (store, result) := markAndCheck options state.store call.now call.key
    let marks :=
      if result.rejected then state.marks
      else ⟨call.key, call.now, result.replay⟩ :: state.marks
    some ⟨store, marks, call.now⟩

/-- A sweep, no earlier than the last call. -/
def sweepStep (state : State) (now : Int) : Option State :=
  if now < state.clock then none
  else some ⟨(sweep state.store now).1, state.marks, now⟩

def step (options : Options) (state : State) : Event → Option State
  | .mark call => markStep options state call
  | .sweep now => sweepStep state now

/-- The other keys accepted in some marks. -/
def acceptedOthers (key : JsString) (marks : List Mark) : Finset JsString :=
  ((marks.filter fun mark => !mark.replay && mark.key ≠ key).map Mark.key).toFinset

/-- Every mark is remembered until its lifetime ends, unless `maxKeys` other
keys were accepted since. -/
def Remembers (options : Options) (state : State) : Prop :=
  ∀ newer mark older, state.marks = newer ++ mark :: older →
    (acceptedOthers mark.key newer).card < options.maxKeys →
      ∀ now, state.clock ≤ now → now < mark.now + options.ttlMs →
        (markAndCheck options state.store now mark.key).2.replay = true

/-! ### The condition -/

/-- The key a call evicts. -/
def evicted (options : Options) (state : State) (call : Call) : Option JsString :=
  let swept := (maybeSweep options state.store call.now).1.seen
  if tooLong options call.key = true ∨ (swept.find call.key).isSome ∨
    swept.size < options.maxKeys then none
  else swept.keys.head?

/-- The marks since the last mark of a key. -/
def newerMarks (key : JsString) (marks : List Mark) : List Mark :=
  marks.takeWhile fun mark => mark.key ≠ key

def lastMark (key : JsString) (marks : List Mark) : Option Mark :=
  marks.find? fun mark => mark.key = key

/-- The mark evicts no key that was refreshed by its last mark, unless with this
mark `maxKeys` other keys were accepted since. -/
def KeepsRefreshed (options : Options) (state : State) (call : Call) : Prop :=
  ∀ key mark, evicted options state call = some key →
    lastMark key state.marks = some mark → mark.replay = true →
      options.maxKeys ≤
        (insert call.key (acceptedOthers key (newerMarks key state.marks))).card

/-- The event evicts no refreshed key too early. A sweep evicts none. -/
def EvictsNoRefreshed (options : Options) (state : State) : Event → Prop
  | .mark call => KeepsRefreshed options state call
  | .sweep _ => True

/-! ### Marks -/

theorem lastMark_cons (key : JsString) (mark : Mark) (marks : List Mark) :
    lastMark key (mark :: marks) = if mark.key = key then some mark else lastMark key marks := by
  by_cases own : mark.key = key <;> simp [lastMark, own]

theorem newerMarks_cons (key : JsString) (mark : Mark) (marks : List Mark) :
    newerMarks key (mark :: marks) =
      if mark.key = key then [] else mark :: newerMarks key marks := by
  by_cases own : mark.key = key <;> simp [newerMarks, own]

theorem acceptedOthers_cons (key : JsString) (mark : Mark) (marks : List Mark) :
    acceptedOthers key (mark :: marks) =
      if mark.replay = false ∧ mark.key ≠ key then insert mark.key (acceptedOthers key marks)
      else acceptedOthers key marks := by
  unfold acceptedOthers
  by_cases accepted : mark.replay = false ∧ mark.key ≠ key
  · rw [if_pos accepted, List.filter_cons_of_pos (by simp [accepted.1, accepted.2])]
    simp
  · rw [if_neg accepted, List.filter_cons_of_neg]
    simpa using accepted

theorem acceptedOthers_mono {key : JsString} {fewer more : List Mark} (part : fewer ⊆ more) :
    acceptedOthers key fewer ⊆ acceptedOthers key more := by
  intro other member
  unfold acceptedOthers at member ⊢
  rw [List.mem_toFinset, List.mem_map] at member ⊢
  obtain ⟨mark, kept, named⟩ := member
  rw [List.mem_filter] at kept
  exact ⟨mark, List.mem_filter.mpr ⟨part kept.1, kept.2⟩, named⟩

/-- The last mark of a key is no later in the list than any of its marks. -/
theorem lastMark_of_split {key : JsString} {marks newer older : List Mark} {mark : Mark}
    (split : marks = newer ++ mark :: older) (own : mark.key = key) :
    ∃ last, lastMark key marks = some last ∧ newerMarks key marks ⊆ newer ∧
      (last = mark ∨ last ∈ newer) := by
  subst split
  induction newer with
  | nil => exact ⟨mark, by simp [lastMark, own], by simp [newerMarks, own], Or.inl rfl⟩
  | cons head tail inductionHypothesis =>
      rw [List.cons_append, lastMark_cons, newerMarks_cons]
      by_cases here : head.key = key
      · exact ⟨head, by simp [here], by simp [here], Or.inr (by simp)⟩
      · obtain ⟨last, found, part, place⟩ := inductionHypothesis
        refine ⟨last, by simp [here, found], ?_, ?_⟩
        · rw [if_neg here]
          exact List.cons_subset_cons head part
        · exact place.imp_right (List.mem_cons_of_mem head)

/-- Where the last mark of a key stands among the marks. -/
theorem split_of_lastMark {key : JsString} {marks : List Mark} {mark : Mark}
    (found : lastMark key marks = some mark) :
    mark.key = key ∧ ∃ older, marks = newerMarks key marks ++ mark :: older := by
  induction marks with
  | nil => simp [lastMark] at found
  | cons head tail inductionHypothesis =>
      rw [lastMark_cons] at found
      rw [newerMarks_cons]
      split at found
      next own =>
        rw [Option.some.injEq] at found
        subst found
        exact ⟨own, tail, by simp [own]⟩
      next other =>
        obtain ⟨own, older, split⟩ := inductionHypothesis found
        refine ⟨own, older, ?_⟩
        rw [if_neg other, List.cons_append, ← split]

/-- The other keys accepted since a key was last accepted. -/
def acceptedSince (key : JsString) (marks : List Mark) : Finset JsString :=
  acceptedOthers key (marks.takeWhile fun mark => mark.replay || mark.key ≠ key)

theorem acceptedSince_replay (key : JsString) {mark : Mark} (replay : mark.replay = true)
    (marks : List Mark) : acceptedSince key (mark :: marks) = acceptedSince key marks := by
  simp [acceptedSince, acceptedOthers_cons, replay]

theorem acceptedSince_other {key : JsString} {mark : Mark} (accepted : mark.replay = false)
    (other : mark.key ≠ key) (marks : List Mark) :
    acceptedSince key (mark :: marks) = insert mark.key (acceptedSince key marks) := by
  simp [acceptedSince, acceptedOthers_cons, accepted, other]

/-- A key that was not refreshed was last marked when it was accepted. -/
theorem acceptedSince_eq {key : JsString} {marks : List Mark} {mark : Mark}
    (found : lastMark key marks = some mark) (accepted : mark.replay = false) :
    acceptedSince key marks = acceptedOthers key (newerMarks key marks) := by
  unfold acceptedSince
  congr 1
  induction marks with
  | nil => rfl
  | cons head tail inductionHypothesis =>
      rw [lastMark_cons] at found
      rw [newerMarks_cons]
      split at found
      next own =>
        rw [Option.some.injEq] at found
        subst found
        simp [accepted, own]
      next other =>
        rw [if_neg other, List.takeWhile_cons_of_pos (by simp [other]), inductionHypothesis found]

/-! ### One mark -/

/-- What is swept when the store is full afterwards. -/
theorem maybeSweep_of_full {options : Options} {store : Store} {now : Int}
    (full : options.maxKeys ≤ (maybeSweep options store now).1.seen.size) :
    (maybeSweep options store now).1.seen = sweepExpired store.seen now := by
  unfold maybeSweep at full ⊢
  split
  · rfl
  next roomy =>
    rw [if_neg roomy] at full
    split at full
    · exact absurd full roomy
    · have shrunk : (sweepExpired store.seen now).size ≤ store.seen.size :=
        OrderedMap.size_filter_le _ _
      exact absurd (Nat.le_trans full shrunk) roomy

theorem keys_maybeSweep_sublist (options : Options) (store : Store) (now : Int) :
    (maybeSweep options store now).1.seen.keys.Sublist store.seen.keys := by
  have swept : (sweepExpired store.seen now).keys.Sublist store.seen.keys :=
    OrderedMap.keys_restrict_sublist _ List.filter_sublist
  unfold maybeSweep
  split
  · exact swept
  · split
    · exact List.Sublist.refl _
    · exact swept

/-- The seen keys after a new key is accepted. -/
def insertion (options : Options) (store : Store) (now : Int) (key : JsString) :
    OrderedMap JsString Int :=
  ((((maybeSweep options store now).1.seen.erase key).shrink options.maxKeys).set key
    (now + options.ttlMs))

/-- What a mark does: nothing for a rejected key, a new lifetime for a live one,
an insertion for any other. -/
theorem markAndCheck_spec {options : Options} {store after : Store} {now : Int} {key : JsString}
    {result : MarkResult} (marked : markAndCheck options store now key = (after, result)) :
    (tooLong options key = true ∧ after = store ∧ result.rejected = true) ∨
    (tooLong options key = false ∧ result.rejected = false ∧
      ((Live store now key ∧ result.replay = true ∧
          ((maybeSweep options store now).1.seen.find key).isSome ∧
          after.seen = (maybeSweep options store now).1.seen.set key (now + options.ttlMs)) ∨
        (¬Live store now key ∧ result.replay = false ∧
          after.seen = insertion options store now key))) := by
  have swept := live_maybeSweep options store now key
  unfold markAndCheck at marked
  split at marked
  next long =>
    cases marked
    exact Or.inl ⟨long, rfl, rfl⟩
  next fits =>
    refine Or.inr ⟨by simpa using fits, ?_⟩
    simp only at marked
    split at marked
    next prev found =>
      split at marked
      next alive =>
        cases marked
        exact ⟨rfl, Or.inl ⟨swept.mp ⟨prev, found, alive⟩, rfl, by simp [found], rfl⟩⟩
      next ended =>
        cases marked
        refine ⟨rfl, Or.inr ⟨?_, rfl, rfl⟩⟩
        rw [← swept]
        intro live
        obtain ⟨expiresAt, held, alive⟩ := live
        rw [found, Option.some.injEq] at held
        exact ended (held ▸ alive)
    next absent =>
      cases marked
      refine ⟨rfl, Or.inr ⟨?_, rfl, ?_⟩⟩
      · rw [← swept]
        intro live
        obtain ⟨expiresAt, held, -⟩ := live
        rw [absent] at held
        cases held
      · unfold insertion
        rw [OrderedMap.erase_of_absent absent]
        rfl

theorem size_maybeSweep_le (options : Options) (store : Store) (now : Int) :
    (maybeSweep options store now).1.seen.size ≤ store.seen.size := by
  have length := (keys_maybeSweep_sublist options store now).length_le
  simpa [OrderedMap.keys, OrderedMap.size] using length

theorem size_insertion_le {options : Options} (positive : 0 < options.maxKeys) (store : Store)
    (now : Int) (key : JsString) : (insertion options store now key).size ≤ options.maxKeys :=
  Nat.le_trans (OrderedMap.size_set_le _ _ _) (OrderedMap.size_shrink positive _)

/-- No mark leaves more keys than the cap. -/
theorem size_markAndCheck_le {options : Options} (positive : 0 < options.maxKeys) {store : Store}
    (bounded : store.seen.size ≤ options.maxKeys) (now : Int) (key : JsString) :
    (markAndCheck options store now key).1.seen.size ≤ options.maxKeys := by
  generalize marked : markAndCheck options store now key = outcome
  obtain ⟨after, result⟩ := outcome
  rcases markAndCheck_spec marked with ⟨-, same, -⟩ | ⟨-, -, ⟨-, -, held, seen⟩ | ⟨-, -, seen⟩⟩
  · rw [same]
    exact bounded
  · rw [seen, OrderedMap.size_set_of_present held]
    exact Nat.le_trans (size_maybeSweep_le options store now) bounded
  · rw [seen]
    exact size_insertion_le positive store now key

/-! ### The invariant -/

/-- Live keys are held under the end of their last mark's lifetime, and the keys
that come after a key in the store were accepted after it. -/
structure Invariant (options : Options) (state : State) : Prop where
  bounded : state.store.seen.size ≤ options.maxKeys
  past : ∀ mark ∈ state.marks, mark.now ≤ state.clock
  ordered : state.marks.Pairwise fun later earlier => earlier.now ≤ later.now
  fitting : ∀ mark ∈ state.marks, tooLong options mark.key = false
  held : ∀ key expiresAt, state.store.seen.find key = some expiresAt →
    ∃ mark, lastMark key state.marks = some mark ∧ expiresAt = mark.now + options.ttlMs
  kept : ∀ key mark, lastMark key state.marks = some mark →
    (acceptedOthers key (newerMarks key state.marks)).card < options.maxKeys →
      state.clock < mark.now + options.ttlMs →
        state.store.seen.find key = some (mark.now + options.ttlMs)
  order : state.store.seen.keys.Pairwise fun earlier later =>
    later ∈ acceptedSince earlier state.marks

theorem Invariant.start (options : Options) (clock : Int) : Invariant options (start clock) where
  bounded := Nat.zero_le _
  past := by simp [ReplayWindow.start]
  ordered := List.Pairwise.nil
  fitting := by simp [ReplayWindow.start]
  held := by simp [ReplayWindow.start, ReplayStore.empty]
  kept := by simp [ReplayWindow.start, lastMark]
  order := List.Pairwise.nil

/-- The invariant gives that marks are remembered. -/
theorem Invariant.remembers {options : Options} {state : State}
    (invariant : Invariant options state) : Remembers options state := by
  intro newer mark older split few now late alive
  obtain ⟨last, found, part, place⟩ := lastMark_of_split split rfl
  have latest : mark.now ≤ last.now := by
    rcases place with same | newerMark
    · rw [same]
    · have ordered := invariant.ordered
      rw [split, List.pairwise_append] at ordered
      exact ordered.2.2 last newerMark mark (by simp)
  have fewer : (acceptedOthers mark.key (newerMarks mark.key state.marks)).card <
      options.maxKeys :=
    Nat.lt_of_le_of_lt (Finset.card_le_card (acceptedOthers_mono part)) few
  have inStore := invariant.kept mark.key last found fewer (by omega)
  exact (markAndCheck_replay options state.store now mark.key).mpr
    (Or.inr ⟨_, inStore, by omega⟩)

/-- What a sweep does to a key whose lifetime has not ended. -/
theorem find_maybeSweep {options : Options} {store : Store} {now expiresAt : Int} {key : JsString}
    (found : store.seen.find key = some expiresAt) (alive : now < expiresAt) :
    (maybeSweep options store now).1.seen.find key = some expiresAt := by
  obtain ⟨other, held, -⟩ := (live_maybeSweep options store now key).mpr ⟨expiresAt, found, alive⟩
  rw [held, ← find_of_maybeSweep held, found]

/-- What one mark does to the state. -/
theorem markStep_cases {options : Options} {state next : State} {call : Call}
    (stepped : markStep options state call = some next) :
    state.clock ≤ call.now ∧ next.clock = call.now ∧
      ((tooLong options call.key = true ∧ next.store = state.store ∧ next.marks = state.marks) ∨
      (tooLong options call.key = false ∧ Live state.store call.now call.key ∧
        ((maybeSweep options state.store call.now).1.seen.find call.key).isSome ∧
        next.store.seen = (maybeSweep options state.store call.now).1.seen.set call.key
          (call.now + options.ttlMs) ∧
        next.marks = ⟨call.key, call.now, true⟩ :: state.marks) ∨
      (tooLong options call.key = false ∧ ¬Live state.store call.now call.key ∧
        next.store.seen = insertion options state.store call.now call.key ∧
        next.marks = ⟨call.key, call.now, false⟩ :: state.marks)) := by
  unfold markStep at stepped
  split at stepped
  next early => cases stepped
  next late =>
    generalize marked : markAndCheck options state.store call.now call.key = outcome at stepped
    obtain ⟨after, result⟩ := outcome
    cases stepped
    refine ⟨by omega, rfl, ?_⟩
    rcases markAndCheck_spec marked with
      ⟨long, same, rejected⟩ | ⟨fits, stored, ⟨live, replay, held, seen⟩ | ⟨ended, replay, seen⟩⟩
    · exact Or.inl ⟨long, same, by simp [rejected]⟩
    · exact Or.inr (Or.inl ⟨fits, live, held, seen, by simp [stored, replay]⟩)
    · exact Or.inr (Or.inr ⟨fits, ended, seen, by simp [stored, replay]⟩)

/-! ### Eviction -/

theorem evicted_eq_some {options : Options} {state : State} {call : Call} {key : JsString}
    (gone : evicted options state call = some key) :
    tooLong options call.key = false ∧
      (maybeSweep options state.store call.now).1.seen.find call.key = none ∧
      options.maxKeys ≤ (maybeSweep options state.store call.now).1.seen.size ∧
      ∃ rest, (maybeSweep options state.store call.now).1.seen.keys = key :: rest := by
  unfold evicted at gone
  simp only at gone
  split at gone
  next => cases gone
  next evicts =>
    simp only [not_or, Bool.not_eq_true, Option.isSome_eq_false_iff, Option.isNone_iff_eq_none,
      Nat.not_lt] at evicts
    refine ⟨evicts.1, evicts.2.1, evicts.2.2, ?_⟩
    cases keys : (maybeSweep options state.store call.now).1.seen.keys with
    | nil => simp [keys] at gone
    | cons head rest =>
        rw [keys, List.head?_cons, Option.some.injEq] at gone
        exact ⟨rest, by rw [gone]⟩

/-- A key that goes without having been refreshed goes after `maxKeys` others:
those behind it in the store and the new one. -/
theorem Invariant.evicted_count {options : Options} {state : State} {call : Call} {key : JsString}
    {mark : Mark} (invariant : Invariant options state)
    (careful : KeepsRefreshed options state call) (gone : evicted options state call = some key)
    (found : lastMark key state.marks = some mark) :
    options.maxKeys ≤
      (insert call.key (acceptedOthers key (newerMarks key state.marks))).card := by
  cases replay : mark.replay with
  | true => exact careful key mark gone found replay
  | false =>
      obtain ⟨-, absent, full, rest, keys⟩ := evicted_eq_some gone
      have order := invariant.order.sublist
        (keys_maybeSweep_sublist options state.store call.now)
      have distinct : (key :: rest).Nodup := keys ▸ OrderedMap.distinct _
      rw [keys, List.pairwise_cons] at order
      rw [← acceptedSince_eq found replay]
      have fresh : call.key ∉ rest := by
        intro member
        have known := (OrderedMap.mem_keys_iff _ call.key).mp
          (keys ▸ List.mem_cons_of_mem key member)
        rw [absent] at known
        simp at known
      have length : options.maxKeys ≤ (call.key :: rest).length := by
        have size := congrArg List.length keys
        rw [OrderedMap.keys, List.length_map] at size
        rw [OrderedMap.size, size] at full
        exact full
      have behind : (call.key :: rest).toFinset ⊆
          insert call.key (acceptedSince key state.marks) := by
        rw [List.toFinset_cons]
        apply Finset.insert_subset_insert
        intro other member
        exact order.1 other (List.mem_toFinset.mp member)
      calc options.maxKeys
          ≤ (call.key :: rest).length := length
        _ = (call.key :: rest).toFinset.card := by
            rw [List.toFinset_card_of_nodup]
            exact List.nodup_cons.mpr ⟨fresh, (List.nodup_cons.mp distinct).2⟩
        _ ≤ _ := Finset.card_le_card behind

/-- A key of the store that is not the marked one stays, or it is evicted. -/
theorem find_insertion {options : Options} {state : State} {call : Call} {key : JsString}
    {expiresAt : Int} (bounded : state.store.seen.size ≤ options.maxKeys)
    (fits : tooLong options call.key = false) (other : key ≠ call.key)
    (found : state.store.seen.find key = some expiresAt) (alive : call.now < expiresAt)
    (stays : evicted options state call ≠ some key) :
    (insertion options state.store call.now call.key).find key = some expiresAt := by
  have swept : (maybeSweep options state.store call.now).1.seen.find key = some expiresAt :=
    find_maybeSweep found alive
  have left := (OrderedMap.find_erase_other _ other).trans swept
  unfold insertion
  rw [OrderedMap.find_set_other _ other]
  by_cases room : ((maybeSweep options state.store call.now).1.seen.erase call.key).size <
      options.maxKeys
  · rw [OrderedMap.shrink_eq_self room, left]
  · have sizes := size_maybeSweep_le options state.store call.now
    have absent : (maybeSweep options state.store call.now).1.seen.find call.key = none := by
      rw [← Option.not_isSome_iff_eq_none]
      intro present
      have smaller := OrderedMap.size_erase_lt present
      omega
    rw [OrderedMap.erase_of_absent absent] at room left ⊢
    have full : (maybeSweep options state.store call.now).1.seen.size = options.maxKeys := by omega
    have member := (OrderedMap.mem_keys_iff _ key).mpr (Option.isSome_iff_exists.mpr ⟨_, left⟩)
    have behind : key ∈ ((maybeSweep options state.store call.now).1.seen.shrink
        options.maxKeys).keys := by
      rw [OrderedMap.keys_shrink_of_full full]
      cases keys : (maybeSweep options state.store call.now).1.seen.keys with
      | nil => rw [keys] at member; exact absurd member List.not_mem_nil
      | cons head rest =>
          rw [keys, List.mem_cons] at member
          rcases member with first | later
          · refine absurd ?_ stays
            simp [evicted, fits, absent, keys, first, full]
          · exact later
    have same := OrderedMap.find_restrict_of_mem behind
    exact same.trans left

/-- The evicted key is not in the store any more. -/
theorem find_evicted {options : Options} {state : State} {call : Call} {key : JsString}
    (bounded : state.store.seen.size ≤ options.maxKeys)
    (gone : evicted options state call = some key) (other : key ≠ call.key) :
    (insertion options state.store call.now call.key).find key = none := by
  obtain ⟨-, absent, full, rest, keys⟩ := evicted_eq_some gone
  have sizes := size_maybeSweep_le options state.store call.now
  unfold insertion
  rw [OrderedMap.find_set_other _ other, OrderedMap.erase_of_absent absent,
    ← Option.not_isSome_iff_eq_none, ← OrderedMap.mem_keys_iff,
    OrderedMap.keys_shrink_of_full (by omega), keys, List.tail_cons]
  have distinct : (key :: rest).Nodup := keys ▸ OrderedMap.distinct _
  exact (List.nodup_cons.mp distinct).1

/-! ### Preservation -/

/-- A mark of its key keeps what was marked before. -/
theorem Invariant.mark {options : Options} {state : State} {clock : Int}
    (invariant : Invariant options state) (mark : Mark) (late : state.clock ≤ clock)
    (now : mark.now = clock) (fits : tooLong options mark.key = false) :
    (∀ earlier ∈ mark :: state.marks, earlier.now ≤ clock) ∧
      (mark :: state.marks).Pairwise (fun later earlier => earlier.now ≤ later.now) ∧
      ∀ earlier ∈ mark :: state.marks, tooLong options earlier.key = false := by
  have past : ∀ earlier ∈ state.marks, earlier.now ≤ clock := by
    intro earlier member
    exact Int.le_trans (invariant.past earlier member) late
  refine ⟨?_, ?_, ?_⟩
  · exact List.forall_mem_cons.mpr ⟨Int.le_of_eq now, past⟩
  · exact List.pairwise_cons.mpr ⟨fun earlier member => now ▸ past earlier member,
      invariant.ordered⟩
  · exact List.forall_mem_cons.mpr ⟨fits, invariant.fitting⟩

theorem Invariant.refresh {options : Options} {state next : State} {call : Call}
    (invariant : Invariant options state) (late : state.clock ≤ call.now)
    (clock : next.clock = call.now) (fits : tooLong options call.key = false)
    (held : ((maybeSweep options state.store call.now).1.seen.find call.key).isSome)
    (seen : next.store.seen = (maybeSweep options state.store call.now).1.seen.set call.key
      (call.now + options.ttlMs))
    (marks : next.marks = ⟨call.key, call.now, true⟩ :: state.marks) :
    Invariant options next := by
  obtain ⟨past, ordered, fitting⟩ := invariant.mark ⟨call.key, call.now, true⟩ late rfl fits
  rw [← marks] at past ordered fitting
  refine ⟨?_, clock ▸ past, ordered, fitting, ?_, ?_, ?_⟩
  · rw [seen, OrderedMap.size_set_of_present held]
    exact Nat.le_trans (size_maybeSweep_le options _ _) invariant.bounded
  · intro key expiresAt found
    rw [seen] at found
    rw [marks, lastMark_cons]
    by_cases own : call.key = key
    · subst own
      rw [OrderedMap.find_set_self, Option.some.injEq] at found
      exact ⟨_, if_pos rfl, found.symm⟩
    · rw [OrderedMap.find_set_other _ (Ne.symm own)] at found
      rw [if_neg own]
      exact invariant.held key expiresAt (find_of_maybeSweep found)
  · intro key mark found few alive
    rw [marks, lastMark_cons] at found
    rw [marks, newerMarks_cons] at few
    rw [clock] at alive
    rw [seen]
    by_cases own : call.key = key
    · subst own
      rw [if_pos rfl, Option.some.injEq] at found
      rw [OrderedMap.find_set_self, ← found]
    · rw [if_neg own] at found few
      rw [acceptedOthers_cons, if_neg (by simp)] at few
      rw [OrderedMap.find_set_other _ (Ne.symm own)]
      exact find_maybeSweep (invariant.kept key mark found few (by omega)) alive
  · rw [seen, OrderedMap.keys_set_of_present held, marks]
    apply (invariant.order.sublist (keys_maybeSweep_sublist options _ _)).imp
    intro earlier later member
    rwa [acceptedSince_replay earlier rfl]

theorem Invariant.accept {options : Options} {state next : State} {call : Call}
    (invariant : Invariant options state) (positive : 0 < options.maxKeys)
    (careful : KeepsRefreshed options state call) (late : state.clock ≤ call.now)
    (clock : next.clock = call.now) (fits : tooLong options call.key = false)
    (seen : next.store.seen = insertion options state.store call.now call.key)
    (marks : next.marks = ⟨call.key, call.now, false⟩ :: state.marks) :
    Invariant options next := by
  obtain ⟨past, ordered, fitting⟩ := invariant.mark ⟨call.key, call.now, false⟩ late rfl fits
  rw [← marks] at past ordered fitting
  refine ⟨?_, clock ▸ past, ordered, fitting, ?_, ?_, ?_⟩
  · rw [seen]
    exact size_insertion_le positive _ _ _
  · intro key expiresAt found
    rw [seen, insertion] at found
    rw [marks, lastMark_cons]
    by_cases own : call.key = key
    · subst own
      rw [OrderedMap.find_set_self, Option.some.injEq] at found
      exact ⟨_, if_pos rfl, found.symm⟩
    · rw [OrderedMap.find_set_other _ (Ne.symm own)] at found
      rw [if_neg own]
      exact invariant.held key expiresAt
        (find_of_maybeSweep (OrderedMap.find_of_erase (OrderedMap.find_of_shrink found)))
  · intro key mark found few alive
    rw [marks, lastMark_cons] at found
    rw [marks, newerMarks_cons] at few
    rw [clock] at alive
    rw [seen]
    by_cases own : call.key = key
    · subst own
      rw [if_pos rfl, Option.some.injEq] at found
      rw [insertion, OrderedMap.find_set_self, ← found]
    · rw [if_neg own] at found few
      rw [acceptedOthers_cons, if_pos ⟨rfl, own⟩] at few
      have fewBefore := Nat.lt_of_le_of_lt (Finset.card_le_card (Finset.subset_insert _ _)) few
      apply find_insertion invariant.bounded fits (Ne.symm own)
        (invariant.kept key mark found fewBefore (by omega)) alive
      intro gone
      exact absurd (invariant.evicted_count careful gone found) (Nat.not_le.mpr few)
  · have absent : (((maybeSweep options state.store call.now).1.seen.erase call.key).shrink
        options.maxKeys).find call.key = none := by
      cases found : (((maybeSweep options state.store call.now).1.seen.erase call.key).shrink
        options.maxKeys).find call.key with
      | none => rfl
      | some value =>
          have before := OrderedMap.find_of_shrink found
          rw [OrderedMap.find_erase_self] at before
          cases before
    have left : (((maybeSweep options state.store call.now).1.seen.erase call.key).shrink
        options.maxKeys).keys.Sublist state.store.seen.keys :=
      ((OrderedMap.keys_restrict_sublist _ (OrderedMap.newest_sublist _ _)).trans
        (OrderedMap.keys_restrict_sublist _ List.filter_sublist)).trans
          (keys_maybeSweep_sublist options _ _)
    have missing : call.key ∉ (((maybeSweep options state.store call.now).1.seen.erase
        call.key).shrink options.maxKeys).keys := by
      rw [OrderedMap.mem_keys_iff, absent]
      simp
    rw [seen, insertion, OrderedMap.keys_set_of_absent absent, marks, List.pairwise_append]
    refine ⟨?_, List.pairwise_singleton _ _, ?_⟩
    · apply (invariant.order.sublist left).imp_of_mem
      intro earlier later first _ member
      have other : call.key ≠ earlier := fun same => missing (same ▸ first)
      rw [acceptedSince_other rfl other]
      exact Finset.mem_insert_of_mem member
    · intro earlier first later last
      have other : call.key ≠ earlier := fun same => missing (same ▸ first)
      rw [acceptedSince_other rfl other, List.mem_singleton.mp last]
      exact Finset.mem_insert_self _ _

/-- A mark that evicts no refreshed key too early keeps the invariant. -/
theorem Invariant.markStep {options : Options} {state next : State} {call : Call}
    (positive : 0 < options.maxKeys) (invariant : Invariant options state)
    (careful : KeepsRefreshed options state call)
    (stepped : markStep options state call = some next) : Invariant options next := by
  obtain ⟨late, clock, cases⟩ := markStep_cases stepped
  rcases cases with ⟨-, store, marks⟩ | ⟨fits, -, held, seen, marks⟩ | ⟨fits, -, seen, marks⟩
  · refine ⟨?_, ?_, ?_, ?_, ?_, ?_, ?_⟩
    · rw [store]; exact invariant.bounded
    · rw [marks, clock]
      intro mark member
      exact Int.le_trans (invariant.past mark member) late
    · rw [marks]; exact invariant.ordered
    · rw [marks]; exact invariant.fitting
    · rw [marks, store]; exact invariant.held
    · rw [marks, store, clock]
      intro key mark found few alive
      exact invariant.kept key mark found few (by omega)
    · rw [marks, store]; exact invariant.order
  · exact invariant.refresh late clock fits held seen marks
  · exact invariant.accept positive careful late clock fits seen marks

/-- A sweep keeps the invariant. -/
theorem Invariant.sweepStep {options : Options} {state next : State} {now : Int}
    (invariant : Invariant options state)
    (stepped : ReplayWindow.sweepStep state now = some next) : Invariant options next := by
  unfold ReplayWindow.sweepStep at stepped
  split at stepped
  next early => cases stepped
  next late =>
    obtain rfl := Option.some.inj stepped
    have swept (key : JsString) : (sweep state.store now).1.seen.find key =
        (state.store.seen.find key).filter fun expiresAt => now < expiresAt :=
      find_sweepExpired state.store.seen now key
    refine ⟨?_, ?_, invariant.ordered, invariant.fitting, ?_, ?_, ?_⟩
    · exact Nat.le_trans (OrderedMap.size_filter_le _ _) invariant.bounded
    · intro mark member
      have past := invariant.past mark member
      show mark.now ≤ now
      omega
    · intro key expiresAt found
      rw [swept, Option.filter_eq_some_iff] at found
      exact invariant.held key expiresAt found.1
    · intro key mark found few alive
      have unexpired : now < mark.now + options.ttlMs := alive
      have before := invariant.kept key mark found few (by omega)
      rw [swept, before, Option.filter_some, if_pos (decide_eq_true unexpired)]
    · exact invariant.order.sublist (OrderedMap.keys_restrict_sublist _ List.filter_sublist)

theorem Invariant.step {options : Options} {state next : State} {event : Event}
    (positive : 0 < options.maxKeys) (invariant : Invariant options state)
    (careful : EvictsNoRefreshed options state event)
    (stepped : step options state event = some next) : Invariant options next := by
  cases event with
  | mark call => exact invariant.markStep positive careful stepped
  | sweep now => exact invariant.sweepStep stepped

/-- Evicting a refreshed key too early forgets its last mark. -/
theorem Invariant.keepsRefreshed {options : Options} {state next : State} {call : Call}
    (invariant : Invariant options state)
    (stepped : ReplayWindow.markStep options state call = some next)
    (remembers : Remembers options next) : KeepsRefreshed options state call := by
  intro key mark gone found replay
  by_contra early
  have few := Nat.not_le.mp early
  obtain ⟨fits, absent, full, rest, keys⟩ := evicted_eq_some gone
  have listed : ((maybeSweep options state.store call.now).1.seen.find key).isSome := by
    rw [← OrderedMap.mem_keys_iff, keys]
    exact List.mem_cons_self
  obtain ⟨expiresAt, inSwept⟩ := Option.isSome_iff_exists.mp listed
  have other : call.key ≠ key := by
    intro same
    rw [same, inSwept] at absent
    cases absent
  have alive : call.now < expiresAt := by
    rw [maybeSweep_of_full full, find_sweepExpired, Option.filter_eq_some_iff] at inSwept
    simpa using inSwept.2
  obtain ⟨last, foundLast, ends⟩ := invariant.held key expiresAt (find_of_maybeSweep inSwept)
  rw [found, Option.some.injEq] at foundLast
  subst foundLast
  obtain ⟨own, older, split⟩ := split_of_lastMark found
  obtain ⟨-, clock, cases⟩ := markStep_cases stepped
  rcases cases with ⟨long, -, -⟩ | ⟨-, -, held, -, -⟩ | ⟨-, -, seen, marks⟩
  · rw [fits] at long
    cases long
  · rw [absent] at held
    cases held
  · have nextSplit : next.marks =
        (⟨call.key, call.now, false⟩ :: newerMarks key state.marks) ++ mark :: older := by
      rw [marks, List.cons_append, ← split]
    have fewer : (acceptedOthers mark.key
        (⟨call.key, call.now, false⟩ :: newerMarks key state.marks)).card < options.maxKeys := by
      rw [own, acceptedOthers_cons, if_pos ⟨rfl, other⟩]
      exact few
    have reported := remembers _ mark older nextSplit fewer call.now (Int.le_of_eq clock)
      (by omega)
    rw [markAndCheck_replay, own] at reported
    rcases reported with long | live
    · have marked : mark ∈ state.marks := by
        rw [split]
        simp
      have short := invariant.fitting mark marked
      rw [own, long] at short
      cases short
    · obtain ⟨held, foundHeld, -⟩ := live
      rw [seen, find_evicted invariant.bounded gone (Ne.symm other)] at foundHeld
      cases foundHeld

theorem Invariant.careful {options : Options} {state next : State} {event : Event}
    (invariant : Invariant options state)
    (stepped : ReplayWindow.step options state event = some next)
    (remembers : Remembers options next) : EvictsNoRefreshed options state event := by
  cases event with
  | mark call => exact invariant.keepsRefreshed stepped remembers
  | sweep now => trivial

/-! ### Whole runs -/

theorem size_step_le {options : Options} {state next : State} {event : Event}
    (positive : 0 < options.maxKeys) (bounded : state.store.seen.size ≤ options.maxKeys)
    (stepped : step options state event = some next) :
    next.store.seen.size ≤ options.maxKeys := by
  cases event with
  | mark call =>
      simp only [step, markStep] at stepped
      split at stepped
      next early => cases stepped
      next late =>
        cases stepped
        exact size_markAndCheck_le positive bounded call.now call.key
  | sweep now =>
      simp only [step, sweepStep] at stepped
      split at stepped
      next early => cases stepped
      next late =>
        cases stepped
        exact Nat.le_trans (OrderedMap.size_filter_le _ _) bounded

/-- The store never holds more keys than the cap, and every mark is remembered
for its whole lifetime, unless `maxKeys` other keys were accepted since, exactly
in the runs in which no mark evicts a refreshed key too early. -/
theorem remembered_iff {options : Options} (positive : 0 < options.maxKeys) {clock : Int}
    {events : List Event} {final : State}
    (reached : Machine.run (step options) (start clock) events = some final) :
    final.store.seen.size ≤ options.maxKeys ∧
    ((∀ before after middle, events = before ++ after →
        Machine.run (step options) (start clock) before = some middle →
          Remembers options middle) ↔
      Machine.Meets (step options) (EvictsNoRefreshed options) (start clock) events) := by
  constructor
  · apply Machine.run_invariant_always _ _ _ reached
    · intro state next event bounded stepped
      exact size_step_le positive bounded stepped
    · exact Nat.zero_le _
  · apply Machine.everywhere_iff_meets (Invariant options) Invariant.remembers
      (fun invariant careful stepped => invariant.step positive careful stepped)
      (fun invariant stepped remembers => invariant.careful stepped remembers)
      (Invariant.start options clock) reached

/-- Two keys fit. -/
def twoKeys : Options := ⟨1000, 2, 1000, 64⟩

/-- The first key is marked again before the third comes. -/
def refreshedRun : List Event :=
  [.mark ⟨0, js "a"⟩, .mark ⟨1, js "b"⟩, .mark ⟨2, js "a"⟩, .mark ⟨3, js "c"⟩]

/-- Instead of the third key comes a sweep. -/
def sweptRun : List Event :=
  [.mark ⟨0, js "a"⟩, .mark ⟨1, js "b"⟩, .mark ⟨2, js "a"⟩, .sweep 3]

/-- The third key evicts the one that was marked last. -/
theorem refreshed_forgotten :
    ∃ final, Machine.run (step twoKeys) (start 0) refreshedRun = some final ∧
      ¬Remembers twoKeys final := by
  have marks : (Machine.run (step twoKeys) (start 0) refreshedRun).any (fun final =>
      decide (final.clock = 3 ∧ final.marks = [⟨js "c", 3, false⟩] ++ ⟨js "a", 2, true⟩ ::
        [⟨js "b", 1, false⟩, ⟨js "a", 0, false⟩] ∧
        (markAndCheck twoKeys final.store 3 (js "a")).2.replay = false)) = true := by
    decide
  obtain ⟨final, reached, holds⟩ := Option.any_eq_true _ _ |>.mp marks
  obtain ⟨clock, split, forgotten⟩ := of_decide_eq_true holds
  refine ⟨final, reached, ?_⟩
  intro remembers
  have few : (acceptedOthers (js "a") [⟨js "c", 3, false⟩]).card < twoKeys.maxKeys := by decide
  have reported := remembers _ _ _ split few 3 (Int.le_of_eq clock) (by decide)
  rw [forgotten] at reported
  cases reported

/-- Without it the marks are remembered exactly as the events evict no refreshed key,
which none of them does. -/
theorem roomy_remembered :
    ∃ final, Machine.run (step twoKeys) (start 0) sweptRun = some final ∧
      final.store.seen.size ≤ twoKeys.maxKeys ∧
      ((∀ before after middle, sweptRun = before ++ after →
          Machine.run (step twoKeys) (start 0) before = some middle → Remembers twoKeys middle) ↔
        Machine.Meets (step twoKeys) (EvictsNoRefreshed twoKeys) (start 0) sweptRun) := by
  have runs : (Machine.run (step twoKeys) (start 0) sweptRun).isSome = true := by
    decide
  obtain ⟨final, reached⟩ := Option.isSome_iff_exists.mp runs
  exact ⟨final, reached, remembered_iff (by decide) reached⟩

end DarkmeshGateway.Gateway.ReplayWindow
