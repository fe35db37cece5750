import DarkmeshGateway.Foundation.Delimited
import DarkmeshGateway.Foundation.OrderedMap
import DarkmeshGateway.Foundation.Timeline
import DarkmeshGateway.Gateway.Environment
import Mathlib.Data.List.Perm.Subperm

/-!
Contract: the rate limiter of the gateway.

Owns the limits per key prefix, the buckets, their pruning, the check of a
call, and its agreement with a counter of fixed windows for each key.

Does not own the metrics, or the keys the callers choose.
-/

namespace DarkmeshGateway.Gateway.RateLimit

open Foundation
open Foundation.Js
open Foundation.Timeline
open Environment (Env readHandlerEnvString readPositiveIntEnv)

/-! ### Configuration -/

/-- Limits of key prefixes; none of them is zero. -/
structure Overrides where
  limits : OrderedMap JsString Nat
  positive : ∀ key max, limits.find key = some max → 0 < max

def Overrides.none : Overrides := ⟨.empty, fun _ _ found => by simp at found⟩

def Overrides.set (overrides : Overrides) (key : JsString) (max : Nat) (usable : 0 < max) :
    Overrides where
  limits := overrides.limits.set key max
  positive := by
    intro other held found
    by_cases same : other = key
    · subst same
      rw [OrderedMap.find_set_self, Option.some.injEq] at found
      exact found ▸ usable
    · rw [OrderedMap.find_set_other _ same] at found
      exact overrides.positive other held found

/-- `text.indexOf(unit)`, where `-1` is no index. -/
def indexOf (text : JsString) (unit : CodeUnit) : Int :=
  if unit ∈ text then (text.idxOf unit : Int) else -1

def positiveInt (value : JsString) (fallback : Nat) : Nat :=
  match parseInt10 value with
  | some parsed => if isFiniteInt parsed ∧ 0 < parsed then parsed.toNat else fallback
  | none => fallback

def parseOverride (overrides : Overrides) (entry : JsString) : Overrides :=
  let trimmed := trim entry
  let separator := indexOf trimmed 61
  if separator ≤ 0 ∨ separator = (trimmed.length : Int) - 1 then overrides
  else
    let keyPrefix := trim (trimmed.take separator.toNat)
    let max := positiveInt (trim (trimmed.drop (separator.toNat + 1))) 0
    if usable : keyPrefix ≠ [] ∧ 0 < max then overrides.set keyPrefix max usable.2
    else overrides

def parseOverrides (raw : Option JsString) : Overrides :=
  match raw with
  | none => .none
  | some text => (text.splitOn 44).foldl parseOverride .none

structure Config where
  windowMs : Nat
  maxReq : Nat
  maxBuckets : Nat
  prefixOverrides : Overrides

def loadConfig (env : Env) : Config where
  windowMs := readPositiveIntEnv env "GATEWAY_RL_WINDOW_MS" 60000
  maxReq := readPositiveIntEnv env "GATEWAY_RL_MAX" 120
  maxBuckets := readPositiveIntEnv env "GATEWAY_RL_MAX_BUCKETS" 10000
  prefixOverrides := parseOverrides (readHandlerEnvString env "GATEWAY_RL_MAX_OVERRIDES")

def effectiveMaxForKey (config : Config) (key : JsString) : Nat :=
  let separator := indexOf key 58
  if separator ≤ 0 then config.maxReq
  else
    match config.prefixOverrides.limits.find (key.take separator.toNat) with
    | some max => if max = 0 then config.maxReq else max
    | none => config.maxReq

/-! ### Checking a call -/

structure Bucket where
  count : Nat
  reset : Int
deriving DecidableEq, Repr

abbrev Buckets := OrderedMap JsString Bucket

/-- The bucket's window has not ended. -/
def unexpired (now : Int) (bucket : Bucket) : Bool := now < bucket.reset

/-- Expired buckets go, and then the oldest down to the cap. -/
def prune (config : Config) (buckets : Buckets) (now : Int) : Buckets :=
  (buckets.filter fun _ bucket => unexpired now bucket).shrink (config.maxBuckets + 1)

def check (config : Config) (buckets : Buckets) (now : Int) (key : JsString) : Buckets × Bool :=
  let pruned := prune config buckets now
  let max := effectiveMaxForKey config key
  let found := (pruned.find key).getD ⟨0, now + config.windowMs⟩
  let current := if found.reset ≤ now then ⟨0, now + config.windowMs⟩ else found
  let counted : Bucket := { current with count := current.count + 1 }
  (prune config (pruned.set key counted) now, !(max < counted.count))

structure Call where
  now : Int
  key : JsString
deriving DecidableEq, Repr

/-- The buckets after a history of calls. -/
def bucketsAfter (config : Config) (history : List Call) : Buckets :=
  after (fun buckets call => (check config buckets call.now call.key).1) .empty history

/-! ### Fixed windows

A window starts with the first call after the previous one ended and lasts
`windowMs`; the calls in it are counted.
-/

/-- The window of a key after one more call. -/
def advance (config : Config) (window : Option Bucket) (now : Int) : Bucket :=
  match window.filter (unexpired now) with
  | some running => { running with count := running.count + 1 }
  | none => ⟨1, now + config.windowMs⟩

/-- The last window of a key in a history of calls of many keys. -/
def window (config : Config) (key : JsString) (history : List Call) : Option Bucket :=
  after (fun window call =>
    if call.key = key then some (advance config window call.now) else window) none history

/-- The key's window has not ended. -/
def Running (config : Config) (history : List Call) (now : Int) (key : JsString) : Prop :=
  ∃ running, window config key history = some running ∧ now < running.reset

/-- Right after each call, when windows may have started, no more than
`maxBuckets` keys have a window that has not ended. -/
def Uncrowded (config : Config) (history : List Call) : Prop :=
  ∀ before call rest, history = before ++ call :: rest → ∀ keys : List JsString, keys.Nodup →
    (∀ key ∈ keys, Running config (before ++ [call]) call.now key) →
      keys.length ≤ config.maxBuckets

/-- The limit of a key: that of its prefix, if there is one, else the default. -/
def IsLimit (config : Config) (key : JsString) (max : Nat) : Prop :=
  (∃ keyPrefix rest, key = keyPrefix ++ 58 :: rest ∧ 58 ∉ keyPrefix ∧ keyPrefix ≠ [] ∧
    config.prefixOverrides.limits.find keyPrefix = some max) ∨
  (max = config.maxReq ∧ ∀ keyPrefix rest, key = keyPrefix ++ 58 :: rest → 58 ∉ keyPrefix →
    keyPrefix ≠ [] → config.prefixOverrides.limits.find keyPrefix = none)

/-! ### Limits -/

private theorem indexOf_le_zero {text : JsString} {unit : CodeUnit}
    (early : indexOf text unit ≤ 0) {start rest : JsString}
    (split : text = start ++ unit :: rest) (free : unit ∉ start) : start = [] := by
  have listed : unit ∈ text := by simp [split]
  rw [indexOf, if_pos listed, split, List.idxOf_append_of_notMem free] at early
  have length : start.length = 0 := by simpa using early
  exact List.eq_nil_of_length_eq_zero length

private theorem split_at_indexOf {text : JsString} {unit : CodeUnit}
    (late : 0 < indexOf text unit) :
    (∃ rest, text = text.take (indexOf text unit).toNat ++ unit :: rest) ∧
      unit ∉ text.take (indexOf text unit).toNat ∧
      text.take (indexOf text unit).toNat ≠ [] := by
  have listed : unit ∈ text := by
    by_contra absent
    rw [indexOf, if_neg absent] at late
    omega
  rw [indexOf, if_pos listed] at late ⊢
  rw [Int.toNat_natCast]
  have inside : text.idxOf unit < text.length := List.idxOf_lt_length_iff.mpr listed
  refine ⟨⟨text.drop (text.idxOf unit + 1), ?_⟩, ?_, ?_⟩
  · have here : text[text.idxOf unit] = unit := List.getElem_idxOf inside
    conv_lhs => rw [← List.take_append_drop (text.idxOf unit) text]
    rw [List.drop_eq_getElem_cons inside, here]
  · intro early
    have bound := List.idxOf_lt_length_iff.mpr early
    have same : text.idxOf unit = (text.take (text.idxOf unit)).idxOf unit := by
      conv_lhs => rw [← List.take_append_drop (text.idxOf unit) text]
      exact List.idxOf_append_of_mem early
    rw [List.length_take] at bound
    omega
  · intro empty
    have length := congrArg List.length empty
    simp only [List.length_take, List.length_nil] at length
    omega

/-- The limit used for a key is its limit. -/
theorem isLimit_effectiveMaxForKey (config : Config) (key : JsString) :
    IsLimit config key (effectiveMaxForKey config key) := by
  unfold effectiveMaxForKey
  simp only
  split
  next early =>
    refine Or.inr ⟨rfl, ?_⟩
    intro keyPrefix rest split free nonempty
    exact absurd (indexOf_le_zero early split free) nonempty
  next late =>
    obtain ⟨⟨rest, split⟩, free, nonempty⟩ := split_at_indexOf (Int.not_le.mp late)
    cases found : config.prefixOverrides.limits.find (key.take (indexOf key 58).toNat) with
    | some max =>
        have usable := config.prefixOverrides.positive _ _ found
        simp only [Nat.ne_of_gt usable, if_false]
        exact Or.inl ⟨_, rest, split, free, nonempty, found⟩
    | none =>
        refine Or.inr ⟨rfl, ?_⟩
        intro keyPrefix others splitOther freeOther _
        rw [splitOther] at split
        have same := (Delimited.field_unique freeOther (splitOther ▸ free) split).1
        rw [same, ← splitOther]
        exact found

/-! ### Buckets against windows -/

@[simp] theorem window_append (config : Config) (key : JsString) (history : List Call)
    (call : Call) :
    window config key (history ++ [call]) =
      if call.key = key then some (advance config (window config key history) call.now)
      else window config key history := after_append_singleton history call

/-- A bucket that runs is still counted in the same window after one more call. -/
theorem advance_of_running {config : Config} {running : Bucket} {now : Int}
    (open_ : now < running.reset) :
    advance config (some running) now = { running with count := running.count + 1 } := by
  have kept : (some running).filter (unexpired now) = some running := by
    simp [unexpired, open_]
  rw [advance, kept]

theorem advance_of_ended {config : Config} {window : Option Bucket} {now : Int}
    (ended : window.filter (unexpired now) = none) :
    advance config window now = ⟨1, now + config.windowMs⟩ := by
  rw [advance, ended]

/-- Another key's call changes no running window, and the key's own call keeps
its end. -/
theorem Running.append {config : Config} {history : List Call} {call : Call} {key : JsString}
    (running : Running config history call.now key) :
    Running config (history ++ [call]) call.now key := by
  obtain ⟨bucket, held, alive⟩ := running
  by_cases own : call.key = key
  · refine ⟨{ bucket with count := bucket.count + 1 }, ?_, alive⟩
    rw [window_append, if_pos own, held, advance_of_running alive]
  · refine ⟨bucket, ?_, alive⟩
    rw [window_append, if_neg own, held]

/-- The unexpired buckets are the windows that have not ended. -/
def Mirrors (config : Config) (history : List Call) (buckets : Buckets) (now : Int) : Prop :=
  ∀ key, (buckets.find key).filter (unexpired now) =
    (window config key history).filter (unexpired now)

theorem filter_later {window : Option Bucket} {now later : Int} (passed : now ≤ later) :
    (window.filter (unexpired now)).filter (unexpired later) = window.filter (unexpired later) := by
  apply Timeline.filter_expired
  intro bucket running
  simp only [unexpired, decide_eq_true_eq] at running ⊢
  omega

theorem Mirrors.later {config : Config} {history : List Call} {buckets : Buckets} {now later : Int}
    (mirrors : Mirrors config history buckets now) (passed : now ≤ later) :
    Mirrors config history buckets later := by
  intro key
  rw [← filter_later passed, mirrors key, filter_later passed]

/-- Where no more keys than the cap have a running window, pruning only drops
expired buckets. -/
theorem prune_eq_filter {config : Config} {history : List Call} {buckets : Buckets} {now : Int}
    (mirrors : Mirrors config history buckets now)
    (roomy : ∀ keys : List JsString, keys.Nodup → (∀ key ∈ keys, Running config history now key) →
      keys.length ≤ config.maxBuckets) :
    prune config buckets now = buckets.filter fun _ bucket => unexpired now bucket := by
  apply OrderedMap.shrink_eq_self
  apply Nat.lt_succ_of_le
  have running : ∀ key ∈ (buckets.filter fun _ bucket => unexpired now bucket).keys,
      Running config history now key := by
    intro key member
    rw [OrderedMap.mem_keys_iff, Option.isSome_iff_exists] at member
    obtain ⟨bucket, found⟩ := member
    rw [OrderedMap.find_filter] at found
    have open_ := (mirrors key).symm.trans found
    rw [Option.filter_eq_some_iff] at open_
    exact ⟨bucket, open_.1, by simpa [unexpired] using open_.2⟩
  have length := roomy _ (OrderedMap.distinct _) running
  rwa [List.length_map] at length

theorem find_prune {config : Config} {history : List Call} {buckets : Buckets} {now : Int}
    (mirrors : Mirrors config history buckets now)
    (roomy : ∀ keys : List JsString, keys.Nodup → (∀ key ∈ keys, Running config history now key) →
      keys.length ≤ config.maxBuckets) (key : JsString) :
    (prune config buckets now).find key = (window config key history).filter (unexpired now) := by
  rw [prune_eq_filter mirrors roomy, OrderedMap.find_filter]
  exact mirrors key

/-- The bucket of a checked key after its call is counted. -/
def counted (config : Config) (found : Option Bucket) (now : Int) : Bucket :=
  let held := found.getD ⟨0, now + config.windowMs⟩
  let current := if held.reset ≤ now then ⟨0, now + config.windowMs⟩ else held
  { current with count := current.count + 1 }

theorem check_eq (config : Config) (buckets : Buckets) (now : Int) (key : JsString) :
    check config buckets now key =
      (prune config ((prune config buckets now).set key
        (counted config ((prune config buckets now).find key) now)) now,
      decide ((counted config ((prune config buckets now).find key) now).count ≤
        effectiveMaxForKey config key)) := by
  simp only [check, counted, Prod.mk.injEq, true_and]
  rw [← decide_not]
  exact decide_eq_decide.mpr Nat.not_lt

theorem counted_eq_advance (config : Config) (window : Option Bucket) (now : Int) :
    counted config (window.filter (unexpired now)) now = advance config window now := by
  cases open_ : window.filter (unexpired now) with
  | none =>
      rw [advance_of_ended open_]
      simp [counted]
  | some running =>
      have alive : now < running.reset := by
        simpa [unexpired] using (Option.filter_eq_some_iff.mp open_).2
      rw [advance, open_]
      simp [counted, Int.not_le.mpr alive]

/-- What one call does where no more keys than the cap have a running window:
it answers by the window of its key, and the buckets mirror the windows again. -/
theorem check_spec {config : Config} {history : List Call} {buckets : Buckets} {call : Call}
    (mirrors : Mirrors config history buckets call.now)
    (roomy : ∀ keys : List JsString, keys.Nodup →
      (∀ key ∈ keys, Running config (history ++ [call]) call.now key) →
        keys.length ≤ config.maxBuckets) :
    (check config buckets call.now call.key).2 =
        decide ((advance config (window config call.key history) call.now).count ≤
          effectiveMaxForKey config call.key) ∧
      ∀ key, (check config buckets call.now call.key).1.find key =
        (window config key (history ++ [call])).filter (unexpired call.now) := by
  have roomyBefore : ∀ keys : List JsString, keys.Nodup →
      (∀ key ∈ keys, Running config history call.now key) → keys.length ≤ config.maxBuckets := by
    intro keys distinct running
    exact roomy keys distinct fun key member => (running key member).append
  have found := find_prune mirrors roomyBefore
  rw [check_eq, found, counted_eq_advance]
  refine ⟨rfl, ?_⟩
  apply find_prune _ roomy
  intro key
  rw [window_append]
  by_cases own : call.key = key
  · subst own
    rw [OrderedMap.find_set_self, if_pos rfl]
  · rw [OrderedMap.find_set_other _ (Ne.symm own), found, if_neg own, filter_later (Int.le_refl _)]

/-- A history at non-decreasing times without crowding. -/
structure Admissible (config : Config) (history : List Call) : Prop where
  ordered : Ordered Call.now history
  uncrowded : Uncrowded config history

theorem Admissible.before {config : Config} {history : List Call} {call : Call}
    (admissible : Admissible config (history ++ [call])) : Admissible config history := by
  refine ⟨admissible.ordered.before, ?_⟩
  intro earlier other rest split
  apply admissible.uncrowded earlier other (rest ++ [call])
  simp [split]

/-- From the last call on, the buckets mirror the windows. -/
def Tracks (config : Config) (history : List Call) (buckets : Buckets) : Prop :=
  ∀ now, (∀ call ∈ history, call.now ≤ now) → Mirrors config history buckets now

/-- Along a history without crowding the buckets are the windows that have not
ended. -/
theorem tracks_bucketsAfter {config : Config} {history : List Call}
    (admissible : Admissible config history) :
    Tracks config history (bucketsAfter config history) := by
  apply holds_after_of _ _ _ admissible
  · intro now _ key
    simp [window]
  · intro before call
    exact Admissible.before
  · intro before call buckets admissible tracks now late
    have past := (ordered_append_singleton.mp admissible.ordered).2
    have stepped := (check_spec (tracks call.now past) (admissible.uncrowded before call [] rfl)).2
    have mirrors : Mirrors config (before ++ [call])
        (check config buckets call.now call.key).1 call.now := by
      intro key
      rw [stepped key, filter_later (Int.le_refl _)]
    exact mirrors.later (late call (by simp))

theorem mem_of_running {config : Config} {history : List Call} {now : Int} {key : JsString}
    (running : Running config history now key) : key ∈ history.map Call.key := by
  obtain ⟨bucket, held, -⟩ := running
  induction history using List.reverseRecOn with
  | nil => simp [window] at held
  | append_singleton before call inductionHypothesis =>
      rw [window_append] at held
      rw [List.map_append, List.mem_append]
      by_cases own : call.key = key
      · exact Or.inr (by simp [own])
      · rw [if_neg own] at held
        exact Or.inl (inductionHypothesis held)

/-- A history of no more keys than the cap is never crowded. -/
theorem uncrowded_of_few {config : Config} {history : List Call} {known : List JsString}
    (few : known.length ≤ config.maxBuckets) (listed : ∀ call ∈ history, call.key ∈ known) :
    Uncrowded config history := by
  intro before call rest split keys distinct running
  apply Nat.le_trans _ few
  apply (distinct.subperm _).length_le
  intro key member
  have named := mem_of_running (running key member)
  rw [List.mem_map] at named
  obtain ⟨earlier, inHistory, rfl⟩ := named
  apply listed earlier
  rw [split, List.append_cons]
  exact List.mem_append_left rest inHistory

/-- Whatever was called before, no more buckets than the cap are left. -/
theorem size_check (config : Config) (buckets : Buckets) (now : Int) (key : JsString) :
    (check config buckets now key).1.size ≤ config.maxBuckets :=
  Nat.le_of_lt_succ (OrderedMap.size_shrink (Nat.succ_pos _) _)

/-- The limiter is an exact fixed window. Where no more keys than the cap have a
running window at once, each call is allowed exactly when it is among the first
calls of its key's window, up to the key's limit, and no bucket whose window has
not ended is dropped. In every sequence of calls the cap holds after each. -/
theorem check_exact (config : Config) (history : List Call) (call : Call) :
    (bucketsAfter config (history ++ [call])).size ≤ config.maxBuckets ∧
    IsLimit config call.key (effectiveMaxForKey config call.key) ∧
    (Ordered Call.now (history ++ [call]) → Uncrowded config (history ++ [call]) →
      ((check config (bucketsAfter config history) call.now call.key).2 = true ↔
        ∃ open_, window config call.key (history ++ [call]) = some open_ ∧
          open_.count ≤ effectiveMaxForKey config call.key) ∧
      ∀ key bucket, (bucketsAfter config history).find key = some bucket →
        call.now < bucket.reset →
          ∃ kept, (bucketsAfter config (history ++ [call])).find key = some kept ∧
            kept.reset = bucket.reset) := by
  have stepped : bucketsAfter config (history ++ [call]) =
      (check config (bucketsAfter config history) call.now call.key).1 :=
    after_append_singleton history call
  refine ⟨?_, isLimit_effectiveMaxForKey config call.key, ?_⟩
  · rw [stepped]
    exact size_check _ _ _ _
  · intro ordered uncrowded
    have past := (ordered_append_singleton.mp ordered).2
    have admissible : Admissible config (history ++ [call]) := ⟨ordered, uncrowded⟩
    have mirrors := tracks_bucketsAfter admissible.before call.now past
    obtain ⟨answer, found⟩ := check_spec mirrors (uncrowded history call [] rfl)
    constructor
    · rw [answer, window_append, if_pos rfl]
      simp
    · intro key bucket held alive
      have open_ : (window config key history).filter (unexpired call.now) = some bucket := by
        rw [← mirrors key, held]
        simp [unexpired, alive]
      rw [Option.filter_eq_some_iff] at open_
      rw [stepped]
      by_cases own : call.key = key
      · refine ⟨{ bucket with count := bucket.count + 1 }, ?_, rfl⟩
        rw [found, window_append, if_pos own, open_.1, advance_of_running alive]
        simp [unexpired, alive]
      · refine ⟨bucket, ?_, rfl⟩
        rw [found, window_append, if_neg own, open_.1]
        simp [unexpired, alive]

/-- Two requests of one window where one is allowed, and the first of the next. -/
def doubledEnv : Env := fun name =>
  if name = "GATEWAY_RL_WINDOW_MS" then some (js "100")
  else if name = "GATEWAY_RL_MAX_OVERRIDES" then some (js "ip=1")
  else none

def doubled : List Call := [⟨0, js "ip:a"⟩, ⟨40, js "ip:b"⟩, ⟨60, js "ip:a"⟩]

theorem doubled_exact :
    (check (loadConfig doubledEnv) (bucketsAfter (loadConfig doubledEnv) doubled) 100
      (js "ip:a")).2 = true ↔
    ∃ open_, window (loadConfig doubledEnv) (js "ip:a") (doubled ++ [⟨100, js "ip:a"⟩]) =
      some open_ ∧ open_.count ≤ effectiveMaxForKey (loadConfig doubledEnv) (js "ip:a") := by
  apply ((check_exact (loadConfig doubledEnv) doubled ⟨100, js "ip:a"⟩).2.2 _ _).1
  · unfold Ordered
    decide
  · have few : [js "ip:a", js "ip:b"].length ≤ (loadConfig doubledEnv).maxBuckets := by decide
    exact uncrowded_of_few few (by decide)

end DarkmeshGateway.Gateway.RateLimit
