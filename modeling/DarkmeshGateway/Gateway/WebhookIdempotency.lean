import DarkmeshGateway.Foundation.Js.Text
import DarkmeshGateway.Foundation.OrderedMap

/-!
Contract: the idempotency boundary of the GoPay webhook.

Owns classifying an event id and fingerprint against the accepted ones, the
expiry of accepted ids and the eviction of the oldest.

Does not own the fingerprint or the answer of the route.
-/

namespace DarkmeshGateway.Gateway.WebhookIdempotency

open Foundation
open Foundation.Js

inductive Policy where
  | dedupe
  | reject
deriving DecidableEq, Repr

inductive Status where
  | accepted
  | missingId
  | duplicate
  | conflict
deriving DecidableEq, Repr

structure Decision where
  status : Status
  httpStatus : Nat
  body : String
deriving DecidableEq, Repr

structure Entry where
  fingerprint : JsString
  seenAt : Int
deriving DecidableEq, Repr

structure Options where
  ttlMs : Nat
  maxKeys : Nat
  keyMaxBytes : Nat

/-- Accepted event ids. -/
abbrev Ledger := OrderedMap JsString Entry

/-! ### Expiry and eviction -/

def expired (options : Options) (now : Int) (entry : Entry) : Bool :=
  options.ttlMs < now - entry.seenAt

def pruneExpired (options : Options) (ledger : Ledger) (now : Int) : Ledger :=
  ledger.filter fun _ entry => !expired options now entry

/-- The first of the entries that were seen at the earliest time. -/
def oldestEntry : List (JsString × Entry) → Option (JsString × Entry)
  | [] => none
  | first :: rest =>
      some (rest.foldl (fun oldest entry =>
        if entry.2.seenAt < oldest.2.seenAt then entry else oldest) first)

def pruneOldest (ledger : Ledger) : Ledger :=
  match oldestEntry ledger.entries with
  | some (oldestKey, _) => if oldestKey = [] then ledger else ledger.erase oldestKey
  | none => ledger

/-! ### Classification -/

/-- The trimmed id, when there is one and it is within the byte limit. -/
def normalizedEventId (options : Options) (eventId : Option JsString) : Option JsString :=
  let normalized := trim (eventId.getD [])
  if normalized = [] then none
  else if options.keyMaxBytes < utf8Length normalized then none
  else some normalized

/-- The clock is read once for the expiry (`now`) and again for a new entry (`seenAt`). -/
def classify (options : Options) (ledger : Ledger) (now seenAt : Int)
    (eventId : Option JsString) (fingerprint : JsString) (policy : Policy) : Ledger × Decision :=
  match normalizedEventId options eventId with
  | none => (ledger, ⟨.missingId, 400, "missing event id"⟩)
  | some id =>
      let current := pruneExpired options ledger now
      match current.find id with
      | some prior =>
          if prior.fingerprint = fingerprint then
            match policy with
            | .reject => (current, ⟨.duplicate, 409, "duplicate event id"⟩)
            | .dedupe => (current, ⟨.duplicate, 200, "replay"⟩)
          else (current, ⟨.conflict, 409, "conflicting event payload for event id"⟩)
      | none =>
          let room := if options.maxKeys ≤ current.size then pruneOldest current else current
          (room.set id ⟨fingerprint, seenAt⟩, ⟨.accepted, 200, "ok"⟩)

/-- The id was accepted with this fingerprint and has not expired. -/
def Recorded (options : Options) (ledger : Ledger) (now : Int) (id fingerprint : JsString) : Prop :=
  ∃ entry, ledger.find id = some entry ∧ expired options now entry = false ∧
    entry.fingerprint = fingerprint

theorem find_pruneExpired (options : Options) (ledger : Ledger) (now : Int) (id : JsString) :
    (pruneExpired options ledger now).find id =
      (ledger.find id).filter fun entry => !expired options now entry :=
  ledger.find_filter _ id

theorem find_of_pruneExpired {options : Options} {ledger : Ledger} {now : Int} {id : JsString}
    {entry : Entry} (found : (pruneExpired options ledger now).find id = some entry) :
    ledger.find id = some entry := by
  rw [find_pruneExpired, Option.filter_eq_some_iff] at found
  exact found.1

theorem find_of_pruneOldest {ledger : Ledger} {id : JsString} {entry : Entry}
    (found : (pruneOldest ledger).find id = some entry) : ledger.find id = some entry := by
  unfold pruneOldest at found
  split at found
  · split at found
    · exact found
    · exact OrderedMap.find_of_erase found
  · exact found

theorem normalizedEventId_eq {options : Options} {eventId : Option JsString} {id : JsString}
    (normalized : normalizedEventId options eventId = some id) :
    trim (eventId.getD []) = id ∧ id ≠ [] := by
  simp only [normalizedEventId] at normalized
  split at normalized
  · simp at normalized
  · next present =>
      split at normalized
      · simp at normalized
      · rw [Option.some.injEq] at normalized
        rw [← normalized]
        exact ⟨rfl, present⟩

/-- A decision with a 2xx accepts a new id, or repeats a recorded one under the
dedupe policy. -/
theorem classify_ok {options : Options} {ledger : Ledger} {now seenAt : Int}
    {eventId : Option JsString} {fingerprint : JsString} {policy : Policy}
    (ok : (classify options ledger now seenAt eventId fingerprint policy).2.httpStatus < 300) :
    ∃ id, normalizedEventId options eventId = some id ∧
      ((classify options ledger now seenAt eventId fingerprint policy).2.status = .accepted ∨
        policy = .dedupe ∧ Recorded options ledger now id fingerprint) := by
  unfold classify at ok ⊢
  cases normalized : normalizedEventId options eventId with
  | none => simp [normalized] at ok
  | some id =>
      refine ⟨id, rfl, ?_⟩
      simp only [normalized] at ok ⊢
      cases found : (pruneExpired options ledger now).find id with
      | none => exact Or.inl rfl
      | some prior =>
          simp only [found] at ok ⊢
          by_cases same : prior.fingerprint = fingerprint
          · cases policy with
            | reject => simp [same] at ok
            | dedupe =>
                rw [find_pruneExpired, Option.filter_eq_some_iff] at found
                exact Or.inr ⟨rfl, prior, found.1, by simpa using found.2, same⟩
          · simp [same] at ok

/-- An id found after a classification was found before, or it is the accepted one. -/
theorem find_classify {options : Options} {ledger : Ledger} {now seenAt : Int}
    {eventId : Option JsString} {fingerprint : JsString} {policy : Policy} {other : JsString}
    {entry : Entry}
    (found : (classify options ledger now seenAt eventId fingerprint policy).1.find other =
      some entry) :
    ledger.find other = some entry ∨
      normalizedEventId options eventId = some other ∧
        (classify options ledger now seenAt eventId fingerprint policy).2.status = .accepted := by
  unfold classify at found ⊢
  cases normalized : normalizedEventId options eventId with
  | none =>
      rw [normalized] at found
      exact Or.inl found
  | some id =>
      simp only [normalized] at found ⊢
      cases prior : (pruneExpired options ledger now).find id with
      | some earlier =>
          left
          simp only [prior] at found
          split at found
          · cases policy <;> exact find_of_pruneExpired found
          · exact find_of_pruneExpired found
      | none =>
          simp only [prior] at found ⊢
          by_cases same : other = id
          · exact Or.inr (by simp [same])
          · left
            rw [OrderedMap.find_set_other _ same] at found
            split at found
            · exact find_of_pruneExpired (find_of_pruneOldest found)
            · exact find_of_pruneExpired found

end DarkmeshGateway.Gateway.WebhookIdempotency
