import DarkmeshGateway.Foundation.Js.Json
import DarkmeshGateway.Foundation.OrderedMap

/-!
Contract: the session lifecycle service of the gateway over its in-memory store.

Owns the sessions, the four operations with their refusals, what each does to
the store, and that a refused operation does nothing.

Does not own the listing by subject, or the ids the factory draws.
-/

namespace DarkmeshGateway.Gateway.SessionLifecycle

open Foundation
open Foundation.Js

inductive Status where
  | active
  | revoked
  | rotated
deriving DecidableEq, Repr

structure Session where
  id : JsString
  subject : JsString
  createdAt : Int
  expiresAt : Int
  ttlMs : Nat
  status : Status
  claims : Fields
  context : Fields
  revokedAt : Option Int := none
  rotatedAt : Option Int := none
  rotatedFrom : Option JsString := none
  rotatedTo : Option JsString := none

inductive ErrorCode where
  | invalidId
  | invalidSubject
  | invalidTtl
  | notFound
  | expired
  | revoked
  | rotated
deriving DecidableEq, Repr

structure Failure where
  code : ErrorCode
  message : String
deriving DecidableEq, Repr

/-- `SessionLifecycleCreateInput`. -/
structure CreateInput where
  subject : JsString
  ttlMs : Option Number := none
  claims : Option Json := none
  context : Option Json := none

/-- The sessions by id. -/
abbrev Store := OrderedMap JsString Session

def put (store : Store) (session : Session) : Store := store.set session.id session

/-! ### Operations -/

/-- `DEFAULT_TTL_MS`. -/
def defaultTtl : Nat := 14 * 24 * 60 * 60 * 1000

/-- `Math.floor` of a finite positive number that is at least one. -/
def normalizeTtlMs (ttlMs : Option Number) (fallback : Number) : Option Nat :=
  match ttlMs.getD fallback with
  | .finite decimal =>
      if decimal.negative then none
      else if 0 < decimal.trunc then some decimal.trunc.toNat else none
  | _ => none

/-- The service's own default: the configured one where it is usable. -/
def defaultTtlMs (configured : Option Number) : Nat :=
  (normalizeTtlMs configured (.ofInt defaultTtl)).getD defaultTtl

/-- The fields of a plain object, and none of anything else. -/
def cloneRecord (value : Option Json) : Fields :=
  match value with
  | some (.obj fields) => fields
  | _ => []

/-- The checks `read`, `rotate` and `revoke` share; the messages for a revoked
and a rotated session are the operation's own. -/
def usable (store : Store) (now : Int) (sessionId : JsString) (revoked rotated : String) :
    Except Failure Session :=
  let id := trim sessionId
  if id = [] then .error ⟨.invalidId, "session id is required"⟩
  else
    match store.find id with
    | none => .error ⟨.notFound, "session was not found"⟩
    | some session =>
        match session.status with
        | .revoked => .error ⟨.revoked, revoked⟩
        | .rotated => .error ⟨.rotated, rotated⟩
        | .active =>
            if session.expiresAt ≤ now then .error ⟨.expired, "session has expired"⟩
            else .ok session

def readSession (store : Store) (now : Int) (sessionId : JsString) : Except Failure Session :=
  usable store now sessionId "session has been revoked" "session has been rotated"

/-- The new session and the store with it; `freshId` is what the id factory yields. -/
def createSession (store : Store) (defaultTtlMs : Nat) (now : Int) (freshId : JsString)
    (input : CreateInput) : Store × Except Failure Session :=
  let subject := trim input.subject
  if subject = [] then (store, .error ⟨.invalidSubject, "session subject is required"⟩)
  else
    match normalizeTtlMs input.ttlMs (.ofInt defaultTtlMs) with
    | none => (store, .error ⟨.invalidTtl, "session ttl must be a positive integer"⟩)
    | some ttlMs =>
        let session : Session :=
          { id := freshId, subject := subject, createdAt := now, expiresAt := now + ttlMs,
            ttlMs := ttlMs, status := .active, claims := cloneRecord input.claims,
            context := cloneRecord input.context }
        (put store session, .ok session)

/-- `successor` of a rotation. -/
def successorOf (current : Session) (now : Int) (freshId : JsString) : Session :=
  { id := freshId, subject := current.subject, createdAt := now,
    expiresAt := now + current.ttlMs, ttlMs := current.ttlMs, status := .active,
    claims := current.claims, context := current.context, rotatedFrom := some current.id }

/-- `rotated` of a rotation. -/
def rotatedBy (current : Session) (now : Int) (successorId : JsString) : Session :=
  { current with status := .rotated, rotatedAt := some now, rotatedTo := some successorId }

/-- The successor of a session, and the id of the session it replaces. -/
def rotateSession (store : Store) (now : Int) (freshId sessionId : JsString) :
    Store × Except Failure (Session × JsString) :=
  match usable store now sessionId "session has been revoked"
    "session has already been rotated" with
  | .error failure => (store, .error failure)
  | .ok current =>
      let successor := successorOf current now freshId
      let rotated := rotatedBy current now successor.id
      (put (put store rotated) successor, .ok (successor, rotated.id))

/-- `revoked` of a revocation. -/
def revokedAt (current : Session) (now : Int) : Session :=
  { current with status := .revoked, revokedAt := some now }

/-- The revoked session, and its status before. -/
def revokeSession (store : Store) (now : Int) (sessionId : JsString) :
    Store × Except Failure (Session × Status) :=
  match usable store now sessionId "session has already been revoked"
    "session has already been rotated" with
  | .error failure => (store, .error failure)
  | .ok current =>
      let revoked := revokedAt current now
      (put store revoked, .ok (revoked, current.status))

/-! ### Refusals -/

/-- The session is usable: stored under the trimmed id, active and unexpired. -/
theorem usable_eq_ok {store : Store} {now : Int} {sessionId : JsString} {revoked rotated : String}
    {session : Session} :
    usable store now sessionId revoked rotated = .ok session ↔
      trim sessionId ≠ [] ∧ store.find (trim sessionId) = some session ∧
        session.status = .active ∧ now < session.expiresAt := by
  constructor
  · intro passed
    unfold usable at passed
    simp only at passed
    split at passed
    next blank => cases passed
    next present =>
      split at passed
      next absent => cases passed
      next held found =>
        split at passed
        next => cases passed
        next => cases passed
        next active =>
          split at passed
          next ended => cases passed
          next alive =>
            cases passed
            exact ⟨present, found, active, Int.not_le.mp alive⟩
  · intro holds
    obtain ⟨present, found, active, alive⟩ := holds
    simp [usable, present, found, active, Int.not_le.mpr alive]

theorem createSession_refused {store after : Store} {ttl : Nat} {now : Int} {freshId : JsString}
    {input : CreateInput} {failure : Failure}
    (created : createSession store ttl now freshId input = (after, .error failure)) :
    after = store := by
  unfold createSession at created
  simp only at created
  split at created
  · exact (Prod.mk.inj created).1.symm
  · split at created
    · exact (Prod.mk.inj created).1.symm
    · simp at created

theorem rotateSession_refused {store after : Store} {now : Int} {freshId sessionId : JsString}
    {failure : Failure}
    (rotated : rotateSession store now freshId sessionId = (after, .error failure)) :
    after = store := by
  unfold rotateSession at rotated
  split at rotated
  · exact (Prod.mk.inj rotated).1.symm
  · simp at rotated

theorem revokeSession_refused {store after : Store} {now : Int} {sessionId : JsString}
    {failure : Failure} (revoked : revokeSession store now sessionId = (after, .error failure)) :
    after = store := by
  unfold revokeSession at revoked
  split at revoked
  · exact (Prod.mk.inj revoked).1.symm
  · simp at revoked

end DarkmeshGateway.Gateway.SessionLifecycle
