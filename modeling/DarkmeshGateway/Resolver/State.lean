import DarkmeshGateway.Resolver.Policies

/-!
Contract: the state of the resolver and the settings of a bundle.

Owns policy modes, the fail-open flag, cache hints and how they are read from
a bundle, resolutions and their cache entries.

Does not own the handlers.
-/

namespace DarkmeshGateway.Resolver.State

open Foundation
open Foundation.Lua
open Resolver.Normalize
open Resolver.Policies

/-! ### Modes and flags -/

inductive PolicyMode where
  | off
  | observe
  | soft
  | enforce
deriving DecidableEq, Repr

def PolicyMode.text : PolicyMode → LuaString
  | .off => lua "off"
  | .observe => lua "observe"
  | .soft => lua "soft"
  | .enforce => lua "enforce"

/-- `VALID_POLICY_MODES[text]` -/
def parseMode (text : LuaString) : Option PolicyMode :=
  if text = lua "off" then some .off
  else if text = lua "observe" then some .observe
  else if text = lua "soft" then some .soft
  else if text = lua "enforce" then some .enforce
  else none

/-- The mode asked for, else the current one; an unknown mode falls back to
`off`, which the flag tells. -/
def normalizeMode (platform : Platform) (current : PolicyMode) (mode : Option Value) :
    PolicyMode × Bool :=
  if truthy mode then
    match parseMode (lower ((mode.map platform.tostring).getD [])) with
    | some known => (known, false)
    | none => (.off, true)
  else (current, false)

def parseFailOpen (value : Option Value) (current : Bool) : Except LuaString Bool :=
  match value with
  | none => .ok current
  | some (.bool flag) => .ok flag
  | some (.num number) =>
      match number.integral with
      | some 1 => .ok true
      | some 0 => .ok false
      | _ => .error (lua "invalid_boolean:Fail-Open")
  | some (.str text) =>
      if [lua "1", lua "true", lua "yes"].contains (lower text) then .ok true
      else if [lua "0", lua "false", lua "no"].contains (lower text) then .ok false
      else .error (lua "invalid_boolean:Fail-Open")
  | some (.table _) => .error (lua "invalid_boolean:Fail-Open")

/-! ### Cache hints -/

/-- The cache hints in force, in whole seconds. -/
structure CacheHints where
  positiveTtlSec : Int := 300
  negativeTtlSec : Int := 60
  staleWhileRevalidateSec : Int := 900
  hardMaxStaleSec : Int := 3600
deriving DecidableEq, Repr

/-- The cache hints a bundle supplies. -/
structure CacheHintsUpdate where
  positiveTtlSec : Option Int := none
  negativeTtlSec : Option Int := none
  staleWhileRevalidateSec : Option Int := none
  hardMaxStaleSec : Option Int := none
deriving DecidableEq, Repr

/-- A supplied hint: a whole number in its range. -/
def parseCacheHintNumber (platform : Platform) (input : Entries) (hintName : String)
    (minValue maxValue : Int) : Except LuaString (Option Int) :=
  match field input hintName with
  | none => .ok none
  | some raw =>
      match (platform.tonumber raw).bind Number.integral with
      | none => .error (lua "invalid_number:" ++ lua hintName)
      | some value =>
          if value < minValue ∨ maxValue < value then
            .error (lua "invalid_range:" ++ lua hintName)
          else .ok (some value)

def normalizeCacheHints (platform : Platform) :
    Option Value → Except LuaString (Option CacheHintsUpdate)
  | none => .ok none
  | some (.table input) => do
      let positiveTtlSec ← parseCacheHintNumber platform input "positiveTtlSec" 1 86400
      let negativeTtlSec ← parseCacheHintNumber platform input "negativeTtlSec" 1 86400
      let staleWhileRevalidateSec ←
        parseCacheHintNumber platform input "staleWhileRevalidateSec" 0 86400
      let hardMaxStaleSec ← parseCacheHintNumber platform input "hardMaxStaleSec" 0 172800
      return some ⟨positiveTtlSec, negativeTtlSec, staleWhileRevalidateSec, hardMaxStaleSec⟩
  | some _ => invalidType (lua "Cache-Hints")

/-- The hints with the supplied ones in place. -/
def CacheHints.merge (hints : CacheHints) : Option CacheHintsUpdate → CacheHints
  | none => hints
  | some update =>
      { positiveTtlSec := update.positiveTtlSec.getD hints.positiveTtlSec
        negativeTtlSec := update.negativeTtlSec.getD hints.negativeTtlSec
        staleWhileRevalidateSec :=
          update.staleWhileRevalidateSec.getD hints.staleWhileRevalidateSec
        hardMaxStaleSec := update.hardMaxStaleSec.getD hints.hardMaxStaleSec }

/-! ### Resolutions and state -/

/-- What is asked about a host: its binding, or a route on it. -/
inductive Subject where
  | host
  | route (path method : LuaString)
deriving DecidableEq

/-- `surface` -/
def Subject.surface : Subject → String
  | .host => "host"
  | .route _ _ => "route"

@[ext] structure Query where
  host : LuaString
  subject : Subject
  mode : PolicyMode
deriving DecidableEq

inductive Decision where
  | allow
  | deny
deriving DecidableEq, Repr

structure SiteInfo where
  siteId : LuaString
  host : LuaString
  status : LuaString
deriving DecidableEq

structure ProcessInfo where
  processId : LuaString
  moduleId : Option LuaString
  scheduler : Option LuaString
  routePrefix : Option LuaString
deriving DecidableEq

structure ProofPayload where
  dnsProofState : ProofState
  dnsProofCheckedAt : Option Value
  dnsProofValidUntil : Option Value
  source : Option Value
  challengeRef : Option Value

/-- What the resolver decides about a query. -/
structure Verdict where
  decision : Decision
  reasonCode : String
  mode : PolicyMode
  site : Option SiteInfo
  process : Option ProcessInfo
  actionHint : Option LuaString
deriving DecidableEq

/-- An entry of the resolution cache: the verdict on a query and how long it is
served. -/
structure CacheEntry where
  query : Query
  verdict : Verdict
  hostKnown : Bool
  proof : ProofPayload
  dnsNextCheckAt : Option Value
  cachedAt : LuaString
  expiresAtEpoch : Int
  staleUntilEpoch : Int

def CacheEntry.siteId (entry : CacheEntry) : Option LuaString :=
  entry.verdict.site.map SiteInfo.siteId

structure BundleMeta where
  snapshotId : Option Value
  version : Option Value
  generatedAt : Option Value
  appliedAt : Option LuaString

structure ResolverState where
  policyMode : PolicyMode
  failOpen : Bool
  cacheHints : CacheHints
  hostPolicies : HostPolicies
  sitePolicies : SitePolicies
  routePolicies : RoutePolicies
  dnsProofState : DnsProofs
  resolutionCache : OrderedMap LuaString CacheEntry
  bundleMeta : BundleMeta
  lastInvalidatedAt : Option LuaString
  lastResolvedAt : Option LuaString

def defaultState : ResolverState where
  policyMode := .off
  failOpen := true
  cacheHints := {}
  hostPolicies := .empty
  sitePolicies := .empty
  routePolicies := .empty
  dnsProofState := .empty
  resolutionCache := .empty
  bundleMeta := ⟨none, none, none, none⟩
  lastInvalidatedAt := none
  lastResolvedAt := none

/-! ### Failures -/

/-- What `codec.error` says besides its code and message. -/
inductive Detail where
  | field (name : String)
  | oneOf (name : String) (allowed : List String)
  | unexpected (keys : List Key)
  | missing (fields : List LuaString)

structure Failure where
  code : String
  message : LuaString
  detail : Detail

/-- `codec.error("INVALID_INPUT", message, { field = name })` -/
def invalidInput (name : String) (message : LuaString) : Failure :=
  ⟨"INVALID_INPUT", message, .field name⟩

/-- The rejection of a field is the rejection of the message. -/
def onField {α : Type} (name : String) : Except LuaString α → Except Failure α
  | .ok value => .ok value
  | .error message => .error (invalidInput name message)

/-- The message carries no field besides the allowed ones. -/
def rejectExtras (platform : Platform) (msg : Entries) (allowed : List String) :
    Except Failure Unit :=
  match platform.requireNoExtras msg allowed with
  | [] => .ok ()
  | extras => .error ⟨"UNSUPPORTED_FIELD", lua "Unexpected fields", .unexpected extras⟩

def requireFields (platform : Platform) (msg : Entries) (fields : List String) :
    Except Failure Unit :=
  match platform.requireFields msg fields with
  | [] => .ok ()
  | missing => .error ⟨"INVALID_INPUT", lua "Missing field", .missing missing⟩

end DarkmeshGateway.Resolver.State
