import DarkmeshGateway.Foundation.Js.Url
import DarkmeshGateway.Gateway.SiteResolver

/-!
Contract: the Node adapter between a raw request and the URL it is handled under.

Owns the allowlist of hosts, the scheme, authority and target a URL is joined
from, and when the host the URL parser reads from it is an allowed one.

Does not own the body, its limits and the response.
-/

namespace DarkmeshGateway.Gateway.NodeAdapter

open Foundation.Js
open Gateway.Environment (Env)
open Foundation.Js.Url (Kind ParsesDomains PlainDomain PlainPort hostname hostBehind isBlank isKept isScheme
  kindOf splitSlot)

/-! ### Configuration -/

inductive TrustProxyMode where
  | off
  | forwarded
deriving DecidableEq

structure NodeAdapterConfig where
  host : JsString
  port : Nat
  allowedHosts : Option (List JsString)
  trustProxyMode : TrustProxyMode

def normalizeHost (input : JsString) : JsString := SiteResolver.normalizeHost input

def parseAllowedHosts (raw : Option JsString) : Option (List JsString) :=
  let hosts := (((raw.getD []).splitOn 44).map normalizeHost).filter (· ≠ [])
  if hosts = [] then none else some hosts

def parseTrustProxyMode (raw : Option JsString) : TrustProxyMode :=
  let value := toLowerCase (trim (raw.getD []))
  if [js "forwarded", js "1", js "true", js "on"].contains value then .forwarded else .off

def defaultHost : JsString := js "127.0.0.1"

def defaultPort : Nat := 8080

def readPort (raw : Option JsString) (fallback : Nat) : Nat :=
  match raw.bind parseInt10 with
  | none => fallback
  | some parsed => if parsed < 1 ∨ 65535 < parsed then fallback else parsed.toNat

/-- The configuration without the limit of a body. -/
def readNodeAdapterConfig (env : Env) : NodeAdapterConfig where
  host := ((env "HOST").filter (· ≠ [])).getD defaultHost
  port := readPort (env "PORT") defaultPort
  allowedHosts := parseAllowedHosts (env "GATEWAY_ALLOWED_HOSTS")
  trustProxyMode := parseTrustProxyMode (env "GATEWAY_TRUST_PROXY_MODE")

/-! ### Requests -/

/-- A header as Node has it: missing, one text, or a list. -/
inductive HeaderValue where
  | missing
  | one (text : JsString)
  | many (texts : List JsString)

structure IncomingMessage where
  url : Option JsString
  host : HeaderValue
  forwardedProto : HeaderValue
  forwardedHost : HeaderValue

def firstHeaderValue : HeaderValue → JsString
  | .missing => []
  | .one text => text
  | .many texts => texts.headD []

def forwardedHeaderValue (value : HeaderValue) : JsString :=
  trim (((firstHeaderValue value).splitOn 44).headD [])

/-- A forwarded header, where they are trusted. -/
def trustedHeader (config : NodeAdapterConfig) (value : HeaderValue) : JsString :=
  if config.trustProxyMode = .forwarded then forwardedHeaderValue value else []

/-- `first || second`. -/
def orText (first second : JsString) : JsString := if first = [] then second else first

/-- The host a request names. -/
def namedHost (request : IncomingMessage) (config : NodeAdapterConfig) : JsString :=
  orText (trustedHeader config request.forwardedHost) (trim (firstHeaderValue request.host))

def requestScheme (request : IncomingMessage) (config : NodeAdapterConfig) : JsString :=
  orText (trustedHeader config request.forwardedProto) (js "http")

def requestAuthority (request : IncomingMessage) (config : NodeAdapterConfig) : JsString :=
  orText (namedHost request config) (config.host ++ 58 :: decimalDigits config.port)

def requestPath (request : IncomingMessage) : JsString := orText (request.url.getD []) (js "/")

/-- `${scheme}://${authority}${path}`. -/
def requestUrl (request : IncomingMessage) (config : NodeAdapterConfig) : JsString :=
  requestScheme request config ++
    58 :: 47 :: 47 :: (requestAuthority request config ++ requestPath request)

def isHostAllowed (request : IncomingMessage) (config : NodeAdapterConfig) : Bool :=
  match config.allowedHosts with
  | none => true
  | some hosts =>
      let candidate := normalizeHost (namedHost request config)
      candidate ≠ [] && hosts.contains candidate

/-! ### The served host -/

/-- The request is refused, or no URL is built, or its host is allowed. -/
def ServesAllowed (parseHost : Kind → JsString → Option JsString) (config : NodeAdapterConfig)
    (hosts : List JsString) (request : IncomingMessage) : Prop :=
  isHostAllowed request config = true →
    ∀ served, hostname parseHost (requestUrl request config) = some served → served ∈ hosts

/-- A request target as Node hands it on: a path, `*`, or a text with a scheme. -/
def IsTarget (path : JsString) : Prop :=
  path.head? = some 47 ∨ path.head? = some 42 ∨
    ∃ scheme rest, path = scheme ++ 58 :: rest ∧ isScheme scheme = true

/-- The scheme is a plain special one, the authority a plain domain with an
optional port, and the target ends the authority. -/
structure Untouched (config : NodeAdapterConfig) (request : IncomingMessage) : Prop where
  scheme : isScheme (requestScheme request config) = true ∧
    kindOf (requestScheme request config) = .special
  host : ∃ name port, requestAuthority request config = name ++ port ∧ PlainDomain name ∧
    PlainPort port
  target : (requestPath request).head? = some 47

/-- The scheme a URL gets from its slots, and the text in front of which its
authority is read: behind a colon of the scheme slot, if it has one. -/
def slots (config : NodeAdapterConfig) (request : IncomingMessage) : JsString × JsString :=
  splitSlot (((requestScheme request config).dropWhile isBlank).filter isKept)
    (47 :: 47 :: ((requestAuthority request config).filter isKept ++
      ((requestPath request).rdropWhile isBlank).filter isKept))

/-- What the slots put in authority position is no host, or an allowed one. -/
def SlotsAllowed (parseHost : Kind → JsString → Option JsString) (config : NodeAdapterConfig)
    (hosts : List JsString) (request : IncomingMessage) : Prop :=
  isScheme (slots config request).1 = true →
    ∀ served, hostBehind parseHost (kindOf (slots config request).1) (slots config request).2 =
      some served → served ∈ hosts

/-! ### Where the authority is read -/

/-- A target starts with a unit that is no blank. -/
theorem IsTarget.visible {path : JsString} (target : IsTarget path) :
    ∃ unit rest, path = unit :: rest ∧ isBlank unit = false := by
  rcases target with slash | star | ⟨scheme, rest, rfl, valid⟩
  · obtain ⟨rest, rfl⟩ := List.head?_eq_some_iff.mp slash
    exact ⟨47, rest, rfl, by decide⟩
  · obtain ⟨rest, rfl⟩ := List.head?_eq_some_iff.mp star
    exact ⟨42, rest, rfl, by decide⟩
  · cases scheme with
    | nil => exact absurd valid (by decide)
    | cons unit others =>
        have schemeUnit := (Url.isScheme_units valid).2 unit (by simp)
        exact ⟨unit, others ++ 58 :: rest, rfl, (Url.schemeUnit_plain schemeUnit).visible⟩

/-- The host of the URL is read from the slots. -/
theorem hostname_requestUrl (parseHost : Kind → JsString → Option JsString)
    {config : NodeAdapterConfig} {request : IncomingMessage}
    (target : IsTarget (requestPath request)) :
    hostname parseHost (requestUrl request config) =
      if isScheme (slots config request).1 then
        hostBehind parseHost (kindOf (slots config request).1) (slots config request).2
      else none := by
  obtain ⟨unit, rest, path, visible⟩ := target.visible
  have stripped : unit :: rest.rdropWhile isBlank = (unit :: rest).rdropWhile isBlank :=
    (Url.rdropWhile_append_cons isBlank visible [] rest).symm
  rw [hostname, requestUrl, path, Url.clean_joined _ _ _ visible, Url.splitScheme_slot, stripped,
    ← path]
  show (if isScheme (slots config request).1 then some (slots config request) else none).bind _ = _
  split
  · rfl
  · rfl

/-! ### An untouched request -/

/-- A plain domain with an optional port is allowed as its lower-case form. -/
theorem normalizeHost_plain {name port : JsString} (plain : PlainDomain name)
    (plainPort : PlainPort port) : normalizeHost (name ++ port) = toLowerCase name := by
  have trimmed : trim (name ++ port) = name ++ port := by
    have notSpace {unit : CodeUnit} (member : unit ∈ name ++ port) : isWhitespace unit = false :=
      (Url.plainPair_units plain plainPort member).1.notWhitespace
    rw [trim_eq_self_iff]
    constructor
    · intro unit first
      exact notSpace (List.mem_of_mem_head? first)
    · intro unit last
      exact notSpace (List.mem_of_mem_getLast? last)
  have lowered : toLowerCase (name ++ port) = toLowerCase name ++ port := by
    rw [toLowerCase, List.flatMap_append]
    exact congrArg (toLowerCase name ++ ·) plainPort.toLowerCase
  have notColon : ∀ unit ∈ toLowerCase name, unit ≠ 58 := by
    intro unit member
    obtain ⟨source, inName, part⟩ := List.mem_flatMap.mp member
    have domain := Url.domainUnit_lower (plain.units source inName) unit part
    rintro rfl
    exact absurd domain (by decide)
  rw [normalizeHost, SiteResolver.normalizeHost, trimmed, lowered, SiteResolver.dropPort]
  rcases plainPort with rfl | ⟨digits, rfl, nonempty, all⟩
  · rw [List.append_nil]
    rw [if_neg]
    rintro ⟨-, last⟩
    have inFront := List.mem_of_mem_getLast? last
    exact notColon 58 ((List.rdropWhile_prefix isDigit _).subset inFront) rfl
  · have noDigits : digits.rdropWhile isDigit = [] := by
      rw [List.rdropWhile_eq_nil_iff]
      exact List.all_eq_true.mp all
    have front : (toLowerCase name ++ 58 :: digits).rdropWhile isDigit = toLowerCase name ++ [58] := by
      rw [Url.rdropWhile_append_cons isDigit (by decide), noDigits]
    have long : 0 < digits.length := List.length_pos_iff.mpr nonempty
    rw [front, if_pos]
    · simp
    · refine ⟨?_, by simp⟩
      simp only [List.length_append, List.length_cons, List.length_nil]
      omega

/-- The host of an untouched request is the one that was checked. -/
theorem Untouched.served {parseHost : Kind → JsString → Option JsString}
    {config : NodeAdapterConfig} {request : IncomingMessage} (parses : ParsesDomains parseHost)
    (untouched : Untouched config request) (target : IsTarget (requestPath request))
    {served : JsString} (built : hostname parseHost (requestUrl request config) = some served) :
    served = normalizeHost (requestAuthority request config) := by
  obtain ⟨name, port, authority, plain, plainPort⟩ := untouched.host
  obtain ⟨rest, path⟩ := List.head?_eq_some_iff.mp untouched.target
  obtain ⟨valid, special⟩ := untouched.scheme
  have kept : (name ++ port).filter isKept = name ++ port := by
    rw [List.filter_eq_self]
    intro unit member
    exact (Url.plainPair_units plain plainPort member).1.kept
  have slotsAre : slots config request = (requestScheme request config, 47 :: 47 ::
      (name ++ port ++ ((requestPath request).rdropWhile isBlank).filter isKept)) := by
    rw [slots, Url.isScheme_slot valid, authority, kept]
  rw [hostname_requestUrl parseHost target, slotsAre, if_pos valid, special] at built
  rw [authority, normalizeHost_plain plain plainPort]
  apply Url.hostBehind_plain parses plain plainPort _ built
  have slash : isBlank 47 = false := by decide
  have path' := Url.rdropWhile_append_cons isBlank slash [] rest
  rw [path]
  rw [List.nil_append, List.nil_append] at path'
  rw [path', List.filter_cons_of_pos (by decide)]
  intro unit first
  rw [← Option.some.inj first]
  decide

/-! ### Allowed and served -/

/-- An accepted request is handled under the authority that was checked. -/
theorem accepted_authority {config : NodeAdapterConfig} {request : IncomingMessage}
    {hosts : List JsString} (allowlist : config.allowedHosts = some hosts)
    (accepted : isHostAllowed request config = true) :
    normalizeHost (requestAuthority request config) ∈ hosts := by
  simp only [isHostAllowed, allowlist, Bool.and_eq_true, decide_eq_true_eq, ne_eq,
    List.contains_eq_mem] at accepted
  have named : namedHost request config ≠ [] := by
    intro missing
    apply accepted.1
    rw [missing]
    decide
  rw [requestAuthority, orText, if_neg named]
  exact accepted.2

/-- The host of an accepted request is an allowed one exactly when nothing but
the checked host stands in authority position, or what does is allowed as well. -/
theorem allowed_host_served_iff {parseHost : Kind → JsString → Option JsString}
    (parses : ParsesDomains parseHost) {config : NodeAdapterConfig} {hosts : List JsString}
    (allowlist : config.allowedHosts = some hosts) {request : IncomingMessage}
    (target : IsTarget (requestPath request)) :
    ServesAllowed parseHost config hosts request ↔
      (isHostAllowed request config = true →
        Untouched config request ∨ SlotsAllowed parseHost config hosts request) := by
  constructor
  · intro serves accepted
    right
    intro valid served read
    apply serves accepted
    rw [hostname_requestUrl parseHost target, if_pos valid]
    exact read
  · intro kept accepted served built
    rcases kept accepted with untouched | allowed
    · rw [untouched.served parses target built]
      exact accepted_authority allowlist accepted
    · rw [hostname_requestUrl parseHost target] at built
      split at built
      next valid => exact allowed valid served built
      next => exact absurd built (by simp)

/-- A host parser that only lowers a host. -/
def lowerHost (_ : Kind) (text : JsString) : Option JsString := some (toLowerCase text)

/-- The configuration with one allowed host. -/
def sampleConfig : NodeAdapterConfig :=
  readNodeAdapterConfig fun name =>
    if name = "GATEWAY_ALLOWED_HOSTS" then some (js "good.example") else none

/-- A request for a target at the allowed host. -/
def sampleRequest (target : String) : IncomingMessage :=
  ⟨some (js target), .one (js "Good.example"), .missing, .missing⟩

theorem allowed_host_served_path :
    ServesAllowed lowerHost sampleConfig [js "good.example"] (sampleRequest "/a") ↔
      (isHostAllowed (sampleRequest "/a") sampleConfig = true →
        Untouched sampleConfig (sampleRequest "/a") ∨
          SlotsAllowed lowerHost sampleConfig [js "good.example"] (sampleRequest "/a")) :=
  allowed_host_served_iff (fun _ _ => rfl) rfl (Or.inl (by decide))

/-- `OPTIONS *` is served under the host `good.example*`. -/
theorem star_target_serves_other_host :
    ¬∀ (parseHost : Kind → JsString → Option JsString) (config : NodeAdapterConfig)
        (hosts : List JsString) (request : IncomingMessage), ParsesDomains parseHost →
      config.allowedHosts = some hosts → IsTarget (requestPath request) →
      ServesAllowed parseHost config hosts request := by
  intro claim
  have served := claim lowerHost sampleConfig [js "good.example"] (sampleRequest "*")
    (fun _ _ => rfl) rfl (Or.inr (Or.inl (by decide))) (by decide) (js "good.example*") (by decide)
  exact absurd served (by decide)

end DarkmeshGateway.Gateway.NodeAdapter
