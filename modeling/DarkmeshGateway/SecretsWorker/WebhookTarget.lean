import DarkmeshGateway.Foundation.Js.Stringify
import DarkmeshGateway.SecretsWorker.Fields

/-!
Contract: the guard on the webhook of `POST /notify`.

Owns the host of a parsed URL with its canonical text, which hosts are internal,
the host check of the route, and which internal hosts it refuses.

Does not own the URL parser, a parameter that gives the host of a URL, or what
a domain name resolves to.
-/

namespace DarkmeshGateway.SecretsWorker.WebhookTarget

open Foundation.Js
open SecretsWorker.Fields (HttpException)

/-! ### Hosts -/

/-- The host of a URL that is `http` or `https`. -/
inductive Host where
  | domain (name : JsString)
  | ipv4 (first second third fourth : UInt8)
  | ipv6 (pieces : Vector UInt16 8)

/-- The parts of a parsed URL that the guard reads; the scheme has its colon. -/
structure Url where
  protocol : JsString
  host : Host

def byteText (byte : UInt8) : JsString := decimalDigits byte.toNat

/-- Lower-case hexadecimal without leading zeros. -/
def pieceText (piece : UInt16) : JsString :=
  if piece = 0 then [48] else (Nat.digits 16 piece.toNat).reverse.map hexDigit

def piecesText (pieces : List UInt16) : JsString :=
  List.intercalate (js ":") (pieces.map pieceText)

/-- The lengths of the runs of zeros that begin at each piece. -/
def zeroRuns (pieces : List UInt16) : List Nat :=
  (List.range pieces.length).map fun start => ((pieces.drop start).takeWhile (· = 0)).length

/-- The pieces between colons; the first longest run of two or more zeros is empty. -/
def ipv6Text (pieces : List UInt16) : JsString :=
  let longest := (zeroRuns pieces).foldl max 0
  if longest < 2 then piecesText pieces
  else
    let start := (zeroRuns pieces).idxOf longest
    piecesText (pieces.take start) ++ js "::" ++ piecesText (pieces.drop (start + longest))

/-- `URL.hostname`. -/
def Host.hostname : Host → JsString
  | .domain name => name
  | .ipv4 first second third fourth =>
      byteText first ++ js "." ++ byteText second ++ js "." ++ byteText third ++ js "." ++
        byteText fourth
  | .ipv6 pieces => js "[" ++ ipv6Text pieces.toList ++ js "]"

example : (Host.ipv6 #v[0x2001, 0xdb8, 0, 0, 1, 0, 0, 1]).hostname = js "[2001:db8::1:0:0:1]" := by
  decide +kernel

/-! ### Internal hosts -/

/-- Unspecified, loopback, private or link-local. -/
def internalIpv4 (first second third fourth : UInt8) : Bool :=
  (first = 0 && second = 0 && third = 0 && fourth = 0) || first = 127 || first = 10 ||
    (first = 172 && 16 ≤ second && second ≤ 31) || (first = 192 && second = 168) ||
    (first = 169 && second = 254)

/-- Unspecified, loopback, unique local or link-local, or a mapped internal IPv4 address. -/
def internalIpv6 (pieces : Vector UInt16 8) : Bool :=
  pieces.toList = [0, 0, 0, 0, 0, 0, 0, 0] || pieces.toList = [0, 0, 0, 0, 0, 0, 0, 1] ||
    pieces[0] &&& 0xFE00 = 0xFC00 || pieces[0] &&& 0xFFC0 = 0xFE80 ||
    (pieces.toList.take 6 = [0, 0, 0, 0, 0, 0xFFFF] &&
      internalIpv4 (pieces[6] >>> 8).toUInt8 pieces[6].toUInt8 (pieces[7] >>> 8).toUInt8
        pieces[7].toUInt8)

/-- `localhost`, with or without a trailing dot, or an internal address. -/
def Host.isInternal : Host → Bool
  | .domain name => toLowerCase name = js "localhost" || toLowerCase name = js "localhost."
  | .ipv4 first second third fourth => internalIpv4 first second third fourth
  | .ipv6 pieces => internalIpv6 pieces

/-! ### The guard -/

def validateUrl (parse : JsString → Option Url) (url : Option JsString) : Bool :=
  match url with
  | none => false
  | some text =>
      text ≠ [] && (parse text).any fun u => u.protocol = js "http:" || u.protocol = js "https:"

def denyHosts : List JsString :=
  [js "localhost", js "127.0.0.1", js "0.0.0.0", js "::1", js "metadata.google.internal"]

/-- `/^172\.(1[6-9]|2[0-9]|3[0-1])\./`. -/
def inRange172 (host : JsString) : Bool :=
  startsWith host (js "172.") &&
    match host.drop 4 with
    | tens :: ones :: dot :: _ =>
        dot = 46 &&
          ((tens = 49 && 54 ≤ ones && ones ≤ 57) || (tens = 50 && 48 ≤ ones && ones ≤ 57) ||
            (tens = 51 && 48 ≤ ones && ones ≤ 49))
    | _ => false

def isPrivateIp (host : JsString) : Bool :=
  startsWith host (js "10.") || startsWith host (js "192.168.") || inRange172 host ||
    startsWith host (js "169.254.") || startsWith host (js "127.")

def allowlist (allowlistRaw : Option JsString) : List JsString :=
  (((allowlistRaw.getD []).splitOn 44).map fun item => toLowerCase (trim item)).filter (· ≠ [])

/-- `*`, the host itself, or a domain the host is below. -/
def listed (allow : List JsString) (host : JsString) : Bool :=
  if allow = [] then false
  else if allow.contains (js "*") then true
  else allow.any fun item => host = item || (js "." ++ item).isSuffixOf host

def hostAllowed (u : Url) (allowlistRaw : Option JsString) : Bool :=
  let host := toLowerCase u.host.hostname
  if denyHosts.contains host then false
  else if isPrivateIp host then false
  else listed (allowlist allowlistRaw) host

/-- The checks of the route on a webhook, `body.webhookUrl || NOTIFY_WEBHOOK`. -/
def checkWebhook (parse : JsString → Option Url) (allowlistRaw : Option JsString)
    (webhook : JsString) : Except HttpException Unit :=
  if !validateUrl parse (some webhook) then .error ⟨400, "invalid_webhook_url"⟩
  else if (parse webhook).any fun u => !hostAllowed u allowlistRaw then
    .error ⟨403, "webhook_host_not_allowed"⟩
  else .ok ()

/-! ### Refused hosts -/

/-- The hosts among the internal ones that the guard tells by their text. -/
def Host.isDenied : Host → Bool
  | .domain name => toLowerCase name = js "localhost"
  | .ipv4 _ _ _ _ => true
  | .ipv6 _ => false

theorem startsWith_lower {front lowered : JsString} (folded : toLowerCase front = lowered)
    (rest : JsString) : startsWith (toLowerCase (front ++ rest)) lowered = true := by
  rw [startsWith, List.isPrefixOf_iff_prefix, toLowerCase, List.flatMap_append]
  exact ⟨_, congrArg (· ++ _) folded.symm⟩

/-- The second bytes of the private range below 172 have the two digits of its pattern. -/
theorem inRange172_lower {second : UInt8} (low : 16 ≤ second) (high : second ≤ 31)
    (rest : JsString) :
    inRange172 (toLowerCase (js "172." ++ byteText second ++ js "." ++ rest)) = true := by
  have digits : ∃ tens ones, toLowerCase (js "172." ++ byteText second ++ js ".") =
      js "172." ++ [tens, ones, 46] ∧
        ((tens = 49 ∧ 54 ≤ ones ∧ ones ≤ 57) ∨ (tens = 50 ∧ 48 ≤ ones ∧ ones ≤ 57) ∨
          (tens = 51 ∧ 48 ≤ ones ∧ ones ≤ 49)) := by
    have lowNat : 16 ≤ second.toNat := UInt8.le_iff_toNat_le.mp low
    have highNat : second.toNat ≤ 31 := UInt8.le_iff_toNat_le.mp high
    unfold byteText
    interval_cases second.toNat
    all_goals exact ⟨_, _, rfl, by decide +kernel⟩
  obtain ⟨tens, ones, folded, range⟩ := digits
  have split : toLowerCase (js "172." ++ byteText second ++ js "." ++ rest) =
      js "172." ++ [tens, ones, 46] ++ toLowerCase rest := by
    rw [← folded, toLowerCase, List.flatMap_append]
    rfl
  have started : startsWith (js "172." ++ [tens, ones, 46] ++ toLowerCase rest) (js "172.") =
      true := by
    rw [startsWith, List.isPrefixOf_iff_prefix, List.append_assoc]
    exact List.prefix_append _ _
  rw [split, inRange172, started, Bool.true_and]
  show (decide ((46 : CodeUnit) = 46) && _) = true
  simpa [and_assoc, or_assoc] using range

/-- The guard refuses every internal IPv4 address. -/
theorem isDenied_ipv4 {first second third fourth : UInt8}
    (isInternal : internalIpv4 first second third fourth = true) :
    let host := toLowerCase (Host.ipv4 first second third fourth).hostname
    host ∈ denyHosts ∨ isPrivateIp host = true := by
  intro host
  have atDots : host = toLowerCase (byteText first ++ js "." ++ (byteText second ++ js "." ++
      (byteText third ++ js "." ++ byteText fourth))) := by
    simp [host, Host.hostname]
  simp only [internalIpv4, Bool.or_eq_true, Bool.and_eq_true, decide_eq_true_eq] at isInternal
  rcases isInternal with ((((⟨⟨⟨rfl, rfl⟩, rfl⟩, rfl⟩ | rfl) | rfl) | ⟨⟨rfl, low⟩, high⟩) |
    ⟨rfl, rfl⟩) | ⟨rfl, rfl⟩
  · left
    decide +kernel
  · have loopback : startsWith host (js "127.") = true := by
      rw [atDots]
      exact startsWith_lower (by decide +kernel) _
    simp [isPrivateIp, loopback]
  · have tens : startsWith host (js "10.") = true := by
      rw [atDots]
      exact startsWith_lower (by decide +kernel) _
    simp [isPrivateIp, tens]
  · have range : inRange172 host = true := by
      rw [atDots, ← List.append_assoc]
      exact inRange172_lower low high _
    simp [isPrivateIp, range]
  · have range : startsWith host (js "192.168.") = true := by
      rw [atDots, ← List.append_assoc]
      exact startsWith_lower (by decide +kernel) _
    simp [isPrivateIp, range]
  · have range : startsWith host (js "169.254.") = true := by
      rw [atDots, ← List.append_assoc]
      exact startsWith_lower (by decide +kernel) _
    simp [isPrivateIp, range]

/-- The ways in which a host is refused. -/
theorem hostAllowed_eq_false_iff (u : Url) (allowlistRaw : Option JsString) :
    hostAllowed u allowlistRaw = false ↔
      (toLowerCase u.host.hostname ∈ denyHosts ∨
          isPrivateIp (toLowerCase u.host.hostname) = true) ∨
        listed (allowlist allowlistRaw) (toLowerCase u.host.hostname) = false := by
  unfold hostAllowed
  by_cases named : toLowerCase u.host.hostname ∈ denyHosts
  · simp [named]
  · cases matched : isPrivateIp (toLowerCase u.host.hostname) <;> simp [named, matched]

/-- No name and no pattern of the guard begins with a bracket. -/
theorem passes_ipv6 (pieces : Vector UInt16 8) :
    let host := toLowerCase (Host.ipv6 pieces).hostname
    ¬(host ∈ denyHosts ∨ isPrivateIp host = true) := by
  intro host
  obtain ⟨rest, bracketed⟩ : ∃ rest, host = 91 :: rest :=
    ⟨toLowerCase (ipv6Text pieces.toList ++ js "]"), rfl⟩
  have named : 91 :: rest ∉ denyHosts := by simp [denyHosts, js]
  have matched : isPrivateIp (91 :: rest) = false := rfl
  rw [bracketed, matched]
  simpa using named

/-- The guard refuses an internal host if and only if it is `localhost` itself or
an IPv4 address, or the allowlist does not have it. -/
theorem internal_refused_iff {u : Url} (isInternal : u.host.isInternal = true)
    (allowlistRaw : Option JsString) :
    hostAllowed u allowlistRaw = false ↔
      u.host.isDenied = true ∨
        listed (allowlist allowlistRaw) (toLowerCase u.host.hostname) = false := by
  rw [hostAllowed_eq_false_iff]
  refine or_congr_left' fun _ => ?_
  cases host : u.host with
  | domain name =>
      rw [host] at isInternal
      have named : toLowerCase name = js "localhost" ∨ toLowerCase name = js "localhost." := by
        simpa [Host.isInternal] using isInternal
      simp only [Host.hostname, Host.isDenied]
      rcases named with same | dotted
      · rw [same]
        decide +kernel
      · rw [dotted]
        decide +kernel
  | ipv4 first second third fourth =>
      rw [host] at isInternal
      exact iff_of_true (isDenied_ipv4 isInternal) rfl
  | ipv6 pieces =>
      exact iff_of_false (passes_ipv6 pieces) (by simp [Host.isDenied])

/-- The webhooks at an internal host that the route goes on to call. -/
theorem checkWebhook_internal {parse : JsString → Option Url} {webhook : JsString} {u : Url}
    (parsed : parse webhook = some u) (isInternal : u.host.isInternal = true)
    (allowlistRaw : Option JsString) :
    checkWebhook parse allowlistRaw webhook = .ok () ↔
      validateUrl parse (some webhook) = true ∧ u.host.isDenied = false ∧
        listed (allowlist allowlistRaw) (toLowerCase u.host.hostname) = true := by
  have refused := internal_refused_iff isInternal allowlistRaw
  have allowed : hostAllowed u allowlistRaw = true ↔ u.host.isDenied = false ∧
      listed (allowlist allowlistRaw) (toLowerCase u.host.hostname) = true := by
    rw [← Bool.not_eq_false, refused, not_or, Bool.not_eq_true, Bool.not_eq_false]
  rw [← allowed]
  unfold checkWebhook
  cases validateUrl parse (some webhook) with
  | false => simp
  | true => cases passes : hostAllowed u allowlistRaw <;> simp [parsed, passes]

/-- A webhook at a private address. -/
def privateWebhook : Url := ⟨js "https:", .ipv4 192 168 0 10⟩

/-- The private address is refused under any allowlist. -/
theorem private_refused : hostAllowed privateWebhook (some (js "*")) = false :=
  (internal_refused_iff (by decide +kernel) (some (js "*"))).mpr (Or.inl (by decide +kernel))

/-- The loopback address of IPv6 passes the guard under an allowlist of everything. -/
theorem ipv6_loopback_allowed :
    ∃ u : Url, u.host.hostname = js "[::1]" ∧ u.host.isInternal = true ∧
      validateUrl (fun _ => some u) (some (js "http://[::1]/")) = true ∧
      hostAllowed u (some (js "*")) = true := by
  exact ⟨⟨js "http:", .ipv6 #v[0, 0, 0, 0, 0, 0, 0, 1]⟩, by decide +kernel⟩

/-- The name with a trailing dot passes it too. -/
example : hostAllowed ⟨js "http:", .domain (js "localhost.")⟩ (some (js "*")) = true := by
  decide +kernel

end DarkmeshGateway.SecretsWorker.WebhookTarget
