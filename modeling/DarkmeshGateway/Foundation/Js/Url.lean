import DarkmeshGateway.Foundation.Js.Text

/-!
Contract: which host the URL parser reads from an absolute URL.

Owns the scheme, the text in authority position, the split of credentials and
port, and how the parts of a joined text fall into these places.

Does not own the host parser (percent decoding, domain to ASCII, IP addresses,
the hosts a file URL drops), which is a parameter, and what follows the
authority.
-/

namespace DarkmeshGateway.Foundation.Js.Url

/-! ### Units -/

/-- C0 controls and space. -/
def isBlank (unit : CodeUnit) : Bool := unit.toNat ≤ 32

/-- What the parser keeps of a text: anything but tabs and newlines. -/
def isKept (unit : CodeUnit) : Bool := !(unit == 9 || unit == 10 || unit == 13)

def isLetter (unit : CodeUnit) : Bool :=
  let code := unit.toNat
  (65 ≤ code && code ≤ 90) || (97 ≤ code && code ≤ 122)

/-- `[A-Za-z0-9+.-]`. -/
def isSchemeUnit (unit : CodeUnit) : Bool :=
  isLetter unit || isDigit unit || unit == 43 || unit == 45 || unit == 46

/-- `/` and `\`. -/
def isSlash (unit : CodeUnit) : Bool := unit == 47 || unit == 92

/-! ### Schemes -/

/-- How the text behind a scheme is read. -/
inductive Kind where
  | special
  | file
  | other
deriving DecidableEq

def specialSchemes : List JsString := [js "http", js "https", js "ws", js "wss", js "ftp"]

def kindOf (scheme : JsString) : Kind :=
  if specialSchemes.contains (toLowerCase scheme) then .special
  else if toLowerCase scheme = js "file" then .file
  else .other

/-- A letter, then letters, digits, `+`, `-` and `.`. -/
def isScheme (text : JsString) : Bool := text.head?.any isLetter && text.all isSchemeUnit

/-- The scheme in front of the first colon, and the text behind it. -/
def splitScheme (text : JsString) : Option (JsString × JsString) :=
  match text.dropWhile (· ≠ 58) with
  | _ :: rest =>
      let scheme := text.takeWhile (· ≠ 58)
      if isScheme scheme then some (scheme, rest) else none
  | [] => none

/-! ### Authorities -/

/-- A unit that ends an authority. -/
def endsAuthority (kind : Kind) (unit : CodeUnit) : Bool :=
  unit == 47 || unit == 63 || unit == 35 || (unit == 92 && kind ≠ .other)

def upToEnd (kind : Kind) (text : JsString) : JsString :=
  text.takeWhile fun unit => !endsAuthority kind unit

/-- The text in authority position behind a scheme; `none` is a URL without one. -/
def authorityText (kind : Kind) (rest : JsString) : Option JsString :=
  match kind, rest with
  | .special, rest => some (upToEnd .special (rest.dropWhile isSlash))
  | .file, first :: second :: more =>
      if isSlash first && isSlash second then some (upToEnd .file more) else none
  | .other, 47 :: 47 :: more => some (upToEnd .other more)
  | _, _ => none

/-- The host of a text in front of its port, which starts with the first colon
that is not between brackets. -/
def splitPort (bracketed : Bool) : JsString → JsString × JsString
  | [] => ([], [])
  | unit :: rest =>
      if unit = 58 ∧ bracketed = false then ([], unit :: rest)
      else
        let inside := if unit = 91 then true else if unit = 93 then false else bracketed
        let split := splitPort inside rest
        (unit :: split.1, split.2)

/-- Nothing, or a colon and a decimal number of at most 16 bits, which may be left out. -/
def isPort (text : JsString) : Bool :=
  (text.drop 1).all isDigit && digitsValue (text.drop 1) ≤ 65535

/-- The host of an authority with an optional port; `none` is a URL the parser
rejects. -/
def hostOfPair (parseHost : Kind → JsString → Option JsString) (kind : Kind) (text : JsString) :
    Option JsString :=
  let split := splitPort false text
  if !isPort split.2 then none
  else if split.1 = [] then
    if kind = .other ∧ split.2 = [] then some [] else none
  else parseHost kind split.1

/-- The host of an authority; `none` is a URL the parser or a request rejects,
the latter for its credentials. -/
def hostOfAuthority (parseHost : Kind → JsString → Option JsString) (kind : Kind)
    (authority : JsString) : Option JsString :=
  if kind = .file then if authority = [] then some [] else parseHost .file authority
  else
    let credentials := (authority.rdropWhile (· ≠ 64)).dropLast
    let pair := authority.rtakeWhile (· ≠ 64)
    if authority.contains 64 ∧ (pair = [] ∨ (credentials ≠ [] ∧ credentials ≠ [58])) then none
    else hostOfPair parseHost kind pair

/-- The host behind a scheme; a URL without authority has an empty one. -/
def hostBehind (parseHost : Kind → JsString → Option JsString) (kind : Kind) (rest : JsString) :
    Option JsString :=
  match authorityText kind rest with
  | none => some []
  | some authority => hostOfAuthority parseHost kind authority

/-- The text the parser reads: no blanks at its ends, no tabs and newlines. -/
def clean (text : JsString) : JsString :=
  ((text.dropWhile isBlank).rdropWhile isBlank).filter isKept

/-- `new Request(url).url` as a URL, its `hostname`; `none` is a thrown
`TypeError`. -/
def hostname (parseHost : Kind → JsString → Option JsString) (url : JsString) : Option JsString :=
  (splitScheme (clean url)).bind fun split => hostBehind parseHost (kindOf split.1) split.2

/-- The host of an authority whose credentials are dropped; `none` is a URL the
parser rejects. -/
def hostOfDropped (parseHost : Kind → JsString → Option JsString) (kind : Kind)
    (authority : JsString) : Option JsString :=
  if kind = .file then if authority = [] then some [] else parseHost .file authority
  else
    let pair := authority.rtakeWhile (· ≠ 64)
    if authority.contains 64 ∧ pair = [] then none else hostOfPair parseHost kind pair

/-- `new URL(url).hostname`; `none` is a thrown `TypeError`. -/
def urlHostname (parseHost : Kind → JsString → Option JsString) (url : JsString) :
    Option JsString :=
  (splitScheme (clean url)).bind fun split =>
    match authorityText (kindOf split.1) split.2 with
    | none => some []
    | some authority => hostOfDropped parseHost (kindOf split.1) authority

/-! ### Joined texts -/

/-- A unit that is kept stops what drops blanks from the front. -/
theorem dropWhile_append_cons {α : Type*} (drops : α → Bool) {unit : α}
    (stops : drops unit = false) (front rest : List α) :
    (front ++ unit :: rest).dropWhile drops = front.dropWhile drops ++ unit :: rest := by
  induction front with
  | nil => simp [stops]
  | cons head tail inductionHypothesis =>
      rw [List.cons_append, List.dropWhile_cons, List.dropWhile_cons]
      split
      · exact inductionHypothesis
      · rfl

theorem takeWhile_append_cons {α : Type*} (takes : α → Bool) {unit : α}
    (stops : takes unit = false) (front rest : List α) :
    (front ++ unit :: rest).takeWhile takes = front.takeWhile takes := by
  induction front with
  | nil => simp [stops]
  | cons head tail inductionHypothesis =>
      rw [List.cons_append, List.takeWhile_cons, List.takeWhile_cons]
      split
      · rw [inductionHypothesis]
      · rfl

/-- And from the end. -/
theorem rdropWhile_append_cons {α : Type*} (drops : α → Bool) {unit : α}
    (stops : drops unit = false) (front rest : List α) :
    (front ++ unit :: rest).rdropWhile drops = front ++ unit :: rest.rdropWhile drops := by
  have reversed : (front ++ unit :: rest).reverse = rest.reverse ++ unit :: front.reverse := by simp
  rw [List.rdropWhile, reversed, dropWhile_append_cons drops stops, List.rdropWhile]
  simp

/-- The clean text of a scheme slot, a `://` and a text behind it is cleaned slot by slot. -/
theorem clean_joined (scheme front rest : JsString) {unit : CodeUnit}
    (visible : isBlank unit = false) :
    clean (scheme ++ 58 :: 47 :: 47 :: (front ++ unit :: rest)) =
      (scheme.dropWhile isBlank).filter isKept ++ 58 :: 47 :: 47 ::
        (front.filter isKept ++ (unit :: rest.rdropWhile isBlank).filter isKept) := by
  have colon : isBlank 58 = false := by decide
  rw [clean, dropWhile_append_cons isBlank colon]
  have regrouped : scheme.dropWhile isBlank ++ 58 :: 47 :: 47 :: (front ++ unit :: rest) =
      (scheme.dropWhile isBlank ++ 58 :: 47 :: 47 :: front) ++ unit :: rest := by simp
  rw [regrouped, rdropWhile_append_cons isBlank visible]
  simp [List.filter_append, List.filter_cons, (by decide : isKept 58 = true),
    (by decide : isKept 47 = true)]

/-- The scheme and the text behind it, for a text whose scheme slot is followed
by a colon: a slot with its own colon brings its own text. -/
def splitSlot (slot rest : JsString) : JsString × JsString :=
  match slot.dropWhile (· ≠ 58) with
  | [] => (slot, rest)
  | _ :: own => (slot.takeWhile (· ≠ 58), own ++ 58 :: rest)

theorem splitScheme_slot (slot rest : JsString) :
    splitScheme (slot ++ 58 :: rest) =
      if isScheme (splitSlot slot rest).1 then some (splitSlot slot rest) else none := by
  have stops : decide ((58 : CodeUnit) ≠ 58) = false := by decide
  rw [splitScheme, dropWhile_append_cons (fun unit : CodeUnit => decide (unit ≠ 58)) stops,
    takeWhile_append_cons (fun unit : CodeUnit => decide (unit ≠ 58)) stops]
  unfold splitSlot
  cases found : slot.dropWhile (· ≠ 58) with
  | nil =>
      have whole : slot.takeWhile (· ≠ 58) = slot := by
        have parts := List.takeWhile_append_dropWhile (p := (· ≠ 58)) (l := slot)
        rwa [found, List.append_nil] at parts
      simp only [List.nil_append, whole]
  | cons first own => rfl

/-- A printing ASCII unit. -/
structure PlainUnit (unit : CodeUnit) : Prop where
  low : 33 ≤ unit.toNat
  high : unit.toNat ≤ 126

theorem PlainUnit.visible {unit : CodeUnit} (plain : PlainUnit unit) : isBlank unit = false := by
  have low := plain.low
  simp only [isBlank, decide_eq_false_iff_not]
  omega

theorem PlainUnit.kept {unit : CodeUnit} (plain : PlainUnit unit) : isKept unit = true := by
  have other (code : CodeUnit) (small : code.toNat ≤ 32) : unit ≠ code := by
    rintro rfl
    have low := plain.low
    omega
  simp [isKept, other 9 (by decide), other 10 (by decide), other 13 (by decide)]

theorem PlainUnit.notWhitespace {unit : CodeUnit} (plain : PlainUnit unit) :
    isWhitespace unit = false := by
  have low := plain.low
  have high := plain.high
  simp only [isWhitespace, Bool.or_eq_false_iff, Bool.and_eq_false_iff, decide_eq_false_iff_not,
    beq_eq_false_iff_ne, ne_eq]
  omega

private theorem letterOrDigit_plain {unit : CodeUnit} (valid : isLetter unit || isDigit unit) :
    PlainUnit unit := by
  simp only [isLetter, isDigit, Bool.or_eq_true, Bool.and_eq_true, decide_eq_true_eq] at valid
  constructor
  · omega
  · omega

theorem schemeUnit_plain {unit : CodeUnit} (valid : isSchemeUnit unit = true) :
    PlainUnit unit := by
  simp only [isSchemeUnit, Bool.or_eq_true, beq_iff_eq] at valid
  rcases valid with ((letterOrDigit | rfl) | rfl) | rfl
  · exact letterOrDigit_plain (by simpa using letterOrDigit)
  · exact ⟨by decide, by decide⟩
  · exact ⟨by decide, by decide⟩
  · exact ⟨by decide, by decide⟩

theorem schemeUnit_ne_colon {unit : CodeUnit} (valid : isSchemeUnit unit = true) : unit ≠ 58 := by
  rintro rfl
  exact absurd valid (by decide)

theorem isScheme_units {scheme : JsString} (valid : isScheme scheme = true) :
    scheme ≠ [] ∧ ∀ unit ∈ scheme, isSchemeUnit unit = true := by
  simp only [isScheme, Bool.and_eq_true, List.all_eq_true] at valid
  refine ⟨?_, valid.2⟩
  rintro rfl
  exact absurd valid.1 (by decide)

/-- A scheme is cleaned to itself, and brings no text of its own. -/
theorem isScheme_slot {scheme : JsString} (valid : isScheme scheme = true) (rest : JsString) :
    splitSlot ((scheme.dropWhile isBlank).filter isKept) rest = (scheme, rest) := by
  obtain ⟨nonempty, units⟩ := isScheme_units valid
  have undropped : scheme.dropWhile isBlank = scheme := by
    obtain ⟨first, others, rfl⟩ := List.exists_cons_of_ne_nil nonempty
    simp [(schemeUnit_plain (units first (by simp))).visible]
  have unfiltered : scheme.filter isKept = scheme := by
    rw [List.filter_eq_self]
    intro unit member
    exact (schemeUnit_plain (units unit member)).kept
  have noColon : scheme.dropWhile (· ≠ 58) = [] := by
    rw [List.dropWhile_eq_nil_iff]
    intro unit member
    simpa using schemeUnit_ne_colon (units unit member)
  rw [undropped, unfiltered, splitSlot, noColon]

/-! ### Plain domains -/

/-- A letter, a digit, a hyphen or a dot. -/
def isDomainUnit (unit : CodeUnit) : Bool :=
  isLetter unit || isDigit unit || unit == 45 || unit == 46

/-- An ASCII domain without encoded labels whose last label is not a number. -/
structure PlainDomain (text : JsString) : Prop where
  units : ∀ unit ∈ text, isDomainUnit unit = true
  decoded : ∀ label ∈ (toLowerCase text).splitOn 46, startsWith label (js "xn--") = false
  named : ((text.splitOn 46).getLast?.bind List.head?).any isLetter = true

/-- A host parser reads a plain domain as its lower-case form. -/
def ParsesDomains (parseHost : Kind → JsString → Option JsString) : Prop :=
  ∀ text, PlainDomain text → parseHost .special text = some (toLowerCase text)

theorem PlainDomain.ne_nil {text : JsString} (plain : PlainDomain text) : text ≠ [] := by
  rintro rfl
  exact absurd plain.named (by decide)

/-- A domain unit is a letter, a digit, a hyphen or a dot, and nothing else. -/
private theorem domainUnit_ne (other : CodeUnit) {unit : CodeUnit}
    (domain : isDomainUnit unit = true) (foreign : isDomainUnit other = false) : unit ≠ other := by
  rintro rfl
  rw [domain] at foreign
  exact absurd foreign (by simp)

theorem domainUnit_plain {unit : CodeUnit} (domain : isDomainUnit unit = true) :
    PlainUnit unit := by
  simp only [isDomainUnit, Bool.or_eq_true, beq_iff_eq] at domain
  rcases domain with (letterOrDigit | rfl) | rfl
  · exact letterOrDigit_plain (by simpa using letterOrDigit)
  · exact ⟨by decide, by decide⟩
  · exact ⟨by decide, by decide⟩

private theorem splitPort_plain {name port : JsString}
    (units : ∀ unit ∈ name, isDomainUnit unit = true) (starts : ∀ unit ∈ port.head?, unit = 58) :
    splitPort false (name ++ port) = (name, port) := by
  induction name with
  | nil =>
      cases port with
      | nil => rfl
      | cons first rest =>
          have colon : first = 58 := starts first (by simp)
          rw [List.nil_append, splitPort, if_pos ⟨colon, rfl⟩]
  | cons unit rest inductionHypothesis =>
      have domain := units unit (by simp)
      have notColon : unit ≠ 58 := domainUnit_ne _ domain (by decide)
      have notOpen : unit ≠ 91 := domainUnit_ne _ domain (by decide)
      have notClose : unit ≠ 93 := domainUnit_ne _ domain (by decide)
      have later := inductionHypothesis fun other member => units other (by simp [member])
      rw [List.cons_append, splitPort, if_neg (by simp [notColon]), if_neg notOpen, if_neg notClose]
      simp only [later]

/-- Nothing, or a colon and decimal digits. -/
def PlainPort (port : JsString) : Prop :=
  port = [] ∨ ∃ digits : JsString, port = 58 :: digits ∧ digits ≠ [] ∧ digits.all isDigit = true

theorem PlainPort.units {port : JsString} (plain : PlainPort port) {unit : CodeUnit}
    (member : unit ∈ port) : isDigit unit = true ∨ unit = 58 := by
  rcases plain with rfl | ⟨digits, rfl, -, all⟩
  · exact absurd member (by simp)
  · rcases List.mem_cons.mp member with rfl | later
    · exact Or.inr rfl
    · exact Or.inl (List.all_eq_true.mp all unit later)

/-- Units of a plain domain with a port end no authority and mark no credentials. -/
theorem plainPair_units {name port : JsString} (plain : PlainDomain name)
    (plainPort : PlainPort port) {unit : CodeUnit} (member : unit ∈ name ++ port) :
    PlainUnit unit ∧ endsAuthority .special unit = false ∧ unit ≠ 64 := by
  have domainOrColon : isDomainUnit unit = true ∨ unit = 58 := by
    rcases List.mem_append.mp member with inName | inPort
    · exact Or.inl (plain.units unit inName)
    · rcases plainPort.units inPort with digit | colon
      · left
        simp [isDomainUnit, digit]
      · exact Or.inr colon
  rcases domainOrColon with domain | rfl
  · have slash := domainUnit_ne 47 domain (by decide)
    have query := domainUnit_ne 63 domain (by decide)
    have fragment := domainUnit_ne 35 domain (by decide)
    have backslash := domainUnit_ne 92 domain (by decide)
    exact ⟨domainUnit_plain domain, by simp [endsAuthority, slash, query, fragment, backslash],
      domainUnit_ne 64 domain (by decide)⟩
  · exact ⟨⟨by decide, by decide⟩, by decide, by decide⟩

/-- A plain domain with an optional port, in front of a unit that ends it, is the
authority's host. -/
theorem hostBehind_plain {parseHost : Kind → JsString → Option JsString}
    (parses : ParsesDomains parseHost) {name port target : JsString} (plain : PlainDomain name)
    (plainPort : PlainPort port)
    (ends : ∀ unit ∈ target.head?, endsAuthority .special unit = true) {host : JsString}
    (read : hostBehind parseHost .special (47 :: 47 :: (name ++ port ++ target)) = some host) :
    host = toLowerCase name := by
  have units {unit : CodeUnit} (member : unit ∈ name ++ port) :=
    (plainPair_units plain plainPort member).2
  have starts : ∀ unit ∈ port.head?, unit = 58 := by
    rcases plainPort with rfl | ⟨digits, rfl, -, -⟩
    · simp
    · intro unit first
      exact (Option.some.inj first).symm
  have position : authorityText .special (47 :: 47 :: (name ++ port ++ target)) =
      some (name ++ port) := by
    have unslashed : (47 :: 47 :: (name ++ port ++ target)).dropWhile isSlash =
        name ++ port ++ target := by
      obtain ⟨first, rest, rfl⟩ := List.exists_cons_of_ne_nil plain.ne_nil
      have domain := plain.units first (by simp)
      have notSlash : isSlash first = false := by
        simp [isSlash, domainUnit_ne 47 domain (by decide), domainUnit_ne 92 domain (by decide)]
      have slash : isSlash 47 = true := by decide
      simp [slash, notSlash]
    rw [authorityText, unslashed, upToEnd, List.takeWhile_append_of_pos]
    · cases target with
      | nil => simp
      | cons first rest => simp [ends first (by simp)]
    · intro unit member
      rw [(units member).1]
      rfl
  have noCredentials : (name ++ port).contains 64 = false := by
    rw [List.contains_eq_mem, decide_eq_false_iff_not]
    intro member
    exact (units member).2 rfl
  have whole : (name ++ port).rtakeWhile (· ≠ 64) = name ++ port := by
    rw [List.rtakeWhile_eq_self_iff]
    intro unit member
    simpa using (units member).2
  rw [hostBehind, position] at read
  simp only [hostOfAuthority, noCredentials, whole, reduceCtorEq, if_false, Bool.false_eq_true,
    false_and, hostOfPair, splitPort_plain plain.units starts, plain.ne_nil, parses name plain]
    at read
  split at read
  · exact absurd read (by simp)
  · exact (Option.some.inj read).symm

/-- Lower case keeps the units of a domain. -/
theorem domainUnit_lower {unit : CodeUnit} (domain : isDomainUnit unit = true) :
    ∀ part ∈ lowerUnit unit, isDomainUnit part = true := by
  intro part member
  unfold lowerUnit at member
  have plain := domainUnit_plain domain
  have high := plain.high
  split at member
  next capital =>
    obtain rfl : part = unit + 32 := by simpa using member
    simp only [Bool.and_eq_true, decide_eq_true_eq] at capital
    have shifted : (unit + 32).toNat = unit.toNat + 32 := by
      rw [UInt16.toNat_add]
      have : (32 : UInt16).toNat = 32 := rfl
      omega
    have letter : isLetter (unit + 32) = true := by
      simp only [isLetter, Bool.or_eq_true, Bool.and_eq_true, decide_eq_true_eq]
      omega
    simp [isDomainUnit, letter]
  next =>
    split at member
    next kelvin =>
      have large : unit.toNat = 0x212A := by simpa using kelvin
      omega
    next =>
      split at member
      next dotted =>
        have large : unit.toNat = 0x0130 := by simpa using dotted
        omega
      next =>
        obtain rfl : part = unit := by simpa using member
        exact domain

/-- Lower case leaves a port alone. -/
theorem PlainPort.toLowerCase {port : JsString} (plain : PlainPort port) :
    Js.toLowerCase port = port := by
  have same : ∀ unit ∈ port, lowerUnit unit = [unit] := by
    intro unit member
    have small : unit.toNat ≤ 58 := by
      rcases plain.units member with digit | rfl
      · simp only [isDigit, Bool.and_eq_true, decide_eq_true_eq] at digit
        omega
      · decide
    have notCapital : ¬(65 ≤ unit.toNat ∧ unit.toNat ≤ 90) := by omega
    have notKelvin : unit.toNat ≠ 0x212A := by omega
    have notDotted : unit.toNat ≠ 0x0130 := by omega
    simp [lowerUnit, notCapital, notKelvin, notDotted]
  rw [Js.toLowerCase, List.flatMap_congr same]
  simp

end DarkmeshGateway.Foundation.Js.Url
