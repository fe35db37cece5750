import Mathlib.Data.List.Infix
import DarkmeshGateway.Foundation.Document
import DarkmeshGateway.Resolver.BundleEntries
import DarkmeshGateway.Resolver.Normalize

/-!
Contract: how the resolver normalises the texts of a built bundle.

Owns what the shared validation is relied on for, and which hosts,
identifiers, paths and methods of the builder the resolver takes.

Does not own the policies they are part of.
-/

namespace DarkmeshGateway.Resolver.BundleNormalization

open Foundation
open Foundation.Lua
open Foundation.Document
open Foundation.Outcome
open Foundation.Js (JsString utf8 utf8Length asciiByte)
open Resolver.Normalize
open BundleEntries

/-- What `tostring`, `tonumber` and the shared validation do with the values of
a bundle. -/
structure PlatformLaws (platform : Platform) : Prop where
  tostring : ∀ text, platform.tostring (.str text) = text
  tonumber : ∀ number, platform.tonumber (.num number) = some number
  checkLength : ∀ text limit name,
    platform.checkLength (.str text) limit name = .ok () ↔ text.length ≤ limit
  requireNoExtras : ∀ (msg : Entries) (allowed : List String),
    (∀ entry ∈ msg, ∃ name ∈ allowed, entry.1 = .str (lua name)) →
      platform.requireNoExtras msg allowed = []

theorem fixture_laws : PlatformLaws fixturePlatform where
  tostring _ := rfl
  tonumber _ := rfl
  checkLength text limit name := by
    show (if limit < text.length then Except.error (lua "too_long:" ++ name) else .ok ()) =
      .ok () ↔ _
    by_cases tooLong : limit < text.length
    · simp [tooLong]
    · rw [if_neg tooLong, eq_self_iff_true, true_iff]
      exact Nat.le_of_not_lt tooLong
  requireNoExtras msg allowed known := by
    simp only [fixturePlatform, List.filter_eq_nil_iff, List.mem_map]
    rintro key ⟨entry, member, rfl⟩
    obtain ⟨name, listed, named⟩ := known entry member
    simp only [named, List.contains_iff_mem, List.mem_map, Bool.not_eq_true, Bool.not_eq_false']
    simpa using ⟨name, listed, rfl⟩

/-! ### Hosts -/

private theorem hostByte_plain {byte : UInt8} (named : isHostByte byte = true) :
    isSpace byte = false ∧ isUpper byte = false ∧ byte ≠ 58 ∧ byte ≠ 37 ∧
      isForbiddenByte byte = false := by
  have all : ∀ value : Fin 256, isHostByte (UInt8.ofNat value) = true →
      isSpace (UInt8.ofNat value) = false ∧ isUpper (UInt8.ofNat value) = false ∧
        UInt8.ofNat value ≠ 58 ∧ UInt8.ofNat value ≠ 37 ∧
        isForbiddenByte (UInt8.ofNat value) = false := by decide +kernel
  have here := all ⟨byte.toNat, byte.toNat_lt⟩
  simp only [UInt8.ofNat_toNat] at here
  exact here named

theorem trim_of_plain {text : LuaString} (plain : ∀ byte ∈ text, isSpace byte = false) :
    trim text = text := by
  have front : text.dropWhile isSpace = text := by
    rw [List.dropWhile_eq_self_iff]
    intro nonempty
    simp [plain _ (List.getElem_mem nonempty)]
  rw [trim, front, List.rdropWhile_eq_self_iff]
  intro nonempty
  simp [plain _ (List.getLast_mem nonempty)]

theorem lower_of_plain {text : LuaString} (plain : ∀ byte ∈ text, isUpper byte = false) :
    lower text = text := by
  have same : text.map (fun byte => if isUpper byte then byte + 32 else byte) = text.map id := by
    apply List.map_congr_left
    intro byte member
    simp [plain byte member]
  rw [lower, same, List.map_id]

private theorem labelUnit_byte {unit : Js.CodeUnit}
    (spelled : BundleBuilder.isLabelUnit unit = true) :
    unit.toNat < 0x80 ∧ isHostByte (asciiByte unit) = true := by
  have ranges : (97 ≤ unit.toNat ∧ unit.toNat ≤ 122) ∨ (48 ≤ unit.toNat ∧ unit.toNat ≤ 57) ∨
      unit.toNat = 45 := by
    simpa [BundleBuilder.isLabelUnit, Js.isDigit, ← UInt16.toNat_inj, or_assoc] using spelled
  have ascii : unit.toNat < 0x80 := by omega
  refine ⟨ascii, ?_⟩
  simp only [isHostByte, isLower, isDigit, Bool.or_eq_true, Bool.and_eq_true, decide_eq_true_eq,
    beq_iff_eq, UInt8.le_iff_toNat_le, ← UInt8.toNat_inj, Js.asciiByte_toNat ascii]
  have values : (97 : UInt8).toNat = 97 ∧ (122 : UInt8).toNat = 122 ∧ (48 : UInt8).toNat = 48 ∧
      (57 : UInt8).toNat = 57 ∧ (45 : UInt8).toNat = 45 := by decide
  omega

variable {host : JsString}

theorem hostName_units (named : HostName host) :
    ∀ unit ∈ host, unit.toNat < 0x80 ∧ isHostByte (asciiByte unit) = true := by
  intro unit member
  have placed : unit = 46 ∨ ∃ label ∈ host.splitOn 46, unit ∈ label :=
    Delimited.mem_splitOn member
  rcases placed with rfl | ⟨label, listed, inside⟩
  · decide
  · exact labelUnit_byte ((named.labels label listed).units unit inside)

theorem utf8_hostName (named : HostName host) : utf8 host = host.map asciiByte :=
  Js.utf8_ascii fun unit member => (hostName_units named unit member).1

theorem hostName_bytes (named : HostName host) :
    ∀ byte ∈ utf8 host, isHostByte byte = true := by
  rw [utf8_hostName named]
  intro byte member
  obtain ⟨unit, listed, rfl⟩ := List.mem_map.mp member
  exact (hostName_units named unit listed).2

theorem hostName_last (named : HostName host) : host.getLast? ≠ some 46 := by
  intro dotted
  obtain ⟨front, rfl⟩ := List.getLast?_eq_some_iff.mp dotted
  exact (named.labels [] (Delimited.nil_mem_splitOn 46 front)).visible rfl

theorem hostName_ne_nil (named : HostName host) : host ≠ [] := by
  rintro rfl
  exact (named.labels [] (by simp [List.splitOn_eq_splitOnP])).visible rfl

private theorem labelOk_label {label : JsString} (spelled : HostLabel label) :
    labelOk (label.map asciiByte) = true := by
  have kept {unit : Js.CodeUnit} (member : unit ∈ label) (dash : asciiByte unit = 45) :
      unit = 45 := by
    have value := Js.asciiByte_toNat (labelUnit_byte (spelled.units unit member)).1
    rw [dash] at value
    exact UInt16.toNat_inj.mp value.symm
  simp only [labelOk, Bool.and_eq_true, decide_eq_true_eq, bne_iff_ne, ne_eq, List.length_map,
    List.head?_map, List.getLast?_map, Option.map_eq_some_iff, not_exists, not_and]
  refine ⟨⟨spelled.short, ?_⟩, ?_⟩
  · intro unit first dash
    exact spelled.head (kept (List.mem_of_mem_head? first) dash ▸ first)
  · intro unit last dash
    exact spelled.last (kept (List.mem_of_mem_getLast? last) dash ▸ last)

theorem hostOk_hostName (named : HostName host) : hostOk (utf8 host) = true := by
  have bytes := hostName_bytes named
  have plainSearch : containsPlain (utf8 host) (lua "%.%.") = false := by
    rw [containsPlain, List.any_eq_false]
    intro tail suffix found
    have first : (37 : UInt8) ∈ tail := by
      obtain ⟨rest, rfl⟩ := List.isPrefixOf_iff_prefix.mp found
      exact List.mem_append_left _ (by decide)
    have inside := ((List.mem_tails tail _).mp suffix).subset first
    exact (hostByte_plain (bytes 37 inside)).2.2.2.1 rfl
  have allowed : (utf8 host).any isForbiddenByte = false := by
    rw [List.any_eq_false]
    intro byte member
    simp [(hostByte_plain (bytes byte member)).2.2.2.2]
  have labels : ((utf8 host).splitOn 46).all labelOk = true := by
    have dots : ∀ unit ∈ host, asciiByte unit = asciiByte 46 → unit = 46 := by
      intro unit member same
      have value := Js.asciiByte_toNat (hostName_units named unit member).1
      rw [same] at value
      exact UInt16.toNat_inj.mp value.symm
    rw [utf8_hostName named, show (46 : UInt8) = asciiByte 46 from rfl,
      Delimited.splitOn_map dots, List.all_map, List.all_eq_true]
    intro label listed
    exact labelOk_label (named.labels label listed)
  have nonempty : utf8 host ≠ [] := fun empty =>
    hostName_ne_nil named (Js.utf8_eq_nil_iff.mp empty)
  simp only [hostOk, Bool.and_eq_true, Bool.not_eq_true', bne_iff_ne]
  refine ⟨⟨⟨⟨nonempty, plainSearch⟩, allowed⟩, List.all_eq_true.mpr bytes⟩, ?_⟩
  rw [List.all_eq_true] at labels ⊢
  intro label listed
  exact labels label (List.mem_of_mem_filter listed)

/-- The resolver takes a host of the builder as it is, when it is short enough. -/
theorem normalizeHost_ok_iff {platform : Platform} (laws : PlatformLaws platform)
    (named : HostName host) {field result : LuaString} :
    normalizeHost platform (.str (utf8 host)) field = .ok result ↔
      host.length ≤ platform.maxHostBytes ∧ result = utf8 host := by
  have bytes := hostName_bytes named
  have trimmed : trim (utf8 host) = utf8 host :=
    trim_of_plain fun byte member => (hostByte_plain (bytes byte member)).1
  have unported : stripPort (utf8 host) = utf8 host := by
    have stays : (utf8 host).dropWhile (· ≠ 58) = [] := by
      rw [List.dropWhile_eq_nil_iff]
      intro byte member
      exact decide_eq_true (hostByte_plain (bytes byte member)).2.2.1
    simp only [stripPort, stays]
  have lowered : lower (utf8 host) = utf8 host :=
    lower_of_plain fun byte member => (hostByte_plain (bytes byte member)).2.1
  have undotted : stripTrailingDot (utf8 host) = utf8 host := by
    rw [stripTrailingDot, if_neg]
    rw [utf8_hostName named, List.getLast?_map, Option.map_eq_some_iff]
    rintro ⟨unit, last, dot⟩
    have value := Js.asciiByte_toNat
      (hostName_units named unit (List.mem_of_mem_getLast? last)).1
    have dotted : unit.toNat = (46 : Js.CodeUnit).toNat := by
      rw [← value, dot]
      rfl
    exact hostName_last named (UInt16.toNat_inj.mp dotted ▸ last)
  have nonempty : utf8 host ≠ [] := fun empty =>
    hostName_ne_nil named (Js.utf8_eq_nil_iff.mp empty)
  have length : (utf8 host).length = host.length := by
    rw [utf8_hostName named, List.length_map]
  have checked := laws.checkLength (utf8 host) platform.maxHostBytes field
  rw [length] at checked
  simp only [normalizeHost, trimmed, if_neg nonempty, unported, lowered, undotted]
  cases check : platform.checkLength (.str (utf8 host)) platform.maxHostBytes field with
  | error failure =>
      rw [check] at checked
      simp only [reduceCtorEq, false_iff] at checked
      simp [checked]
  | ok _ =>
      rw [check] at checked
      simp only [true_iff] at checked
      simp [checked, hostOk_hostName named, eq_comm]

/-! ### Identifiers, paths and methods -/

private theorem processUnit_byte {unit : Js.CodeUnit}
    (spelled : BundleBuilder.isProcessUnit unit = true) :
    unit.toNat < 0x80 ∧ isIdentifierByte (asciiByte unit) = true := by
  have ranges : (65 ≤ unit.toNat ∧ unit.toNat ≤ 90) ∨ (97 ≤ unit.toNat ∧ unit.toNat ≤ 122) ∨
      (48 ≤ unit.toNat ∧ unit.toNat ≤ 57) ∨ unit.toNat = 95 ∨ unit.toNat = 45 := by
    simpa [BundleBuilder.isProcessUnit, Js.Url.isLetter, Js.isDigit, ← UInt16.toNat_inj,
      or_assoc] using spelled
  have ascii : unit.toNat < 0x80 := by omega
  refine ⟨ascii, ?_⟩
  simp only [isIdentifierByte, isLower, isUpper, isDigit, Bool.or_eq_true, Bool.and_eq_true,
    decide_eq_true_eq, beq_iff_eq, UInt8.le_iff_toNat_le, ← UInt8.toNat_inj,
    Js.asciiByte_toNat ascii]
  have values : (97 : UInt8).toNat = 97 ∧ (122 : UInt8).toNat = 122 ∧ (65 : UInt8).toNat = 65 ∧
      (90 : UInt8).toNat = 90 ∧ (48 : UInt8).toNat = 48 ∧ (57 : UInt8).toNat = 57 ∧
      (95 : UInt8).toNat = 95 ∧ (45 : UInt8).toNat = 45 := by decide
  omega

private theorem identifierByte_plain {byte : UInt8} (named : isIdentifierByte byte = true) :
    isSpace byte = false := by
  have all : ∀ value : Fin 256, isIdentifierByte (UInt8.ofNat value) = true →
      isSpace (UInt8.ofNat value) = false := by decide +kernel
  have here := all ⟨byte.toNat, byte.toNat_lt⟩
  simp only [UInt8.ofNat_toNat] at here
  exact here named

/-- A text as the resolver reads it. -/
def readText (text : JsString) : Value := .str (utf8 text)

variable {platform : Platform}

/-- The resolver takes every identifier of the builder as it is. -/
theorem normalizeProcessIdentifier_read (laws : PlatformLaws platform) {value : Option JsString}
    (named : ∀ id ∈ value, ProcessName id) (field : LuaString) :
    normalizeProcessIdentifier platform (value.map readText) field = .ok (value.map utf8) := by
  cases value with
  | none => rfl
  | some id =>
      have shape := named id rfl
      have ascii : utf8 id = id.map asciiByte :=
        Js.utf8_ascii fun unit member => (processUnit_byte (shape.units unit member)).1
      have bytes : ∀ byte ∈ utf8 id, isIdentifierByte byte = true := by
        rw [ascii]
        intro byte member
        obtain ⟨unit, listed, rfl⟩ := List.mem_map.mp member
        exact (processUnit_byte (shape.units unit listed)).2
      have trimmed : trim (utf8 id) = utf8 id :=
        trim_of_plain fun byte member => identifierByte_plain (bytes byte member)
      have length : (utf8 id).length = id.length := by rw [ascii, List.length_map]
      have long := shape.long
      have nonempty : utf8 id ≠ [] := by
        rw [← List.length_pos_iff, length]
        omega
      have checked : platform.checkLength (.str (utf8 id)) 128 field = .ok () := by
        rw [laws.checkLength, length]
        exact shape.short
      have formed : ¬((utf8 id).length < 20 ∨ (utf8 id).all isIdentifierByte = false) := by
        rw [length, List.all_eq_true.mpr bytes]
        simp only [Bool.true_eq_false, or_false]
        omega
      simp only [normalizeProcessIdentifier, Option.map_some, readText, Option.getD_some,
        laws.tostring, trimmed, if_neg nonempty, checked, if_neg formed]
      rfl

/-- White space of the C locale. -/
def isBlankUnit (unit : Js.CodeUnit) : Bool :=
  (9 ≤ unit.toNat && unit.toNat ≤ 13) || unit.toNat == 32

/-- The path in front of a query and a fragment. -/
def frontPart (path : JsString) : JsString := (path.takeWhile (· ≠ 63)).takeWhile (· ≠ 35)

/-- The resolver takes the path. -/
structure PathFits (platform : Platform) (path : JsString) : Prop where
  short : utf8Length (frontPart path) ≤ platform.maxPathBytes
  unspaced : (frontPart path).any isBlankUnit = false

theorem any_isSpace_utf8 (text : JsString) :
    (utf8 text).any isSpace = text.any isBlankUnit := by
  rw [Bool.eq_iff_iff, List.any_eq_true, List.any_eq_true]
  have values : (9 : UInt8).toNat = 9 ∧ (13 : UInt8).toNat = 13 ∧ (32 : UInt8).toNat = 32 := by
    decide
  have spaces (byte : UInt8) : isSpace byte = true ↔
      (9 ≤ byte.toNat ∧ byte.toNat ≤ 13) ∨ byte.toNat = 32 := by
    simp only [isSpace, Bool.or_eq_true, Bool.and_eq_true, decide_eq_true_eq, beq_iff_eq,
      UInt8.le_iff_toNat_le, ← UInt8.toNat_inj, values]
  have blanks (unit : Js.CodeUnit) : isBlankUnit unit = true ↔
      (9 ≤ unit.toNat ∧ unit.toNat ≤ 13) ∨ unit.toNat = 32 := by
    simp [isBlankUnit]
  constructor
  · rintro ⟨byte, member, space⟩
    rw [spaces] at space
    obtain ⟨unit, listed, same⟩ := (Js.mem_utf8_iff (by omega)).mp member
    refine ⟨unit, listed, (blanks unit).mpr ?_⟩
    rwa [same]
  · rintro ⟨unit, member, blank⟩
    rw [blanks] at blank
    have low : unit.toNat < 0x80 := by omega
    have value := Js.asciiByte_toNat low
    refine ⟨asciiByte unit, (Js.mem_utf8_iff (by omega)).mpr ⟨unit, member, value.symm⟩, ?_⟩
    rw [spaces, value]
    exact blank

theorem normalizePath_ok_iff (laws : PlatformLaws platform) {path : JsString}
    (shape : RoutePath path) {field result : LuaString} :
    normalizePath platform (.str (utf8 path)) field = .ok result ↔
      PathFits platform path ∧ result = utf8 (frontPart path) := by
  have rooted : (utf8 path).head? = some 47 := by
    obtain ⟨rest, rfl⟩ := List.head?_eq_some_iff.mp shape.rooted
    rw [Js.utf8_cons (by decide), List.head?_cons]
    rfl
  have part : pathPart (utf8 path) = utf8 (frontPart path) := by
    have question := Js.utf8_takeWhile (show (63 : UInt16).toNat < 0x80 by decide) path
    have fragment := Js.utf8_takeWhile (show (35 : UInt16).toNat < 0x80 by decide)
      (path.takeWhile (· ≠ 63))
    simp only [pathPart, trim_utf8 shape.tidy.trimmed, if_pos rooted, frontPart]
    rw [← fragment, ← question]
    rfl
  have checked := laws.checkLength (utf8 (frontPart path)) platform.maxPathBytes field
  rw [Js.utf8_length] at checked
  simp only [normalizePath, part, any_isSpace_utf8]
  rw [bind_eq_ok]
  constructor
  · rintro ⟨_, short, rest⟩
    rw [invalidFormat, error_guard_eq_ok] at rest
    refine ⟨⟨checked.mp short, ?_⟩, (pure_eq_ok.mp rest.2).symm⟩
    simpa using rest.1
  · rintro ⟨fits, rfl⟩
    refine ⟨(), checked.mpr fits.short, ?_⟩
    rw [invalidFormat, error_guard_eq_ok]
    exact ⟨by simp [fits.unspaced], rfl⟩

theorem normalizeMethod_ok_iff (laws : PlatformLaws platform) {name : JsString}
    (valid : name ∈ BundleBuilder.validRouteMethods) {field result : LuaString} :
    normalizeMethod platform (.str (utf8 name)) field = .ok result ↔
      name.length ≤ platform.maxMethodBytes ∧ result = utf8 name := by
  have known : ∀ name ∈ BundleBuilder.validRouteMethods, upper (trim (utf8 name)) = utf8 name ∧
      utf8 name ≠ [] ∧ (utf8 name).all isUpper = true ∧ (utf8 name).length = name.length := by
    decide
  obtain ⟨same, nonempty, letters, length⟩ := known name valid
  have checked := laws.checkLength (utf8 name) platform.maxMethodBytes field
  rw [length] at checked
  simp only [normalizeMethod, same, if_neg nonempty]
  cases check : platform.checkLength (.str (utf8 name)) platform.maxMethodBytes field with
  | error failure =>
      rw [check] at checked
      simp only [reduceCtorEq, false_iff] at checked
      simp [checked]
  | ok _ =>
      rw [check] at checked
      simp only [true_iff] at checked
      simp [checked, letters, eq_comm]

end DarkmeshGateway.Resolver.BundleNormalization
