import DarkmeshGateway.Foundation.Delimited
import DarkmeshGateway.Resolver.Normalize

/-!
Contract: when the resolver's normal form of a host is canonical.

Owns well-formed host labels, the texts whose empty labels the checks do not
see, and the law that a normal form is its own and stands for one key.

Does not own the length check of the shared validation.
-/

namespace DarkmeshGateway.Resolver.HostCanonical

open Foundation
open Foundation.Lua
open Resolver.Normalize

/-! ### The normal form -/

/-- What the checks are made on. -/
def hostOf (text : LuaString) : LuaString := stripTrailingDot (lower (stripPort (trim text)))

/-- The checks on a host pass. -/
def Admitted (platform : Platform) (field host : LuaString) : Prop :=
  platform.checkLength (.str host) platform.maxHostBytes field = .ok () ∧ hostOk host = true

theorem normalizeHost_eq_ok_iff (platform : Platform) (field text host : LuaString) :
    normalizeHost platform (.str text) field = .ok host ↔
      host = hostOf text ∧ Admitted platform field (hostOf text) := by
  simp only [normalizeHost, Admitted]
  by_cases blank : trim text = []
  · have empty : hostOf text = [] := by simp [hostOf, blank, stripPort, lower, stripTrailingDot]
    rw [if_pos blank, empty]
    simp [invalidFormat, hostOk]
  · have named : stripTrailingDot (lower (stripPort (trim text))) = hostOf text := rfl
    rw [if_neg blank, named]
    cases platform.checkLength (.str (hostOf text)) platform.maxHostBytes field with
    | error failure => simp
    | ok passed =>
        by_cases ok : hostOk (hostOf text) = true
        · simp [ok, eq_comm]
        · simp [ok, invalidFormat]

theorem normalizeHost_not_text {platform : Platform} {field : LuaString} {raw : Value}
    (other : ∀ text, raw ≠ .str text) (host : LuaString) :
    normalizeHost platform raw field ≠ .ok host := by
  cases raw with
  | str text => exact absurd rfl (other text)
  | bool value => simp [normalizeHost, invalidType]
  | num value => simp [normalizeHost, invalidType]
  | table entries => simp [normalizeHost, invalidType]

/-! ### Bytes that no step changes -/

theorem lower_eq_self {text : LuaString} (bytes : ∀ byte ∈ text, isHostByte byte = true) :
    lower text = text := by
  rw [lower]
  conv_rhs => rw [← List.map_id text]
  apply List.map_congr_left
  intro byte member
  have lowerCase : isUpper byte = false := by
    have known := bytes byte member
    simp only [isHostByte, isLower, isDigit, isUpper, Bool.or_eq_true, Bool.and_eq_true,
      decide_eq_true_eq, beq_iff_eq, UInt8.le_iff_toNat_le, ← UInt8.toNat_inj,
      Bool.and_eq_false_iff, decide_eq_false_iff_not, UInt8.reduceToNat] at known ⊢
    omega
  simp [lowerCase]

theorem trim_eq_self {text : LuaString} (bytes : ∀ byte ∈ text, isHostByte byte = true) :
    trim text = text := by
  have solid : ∀ byte ∈ text, isSpace byte = false := by
    intro byte member
    have known := bytes byte member
    simp only [isHostByte, isLower, isDigit, isSpace, Bool.or_eq_true, Bool.and_eq_true,
      decide_eq_true_eq, beq_iff_eq, UInt8.le_iff_toNat_le, ← UInt8.toNat_inj,
      Bool.or_eq_false_iff, Bool.and_eq_false_iff, decide_eq_false_iff_not, beq_eq_false_iff_ne,
      ne_eq, UInt8.reduceToNat] at known ⊢
    omega
  have front : text.dropWhile isSpace = text := by
    cases text with
    | nil => rfl
    | cons first rest => simp [solid first List.mem_cons_self]
  rw [trim, front, List.rdropWhile_eq_self_iff]
  intro present
  simp [solid _ (List.getLast_mem present)]

theorem stripPort_eq_self {text : LuaString} (bytes : ∀ byte ∈ text, isHostByte byte = true) :
    stripPort text = text := by
  have whole : text.dropWhile (· ≠ 58) = [] := by
    rw [List.dropWhile_eq_nil_iff]
    intro byte member
    have known := bytes byte member
    rw [decide_eq_true_eq]
    rintro rfl
    simp [isHostByte, isLower, isDigit] at known
  rw [stripPort, whole]

theorem hostOk_bytes {host : LuaString} (ok : hostOk host = true) :
    ∀ byte ∈ host, isHostByte byte = true := by
  simp only [hostOk, Bool.and_eq_true, List.all_eq_true] at ok
  exact ok.1.2

theorem stripTrailingDot_eq_self {host : LuaString} (inner : host.getLast? ≠ some 46) :
    stripTrailingDot host = host := if_neg inner

/-- A checked host without a dot at its end is its own normal form. -/
theorem hostOf_eq_self {host : LuaString} (ok : hostOk host = true)
    (inner : host.getLast? ≠ some 46) : hostOf host = host := by
  have bytes := hostOk_bytes ok
  rw [hostOf, trim_eq_self bytes, stripPort_eq_self bytes, lower_eq_self bytes,
    stripTrailingDot_eq_self inner]

/-! ### Labels -/

/-- A non-empty label of at most 63 letters, digits and inner hyphens. -/
structure Label (label : LuaString) : Prop where
  present : label ≠ []
  short : label.length ≤ 63
  bytes : ∀ byte ∈ label, isLower byte = true ∨ isDigit byte = true ∨ byte = 45
  start : label.head? ≠ some 45
  finish : label.getLast? ≠ some 45

/-- A checked host has well-formed labels when none is empty. -/
theorem labels_iff {host : LuaString} (ok : hostOk host = true) :
    (∀ label ∈ host.splitOn 46, Label label) ↔ [] ∉ host.splitOn 46 := by
  constructor
  · intro wellFormed empty
    exact (wellFormed [] empty).present rfl
  · intro full label member
    have bytes := hostOk_bytes ok
    have present : label ≠ [] := by
      rintro rfl
      exact full member
    have checked : labelOk label = true := by
      simp only [hostOk, Bool.and_eq_true, List.all_eq_true] at ok
      exact ok.2 label (List.mem_filter.mpr ⟨member, by simpa using present⟩)
    simp only [labelOk, Bool.and_eq_true, decide_eq_true_eq, bne_iff_ne, ne_eq] at checked
    refine ⟨present, checked.1.1, ?_, checked.1.2, checked.2⟩
    intro byte inside
    have found := Delimited.part_of_mem_splitOn member byte inside
    have known := bytes byte found.1
    simp only [isHostByte, Bool.or_eq_true, beq_iff_eq] at known
    have notDot := found.2
    tauto

/-! ### Dots -/

theorem lower_dot_iff (byte : UInt8) : (if isUpper byte then byte + 32 else byte) = 46 ↔
    byte = 46 := by
  by_cases upperCase : isUpper byte = true
  · rw [if_pos upperCase]
    simp only [isUpper, Bool.and_eq_true, decide_eq_true_eq, UInt8.le_iff_toNat_le,
      UInt8.reduceToNat] at upperCase
    rw [← UInt8.toNat_inj, ← UInt8.toNat_inj, UInt8.toNat_add]
    simp only [UInt8.reduceToNat]
    omega
  · rw [if_neg upperCase]

theorem lower_head_dot_iff (text : LuaString) :
    (lower text).head? = some 46 ↔ text.head? = some 46 := by
  cases text with
  | nil => simp [lower]
  | cons first rest => simp [lower, lower_dot_iff]

theorem lower_dots_iff (text : LuaString) : [46, 46] <:+: lower text ↔ [46, 46] <:+: text := by
  induction text with
  | nil => simp [lower]
  | cons first rest inductionHypothesis =>
      rw [lower, List.map_cons, List.infix_cons_iff, List.infix_cons_iff, ← lower,
        inductionHypothesis, List.cons_prefix_cons, List.cons_prefix_cons, @eq_comm _ 46,
        lower_dot_iff, @eq_comm _ 46 first]
      cases rest with
      | nil => simp [lower]
      | cons second others =>
          rw [lower, List.map_cons, List.cons_prefix_cons, List.cons_prefix_cons, @eq_comm _ 46,
            lower_dot_iff, @eq_comm _ 46 second]
          simp

/-- A dot in front, or two in a row: an empty label in front of another. -/
def EmptyLabel (text : LuaString) : Prop := text.head? = some 46 ∨ [46, 46] <:+: text

/-- A host keeps the empty labels of its text, except one after a dot at its end. -/
theorem nil_mem_labels_iff {text : LuaString} (present : stripTrailingDot text ≠ []) :
    [] ∈ (stripTrailingDot text).splitOn 46 ↔ EmptyLabel text := by
  rw [Delimited.nil_mem_splitOn_iff, EmptyLabel]
  unfold stripTrailingDot at present ⊢
  by_cases dotted : text.getLast? = some 46
  · rw [if_pos dotted] at present ⊢
    obtain ⟨host, rfl⟩ : ∃ host, text = host ++ [46] :=
      ⟨text.dropLast, (List.dropLast_append_getLast? 46 dotted).symm⟩
    rw [List.dropLast_concat] at present ⊢
    have tail : [46, 46] <:+: host ++ [46] ↔
        host.getLast? = some 46 ∨ [46, 46] <:+: host := by
      rw [List.infix_concat_iff]
      rw [show ([46, 46] : LuaString) = [46] ++ [46] from rfl, List.suffix_append_self_iff,
        List.singleton_suffix_iff_getLast?_eq_some]
    have start : (host ++ [46]).head? = host.head? := by
      cases host with
      | nil => exact absurd rfl present
      | cons first rest => rfl
    rw [tail, start]
    simp [present]
  · rw [if_neg dotted] at present ⊢
    simp [present, dotted]

/-! ### Canonical hosts -/

/-- The result is an error or a host of well-formed labels that is its own normal
form. -/
def Canonical (platform : Platform) (field : LuaString) (raw : Value) : Prop :=
  ∀ host, normalizeHost platform raw field = .ok host →
    (∀ label ∈ host.splitOn 46, Label label) ∧
      normalizeHost platform (.str host) field = .ok host

/-- Two keys that spell one host are one key. -/
def OneKey (platform : Platform) (field : LuaString) (left right : Value) : Prop :=
  ∀ first second, normalizeHost platform left field = .ok first →
    normalizeHost platform right field = .ok second →
    normalizeHost platform (.str first) field = normalizeHost platform (.str second) field →
    first = second

/-- An empty label that the checks let pass: the text, trimmed and without a port,
starts with a dot or has two in a row. -/
def Lax (platform : Platform) (field : LuaString) (raw : Value) : Prop :=
  ∃ text, raw = .str text ∧ Admitted platform field (hostOf text) ∧
    EmptyLabel (stripPort (trim text))

theorem emptyLabel_lower_iff (text : LuaString) : EmptyLabel (lower text) ↔ EmptyLabel text := by
  rw [EmptyLabel, EmptyLabel, lower_head_dot_iff, lower_dots_iff]

theorem admitted_labels_iff {platform : Platform} {field text : LuaString}
    (admitted : Admitted platform field (hostOf text)) :
    (∀ label ∈ (hostOf text).splitOn 46, Label label) ↔ ¬ EmptyLabel (stripPort (trim text)) := by
  have present : hostOf text ≠ [] := by
    intro empty
    have ok := admitted.2
    rw [empty] at ok
    cases ok
  rw [labels_iff admitted.2, ← emptyLabel_lower_iff, ← nil_mem_labels_iff present, hostOf]

theorem canonical_iff (platform : Platform) (field : LuaString) (raw : Value) :
    Canonical platform field raw ↔ ¬ Lax platform field raw := by
  constructor
  · intro canonical lax
    obtain ⟨text, rfl, admitted, empty⟩ := lax
    have labels := canonical (hostOf text) ((normalizeHost_eq_ok_iff ..).mpr ⟨rfl, admitted⟩)
    exact (admitted_labels_iff admitted).mp labels.1 empty
  · intro strict host normalized
    by_cases isText : ∃ text, raw = .str text
    · obtain ⟨text, rfl⟩ := isText
      obtain ⟨rfl, admitted⟩ := (normalizeHost_eq_ok_iff ..).mp normalized
      have full : ¬ EmptyLabel (stripPort (trim text)) := fun empty =>
        strict ⟨text, rfl, admitted, empty⟩
      have labels := (admitted_labels_iff admitted).mpr full
      have inner : (hostOf text).getLast? ≠ some 46 := by
        intro dotted
        apply (labels_iff admitted.2).mp labels
        exact (Delimited.nil_mem_splitOn_iff _).mpr (.inr (.inr (.inl dotted)))
      have fixed := hostOf_eq_self admitted.2 inner
      refine ⟨labels, (normalizeHost_eq_ok_iff ..).mpr ?_⟩
      rw [fixed]
      exact ⟨rfl, admitted⟩
    · exact absurd normalized (normalizeHost_not_text (not_exists.mp isText) host)

/-- The normal form is canonical, for one spelling and between two, exactly for
spellings without an empty label that the checks let pass. -/
theorem host_normal_form_canonical_iff (platform : Platform) (field : LuaString)
    (left right : Value) :
    (Canonical platform field left ∧ Canonical platform field right ∧
        OneKey platform field left right) ↔
      ¬ Lax platform field left ∧ ¬ Lax platform field right := by
  rw [← canonical_iff, ← canonical_iff]
  constructor
  · intro canonical
    exact ⟨canonical.1, canonical.2.1⟩
  · intro canonical
    refine ⟨canonical.1, canonical.2, ?_⟩
    intro first second leftNormal rightNormal same
    rw [(canonical.1 first leftNormal).2, (canonical.2 second rightNormal).2] at same
    exact Except.ok.inj same

/-- `a..` gets the key `a.`, which itself gets the key `a`; `a..b` has an empty label. -/
theorem double_dot_not_canonical :
    normalizeHost fixturePlatform (.str (lua "a..")) (lua "Host") = .ok (lua "a.") ∧
      normalizeHost fixturePlatform (.str (lua "a.")) (lua "Host") = .ok (lua "a") ∧
      normalizeHost fixturePlatform (.str (lua "a..b")) (lua "Host") = .ok (lua "a..b") ∧
      ¬ ∀ raw, Canonical fixturePlatform (lua "Host") raw := by
  have first : normalizeHost fixturePlatform (.str (lua "a..")) (lua "Host") =
      .ok (lua "a.") := by decide +kernel
  have second : normalizeHost fixturePlatform (.str (lua "a.")) (lua "Host") =
      .ok (lua "a") := by decide +kernel
  refine ⟨first, second, by decide +kernel, ?_⟩
  intro canonical
  have fixed := (canonical _ _ first).2
  rw [second] at fixed
  exact absurd (Except.ok.inj fixed) (by decide)

end DarkmeshGateway.Resolver.HostCanonical
