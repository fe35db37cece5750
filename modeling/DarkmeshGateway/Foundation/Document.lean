import DarkmeshGateway.Foundation.Js.Double
import DarkmeshGateway.Foundation.Js.Utf8
import DarkmeshGateway.Foundation.Lua.Value
import DarkmeshGateway.Foundation.OrderedMap

/-!
Contract: JSON documents written by JavaScript and read by Lua.

Owns the Lua values a document may be read as, what their fields and sequences
hold, and which trimmed texts stay trimmed.

Does not own `null` and fractions, which no document here carries, nor the
order of `pairs`, which is any.
-/

namespace DarkmeshGateway.Foundation.Document

open Foundation.Lua
open Foundation.Js (utf8 utf8_injective)

/-! ### Reading -/

mutual

/-- A Lua value read from a JSON value: texts are UTF-8, objects and arrays are
tables, listed in any order. -/
inductive Decodes : Js.Json → Value → Prop where
  | bool (flag : Bool) : Decodes (.bool flag) (.bool flag)
  | integer {document : Js.Number} {read : Number} {value : Int}
      (written : document.toDouble = .finite value) (equal : read.integral = some value) :
      Decodes (.num document) (.num read)
  | str (text : Js.JsString) : Decodes (.str text) (.str (utf8 text))
  | arr {elements : List Js.Json} {listing entries : Entries}
      (read : DecodesElements 1 elements listing) (order : listing.Perm entries) :
      Decodes (.arr elements) (.table entries)
  | obj {fields : Js.Fields} {listing entries : Entries}
      (read : DecodesFields fields listing) (order : listing.Perm entries) :
      Decodes (.obj fields) (.table entries)

/-- The elements of an array under consecutive indices. -/
inductive DecodesElements : Int → List Js.Json → Entries → Prop where
  | nil (index : Int) : DecodesElements index [] []
  | cons {index : Int} {value : Js.Json} {read : Value} {rest : List Js.Json} {listing : Entries}
      (first : Decodes value read) (others : DecodesElements (index + 1) rest listing) :
      DecodesElements index (value :: rest) ((.num (.integer index), read) :: listing)

/-- The properties of an object. -/
inductive DecodesFields : Js.Fields → Entries → Prop where
  | nil : DecodesFields [] []
  | cons {key : Js.JsString} {value : Js.Json} {read : Value} {rest : Js.Fields}
      {listing : Entries} (first : Decodes value read) (others : DecodesFields rest listing) :
      DecodesFields ((key, value) :: rest) ((.str (utf8 key), read) :: listing)

end

mutual

/-- A JSON value that can be read: no `null` and no fraction. -/
def Readable : Js.Json → Prop
  | .null => False
  | .bool _ => True
  | .num number => ∃ value : Int, number.toDouble = .finite value
  | .str _ => True
  | .arr elements => ReadableElements elements
  | .obj fields => ReadableFields fields

def ReadableElements : List Js.Json → Prop
  | [] => True
  | value :: rest => Readable value ∧ ReadableElements rest

def ReadableFields : Js.Fields → Prop
  | [] => True
  | (_, value) :: rest => Readable value ∧ ReadableFields rest

end

mutual

theorem exists_decodes : (document : Js.Json) → Readable document →
    ∃ value, Decodes document value
  | .null, readable => readable.elim
  | .bool flag, _ => ⟨_, .bool flag⟩
  | .num _, ⟨value, written⟩ => ⟨.num (.integer value), .integer written rfl⟩
  | .str text, _ => ⟨_, .str text⟩
  | .arr elements, readable => by
      obtain ⟨listing, read⟩ := exists_decodesElements elements 1 readable
      exact ⟨.table listing, .arr read (.refl listing)⟩
  | .obj fields, readable => by
      obtain ⟨listing, read⟩ := exists_decodesFields fields readable
      exact ⟨.table listing, .obj read (.refl listing)⟩

theorem exists_decodesElements : (elements : List Js.Json) → (index : Int) →
    ReadableElements elements → ∃ listing, DecodesElements index elements listing
  | [], index, _ => ⟨[], .nil index⟩
  | value :: rest, index, readable => by
      obtain ⟨read, first⟩ := exists_decodes value readable.1
      obtain ⟨listing, others⟩ := exists_decodesElements rest (index + 1) readable.2
      exact ⟨_, .cons first others⟩

theorem exists_decodesFields : (fields : Js.Fields) → ReadableFields fields →
    ∃ listing, DecodesFields fields listing
  | [], _ => ⟨[], .nil⟩
  | (key, value) :: rest, readable => by
      obtain ⟨read, first⟩ := exists_decodes value readable.1
      obtain ⟨listing, others⟩ := exists_decodesFields rest readable.2
      exact ⟨_, .cons first others⟩

end

/-- An object is read as a table. -/
theorem exists_table {fields : Js.Fields} (readable : ReadableFields fields) :
    ∃ entries, Decodes (.obj fields) (.table entries) := by
  obtain ⟨listing, read⟩ := exists_decodesFields fields readable
  exact ⟨listing, .obj read (.refl listing)⟩

theorem readableFields_iff {fields : Js.Fields} :
    ReadableFields fields ↔ ∀ field ∈ fields, Readable field.2 := by
  induction fields with
  | nil => simp [ReadableFields]
  | cons field rest inductionHypothesis =>
      rw [ReadableFields, List.forall_mem_cons, inductionHypothesis]

/-! ### Objects -/

/-- A key is read as the UTF-8 bytes of its name. -/
def keyOf (name : Js.JsString) : Key := .str (utf8 name)

theorem keyOf_injective : Function.Injective keyOf := by
  intro left right same
  exact utf8_injective (Key.str.inj same)

private theorem DecodesFields.keys {fields : Js.Fields} {listing : Entries}
    (read : DecodesFields fields listing) :
    listing.map Prod.fst = (fields.map Prod.fst).map keyOf := by
  induction fields generalizing listing with
  | nil =>
      cases read with
      | nil => rfl
  | cons field rest inductionHypothesis =>
      cases read with
      | cons first others =>
          simp only [List.map_cons, inductionHypothesis others]
          rfl

private theorem DecodesFields.entry {fields : Js.Fields} {listing : Entries}
    (read : DecodesFields fields listing) {key : Js.JsString} {value : Js.Json}
    (listed : (key, value) ∈ fields) :
    ∃ found, (keyOf key, found) ∈ listing ∧ Decodes value found := by
  induction fields generalizing listing with
  | nil => simp at listed
  | cons field rest inductionHypothesis =>
      cases read with
      | cons first others =>
          rcases List.mem_cons.mp listed with same | later
          · obtain ⟨rfl, rfl⟩ := Prod.mk.inj same
            exact ⟨_, List.mem_cons_self, first⟩
          · obtain ⟨found, member, decoded⟩ := inductionHypothesis others later
            exact ⟨found, List.mem_cons_of_mem _ member, decoded⟩

private theorem DecodesFields.of_entry {fields : Js.Fields} {listing : Entries}
    (read : DecodesFields fields listing) {entry : Key × Value} (listed : entry ∈ listing) :
    ∃ key value, (key, value) ∈ fields ∧ entry.1 = keyOf key ∧ Decodes value entry.2 := by
  induction fields generalizing listing with
  | nil =>
      cases read with
      | nil => simp at listed
  | cons field rest inductionHypothesis =>
      cases read with
      | cons first others =>
          rcases List.mem_cons.mp listed with rfl | later
          · exact ⟨_, _, List.mem_cons_self, rfl, first⟩
          · obtain ⟨key, value, member, named, decoded⟩ := inductionHypothesis others later
            exact ⟨key, value, List.mem_cons_of_mem _ member, named, decoded⟩

variable {fields : Js.Fields} {entries : Entries}

theorem Decodes.entry (decoded : Decodes (.obj fields) (.table entries)) {key : Js.JsString}
    {value : Js.Json} (listed : (key, value) ∈ fields) :
    ∃ found, (keyOf key, found) ∈ entries ∧ Decodes value found := by
  cases decoded with
  | obj read order =>
      obtain ⟨found, member, reads⟩ := read.entry listed
      exact ⟨found, order.mem_iff.mp member, reads⟩

theorem Decodes.of_entry (decoded : Decodes (.obj fields) (.table entries))
    {entry : Key × Value} (listed : entry ∈ entries) :
    ∃ key value, (key, value) ∈ fields ∧ entry.1 = keyOf key ∧ Decodes value entry.2 := by
  cases decoded with
  | obj read order => exact read.of_entry (order.mem_iff.mpr listed)

/-- Distinct names are distinct keys. -/
theorem Decodes.keys_nodup (decoded : Decodes (.obj fields) (.table entries))
    (distinct : (fields.map Prod.fst).Nodup) : (entries.map Prod.fst).Nodup := by
  cases decoded with
  | obj read order =>
      rw [← (order.map Prod.fst).nodup_iff, read.keys]
      exact distinct.map keyOf_injective

private theorem lookup_eq_some {entries : Entries} (distinct : (entries.map Prod.fst).Nodup)
    {key : Key} {value : Value} : entries.lookup key = some value ↔ (key, value) ∈ entries :=
  ((⟨entries, distinct⟩ : OrderedMap Key Value).mem_entries_iff key value).symm

/-- The names of the resolver's fields are ASCII. -/
theorem keyOf_js {name : String} (ascii : name.toList.all (·.toNat < 0x80) = true) :
    keyOf (Js.js name) = .str (lua name) := by
  rw [List.all_eq_true] at ascii
  have units : ∀ unit ∈ Js.js name, unit.toNat < 0x80 := by
    intro unit member
    obtain ⟨character, listed, rfl⟩ := List.mem_map.mp member
    have small := of_decide_eq_true (ascii character listed)
    rw [UInt16.toNat_ofNat']
    exact lt_of_le_of_lt (Nat.mod_le _ _) small
  rw [keyOf, Js.utf8_ascii units, Js.js, lua, List.map_map]
  congr 1
  apply List.map_congr_left
  intro character listed
  have small := of_decide_eq_true (ascii character listed)
  have value : (UInt16.ofNat character.toNat).toNat = character.toNat := by
    rw [UInt16.toNat_ofNat']
    exact Nat.mod_eq_of_lt (by omega)
  rw [Function.comp_apply, Js.asciiByte, value]

/-- A property is read as a field. -/
theorem Decodes.field_some (decoded : Decodes (.obj fields) (.table entries))
    (distinct : (fields.map Prod.fst).Nodup) {name : String} {value : Js.Json}
    (ascii : name.toList.all (·.toNat < 0x80) = true)
    (found : fields.get (Js.js name) = some value) :
    ∃ read, field entries name = some read ∧ Decodes value read := by
  have listed : (Js.js name, value) ∈ fields := by
    obtain ⟨before, after, split, _⟩ := List.lookup_eq_some_iff.mp found
    exact split ▸ List.mem_append_right before List.mem_cons_self
  obtain ⟨read, member, reads⟩ := decoded.entry listed
  rw [keyOf_js ascii] at member
  exact ⟨read, (lookup_eq_some (decoded.keys_nodup distinct)).mpr member, reads⟩

/-- A property that is not there is read as `nil`. -/
theorem Decodes.field_none (decoded : Decodes (.obj fields) (.table entries)) {name : String}
    (ascii : name.toList.all (·.toNat < 0x80) = true)
    (absent : fields.get (Js.js name) = none) : field entries name = none := by
  rw [field, List.lookup_eq_none_iff]
  intro entry member
  obtain ⟨key, value, listed, named, _⟩ := decoded.of_entry member
  rw [named, ← keyOf_js ascii]
  have different : Js.js name ≠ key := by
    rintro rfl
    rw [Js.Fields.get, List.lookup_eq_none_iff] at absent
    simpa using absent _ listed
  simpa using fun same => different (keyOf_injective same)

/-! ### Arrays -/

private theorem DecodesElements.keys {index : Int} {elements : List Js.Json} {listing : Entries}
    (read : DecodesElements index elements listing) :
    ∀ entry ∈ listing, ∃ position, index ≤ position ∧ entry.1 = .num (.integer position) := by
  induction elements generalizing index listing with
  | nil =>
      cases read with
      | nil => simp
  | cons value rest inductionHypothesis =>
      cases read with
      | cons first others =>
          intro entry member
          rcases List.mem_cons.mp member with rfl | later
          · exact ⟨index, le_refl index, rfl⟩
          · obtain ⟨position, after, named⟩ := inductionHypothesis others entry later
            exact ⟨position, by omega, named⟩

private theorem DecodesElements.keys_nodup {index : Int} {elements : List Js.Json}
    {listing : Entries} (read : DecodesElements index elements listing) :
    (listing.map Prod.fst).Nodup := by
  induction elements generalizing index listing with
  | nil =>
      cases read with
      | nil => exact List.nodup_nil
  | cons value rest inductionHypothesis =>
      cases read with
      | cons first others =>
          rw [List.map_cons, List.nodup_cons]
          refine ⟨?_, inductionHypothesis others⟩
          rw [List.mem_map]
          rintro ⟨entry, member, named⟩
          obtain ⟨position, after, placed⟩ := others.keys entry member
          rw [named, Key.num.injEq, Number.integer.injEq] at placed
          omega

/-- The values found under the indices are the elements. -/
private theorem DecodesElements.sequenceFrom {index : Int} {elements : List Js.Json}
    {listing entries : Entries} (read : DecodesElements index elements listing)
    (found : ∀ entry ∈ listing, entries.lookup entry.1 = some entry.2) :
    List.Forall₂ Decodes elements (sequenceFrom entries listing.length index) := by
  induction elements generalizing index listing with
  | nil =>
      cases read with
      | nil => exact .nil
  | cons value rest inductionHypothesis =>
      cases read with
      | cons first others =>
          rw [List.forall_mem_cons] at found
          rw [List.length_cons, Lua.sequenceFrom, found.1]
          exact .cons first (inductionHypothesis others found.2)

/-- `ipairs` visits the elements of an array in their order. -/
theorem Decodes.sequence {elements : List Js.Json} {entries : Entries}
    (decoded : Decodes (.arr elements) (.table entries)) :
    List.Forall₂ Decodes elements (sequence entries) := by
  cases decoded with
  | arr read order =>
      have distinct := (order.map Prod.fst).nodup_iff.mp read.keys_nodup
      rw [Lua.sequence, ← order.length_eq]
      apply read.sequenceFrom
      intro entry member
      exact (lookup_eq_some distinct).mpr (order.mem_iff.mp member)

/-! ### Texts -/

/-- A text trimmed by JavaScript has no white space for Lua to trim. -/
theorem trim_utf8 {text : Js.JsString} (trimmed : Js.trim text = text) :
    trim (utf8 text) = utf8 text := by
  have blank {unit : Js.CodeUnit} {byte : UInt8} (same : unit.toNat = byte.toNat)
      (space : isSpace byte = true) : Js.isWhitespace unit = true := by
    have nine : (9 : UInt8).toNat = 9 := rfl
    have thirteen : (13 : UInt8).toNat = 13 := rfl
    have thirtyTwo : (32 : UInt8).toNat = 32 := rfl
    simp only [isSpace, Bool.or_eq_true, Bool.and_eq_true, decide_eq_true_eq, beq_iff_eq,
      UInt8.le_iff_toNat_le, ← UInt8.toNat_inj, nine, thirteen, thirtyTwo] at space
    have cases : (9 ≤ unit.toNat ∧ unit.toNat ≤ 13) ∨ unit.toNat = 0x20 := by omega
    rcases cases with control | blankUnit
    · simp [Js.isWhitespace, control]
    · simp [Js.isWhitespace, blankUnit]
  have ascii {byte : UInt8} (space : isSpace byte = true) : byte.toNat < 0x80 := by
    have thirteen : (13 : UInt8).toNat = 13 := rfl
    have thirtyTwo : (32 : UInt8).toNat = 32 := rfl
    simp only [isSpace, Bool.or_eq_true, Bool.and_eq_true, decide_eq_true_eq, beq_iff_eq,
      UInt8.le_iff_toNat_le, ← UInt8.toNat_inj, thirteen, thirtyTwo] at space
    omega
  obtain ⟨heads, lasts⟩ := (Js.trim_eq_self_iff text).mp trimmed
  have front : (utf8 text).dropWhile isSpace = utf8 text := by
    rw [List.dropWhile_eq_self_iff]
    intro nonempty space
    obtain ⟨unit, first, same⟩ := Js.utf8_head (ascii space)
      (by rw [Option.mem_def, List.head?_eq_getElem?, List.getElem?_eq_getElem nonempty])
    have clash := heads unit first
    rw [blank same space] at clash
    exact Bool.noConfusion clash
  rw [trim, front, List.rdropWhile_eq_self_iff]
  intro nonempty space
  obtain ⟨unit, last, same⟩ := Js.utf8_last (ascii space)
    (by rw [Option.mem_def, List.getLast?_eq_some_getLast nonempty])
  have clash := lasts unit last
  rw [blank same space] at clash
  exact Bool.noConfusion clash

end DarkmeshGateway.Foundation.Document
