import DarkmeshGateway.Foundation.Js.Json

/-!
Contract: the places inside a JSON value.

Owns the steps that lead from a value to one inside it, and the keys that the
objects at the end of them have.

Does not own how a program writes a place down.
-/

namespace DarkmeshGateway.Foundation.Js.Json

/-- One step into a value. -/
inductive Step where
  | index (index : Nat)
  | key (key : JsString)

/-- `Reaches value steps inner`: the steps lead from the value to the inner one. -/
inductive Reaches : Json → List Step → Json → Prop
  | here (value : Json) : Reaches value [] value
  | element {elements : List Json} {index : Nat} {value inner : Json} {steps : List Step}
      (held : elements[index]? = some value) (below : Reaches value steps inner) :
      Reaches (.arr elements) (.index index :: steps) inner
  | field {fields : Fields} {key : JsString} {value inner : Json} {steps : List Step}
      (held : (key, value) ∈ fields) (below : Reaches value steps inner) :
      Reaches (.obj fields) (.key key :: steps) inner

/-- The steps lead to an object that has the key. -/
def KeyAt (value : Json) (steps : List Step) (key : JsString) : Prop :=
  ∃ fields child, Reaches value steps (.obj fields) ∧ (key, child) ∈ fields

/-- Only arrays and objects have keys in them. -/
theorem KeyAt.container {value : Json} {steps : List Step} {key : JsString}
    (found : KeyAt value steps key) :
    (∃ elements, value = .arr elements) ∨ ∃ fields, value = .obj fields := by
  obtain ⟨fields, child, reached, -⟩ := found
  cases reached with
  | here => exact .inr ⟨fields, rfl⟩
  | element => exact .inl ⟨_, rfl⟩
  | field => exact .inr ⟨_, rfl⟩

/-- A key of an array is a key of one of its elements. -/
theorem keyAt_arr_iff (elements : List Json) (steps : List Step) (key : JsString) :
    KeyAt (.arr elements) steps key ↔
      ∃ index value rest, elements[index]? = some value ∧ steps = .index index :: rest ∧
        KeyAt value rest key := by
  constructor
  · intro found
    obtain ⟨fields, child, reached, member⟩ := found
    cases reached with
    | element held below => exact ⟨_, _, _, held, rfl, fields, child, below, member⟩
  · intro found
    obtain ⟨index, value, rest, held, rfl, fields, child, below, member⟩ := found
    exact ⟨fields, child, .element held below, member⟩

/-- A key of an object is one of its own or one of a value that it holds. -/
theorem keyAt_obj_iff (fields : Fields) (steps : List Step) (key : JsString) :
    KeyAt (.obj fields) steps key ↔
      ∃ name value, (name, value) ∈ fields ∧
        ((steps = [] ∧ key = name) ∨
          ∃ rest, steps = .key name :: rest ∧ KeyAt value rest key) := by
  constructor
  · intro found
    obtain ⟨inner, child, reached, member⟩ := found
    cases reached with
    | here => exact ⟨key, child, member, .inl ⟨rfl, rfl⟩⟩
    | field held below => exact ⟨_, _, held, .inr ⟨_, rfl, inner, child, below, member⟩⟩
  · intro found
    obtain ⟨name, value, held, own | deeper⟩ := found
    · obtain ⟨rfl, rfl⟩ := own
      exact ⟨fields, value, .here _, held⟩
    · obtain ⟨rest, rfl, inner, child, below, member⟩ := deeper
      exact ⟨inner, child, .field held below, member⟩

end DarkmeshGateway.Foundation.Js.Json
