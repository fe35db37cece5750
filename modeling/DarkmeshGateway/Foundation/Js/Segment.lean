import DarkmeshGateway.Foundation.Delimited
import DarkmeshGateway.Foundation.Js.Text

/-!
Contract: trimmed texts around a visible code unit and between separators.

Owns what trimming does to a text with white space around it, the trimmed parts
of a trimmed text, and the two halves of a text at the first separator.

Does not own any particular record format.
-/

namespace DarkmeshGateway.Foundation.Js

/-! ### Trimming -/

/-- White space only. -/
def Blank (text : JsString) : Prop := ∀ unit ∈ text, isWhitespace unit = true

theorem dropWhile_around {unit : CodeUnit} (visible : isWhitespace unit = false)
    (left right : JsString) :
    (left ++ unit :: right).dropWhile isWhitespace =
      left.dropWhile isWhitespace ++ unit :: right := by
  rw [List.dropWhile_append]
  split
  next empty => rw [List.isEmpty_iff.mp empty, List.dropWhile_cons_of_neg (by simp [visible])]; rfl
  next => rfl

theorem rdropWhile_around {unit : CodeUnit} (visible : isWhitespace unit = false)
    (left right : JsString) :
    (left ++ unit :: right).rdropWhile isWhitespace =
      left ++ unit :: right.rdropWhile isWhitespace := by
  rw [List.rdropWhile, List.reverse_append, List.reverse_cons, List.append_assoc,
    List.singleton_append, dropWhile_around visible, List.reverse_append, List.reverse_cons,
    List.reverse_reverse, List.append_assoc, List.singleton_append, List.rdropWhile]

/-- Trimming works on both sides of a visible unit. -/
theorem trim_around {unit : CodeUnit} (visible : isWhitespace unit = false)
    (left right : JsString) :
    trim (left ++ unit :: right) =
      left.dropWhile isWhitespace ++ unit :: right.rdropWhile isWhitespace := by
  rw [trim, dropWhile_around visible, rdropWhile_around visible]

theorem dropWhile_blank {text : JsString} (blank : Blank text) :
    text.dropWhile isWhitespace = [] := by
  rw [List.dropWhile_eq_nil_iff]
  exact blank

theorem trim_blank_append {front : JsString} (blank : Blank front) (text : JsString) :
    trim (front ++ text) = trim text := by
  rw [trim, List.dropWhile_append_of_pos blank, trim]

theorem trim_append_blank (text : JsString) {rear : JsString} (blank : Blank rear) :
    trim (text ++ rear) = trim text := by
  have reversed : Blank rear.reverse := fun unit member => blank unit (List.mem_reverse.mp member)
  rw [trim, List.dropWhile_append, trim]
  split
  next empty =>
    rw [dropWhile_blank blank, List.isEmpty_iff.mp empty]
  next =>
    rw [List.rdropWhile, List.reverse_append, List.dropWhile_append_of_pos reversed,
      List.rdropWhile]

theorem blank_takeWhile (text : JsString) : Blank (text.takeWhile isWhitespace) :=
  fun _ member => List.mem_takeWhile_imp member

theorem blank_rtakeWhile (text : JsString) : Blank (text.rtakeWhile isWhitespace) := by
  intro unit member
  exact List.mem_rtakeWhile_imp member

/-- A text is its trimmed text between two blanks. -/
theorem trim_between (text : JsString) :
    ∃ front rear, Blank front ∧ Blank rear ∧ text = front ++ (trim text ++ rear) := by
  refine ⟨_, _, blank_takeWhile text, blank_rtakeWhile (text.dropWhile isWhitespace), ?_⟩
  rw [trim, List.rdropWhile_append_rtakeWhile, List.takeWhile_append_dropWhile]

@[simp] theorem trim_dropWhile (text : JsString) :
    trim (text.dropWhile isWhitespace) = trim text := by
  have whole : text.takeWhile isWhitespace ++ text.dropWhile isWhitespace = text :=
    List.takeWhile_append_dropWhile
  conv_rhs => rw [← whole]
  rw [trim_blank_append (blank_takeWhile text)]

@[simp] theorem trim_rdropWhile (text : JsString) :
    trim (text.rdropWhile isWhitespace) = trim text := by
  have whole : text.rdropWhile isWhitespace ++ text.rtakeWhile isWhitespace = text :=
    List.rdropWhile_append_rtakeWhile ..
  conv_rhs => rw [← whole]
  rw [trim_append_blank _ (blank_rtakeWhile text)]

theorem trim_eq_nil_iff (text : JsString) : trim text = [] ↔ Blank text := by
  constructor
  · intro empty
    obtain ⟨front, rear, frontBlank, rearBlank, whole⟩ := trim_between text
    rw [empty, List.nil_append] at whole
    rw [whole]
    intro unit member
    exact (List.mem_append.mp member).elim (frontBlank unit) (rearBlank unit)
  · intro blank
    rw [trim, dropWhile_blank blank]
    rfl

theorem rdropWhile_eq_nil_iff (text : JsString) :
    text.rdropWhile isWhitespace = [] ↔ trim text = [] := by
  rw [List.rdropWhile_eq_nil_iff, trim_eq_nil_iff, Blank]

/-! ### Parts of a trimmed text -/

theorem splitOn_append_left {separator : CodeUnit} {front : JsString} (free : separator ∉ front)
    (text : JsString) :
    (front ++ text).splitOn separator = (text.splitOn separator).modifyHead (front ++ ·) := by
  induction front with
  | nil =>
      rw [List.nil_append]
      cases text.splitOn separator <;> rfl
  | cons first rest inductionHypothesis =>
      rw [List.mem_cons, not_or] at free
      have differs : ¬ (first == separator) = true := by simpa using Ne.symm free.1
      rw [List.cons_append, List.splitOn_cons_eq_if_modifyHead, if_neg differs,
        inductionHypothesis free.2]
      cases text.splitOn separator <;> rfl

theorem splitOn_append_right {separator : CodeUnit} {rear : JsString} (free : separator ∉ rear)
    (text : JsString) :
    ∃ before last, text.splitOn separator = before ++ [last] ∧
      (text ++ rear).splitOn separator = before ++ [last ++ rear] := by
  induction text with
  | nil => exact ⟨[], [], by simp, by simp [List.splitOn_eq_singleton free]⟩
  | cons first rest inductionHypothesis =>
      obtain ⟨before, last, parts, longer⟩ := inductionHypothesis
      rw [List.cons_append, List.splitOn_cons_eq_if_modifyHead, List.splitOn_cons_eq_if_modifyHead,
        parts, longer]
      by_cases stops : (first == separator) = true
      · rw [if_pos stops, if_pos stops]
        exact ⟨[] :: before, last, rfl, rfl⟩
      · rw [if_neg stops, if_neg stops]
        cases before with
        | nil => exact ⟨[], first :: last, rfl, rfl⟩
        | cons head tail => exact ⟨(first :: head) :: tail, last, rfl, rfl⟩

/-- Trimming a text first does not change its trimmed parts. -/
theorem map_trim_splitOn_trim {separator : CodeUnit} (visible : isWhitespace separator = false)
    (text : JsString) :
    ((trim text).splitOn separator).map trim = (text.splitOn separator).map trim := by
  have free {space : JsString} (blank : Blank space) : separator ∉ space := by
    intro member
    rw [blank separator member] at visible
    cases visible
  obtain ⟨front, rear, frontBlank, rearBlank, whole⟩ := trim_between text
  obtain ⟨before, last, parts, longer⟩ := splitOn_append_right (free rearBlank) (trim text)
  conv_rhs => rw [whole, splitOn_append_left (free frontBlank), longer]
  rw [parts]
  cases before with
  | nil => simp [trim_blank_append frontBlank, trim_append_blank _ rearBlank]
  | cons head tail => simp [trim_blank_append frontBlank, trim_append_blank _ rearBlank]

/-! ### Two halves -/

/-- The text before and after its first separator. -/
def halves (separator : CodeUnit) (text : JsString) : Option (JsString × JsString) :=
  if separator ∈ text then
    some (text.takeWhile (· ≠ separator), (text.dropWhile (· ≠ separator)).tail)
  else none

theorem halves_append {separator : CodeUnit} {left : JsString} (free : separator ∉ left)
    (right : JsString) : halves separator (left ++ separator :: right) = some (left, right) := by
  have kept : ∀ unit ∈ left, (decide (unit ≠ separator)) = true := by
    intro unit member
    rw [decide_eq_true_eq]
    rintro rfl
    exact free member
  rw [halves, if_pos (by simp), List.takeWhile_append_of_pos kept,
    List.dropWhile_append_of_pos kept]
  simp

theorem halves_eq_some_iff (separator : CodeUnit) (text left right : JsString) :
    halves separator text = some (left, right) ↔
      text = left ++ separator :: right ∧ separator ∉ left := by
  constructor
  · intro split
    unfold halves at split
    by_cases member : separator ∈ text
    · rw [if_pos member] at split
      obtain ⟨rfl, rfl⟩ := Prod.mk.inj (Option.some.inj split)
      obtain ⟨before, after, rfl, free⟩ := List.eq_append_cons_of_mem member
      have exact := halves_append free after
      rw [halves, if_pos member] at exact
      obtain ⟨left, right⟩ := Prod.mk.inj (Option.some.inj exact)
      rw [left, right]
      exact ⟨rfl, free⟩
    · rw [if_neg member] at split
      cases split
  · rintro ⟨rfl, free⟩
    exact halves_append free right

end DarkmeshGateway.Foundation.Js
