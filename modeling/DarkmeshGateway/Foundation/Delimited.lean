import Mathlib.Data.List.Basic
import Mathlib.Data.List.DropRight

/-!
Contract: texts assembled from fields with a one-symbol separator.

Owns the unique splitting of `field ++ separator :: rest` when the field is
free of the separator (from the left and from the right), its iteration over a
list of fields, and the parts of a text between its separators.

Does not own any particular alphabet or record format.
-/

namespace DarkmeshGateway.Foundation.Delimited

variable {α : Type*} {separator : α}

/-- A separator-free field is recovered from the left of its text. -/
theorem field_unique {left right restLeft restRight : List α}
    (leftFree : separator ∉ left) (rightFree : separator ∉ right)
    (same : left ++ separator :: restLeft = right ++ separator :: restRight) :
    left = right ∧ restLeft = restRight := by
  induction left generalizing right with
  | nil =>
      cases right with
      | nil => simpa using same
      | cons head tail =>
          have headEq : separator = head := by simpa using congrArg List.head? same
          exact absurd (by simp [headEq]) rightFree
  | cons head tail inductionHypothesis =>
      cases right with
      | nil =>
          have headEq : head = separator := by simpa using congrArg List.head? same
          exact absurd (by simp [headEq]) leftFree
      | cons other others =>
          simp only [List.cons_append, List.cons.injEq] at same
          obtain ⟨headEq, tailSame⟩ := same
          obtain ⟨tailEq, restEq⟩ := inductionHypothesis
            (fun member => leftFree (List.mem_cons_of_mem _ member))
            (fun member => rightFree (List.mem_cons_of_mem _ member)) tailSame
          exact ⟨by rw [headEq, tailEq], restEq⟩

/-- A separator-free field is recovered from the right of its text. -/
theorem last_field_unique {left right initLeft initRight : List α}
    (leftFree : separator ∉ left) (rightFree : separator ∉ right)
    (same : initLeft ++ separator :: left = initRight ++ separator :: right) :
    initLeft = initRight ∧ left = right := by
  have reversed : left.reverse ++ separator :: initLeft.reverse =
      right.reverse ++ separator :: initRight.reverse := by
    simpa using congrArg List.reverse same
  obtain ⟨fieldEq, initEq⟩ := field_unique (by simpa using leftFree)
    (by simpa using rightFree) reversed
  exact ⟨List.reverse_injective initEq, List.reverse_injective fieldEq⟩

/-- A symbol of a joined text lies in its left or in its right part. -/
theorem append_eq_append_cons {left right before after : List α}
    (same : left ++ right = before ++ separator :: after) :
    (∃ middle, left = before ++ separator :: middle ∧ after = middle ++ right) ∨
      ∃ middle, before = left ++ middle ∧ right = middle ++ separator :: after := by
  rcases List.append_eq_append_iff.mp same with ⟨middle, prior, rest⟩ | ⟨middle, prior, rest⟩
  · exact Or.inr ⟨middle, prior, rest⟩
  · cases middle with
    | nil => exact Or.inr ⟨[], by simpa using prior.symm, by simpa using rest.symm⟩
    | cons head tail =>
        obtain ⟨rfl, afterEq⟩ := List.cons.inj rest
        exact Or.inl ⟨tail, prior, afterEq⟩

/-- `fields` each followed by the separator, then `rest`. -/
def prefixed (separator : α) (fields : List (List α)) (rest : List α) : List α :=
  fields.foldr (fun field text => field ++ separator :: text) rest

@[simp] theorem prefixed_nil (rest : List α) : prefixed separator [] rest = rest := rfl

@[simp] theorem prefixed_cons (field : List α) (fields : List (List α)) (rest : List α) :
    prefixed separator (field :: fields) rest =
      field ++ separator :: prefixed separator fields rest := rfl

/-- Fields in front of a rest are recovered when each pair is equal or free of
the separator, whatever the rests contain. -/
theorem prefixed_injective {fieldsLeft fieldsRight : List (List α)} {restLeft restRight : List α}
    (separated : List.Forall₂
      (fun left right => left = right ∨ separator ∉ left ∧ separator ∉ right)
      fieldsLeft fieldsRight)
    (same : prefixed separator fieldsLeft restLeft = prefixed separator fieldsRight restRight) :
    fieldsLeft = fieldsRight ∧ restLeft = restRight := by
  induction separated with
  | nil => exact ⟨rfl, same⟩
  | @cons field other fields others fieldSeparated _ inductionHypothesis =>
      simp only [prefixed_cons] at same
      obtain ⟨rfl, restSame⟩ : field = other ∧ prefixed separator fields restLeft =
          prefixed separator others restRight := by
        rcases fieldSeparated with rfl | ⟨leftFree, rightFree⟩
        · exact ⟨rfl, (List.cons.inj (List.append_cancel_left same)).2⟩
        · exact field_unique leftFree rightFree same
      obtain ⟨fieldsEq, restEq⟩ := inductionHypothesis restSame
      exact ⟨by rw [fieldsEq], restEq⟩

/-! ### Splitting -/

/-- A symbol of a text is the separator or lies in a part. -/
theorem mem_splitOn [DecidableEq α] {item : α} {text : List α} (member : item ∈ text) :
    item = separator ∨ ∃ part ∈ text.splitOn separator, item ∈ part := by
  rw [List.splitOn_eq_splitOnP]
  induction text with
  | nil => simp at member
  | cons first rest inductionHypothesis =>
      rw [List.splitOnP_cons_eq_if_modifyHead]
      by_cases stops : first = separator
      · rcases List.mem_cons.mp member with rfl | later
        · exact Or.inl stops
        · rcases inductionHypothesis later with same | ⟨part, listed, inside⟩
          · exact Or.inl same
          · exact Or.inr ⟨part, by simp [stops, listed], inside⟩
      · rw [if_neg (by simpa using stops)]
        cases parts : rest.splitOnP (· == separator) with
        | nil => exact absurd parts (List.splitOnP_ne_nil _ _)
        | cons head tail =>
            rw [parts] at inductionHypothesis
            rw [List.modifyHead_cons]
            rcases List.mem_cons.mp member with rfl | later
            · exact Or.inr ⟨_, List.mem_cons_self, List.mem_cons_self⟩
            · rcases inductionHypothesis later with same | ⟨part, listed, inside⟩
              · exact Or.inl same
              · rcases List.mem_cons.mp listed with rfl | other
                · exact Or.inr ⟨_, List.mem_cons_self, List.mem_cons_of_mem _ inside⟩
                · exact Or.inr ⟨part, List.mem_cons_of_mem _ other, inside⟩

/-- A change of symbols that keeps the separator apart changes the parts. -/
theorem splitOn_map {β : Type*} [DecidableEq α] [DecidableEq β] {change : α → β} {text : List α}
    (reflects : ∀ item ∈ text, change item = change separator → item = separator) :
    (text.map change).splitOn (change separator) =
      (text.splitOn separator).map (List.map change) := by
  rw [List.splitOn_eq_splitOnP, List.splitOn_eq_splitOnP]
  induction text with
  | nil => rfl
  | cons first rest inductionHypothesis =>
      rw [List.forall_mem_cons] at reflects
      rw [List.map_cons, List.splitOnP_cons_eq_if_modifyHead, List.splitOnP_cons_eq_if_modifyHead,
        inductionHypothesis reflects.2]
      by_cases stops : first = separator
      · simp [stops]
      · have kept : change first ≠ change separator := fun same => stops (reflects.1 same)
        rw [if_neg (by simpa using kept), if_neg (by simpa using stops)]
        cases rest.splitOnP (· == separator) <;> simp

/-- A separator at the end leaves an empty part. -/
theorem nil_mem_splitOn [DecidableEq α] (separator : α) (text : List α) :
    [] ∈ (text ++ [separator]).splitOn separator := by
  rw [List.splitOn_eq_splitOnP, List.splitOnP_append_cons _ _ (by simp)]
  simp

/-- A part has no separator in it, and only symbols of the text. -/
theorem part_of_mem_splitOn [DecidableEq α] {text part : List α}
    (member : part ∈ text.splitOn separator) :
    ∀ item ∈ part, item ∈ text ∧ item ≠ separator := by
  induction text generalizing part with
  | nil =>
      obtain rfl : part = [] := by simpa using member
      intro item inside
      cases inside
  | cons first rest inductionHypothesis =>
      rw [List.splitOn_cons_eq_if_modifyHead] at member
      by_cases stops : first = separator
      · rw [if_pos (by simpa using stops)] at member
        rcases List.mem_cons.mp member with rfl | later
        · intro item inside
          cases inside
        · intro item inside
          have found := inductionHypothesis later item inside
          exact ⟨List.mem_cons_of_mem _ found.1, found.2⟩
      · rw [if_neg (by simpa using stops)] at member
        cases parts : rest.splitOn separator with
        | nil => exact absurd parts (List.splitOn_ne_nil _ _)
        | cons head tail =>
            rw [parts] at inductionHypothesis member
            rw [List.modifyHead_cons] at member
            intro item inside
            rcases List.mem_cons.mp member with rfl | later
            · rcases List.mem_cons.mp inside with rfl | deeper
              · exact ⟨List.mem_cons_self, stops⟩
              · have found := inductionHypothesis List.mem_cons_self item deeper
                exact ⟨List.mem_cons_of_mem _ found.1, found.2⟩
            · have found := inductionHypothesis (List.mem_cons_of_mem _ later) item inside
              exact ⟨List.mem_cons_of_mem _ found.1, found.2⟩

/-! ### Empty parts -/

/-- The first part is empty in a text that starts with the separator, or is empty. -/
theorem head_splitOn_eq_nil_iff [DecidableEq α] (separator : α) (text : List α) :
    (text.splitOn separator).head? = some [] ↔ text = [] ∨ text.head? = some separator := by
  cases text with
  | nil => simp
  | cons first rest =>
      rw [List.splitOn_cons_eq_if_modifyHead]
      by_cases stops : first = separator
      · simp [stops]
      · rw [if_neg (by simpa using stops)]
        cases parts : rest.splitOn separator with
        | nil => exact absurd parts (List.splitOn_ne_nil _ _)
        | cons head tail => simp [stops]

/-- A later part is empty after two separators in a row or one at the end. -/
theorem nil_mem_tail_splitOn_iff [DecidableEq α] (separator : α) (text : List α) :
    [] ∈ (text.splitOn separator).tail ↔
      text.getLast? = some separator ∨ [separator, separator] <:+: text := by
  induction text with
  | nil => simp
  | cons first rest inductionHypothesis =>
      have front := head_splitOn_eq_nil_iff separator rest
      rw [List.splitOn_cons_eq_if_modifyHead]
      cases parts : rest.splitOn separator with
      | nil => exact absurd parts (List.splitOn_ne_nil _ _)
      | cons head tail =>
          rw [parts] at inductionHypothesis front
          simp only [List.tail_cons] at inductionHypothesis
          simp only [List.head?_cons, Option.some.injEq] at front
          have pair : [separator, separator] <:+: first :: rest ↔
              (first = separator ∧ rest.head? = some separator) ∨
                [separator, separator] <:+: rest := by
            rw [List.infix_cons_iff, List.cons_prefix_cons]
            cases rest with
            | nil => simp
            | cons second others => simp [List.cons_prefix_cons, @eq_comm _ separator]
          by_cases stops : first = separator
          · rw [if_pos (by simpa using stops), List.tail_cons, List.mem_cons, inductionHypothesis,
              eq_comm, front, pair]
            cases rest with
            | nil => simp [stops]
            | cons second others => simp [stops, or_left_comm]
          · rw [if_neg (by simpa using stops), List.modifyHead_cons, List.tail_cons,
              inductionHypothesis, pair]
            cases rest with
            | nil => simp [stops]
            | cons second others => simp [stops]

/-- Where a text has an empty part. -/
theorem nil_mem_splitOn_iff [DecidableEq α] (text : List α) :
    [] ∈ text.splitOn separator ↔
      text = [] ∨ text.head? = some separator ∨ text.getLast? = some separator ∨
        [separator, separator] <:+: text := by
  have front := head_splitOn_eq_nil_iff separator text
  have later := nil_mem_tail_splitOn_iff separator text
  cases parts : text.splitOn separator with
  | nil => exact absurd parts (List.splitOn_ne_nil _ _)
  | cons head tail =>
      rw [parts] at front later
      simp only [List.head?_cons, Option.some.injEq] at front
      rw [List.mem_cons, eq_comm, front, or_assoc, ← later, List.tail_cons]

end DarkmeshGateway.Foundation.Delimited
