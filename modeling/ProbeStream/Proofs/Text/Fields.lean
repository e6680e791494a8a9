import Mathlib.Data.List.Basic
import Mathlib.Data.List.TakeWhile
import ProbeStream.Proofs.Text.Digits
import ProbeStream.Text.Blank
import ProbeStream.Text.Decimal
import ProbeStream.Text.Digit
import ProbeStream.Text.Fields

/-!
# Pieces of a text

Cutting a text at a separator and putting the pieces together again undo each other
(`intercalate_fields`, `fields_intercalate`), and trimming takes away white space at both ends and
nothing else (`exists_trim`, `trim_of_blank`). A number is read from ASCII digits, as
many as there are, if it is not too large (`readDigits?_eq_some_iff`), and so from the digits that
it is written with (`numberOf_toDigits`).
-/

namespace ProbeStream.Text

/-! ## Separators -/

theorem fields_eq_splitOn (separator : Char) (text : List Char) :
    fields separator text = text.splitOn separator := by
  induction text with
  | nil => rfl
  | cons c rest ih =>
    rw [fields, List.splitOn, List.splitOnP_cons_eq_if_modifyHead, ih]
    by_cases same : c = separator
    · rw [if_pos same, if_pos (by simpa using same)]
      rfl
    · rw [if_neg same, if_neg (by simpa using same), List.splitOn]
      cases split : rest.splitOnP (· == separator) with
      | nil => exact absurd split (List.splitOnP_ne_nil _ _)
      | cons first others => rfl

theorem intercalate_fields (separator : Char) (text : List Char) :
    [separator].intercalate (fields separator text) = text := by
  rw [fields_eq_splitOn, List.intercalate_splitOn]

theorem fields_intercalate {separator : Char} {parts : List (List Char)}
    (absent : ∀ part ∈ parts, separator ∉ part) (filled : parts ≠ []) :
    fields separator ([separator].intercalate parts) = parts := by
  rw [fields_eq_splitOn, List.splitOn_intercalate separator absent filled]

/-- Empty pieces are found as well, but there is one even if nothing was put together. -/
theorem filter_fields_intercalate {separator : Char} {parts : List (List Char)}
    (absent : ∀ part ∈ parts, separator ∉ part) :
    (fields separator ([separator].intercalate parts)).filter (· ≠ []) =
      parts.filter (· ≠ []) := by
  cases parts with
  | nil => rfl
  | cons first others => rw [fields_intercalate absent (List.cons_ne_nil _ _)]

theorem mem_of_mem_intercalate {separator c : Char} {parts : List (List Char)}
    (inside : c ∈ [separator].intercalate parts) : c = separator ∨ ∃ part ∈ parts, c ∈ part := by
  induction parts with
  | nil => cases inside
  | cons part others ih =>
    cases others with
    | nil =>
      rw [List.intercalate_singleton] at inside
      exact .inr ⟨part, List.mem_singleton_self part, inside⟩
    | cons next more =>
      rw [List.intercalate_cons_cons, List.mem_append, List.mem_append,
        List.mem_singleton] at inside
      rcases inside with (here | rfl) | later
      · exact .inr ⟨part, List.mem_cons_self, here⟩
      · exact .inl rfl
      · exact (ih later).imp_right fun ⟨other, member, there⟩ => ⟨other, .tail _ member, there⟩

/-! ## White space -/

/-- What is taken away stands at the ends and is white space. -/
theorem exists_trim (text : List Char) : ∃ before after, text = before ++ trim text ++ after ∧
    (∀ c ∈ before, isBlank c) ∧ ∀ c ∈ after, isBlank c := by
  have front := List.takeWhile_append_dropWhile (p := isBlank) (l := text)
  generalize rest : text.dropWhile isBlank = behind at front
  have back := List.takeWhile_append_dropWhile (p := isBlank) (l := behind.reverse)
  refine ⟨text.takeWhile isBlank, (behind.reverse.takeWhile isBlank).reverse, ?_,
    fun c => List.mem_takeWhile_imp, fun c inside => List.mem_takeWhile_imp (by simpa using inside)⟩
  rw [trim, rest, List.append_assoc, ← List.reverse_append, back, List.reverse_reverse, front]

/-- White space at both ends is taken away up to where none is left. -/
theorem trim_of_blank {before core after : List Char} (leading : ∀ c ∈ before, isBlank c)
    (trailing : ∀ c ∈ after, isBlank c) (solid : ∀ c ∈ core, ¬ isBlank c) :
    trim (before ++ core ++ after) = core := by
  rw [trim, List.append_assoc, List.dropWhile_append_of_pos leading]
  cases core with
  | nil =>
    rw [List.nil_append, List.dropWhile_eq_nil_iff.mpr trailing]
    rfl
  | cons first others =>
    have firstSolid : ¬ isBlank first := solid first List.mem_cons_self
    rw [List.cons_append, List.dropWhile_cons_of_neg firstSolid, ← List.cons_append,
      List.reverse_append, List.dropWhile_append_of_pos (by simpa using trailing),
      List.dropWhile_eq_self_iff.mpr, List.reverse_reverse]
    intro filled
    exact solid _ (List.mem_reverse.mp (List.getElem_mem filled))

/-! ## Numbers -/

theorem isDigit_iff {c : Char} : Decimal.isDigit c ↔ '0' ≤ c ∧ c ≤ '9' := by
  simp [Decimal.isDigit]

theorem isDigit_of_mem_toDigits {number : Nat} {c : Char} (inside : c ∈ Nat.toDigits 10 number) :
    Decimal.isDigit c := by
  have digit : c.isDigit = true := Nat.isDigit_of_mem_toDigits (by decide) (by decide) inside
  simpa [Char.isDigit, Decimal.isDigit, Char.le_def] using digit

theorem isDecimalDigit_of_isDigit {c : Char} (digit : Decimal.isDigit c) : isDecimalDigit c := by
  obtain ⟨least, most⟩ := isDigit_iff.mp digit
  exact inRanges_iff.mpr ⟨(0x30, 0x39), by decide, least, most⟩

theorem value_eq_numberOf {digits : List Char} (ascii : ∀ c ∈ digits, Decimal.isDigit c) :
    Decimal.value digits = numberOf 10 digits := by
  refine List.foldl_ext _ _ 0 fun number c inside => ?_
  rw [digitValue, if_pos (isDigit_iff.mp (ascii c inside)).2]

theorem readDigits?_eq_some_iff {bound number : Nat} {digits : List Char} :
    Decimal.readDigits? bound digits = some number ↔
      digits ≠ [] ∧ (∀ c ∈ digits, Decimal.isDigit c) ∧ numberOf 10 digits = number ∧
        number ≤ bound := by
  rw [Decimal.readDigits?]
  constructor
  · intro read
    split at read
    · next good =>
      obtain ⟨filled, ascii, small⟩ := good
      obtain rfl := Option.some.inj read
      have ascii : ∀ c ∈ digits, Decimal.isDigit c := List.all_eq_true.mp ascii
      exact ⟨filled, ascii, (value_eq_numberOf ascii).symm, small⟩
    · cases read
  · rintro ⟨filled, ascii, rfl, small⟩
    rw [value_eq_numberOf ascii, if_pos ⟨filled, List.all_eq_true.mpr ascii, small⟩]

end ProbeStream.Text
