import Mathlib.Logic.Function.Basic

/-!
# Digits and separators

What written numbers need to be told apart when they stand in one text. A number is given by its
digits (`numberOf_toDigits`), a sign that is no digit does not stand among them
(`notMem_toDigits`), and where a separator stands for the first time the text falls into two parts
in one way only (`append_cons_inj`).
-/

namespace ProbeStream.Text

/-! ## Digits -/

/-- What a digit of a base up to sixteen stands for. -/
def digitValue (c : Char) : Nat :=
  if c ≤ '9' then c.toNat - '0'.toNat
  else if c ≤ 'F' then c.toNat - 'A'.toNat + 10
  else c.toNat - 'a'.toNat + 10

/-- The number that is written by some digits. -/
def numberOf (base : Nat) (digits : List Char) : Nat :=
  digits.foldl (fun number c => base * number + digitValue c) 0

theorem digitValue_digitChar : ∀ digit < 16, digitValue (Nat.digitChar digit) = digit := by decide

theorem numberOf_concat (base : Nat) (digits : List Char) (c : Char) :
    numberOf base (digits ++ [c]) = base * numberOf base digits + digitValue c := by
  unfold numberOf
  rw [List.foldl_append]
  rfl

section

variable {base : Nat} (least : 1 < base) (most : base ≤ 16)

include least most

/-- A number is read from its digits as it was written. -/
theorem numberOf_toDigits (number : Nat) : numberOf base (Nat.toDigits base number) = number := by
  induction number using Nat.strongRecOn with
  | _ number ih =>
    rcases Nat.lt_or_ge number base with small | large
    · rw [Nat.toDigits_of_lt_base small]
      show base * 0 + digitValue number.digitChar = number
      rw [Nat.mul_zero, Nat.zero_add, digitValue_digitChar number (Nat.lt_of_lt_of_le small most)]
    · have digit : number % base < 16 := Nat.lt_of_lt_of_le (Nat.mod_lt number (by omega)) most
      have smaller : number / base < number := Nat.div_lt_self (by omega) least
      rw [Nat.toDigits_of_base_le least large, numberOf_concat, ih _ smaller,
        digitValue_digitChar _ digit]
      exact Nat.div_add_mod number base

theorem toDigits_injective : Function.Injective (Nat.toDigits base) := fun first second same => by
  rw [← numberOf_toDigits least most first, same, numberOf_toDigits least most]

end

theorem toList_toString (number : Nat) : (toString number).toList = Nat.toDigits 10 number := by
  rw [Nat.toString_eq_ofList_toDigits, String.toList_ofList]

/-- A sign that is no digit of any base. The star stands for digits that have no sign. -/
def IsNoDigit (c : Char) : Prop := c ∉ "0123456789abcdef*".toList

instance (c : Char) : Decidable (IsNoDigit c) :=
  inferInstanceAs (Decidable (¬ c ∈ "0123456789abcdef*".toList))

theorem IsNoDigit.digitChar_ne {c : Char} (other : IsNoDigit c) (digit : Nat) :
    Nat.digitChar digit ≠ c := by
  refine Nat.digitChar_ne c ?_
  simpa [IsNoDigit, and_assoc] using other

/-- A sign that is no digit does not stand in a number, whatever its base. -/
theorem notMem_toDigits {c : Char} (other : IsNoDigit c) (base number : Nat) :
    c ∉ Nat.toDigits base number := by
  have digits (fuel number : Nat) (after : List Char) (absent : c ∉ after) :
      c ∉ Nat.toDigitsCore base fuel number after := by
    induction fuel generalizing number after with
    | zero => exact absent
    | succ fuel ih =>
      have more : c ∉ Nat.digitChar (number % base) :: after :=
        List.not_mem_cons_of_ne_of_not_mem (other.digitChar_ne _).symm absent
      rw [Nat.toDigitsCore]
      split
      · exact more
      · exact ih _ _ more
  exact digits _ _ _ List.not_mem_nil

/-! ## Separators -/

variable {α : Type} {separator : α} {front other rest more : List α}

/-- A text falls into two parts at the first of its separators, in one way only. -/
theorem append_cons_inj (absent : separator ∉ front) (alsoAbsent : separator ∉ other) :
    front ++ separator :: rest = other ++ separator :: more ↔ front = other ∧ rest = more := by
  constructor
  · intro same
    induction front generalizing other with
    | nil =>
      cases other with
      | nil => exact ⟨rfl, (List.cons.inj same).2⟩
      | cons head tail => exact absurd ((List.cons.inj same).1 ▸ List.mem_cons_self) alsoAbsent
    | cons first tail ih =>
      cases other with
      | nil => exact absurd ((List.cons.inj same).1 ▸ List.mem_cons_self) absent
      | cons head others =>
        obtain ⟨rfl, later⟩ := List.cons.inj same
        obtain ⟨rfl, rfl⟩ := ih (fun inside => absent (.tail _ inside))
          (fun inside => alsoAbsent (.tail _ inside)) later
        exact ⟨rfl, rfl⟩
  · rintro ⟨rfl, rfl⟩
    rfl

/-- A number ends where a sign stands that is no digit. -/
theorem toDigits_cons_inj {c : Char} (other : IsNoDigit c) {base : Nat} (least : 1 < base)
    (most : base ≤ 16) {first second : Nat} {rest more : List Char} :
    Nat.toDigits base first ++ c :: rest = Nat.toDigits base second ++ c :: more ↔
      first = second ∧ rest = more := by
  rw [append_cons_inj (notMem_toDigits other base first) (notMem_toDigits other base second),
    (toDigits_injective least most).eq_iff]

/-- Parts with separators between them can be told apart if no part has one. -/
theorem intercalate_inj [DecidableEq α] {parts others : List (List α)} (filled : parts ≠ [])
    (alsoFilled : others ≠ []) (absent : ∀ part ∈ parts, separator ∉ part)
    (alsoAbsent : ∀ part ∈ others, separator ∉ part)
    (same : [separator].intercalate parts = [separator].intercalate others) : parts = others := by
  rw [← List.splitOn_intercalate separator absent filled, same,
    List.splitOn_intercalate separator alsoAbsent alsoFilled]

/-- Parts that follow other parts stand behind one more separator. -/
theorem intercalate_append (separator : α) {parts others : List (List α)} (filled : parts ≠ [])
    (alsoFilled : others ≠ []) : [separator].intercalate (parts ++ others) =
      [separator].intercalate parts ++ separator :: [separator].intercalate others := by
  induction parts with
  | nil => exact absurd rfl filled
  | cons part rest ih =>
    have behind : rest ++ others ≠ [] := List.append_ne_nil_of_right_ne_nil rest alsoFilled
    rw [List.cons_append, List.intercalate_cons_of_ne_nil behind]
    cases rest with
    | nil =>
      rw [List.intercalate_singleton, List.nil_append, List.append_assoc, List.singleton_append]
    | cons next more =>
      rw [ih (List.cons_ne_nil _ _), List.intercalate_cons_cons, List.append_assoc,
        List.append_assoc, List.append_assoc]

/-- A sign stands between parts only if it does in the separator or in a part. -/
theorem notMem_intercalate {c : Char} {between : String} (absent : c ∉ between.toList)
    {parts : List String} (absentIn : ∀ part ∈ parts, c ∉ part.toList) :
    c ∉ (between.intercalate parts).toList := by
  rw [String.toList_intercalate]
  induction parts with
  | nil => exact List.not_mem_nil
  | cons part rest ih =>
    obtain ⟨first, others⟩ := List.forall_mem_cons.mp absentIn
    cases rest with
    | nil => exact List.intercalate_singleton ▸ first
    | cons next more =>
      rw [List.map_cons, List.map_cons, List.intercalate_cons_cons, List.mem_append,
        List.mem_append, not_or, not_or]
      exact ⟨⟨first, absent⟩, ih others⟩

end ProbeStream.Text
