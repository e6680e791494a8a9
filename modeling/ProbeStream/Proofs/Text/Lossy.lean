import Mathlib.Algebra.Group.Nat.Defs
import ProbeStream.Text.Utf8

/-!
# ASCII in lossy text

Lossy decoding keeps every ASCII byte as a character, and it makes no ASCII character of anything
else (`mem_decodeLossy_iff`). So a NUL stands in the text exactly if there is a zero byte.

This is so for two reasons. The bytes that a unit takes behind its first one are not ASCII
(`exists_unit_append`), so a broken unit hides none. And the number of a character of several bytes
is beyond ASCII and within the code points (`Lead.IsSound`): a number that is none would be read as
that of a NUL.
-/

namespace ProbeStream.Utf8

/-! ## The numbers of a lead -/

/-- The least number of a character with this lead. -/
def Lead.least (lead : Lead) : Nat :=
  (lead.bits * 64 + (lead.low.toNat - 0x80)) * 64 ^ lead.more

/-- The first number behind those of the characters with this lead. -/
def Lead.bound (lead : Lead) : Nat :=
  (lead.bits * 64 + (lead.high.toNat - 0x80) + 1) * 64 ^ lead.more

/-- The second byte is not ASCII, and neither is a character; the numbers are those of code points,
all below the surrogates or all behind them. -/
structure Lead.IsSound (lead : Lead) : Prop where
  low : 0x80 ≤ lead.low
  least : 0x80 ≤ lead.least
  codePoints : lead.bound ≤ 0xD800 ∨ 0xE000 ≤ lead.least ∧ lead.bound ≤ 0x110000

instance (lead : Lead) : Decidable lead.IsSound :=
  decidable_of_iff (0x80 ≤ lead.low ∧ 0x80 ≤ lead.least ∧
      (lead.bound ≤ 0xD800 ∨ 0xE000 ≤ lead.least ∧ lead.bound ≤ 0x110000))
    ⟨fun ⟨low, least, codePoints⟩ => ⟨low, least, codePoints⟩,
      fun sound => ⟨sound.low, sound.least, sound.codePoints⟩⟩

theorem isSound_lead? {first : UInt8} {lead : Lead} (found : lead? first = some lead) :
    lead.IsSound := by
  have all : ∀ number < 256, ∀ lead ∈ lead? (UInt8.ofNat number), lead.IsSound := by
    decide +kernel
  refine all first.toNat first.toNat_lt lead ?_
  rw [UInt8.ofNat_toNat]
  exact found

/-! ## What a unit takes -/

/-- The bytes that continue a character are not ASCII. -/
theorem exists_continuations_append (count value : Nat) (bytes : Bytes) :
    ∃ taken, bytes = taken ++ (continuations count value bytes).2 ∧
      ∀ byte ∈ taken, 0x80 ≤ byte := by
  induction bytes generalizing count value with
  | nil => cases count <;> exact ⟨[], rfl, by simp⟩
  | cons b rest ih =>
    cases count with
    | zero => exact ⟨[], rfl, by simp⟩
    | succ count =>
      rw [continuations]
      split
      · next continues =>
        obtain ⟨taken, same, large⟩ := ih count (value * 64 + (b.toNat - 0x80))
        refine ⟨b :: taken, congrArg (b :: ·) same, List.forall_mem_cons.mpr ⟨?_, large⟩⟩
        simp only [isContinuation, Bool.and_eq_true, decide_eq_true_eq] at continues
        exact continues.1
      · exact ⟨[], rfl, by simp⟩

/-- The bytes that a unit takes behind its first one are not ASCII. -/
theorem exists_unit_append (first : UInt8) (rest : Bytes) :
    ∃ taken, rest = taken ++ (unit first rest).2 ∧ ∀ byte ∈ taken, 0x80 ≤ byte := by
  unfold unit
  split
  · exact ⟨[], rfl, by simp⟩
  split
  · next lead second more found =>
    split
    · next within =>
      obtain ⟨taken, same, large⟩ := exists_continuations_append lead.more
        (lead.bits * 64 + (second.toNat - 0x80)) more
      refine ⟨second :: taken, congrArg (second :: ·) same, List.forall_mem_cons.mpr ⟨?_, large⟩⟩
      exact UInt8.le_trans (isSound_lead? found).low within.1
    · exact ⟨[], rfl, by simp⟩
  · exact ⟨[], rfl, by simp⟩

/-! ## The number of a character -/

theorem bounds_of_continuations {count value number : Nat} {bytes : Bytes}
    (found : (continuations count value bytes).1 = some number) :
    value * 64 ^ count ≤ number ∧ number < (value + 1) * 64 ^ count := by
  induction bytes generalizing count value with
  | nil =>
    cases count with
    | zero =>
      obtain rfl : value = number := Option.some.inj found
      simp
    | succ count => cases found
  | cons b rest ih =>
    cases count with
    | zero =>
      obtain rfl : value = number := Option.some.inj found
      simp
    | succ count =>
      rw [continuations] at found
      split at found
      · next continues =>
        obtain ⟨least, bound⟩ := ih found
        have small : b.toNat - 0x80 < 64 := by
          simp only [isContinuation, Bool.and_eq_true, decide_eq_true_eq,
            UInt8.le_iff_toNat_le] at continues
          have most : b.toNat ≤ 191 := continues.2
          omega
        rw [Nat.pow_succ']
        constructor
        · calc value * (64 * 64 ^ count)
            _ = value * 64 * 64 ^ count := (Nat.mul_assoc ..).symm
            _ ≤ (value * 64 + (b.toNat - 0x80)) * 64 ^ count :=
              Nat.mul_le_mul_right _ (Nat.le_add_right ..)
            _ ≤ number := least
        · calc number
            _ < (value * 64 + (b.toNat - 0x80) + 1) * 64 ^ count := bound
            _ ≤ (value + 1) * 64 * 64 ^ count := Nat.mul_le_mul_right _ (by omega)
            _ = (value + 1) * (64 * 64 ^ count) := Nat.mul_assoc ..
      · cases found

theorem toNat_charOfNat {number : Nat} (valid : number.isValidChar) :
    (Char.ofNat number).toNat = number := by
  rw [Char.ofNat, dif_pos valid]
  rfl

/-- A number between the bounds of a lead is that of a character beyond ASCII. -/
theorem Lead.IsSound.le_toNat {lead : Lead} (sound : lead.IsSound) {number : Nat}
    (least : lead.least ≤ number) (bound : number < lead.bound) :
    0x80 ≤ (Char.ofNat number).toNat := by
  have valid : number.isValidChar := by
    rcases sound.codePoints with below | ⟨behind, within⟩
    · exact .inl (by omega)
    · exact .inr ⟨by omega, by omega⟩
  rw [toNat_charOfNat valid]
  exact Nat.le_trans sound.least least

/-- A unit that begins with no ASCII byte is broken or a character beyond ASCII. -/
theorem le_toNat_of_unit {first : UInt8} {rest : Bytes} {c : Char} (large : ¬ first < 0x80)
    (found : (unit first rest).1 = some c) : 0x80 ≤ c.toNat := by
  unfold unit at found
  rw [if_neg large] at found
  split at found
  · next lead second more isLead =>
    split at found
    · next within =>
      obtain ⟨number, completed, rfl⟩ := Option.map_eq_some_iff.mp found
      obtain ⟨least, bound⟩ := bounds_of_continuations completed
      have low := UInt8.le_iff_toNat_le.mp within.1
      have high := UInt8.le_iff_toNat_le.mp within.2
      refine (isSound_lead? isLead).le_toNat (Nat.le_trans ?_ least)
        (Nat.lt_of_lt_of_le bound ?_)
      · exact Nat.mul_le_mul_right _ (by omega)
      · exact Nat.mul_le_mul_right _ (by omega)
    · cases found
  · cases found

/-! ## The characters of a lossy text -/

/-- Of all units only an ASCII byte on its own stands for an ASCII character. -/
theorem eq_unit_iff {c : Char} (ascii : c.toNat < 0x80) (first : UInt8) (rest : Bytes) :
    c = (unit first rest).1.getD replacement ↔ UInt8.ofNat c.toNat = first := by
  have byte : (UInt8.ofNat c.toNat).toNat = c.toNat := by
    rw [UInt8.toNat_ofNat']
    omega
  by_cases small : first < 0x80
  · have valid : first.toNat.isValidChar := .inl (by have := first.toNat_lt; omega)
    unfold unit
    rw [if_pos small, Option.getD_some]
    constructor
    · rintro rfl
      rw [toNat_charOfNat valid, UInt8.ofNat_toNat]
    · rintro rfl
      rw [byte, Char.ofNat_toNat]
  · constructor
    · intro same
      cases found : (unit first rest).1 with
      | none =>
        rw [same, found] at ascii
        exact absurd ascii (by decide)
      | some d =>
        rw [found, Option.getD_some] at same
        exact absurd (le_toNat_of_unit small found) (by rw [← same]; omega)
    · rintro rfl
      rw [UInt8.lt_iff_toNat_lt, byte] at small
      exact absurd ascii small

/-- An ASCII character stands in a lossy text exactly if its byte stands in the bytes. -/
theorem mem_decodeLossy_iff {c : Char} (ascii : c.toNat < 0x80) {bytes : Bytes} :
    c ∈ (decodeLossy bytes).toList ↔ UInt8.ofNat c.toNat ∈ bytes := by
  rw [decodeLossy, String.toList_ofList]
  induction bytes using units.induct with
  | case1 => simp [units]
  | case2 first rest ih =>
    obtain ⟨taken, same, large⟩ := exists_unit_append first rest
    have outside : UInt8.ofNat c.toNat ∉ taken := by
      intro inside
      have large := UInt8.le_iff_toNat_le.mp (large _ inside)
      rw [UInt8.toNat_ofNat'] at large
      change 128 ≤ _ at large
      omega
    have behind : UInt8.ofNat c.toNat ∈ rest ↔ UInt8.ofNat c.toNat ∈ (unit first rest).2 := calc
      _ ↔ UInt8.ofNat c.toNat ∈ taken ++ (unit first rest).2 := by rw [← same]
      _ ↔ _ := List.mem_append.trans (or_iff_right outside)
    rw [units, List.map_cons, List.mem_cons, List.mem_cons, eq_unit_iff ascii, ih, behind]

/-- Bytes without a zero byte are decoded without a NUL. -/
theorem nul_notMem_decodeLossy {bytes : Bytes} (noZero : 0 ∉ bytes) :
    '\x00' ∉ (decodeLossy bytes).toList :=
  fun present => noZero ((mem_decodeLossy_iff (by decide)).mp present)

end ProbeStream.Utf8
