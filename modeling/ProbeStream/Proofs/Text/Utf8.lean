import ProbeStream.Text.Utf8

/-!
# Encoded text

Encoding a text and cutting the bytes into units gives its characters back, so a text that was
encoded is read as it was, by lossy decoding too (`decodeLossy_encode`). An ASCII byte stands in an
encoded text only if its character does in the text (`byte_notMem_encode`).
-/

namespace ProbeStream.Utf8

/-! ## The bytes of one character

The first byte of a character is a mark plus the upper bits of its number, and every other byte is
`0x80` plus six more bits.
-/

theorem lead?_ofTwo : ∀ bits < 32, 2 ≤ bits →
    lead? (UInt8.ofNat (bits + 192)) = some ⟨bits, 0x80, 0xBF, 0⟩ := by decide

theorem lead?_ofThree : ∀ bits < 16, lead? (UInt8.ofNat (bits + 224)) =
    some ⟨bits, if bits = 0 then 0xA0 else 0x80, if bits = 13 then 0x9F else 0xBF, 1⟩ := by decide

theorem lead?_ofFour : ∀ bits < 5, lead? (UInt8.ofNat (bits + 240)) =
    some ⟨bits, if bits = 0 then 0x90 else 0x80, if bits = 4 then 0x8F else 0xBF, 2⟩ := by decide

theorem toNat_follower {bits : Nat} (small : bits < 64) :
    (UInt8.ofNat (bits + 128)).toNat = bits + 128 := by
  rw [UInt8.toNat_ofNat']
  omega

theorem continuations_follower (count value : Nat) {bits : Nat} (small : bits < 64)
    (rest : Bytes) :
    continuations (count + 1) value (UInt8.ofNat (bits + 128) :: rest) =
      continuations count (value * 64 + bits) rest := by
  have continues : isContinuation (UInt8.ofNat (bits + 128)) := by
    rw [isContinuation, Bool.and_eq_true, decide_eq_true_eq, decide_eq_true_eq,
      UInt8.le_iff_toNat_le, UInt8.le_iff_toNat_le, toNat_follower small]
    exact ⟨Nat.le_add_left 128 bits, Nat.add_le_add_right (Nat.le_of_lt_succ small) 128⟩
  rw [continuations, if_pos continues, toNat_follower small, Nat.add_sub_cancel]

/-- A unit goes on behind its second byte if that byte is within the bounds of the first one. -/
theorem unit_follower {first : UInt8} {lead : Lead} (found : lead? first = some lead)
    (large : ¬ first < 0x80) {bits : Nat} (small : bits < 64)
    (low : lead.low.toNat ≤ bits + 128) (high : bits + 128 ≤ lead.high.toNat) (more : Bytes) :
    unit first (UInt8.ofNat (bits + 128) :: more) =
      ((continuations lead.more (lead.bits * 64 + bits) more).1.map Char.ofNat,
        (continuations lead.more (lead.bits * 64 + bits) more).2) := by
  have within : lead.low ≤ UInt8.ofNat (bits + 128) ∧ UInt8.ofNat (bits + 128) ≤ lead.high := by
    rw [UInt8.le_iff_toNat_le, UInt8.le_iff_toNat_le, toNat_follower small]
    exact ⟨low, high⟩
  unfold unit
  rw [if_neg large, found]
  dsimp only
  rw [if_pos within, toNat_follower small, Nat.add_sub_cancel]

theorem not_ascii {bits mark : Nat} (small : bits + mark < 256) (marked : 128 ≤ mark) :
    ¬ UInt8.ofNat (bits + mark) < 0x80 := by
  rw [UInt8.lt_iff_toNat_lt, UInt8.toNat_ofNat', Nat.mod_eq_of_lt small]
  exact Nat.not_lt.mpr (Nat.le_add_left_of_le marked)

section

variable {number : Nat} (rest : Bytes)

theorem unit_one (most : number ≤ 0x7F) :
    unit (UInt8.ofNat number) rest = (some (Char.ofNat number), rest) := by
  have byte : (UInt8.ofNat number).toNat = number := by
    rw [UInt8.toNat_ofNat']
    omega
  have small : UInt8.ofNat number < 0x80 := by
    rw [UInt8.lt_iff_toNat_lt, byte]
    exact Nat.lt_succ_of_le most
  unfold unit
  rw [if_pos small, byte]

theorem unit_two (least : 0x7F < number) (most : number ≤ 0x7FF) :
    unit (UInt8.ofNat (number / 64 % 32 + 192)) (UInt8.ofNat (number % 64 + 128) :: rest) =
      (some (Char.ofNat number), rest) := by
  have lead := lead?_ofTwo (number / 64 % 32) (by omega) (by omega)
  have high : number % 64 + 128 ≤ (0xBF : UInt8).toNat := by
    change _ ≤ 191
    omega
  rw [unit_follower lead (not_ascii (by omega) (by omega)) (by omega) (Nat.le_add_left 128 _) high,
    continuations, show number / 64 % 32 * 64 + number % 64 = number by omega, Option.map_some]

theorem unit_three (least : 0x7FF < number) (most : number ≤ 0xFFFF)
    (noSurrogate : number < 0xD800 ∨ 0xDFFF < number) :
    unit (UInt8.ofNat (number / 4096 % 16 + 224)) (UInt8.ofNat (number / 64 % 64 + 128) ::
        UInt8.ofNat (number % 64 + 128) :: rest) = (some (Char.ofNat number), rest) := by
  have lead := lead?_ofThree (number / 4096 % 16) (by omega)
  have low : (if number / 4096 % 16 = 0 then 0xA0 else 0x80 : UInt8).toNat ≤
      number / 64 % 64 + 128 := by
    split
    · change 160 ≤ _
      omega
    · exact Nat.le_add_left 128 _
  have high : number / 64 % 64 + 128 ≤
      (if number / 4096 % 16 = 13 then 0x9F else 0xBF : UInt8).toNat := by
    split
    · change _ ≤ 159
      omega
    · change _ ≤ 191
      omega
  rw [unit_follower lead (not_ascii (by omega) (by omega)) (by omega) low high,
    continuations_follower _ _ (by omega), continuations,
    show (number / 4096 % 16 * 64 + number / 64 % 64) * 64 + number % 64 = number by omega,
    Option.map_some]

theorem unit_four (least : 0xFFFF < number) (most : number < 0x110000) :
    unit (UInt8.ofNat (number / 262144 % 8 + 240)) (UInt8.ofNat (number / 4096 % 64 + 128) ::
        UInt8.ofNat (number / 64 % 64 + 128) :: UInt8.ofNat (number % 64 + 128) :: rest) =
      (some (Char.ofNat number), rest) := by
  have lead := lead?_ofFour (number / 262144 % 8) (by omega)
  have low : (if number / 262144 % 8 = 0 then 0x90 else 0x80 : UInt8).toNat ≤
      number / 4096 % 64 + 128 := by
    split
    · change 144 ≤ _
      omega
    · exact Nat.le_add_left 128 _
  have high : number / 4096 % 64 + 128 ≤
      (if number / 262144 % 8 = 4 then 0x8F else 0xBF : UInt8).toNat := by
    split
    · change _ ≤ 143
      omega
    · change _ ≤ 191
      omega
  rw [unit_follower lead (not_ascii (by omega) (by omega)) (by omega) low high,
    continuations_follower _ _ (by omega), continuations_follower _ _ (by omega), continuations,
    show ((number / 262144 % 8 * 64 + number / 4096 % 64) * 64 + number / 64 % 64) * 64 +
      number % 64 = number by omega, Option.map_some]

end

/-- The bytes of a character are one unit. -/
theorem units_encodeChar_append (c : Char) (rest : Bytes) :
    units (String.utf8EncodeChar c ++ rest) = some c :: units rest := by
  have isChar : Char.ofNat c.val.toNat = c := Char.ofNat_toNat c
  have valid : c.val.toNat < 0xD800 ∨ 0xDFFF < c.val.toNat ∧ c.val.toNat < 0x110000 := c.valid
  rw [String.utf8EncodeChar]
  generalize c.val.toNat = number at isChar valid ⊢
  by_cases one : number ≤ 0x7F
  · simp only [if_pos one, List.cons_append, List.nil_append]
    rw [units, unit_one rest one, isChar]
  by_cases two : number ≤ 0x7FF
  · simp only [if_neg one, if_pos two, List.cons_append, List.nil_append]
    rw [units, unit_two rest (by omega) two, isChar]
  by_cases three : number ≤ 0xFFFF
  · simp only [if_neg one, if_neg two, if_pos three, List.cons_append, List.nil_append]
    rw [units, unit_three rest (by omega) three (by omega), isChar]
  · simp only [if_neg one, if_neg two, if_neg three, List.cons_append, List.nil_append]
    rw [units, unit_four rest (by omega) (by omega), isChar]

/-! ## The bytes of a text -/

theorem units_encode (text : String) : units (encode text) = text.toList.map some := by
  rw [encode]
  induction text.toList with
  | nil => rw [List.flatMap_nil, units, List.map_nil]
  | cons c rest ih => rw [List.flatMap_cons, units_encodeChar_append, ih, List.map_cons]

/-- An encoded text is read as it was. -/
theorem decodeLossy_encode (text : String) : decodeLossy (encode text) = text := by
  rw [decodeLossy, units_encode, List.map_map]
  change String.ofList (text.toList.map id) = text
  rw [List.map_id, String.ofList_toList]

/-- No unit of an encoded text is broken. -/
theorem decode?_encode (text : String) : decode? (encode text) = some text := by
  have whole (chars : List Char) : (chars.map some).mapM id = some chars := by
    induction chars with
    | nil => rfl
    | cons c rest ih => rw [List.map_cons, List.mapM_cons, ih]; rfl
  rw [decode?, units_encode, whole, Option.map_some, String.ofList_toList]

/-- Texts are told apart by their bytes. -/
theorem encode_injective : Function.Injective encode :=
  Function.LeftInverse.injective decodeLossy_encode

theorem encode_eq_nil_iff {text : String} : encode text = [] ↔ text = "" := by
  constructor
  · intro empty
    rw [← decodeLossy_encode text, empty, decodeLossy, units]
    rfl
  · rintro rfl
    rfl

theorem encode_append (first second : String) :
    encode (first ++ second) = encode first ++ encode second := by
  rw [encode, String.toList_append, List.flatMap_append, encode, encode]

/-- An ASCII byte is a character of its own. -/
theorem eq_ofNat_of_mem_encodeChar {c : Char} {byte : UInt8} (ascii : byte < 0x80)
    (present : byte ∈ String.utf8EncodeChar c) : c = Char.ofNat byte.toNat := by
  have isChar : Char.ofNat c.val.toNat = c := Char.ofNat_toNat c
  have marked {bits mark : Nat} (small : bits + mark < 256) (large : 128 ≤ mark) :
      byte ≠ UInt8.ofNat (bits + mark) := by
    rintro rfl
    exact not_ascii small large ascii
  rw [String.utf8EncodeChar] at present
  generalize c.val.toNat = number at isChar present
  by_cases one : number ≤ 0x7F
  · simp only [if_pos one, List.mem_singleton] at present
    rw [present, UInt8.toNat_ofNat', Nat.mod_eq_of_lt (by omega), isChar]
  · simp only [if_neg one] at present
    refine absurd present ?_
    repeat' split
    all_goals
      simp only [List.mem_cons, List.not_mem_nil, or_false, not_or]
      and_intros
    all_goals exact marked (by omega) (by omega)

/-- An ASCII byte stands in an encoded text only if its character does in the text. -/
theorem byte_notMem_encode {text : String} {byte : UInt8} (ascii : byte < 0x80)
    (absent : Char.ofNat byte.toNat ∉ text.toList) : byte ∉ encode text := by
  rw [encode, List.mem_flatMap]
  rintro ⟨c, present, inside⟩
  exact absent (eq_ofNat_of_mem_encodeChar ascii inside ▸ present)

/-- Only a NUL has a zero byte. -/
theorem zero_notMem_encode {text : String} (noNul : Char.ofNat 0 ∉ text.toList) :
    (0 : UInt8) ∉ encode text := byte_notMem_encode (by decide) noNul

end ProbeStream.Utf8
