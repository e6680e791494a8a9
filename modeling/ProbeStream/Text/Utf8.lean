import ProbeStream.Bytes

/-!
# UTF-8

Bytes are cut into *units*. A unit is either a whole encoded character or a maximal run of
bytes that begins like one and then breaks off:

- a byte that can begin no character is a unit of its own;
- a byte that begins a character takes with it the bytes that can still follow, and the unit
  ends in front of the first byte that cannot.

Strict decoding refuses a broken unit. Lossy decoding puts one replacement character in the
place of each.

Every unit takes at least one byte, so the cutting ends (`Utf8.length_unit_le`).
-/

namespace ProbeStream.Utf8

/-- The character that stands for bytes that encode none. -/
def replacement : Char := '\uFFFD'

/-- What may follow the first byte of a character of more than one byte. -/
structure Lead where
  /-- The bits that the first byte contributes. -/
  bits : Nat
  /-- The least value of the second byte. -/
  low : UInt8
  /-- The greatest value of the second byte. -/
  high : UInt8
  /-- How many bytes follow the second one. -/
  more : Nat
deriving DecidableEq, Repr

/-- The bounds on the second byte keep out overlong forms, surrogates and numbers beyond the
last code point. -/
def lead? (first : UInt8) : Option Lead :=
  if 0xC2 ≤ first ∧ first ≤ 0xDF then some ⟨first.toNat - 0xC0, 0x80, 0xBF, 0⟩
  else if first = 0xE0 then some ⟨0, 0xA0, 0xBF, 1⟩
  else if first = 0xED then some ⟨0xD, 0x80, 0x9F, 1⟩
  else if 0xE1 ≤ first ∧ first ≤ 0xEF then some ⟨first.toNat - 0xE0, 0x80, 0xBF, 1⟩
  else if first = 0xF0 then some ⟨0, 0x90, 0xBF, 2⟩
  else if first = 0xF4 then some ⟨4, 0x80, 0x8F, 2⟩
  else if 0xF1 ≤ first ∧ first ≤ 0xF3 then some ⟨first.toNat - 0xF0, 0x80, 0xBF, 2⟩
  else none

/-- Whether a byte continues a character. -/
def isContinuation (byte : UInt8) : Bool :=
  0x80 ≤ byte && byte ≤ 0xBF

/-- Takes `count` further continuation bytes onto `value`. Gives the number they complete, if
they are all there, and the bytes behind the unit. -/
def continuations : (count value : Nat) → Bytes → Option Nat × Bytes
  | 0, value, rest => (some value, rest)
  | _ + 1, _, [] => (none, [])
  | count + 1, value, b :: rest =>
    if isContinuation b then continuations count (value * 64 + (b.toNat - 0x80)) rest
    else (none, b :: rest)

/-- The unit that begins with `first`: its character, unless it is broken, and the bytes
behind it. -/
def unit (first : UInt8) (rest : Bytes) : Option Char × Bytes :=
  if first < 0x80 then (some (Char.ofNat first.toNat), rest)
  else match lead? first, rest with
    | some lead, second :: more =>
      if lead.low ≤ second ∧ second ≤ lead.high then
        let found := continuations lead.more (lead.bits * 64 + (second.toNat - 0x80)) more
        (found.1.map Char.ofNat, found.2)
      else (none, rest)
    | _, _ => (none, rest)

theorem length_continuations_le (count value : Nat) (bytes : Bytes) :
    (continuations count value bytes).2.length ≤ bytes.length := by
  induction bytes generalizing count value with
  | nil => cases count <;> simp [continuations]
  | cons b rest ih =>
    cases count with
    | zero => simp [continuations]
    | succ count =>
      simp only [continuations]
      split
      · exact Nat.le_succ_of_le (ih _ _)
      · exact Nat.le_refl _

theorem length_unit_le (first : UInt8) (rest : Bytes) :
    (unit first rest).2.length ≤ rest.length := by
  unfold unit
  split
  · exact Nat.le_refl _
  · split
    · split
      · exact Nat.le_succ_of_le (length_continuations_le _ _ _)
      · exact Nat.le_refl _
    · exact Nat.le_refl _

/-- The units of some bytes in order; a broken unit is `none`. -/
def units : Bytes → List (Option Char)
  | [] => []
  | first :: rest => (unit first rest).1 :: units (unit first rest).2
termination_by bytes => bytes.length
decreasing_by exact Nat.lt_succ_of_le (length_unit_le first rest)

/-- The text of some bytes, with a replacement character for each broken unit. -/
def decodeLossy (bytes : Bytes) : String :=
  String.ofList ((units bytes).map (·.getD replacement))

/-- The text of some bytes, if no unit is broken. -/
def decode? (bytes : Bytes) : Option String :=
  ((units bytes).mapM id).map String.ofList

def encode (text : String) : Bytes :=
  text.toList.flatMap String.utf8EncodeChar

/-- How many bytes a text takes. -/
def size (text : String) : Nat := (encode text).length

end ProbeStream.Utf8
