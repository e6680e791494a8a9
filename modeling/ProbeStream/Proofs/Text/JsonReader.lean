import Mathlib.Data.List.TakeDrop
import Mathlib.Data.List.TakeWhile
import ProbeStream.Proofs.Text.Digits
import ProbeStream.Text.Utf8

/-!
# Reading JSON

A reader of JSON texts as RFC 8259 describes them, for any text and any nesting. It knows nothing of
how events are written.

It works in two stages, and each stage takes one item after the other:

- `Scanner.step` takes a character and adds tokens: structural characters, strings, and words, which
  are the literal names and the numbers. Escapes are resolved here, two of them if they are a
  surrogate pair.
- `Reading.step` takes a token and builds the value; arrays and objects that are not closed yet
  stand on a stack.

A text is refused if a stage has no step to take or ends before a value is complete. Numbers are
kept exactly, as a whole number times a power of ten, and members of objects are kept in order.
-/

namespace ProbeStream.JsonText

open Text (numberOf)

inductive Value where
  | null
  | bool (value : Bool)
  /-- `whole` times ten to the power of `exponent`. -/
  | number (whole exponent : Int)
  | string (text : String)
  | array (items : List Value)
  | object (members : List (String × Value))

/-! ## Words -/

/-- The digits that a text begins with, at least one, and what follows. -/
def digits? (text : List Char) : Option (List Char × List Char) :=
  match text.span Char.isDigit with
  | ([], _) => none
  | found => some found

/-- The digits of a whole number, without zeros in front, and what follows. -/
def whole? (text : List Char) : Option (List Char × List Char) :=
  match digits? text with
  | some ('0' :: _ :: _, _) => none
  | found => found

/-- The digits behind a decimal point, if there is one, and what follows. -/
def fraction? : List Char → Option (List Char × List Char)
  | '.' :: rest => digits? rest
  | rest => some ([], rest)

/-- Whether a text begins with a minus sign, and what follows. -/
def minus : List Char → Bool × List Char
  | '-' :: rest => (true, rest)
  | rest => (false, rest)

def signed (negative : Bool) (size : Nat) : Int := if negative then -size else size

/-- The exponent of a number that has nothing behind it; none is zero. -/
def exponent? : List Char → Option Int
  | [] => some 0
  | letter :: rest =>
    if letter = 'e' ∨ letter = 'E' then
      let (negative, rest) := match rest with
        | '+' :: rest => (false, rest)
        | rest => minus rest
      match digits? rest with
      | some (digits, []) => some (signed negative (numberOf 10 digits))
      | _ => none
    else none

def number? (text : List Char) : Option Value := do
  let (whole, rest) ← whole? (minus text).2
  let (fraction, rest) ← fraction? rest
  let exponent ← exponent? rest
  let size := numberOf 10 (whole ++ fraction)
  return .number (signed (minus text).1 size) (exponent - fraction.length)

/-- The value of a word. -/
def word? (text : List Char) : Option Value :=
  if text = "null".toList then some .null
  else if text = "true".toList then some (.bool true)
  else if text = "false".toList then some (.bool false)
  else number? text

/-! ## Strings -/

/-- A piece of a string: a character, or half of a surrogate pair. -/
inductive Piece where
  | char (c : Char)
  | half (unit : Nat)
deriving DecidableEq

/-- The piece of an escaped unit of UTF-16. -/
def Piece.ofUnit (unit : Nat) : Piece :=
  if 0xD800 ≤ unit ∧ unit ≤ 0xDFFF then .half unit else .char (Char.ofNat unit)

/-- The characters of some pieces, if every half belongs to a pair. -/
def join? : List Piece → Option (List Char)
  | [] => some []
  | .char c :: rest => (join? rest).map (c :: ·)
  | .half high :: .half low :: rest =>
    if high < 0xDC00 ∧ 0xDC00 ≤ low then
      let c := Char.ofNat (0x10000 + (high - 0xD800) * 0x400 + (low - 0xDC00))
      (join? rest).map (c :: ·)
    else none
  | _ => none

/-- The character that is escaped with a letter or a sign. -/
def escaped? (c : Char) : Option Char :=
  if c = '"' ∨ c = '\\' ∨ c = '/' then some c
  else if c = 'b' then some '\x08'
  else if c = 'f' then some '\x0c'
  else if c = 'n' then some '\n'
  else if c = 'r' then some '\r'
  else if c = 't' then some '\t'
  else none

def isHexDigit (c : Char) : Bool :=
  c.isDigit || ('a' ≤ c && c ≤ 'f') || ('A' ≤ c && c ≤ 'F')

/-! ## Scanning -/

inductive Token where
  | beginArray
  | endArray
  | beginObject
  | endObject
  | nameSeparator
  | valueSeparator
  /-- A literal, a number or a string. -/
  | value (value : Value)

def structural? (c : Char) : Option Token :=
  if c = '[' then some .beginArray
  else if c = ']' then some .endArray
  else if c = '\x7b' then some .beginObject
  else if c = '\x7d' then some .endObject
  else if c = ':' then some .nameSeparator
  else if c = ',' then some .valueSeparator
  else none

def isBlank (c : Char) : Bool := c = ' ' || c = '\t' || c = '\n' || c = '\r'

/-- Whether a word ends in front of a character. -/
def endsWord (c : Char) : Bool := isBlank c || c = '"' || (structural? c).isSome

/-- What a scanner is in the middle of. -/
inductive Part where
  | between
  /-- A word that begins with these characters. -/
  | word (text : List Char)
  /-- A string that begins with these pieces. -/
  | string (pieces : List Piece)
  /-- Such a string, behind a backslash. -/
  | escape (pieces : List Piece)
  /-- Such a string, behind a backslash, the letter `u` and these digits. -/
  | unit (pieces : List Piece) (digits : List Char)

/-- The tokens that were found, and the part that is not complete. -/
structure Scanner where
  found : List Token
  part : Part

namespace Scanner

/-- A scanner that takes a character between tokens. -/
def start (found : List Token) (c : Char) : Scanner :=
  if isBlank c then ⟨found, .between⟩
  else if c = '"' then ⟨found, .string []⟩
  else match structural? c with
    | some token => ⟨found ++ [token], .between⟩
    | none => ⟨found, .word [c]⟩

def step : Scanner → Char → Option Scanner
  | ⟨found, .between⟩, c => some (start found c)
  | ⟨found, .word text⟩, c =>
    if endsWord c then (word? text).map fun value => start (found ++ [.value value]) c
    else some ⟨found, .word (text ++ [c])⟩
  | ⟨found, .string pieces⟩, c =>
    if c = '"' then
      (join? pieces).map fun text => ⟨found ++ [.value (.string (String.ofList text))], .between⟩
    else if c = '\\' then some ⟨found, .escape pieces⟩
    else if c < ' ' then none
    else some ⟨found, .string (pieces ++ [.char c])⟩
  | ⟨found, .escape pieces⟩, c =>
    if c = 'u' then some ⟨found, .unit pieces []⟩
    else (escaped? c).map fun c => ⟨found, .string (pieces ++ [.char c])⟩
  | ⟨found, .unit pieces digits⟩, c =>
    if isHexDigit c then
      if digits.length = 3 then
        some ⟨found, .string (pieces ++ [.ofUnit (numberOf 16 (digits ++ [c]))])⟩
      else some ⟨found, .unit pieces (digits ++ [c])⟩
    else none

/-- All tokens at the end of a text. -/
def finish? : Scanner → Option (List Token)
  | ⟨found, .between⟩ => some found
  | ⟨found, .word text⟩ => (word? text).map fun value => found ++ [.value value]
  | _ => none

end Scanner

def tokens? (text : List Char) : Option (List Token) :=
  text.foldlM Scanner.step ⟨[], .between⟩ >>= Scanner.finish?

/-! ## Building -/

/-- An array or an object that is not closed, and that the next value belongs to. -/
inductive Frame where
  | array (items : List Value)
  | object (members : List (String × Value)) (name : String)

/-- What a reader has just read, inside of some frames. -/
inductive Reading where
  /-- A value must follow. -/
  | before (frames : List Frame)
  /-- An array was opened. -/
  | arrayOpened (frames : List Frame)
  /-- An object was opened. -/
  | objectOpened (frames : List Frame)
  /-- Some members of an object and a separator: a name must follow. -/
  | separated (frames : List Frame) (members : List (String × Value))
  /-- Some members and the name of the next one. -/
  | named (frames : List Frame) (members : List (String × Value)) (name : String)
  /-- A value. -/
  | after (frames : List Frame) (value : Value)

namespace Reading

/-- A reader that takes the first token of a value. -/
def start (frames : List Frame) : Token → Option Reading
  | .value value => some (.after frames value)
  | .beginArray => some (.arrayOpened frames)
  | .beginObject => some (.objectOpened frames)
  | _ => none

def step : Reading → Token → Option Reading
  | .before frames, token => start frames token
  | .arrayOpened frames, .endArray => some (.after frames (.array []))
  | .arrayOpened frames, token => start (.array [] :: frames) token
  | .objectOpened frames, .endObject => some (.after frames (.object []))
  | .objectOpened frames, .value (.string name) => some (.named frames [] name)
  | .separated frames members, .value (.string name) => some (.named frames members name)
  | .named frames members name, .nameSeparator => some (.before (.object members name :: frames))
  | .after (.array items :: frames) value, .valueSeparator =>
    some (.before (.array (items ++ [value]) :: frames))
  | .after (.array items :: frames) value, .endArray =>
    some (.after frames (.array (items ++ [value])))
  | .after (.object members name :: frames) value, .valueSeparator =>
    some (.separated frames (members ++ [(name, value)]))
  | .after (.object members name :: frames) value, .endObject =>
    some (.after frames (.object (members ++ [(name, value)])))
  | _, _ => none

/-- The value that was read, if nothing is left open. -/
def finish? : Reading → Option Value
  | .after [] value => some value
  | _ => none

end Reading

def value? (tokens : List Token) : Option Value :=
  tokens.foldlM Reading.step (.before []) >>= Reading.finish?

/-! ## Texts -/

/-- The value of a JSON text. -/
def ofText? (text : String) : Option Value := tokens? text.toList >>= value?

/-- The value of a JSON text in UTF-8. -/
def ofBytes? (bytes : Bytes) : Option Value := Utf8.decode? bytes >>= ofText?

example : ofText? "\x7b \"\\u00e9\" : [ -1.50e3 , \"\\ud83d\\ude00\" ] , \"b\":\x7b\x7d\x7d" =
    some (.object [("é", .array [.number (-150) 1, .string "😀"]), ("b", .object [])]) := by
  rfl

/-- A comma behind the last member, a zero in front of a number, and half of a pair. -/
example : ofText? "\x7b\"a\":1,\x7d" = none ∧ ofText? "[01]" = none ∧
    ofText? "\"\\ud83d\"" = none :=
  ⟨rfl, rfl, rfl⟩

/-! ## Steps of the stages -/

section

variable {σ α : Type} {step : σ → α → Option σ} {first middle last : σ} {items more : List α}

/-- A stage takes these items, one after the other. -/
def Takes (step : σ → α → Option σ) (first : σ) (items : List α) (last : σ) : Prop :=
  items.foldlM step first = some last

namespace Takes

theorem nil : Takes step first [] first := rfl

theorem cons {item : α} (stepped : step first item = some middle)
    (takes : Takes step middle items last) : Takes step first (item :: items) last := by
  unfold Takes
  rw [List.foldlM_cons, stepped]
  exact takes

theorem append (takes : Takes step first items middle) (later : Takes step middle more last) :
    Takes step first (items ++ more) last := by
  unfold Takes
  rw [List.foldlM_append, takes]
  exact later

end Takes

end

variable {found : List Token}

theorem join?_map_char (text : List Char) : join? (text.map .char) = some text := by
  induction text with
  | nil => rfl
  | cons c rest ih => rw [List.map_cons, join?, ih, Option.map_some]

/-- A word begins with a character that does not end one. -/
theorem start_of_not_endsWord {c : Char} (inside : endsWord c = false) :
    Scanner.start found c = ⟨found, .word [c]⟩ := by
  unfold endsWord at inside
  simp only [Bool.or_eq_false_iff, decide_eq_false_iff_not, Option.isSome_eq_false_iff,
    Option.isNone_iff_eq_none] at inside
  obtain ⟨⟨noBlank, noQuote⟩, noStructure⟩ := inside
  unfold Scanner.start
  rw [if_neg (by simp [noBlank]), if_neg noQuote, noStructure]

theorem takes_word {more : List Char} (inside : ∀ c ∈ more, endsWord c = false)
    (text : List Char) :
    Takes Scanner.step ⟨found, .word text⟩ more ⟨found, .word (text ++ more)⟩ := by
  induction more generalizing text with
  | nil => rw [List.append_nil]; exact .nil
  | cons c rest ih =>
    obtain ⟨goesOn, inside⟩ := List.forall_mem_cons.mp inside
    have stepped : Scanner.step ⟨found, .word text⟩ c = some ⟨found, .word (text ++ [c])⟩ := by
      rw [Scanner.step, goesOn]
      rfl
    have later := ih inside (text ++ [c])
    rw [List.append_assoc] at later
    exact .cons stepped later

/-- Four digits are one unit. -/
theorem takes_unit (pieces : List Piece) {a b c d : Char}
    (digits : ∀ digit ∈ [a, b, c, d], isHexDigit digit = true) :
    Takes Scanner.step ⟨found, .string pieces⟩ ['\\', 'u', a, b, c, d]
      ⟨found, .string (pieces ++ [.ofUnit (numberOf 16 [a, b, c, d])])⟩ := by
  simp only [List.forall_mem_cons, List.not_mem_nil] at digits
  obtain ⟨first, second, third, fourth, -⟩ := digits
  have digit {digits : List Char} {c : Char} (hex : isHexDigit c = true)
      (fewer : digits.length ≠ 3) : Scanner.step ⟨found, .unit pieces digits⟩ c =
        some ⟨found, .unit pieces (digits ++ [c])⟩ := by
    rw [Scanner.step, if_pos hex, if_neg fewer]
  have last : Scanner.step ⟨found, .unit pieces [a, b, c]⟩ d =
      some ⟨found, .string (pieces ++ [.ofUnit (numberOf 16 [a, b, c, d])])⟩ := by
    rw [Scanner.step, if_pos fourth]
    rfl
  exact .cons rfl (.cons rfl (.cons (digit first (by simp)) (.cons (digit second (by simp))
    (.cons (digit third (by simp)) (.cons last .nil)))))

/-! ## Objects -/

/-- The tokens of a member whose value is one token. -/
def memberTokens (member : String × Value) : List Token :=
  [.value (.string member.1), .nameSeparator, .value member.2]

/-- The tokens of an object with such members. -/
def objectTokens (members : List (String × Value)) : List Token :=
  .beginObject :: ([.valueSeparator].intercalate (members.map memberTokens) ++ [.endObject])

/-- What is read so far grows by one member after the other. -/
theorem takes_members (frames : List Frame) (before : List (String × Value))
    (member : String × Value) (members : List (String × Value)) :
    Takes Reading.step (.separated frames before)
      ([.valueSeparator].intercalate ((member :: members).map memberTokens) ++ [.endObject])
      (.after frames (.object (before ++ member :: members))) := by
  induction members generalizing before member with
  | nil =>
    rw [List.map_singleton, List.intercalate_singleton]
    exact .cons rfl (.cons rfl (.cons rfl (.cons rfl .nil)))
  | cons next rest ih =>
    have first : Takes Reading.step (.separated frames before)
        (memberTokens member ++ [.valueSeparator]) (.separated frames (before ++ [member])) :=
      .cons rfl (.cons rfl (.cons rfl (.cons rfl .nil)))
    have others := ih (before ++ [member]) next
    rw [List.append_assoc] at others
    rw [List.map_cons, List.map_cons, List.intercalate_cons_cons, List.append_assoc]
    exact first.append others

theorem value?_objectTokens (members : List (String × Value)) :
    value? (objectTokens members) = some (.object members) := by
  cases members with
  | nil => rfl
  | cons member members =>
    have opened : Takes Reading.step (.objectOpened [])
        ([.valueSeparator].intercalate ((member :: members).map memberTokens) ++ [.endObject])
        (.after [] (.object (member :: members))) := by
      have separated := takes_members [] [] member members
      cases members <;> exact separated
    have takes : Takes Reading.step (.before []) (objectTokens (member :: members))
        (.after [] (.object (member :: members))) := .cons rfl opened
    unfold value?
    rw [takes]
    rfl

/-! ## Whole numbers -/

theorem isDigit_of_mem (number : Nat) : ∀ c ∈ Nat.toDigits 10 number, c.isDigit = true :=
  fun _ inside => Nat.isDigit_of_mem_toDigits (by decide) (by decide) inside

/-- Digits stand in words. -/
theorem endsWord_of_isDigit {c : Char} (digit : c.isDigit = true) : endsWord c = false := by
  have apart : ∀ sign ∈ [' ', '\t', '\n', '\r', '"', '[', ']', '\x7b', '\x7d', ':', ','],
      c ≠ sign := by
    have others : ∀ sign ∈ [' ', '\t', '\n', '\r', '"', '[', ']', '\x7b', '\x7d', ':', ','],
        sign.isDigit = false := by simp
    rintro sign inside rfl
    rw [others c inside] at digit
    cases digit
  simp only [List.forall_mem_cons] at apart
  simp [endsWord, isBlank, structural?, apart]

theorem digits?_toDigits (number : Nat) :
    digits? (Nat.toDigits 10 number) = some (Nat.toDigits 10 number, []) := by
  unfold digits?
  rw [List.span_eq_takeWhile_dropWhile, List.takeWhile_eq_self_iff.mpr (isDigit_of_mem number),
    List.dropWhile_eq_nil_iff.mpr (isDigit_of_mem number)]
  split
  · next empty => exact absurd (congrArg Prod.fst empty) Nat.toDigits_ne_nil
  · rfl

/-- A number is written without a zero in front. -/
theorem toDigits_ne_zero_cons (number : Nat) (second : Char) (rest : List Char) :
    Nat.toDigits 10 number ≠ '0' :: second :: rest := by
  -- all digits but the last are the digits of a tenth of the number
  induction number using Nat.strongRecOn generalizing second rest with
  | _ number ih =>
    intro zero
    rcases Nat.lt_or_ge number 10 with small | large
    · rw [Nat.toDigits_of_lt_base small] at zero
      cases (List.cons.inj zero).2
    · rw [Nat.toDigits_of_base_le (by decide) large] at zero
      have tenth : number / 10 < number := Nat.div_lt_self (by omega) (by decide)
      cases digits : Nat.toDigits 10 (number / 10) with
      | nil => exact Nat.toDigits_ne_nil digits
      | cons first others =>
        rw [digits] at zero
        obtain ⟨rfl, -⟩ := List.cons.inj zero
        cases others with
        | nil =>
          have none : number / 10 = 0 := Text.toDigits_injective (by decide) (by decide) digits
          omega
        | cons next more => exact ih _ tenth next more digits

theorem whole?_toDigits (number : Nat) :
    whole? (Nat.toDigits 10 number) = some (Nat.toDigits 10 number, []) := by
  unfold whole?
  rw [digits?_toDigits]
  split
  · next zero => exact absurd (Prod.mk.inj (Option.some.inj zero)).1 (toDigits_ne_zero_cons _ _ _)
  · rfl

theorem minus_toDigits (number : Nat) :
    minus (Nat.toDigits 10 number) = (false, Nat.toDigits 10 number) := by
  unfold minus
  split
  · next rest sign =>
    have inside : '-' ∈ Nat.toDigits 10 number := sign ▸ List.mem_cons_self
    exact absurd inside (Text.notMem_toDigits (by decide) 10 number)
  · rfl

theorem number?_toDigits (number : Nat) :
    number? (Nat.toDigits 10 number) = some (.number number 0) := by
  unfold number?
  rw [minus_toDigits, whole?_toDigits]
  show some (Value.number (numberOf 10 (Nat.toDigits 10 number ++ [])) _) = _
  rw [List.append_nil, Text.numberOf_toDigits (by decide) (by decide)]
  rfl

/-- No name of a literal is a number. -/
theorem word?_toDigits (number : Nat) :
    word? (Nat.toDigits 10 number) = some (.number number 0) := by
  have other {name : List Char} {letter : Char} (inside : letter ∈ name)
      (noDigit : Text.IsNoDigit letter) : Nat.toDigits 10 number ≠ name :=
    fun same => Text.notMem_toDigits noDigit 10 number (same ▸ inside)
  unfold word?
  rw [if_neg (other (by decide : 'n' ∈ _) (by decide)),
    if_neg (other (by decide : 't' ∈ _) (by decide)),
    if_neg (other (by decide : 's' ∈ _) (by decide))]
  exact number?_toDigits number

end ProbeStream.JsonText
