import ProbeStream.Text.GraphemeExtend
import ProbeStream.Text.Unprintable

/-!
# Quoted text

A quoted text stands between double quotes and holds no character that a terminal would act
upon or hide:

- tab, carriage return, line feed, backslash and the double quote are written as a backslash
  and one letter or sign, NUL as a backslash and `0`;
- a character that has no visible form, or that is drawn onto its neighbour, is written as its
  code point in lower-case hexadecimal between braces, behind a backslash and `u`;
- every other character stands for itself.
-/

namespace ProbeStream.Text.Quoted

/-- The written form of one character. -/
def escape (c : Char) : List Char :=
  if c = '\t' then ['\\', 't']
  else if c = '\r' then ['\\', 'r']
  else if c = '\n' then ['\\', 'n']
  else if c = '\\' then ['\\', '\\']
  else if c = '"' then ['\\', '"']
  else if c = '\x00' then ['\\', '0']
  else if isDrawnOnto c || isUnprintable c then
    ['\\', 'u', '\x7b'] ++ Nat.toDigits 16 c.toNat ++ ['\x7d']
  else [c]

/-- The text between double quotes. -/
def quote (text : String) : String :=
  String.ofList (['"'] ++ text.toList.flatMap escape ++ ['"'])

end ProbeStream.Text.Quoted
