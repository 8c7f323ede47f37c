import Lifeline.Text.Pieces

/-!
# Numerals

Escapes and the decimals of a number are written with a fixed count of digits,
padded with zeros in front.

A whole number is read from more than that.  Unicode has many sets of ten decimal
digits, each a run of ten code points from zero to nine.  A whole number may be
written with the digits of any of them, with a sign in front, blanks around it,
and single underscores between digits.
-/

namespace Lifeline.Text

/-- The last digits of a number in the given base, lower case, exactly as many
as asked for. -/
def paddedDigits (base : Nat) : Nat → Nat → List Char
  | 0, _ => []
  | width + 1, value =>
      paddedDigits base width (value / base) ++ [Nat.digitChar (value % base)]

/-- As many digits as asked for are written. -/
theorem length_paddedDigits (base width value : Nat) :
    (paddedDigits base width value).length = width := by
  induction width generalizing value with
  | zero => rfl
  | succ width ih => simp [paddedDigits, ih]

/-- The code point of the zero of each set of decimal digits. -/
def digitZeros : List Nat := [
  0x30, 0x660, 0x6F0, 0x7C0, 0x966, 0x9E6, 0xA66, 0xAE6, 0xB66, 0xBE6, 0xC66,
  0xCE6, 0xD66, 0xDE6, 0xE50, 0xED0, 0xF20, 0x1040, 0x1090, 0x17E0, 0x1810,
  0x1946, 0x19D0, 0x1A80, 0x1A90, 0x1B50, 0x1BB0, 0x1C40, 0x1C50, 0xA620,
  0xA8D0, 0xA900, 0xA9D0, 0xA9F0, 0xAA50, 0xABF0, 0xFF10, 0x104A0, 0x10D30,
  0x11066, 0x110F0, 0x11136, 0x111D0, 0x112F0, 0x11450, 0x114D0, 0x11650,
  0x116C0, 0x11730, 0x118E0, 0x11950, 0x11C50, 0x11D50, 0x11DA0, 0x16A60,
  0x16AC0, 0x16B50, 0x1D7CE, 0x1D7D8, 0x1D7E2, 0x1D7EC, 0x1D7F6, 0x1E140,
  0x1E2F0, 0x1E950, 0x1FBF0]

def digitValue? (char : Char) : Option Nat :=
  (digitZeros.find? fun start => start ≤ char.toNat && char.toNat < start + 10).map
    (char.toNat - ·)

/-- The longest written form of a number that is read, in digits. -/
def maxDigits : Nat := 4300

/-- The values of the digits of a numeral; an underscore may stand between two
digits.  The flag says whether a digit must come next. -/
def digits? : Bool → List Char → Option (List Nat)
  | mustFollow, [] => if mustFollow then none else some []
  | mustFollow, char :: rest =>
      if char = '_' then
        if mustFollow then none else digits? true rest
      else do
        let value ← digitValue? char
        let others ← digits? false rest
        pure (value :: others)

def natural? (text : List Char) : Option Nat := do
  let values ← digits? true text
  if values.length ≤ maxDigits then
    some (values.foldl (fun total value => 10 * total + value) 0)
  else
    none

/-- Blanks that may stand around a number: all but the four information
separators. -/
def isMargin (char : Char) : Bool :=
  isBlank char && !(0x1C ≤ char.toNat && char.toNat ≤ 0x1F)

/-- The whole number written by a text, blanks around it aside. -/
def integer? (text : List Char) : Option Int :=
  match ((text.dropWhile isMargin).reverse.dropWhile isMargin).reverse with
  | '-' :: rest => (natural? rest).map fun value => -(value : Int)
  | '+' :: rest => (natural? rest).map Int.ofNat
  | numeral => (natural? numeral).map Int.ofNat

end Lifeline.Text
