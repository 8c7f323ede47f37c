import Lifeline.Text.Numeral
import Lifeline.Text.Printable

/-!
# Escapes

A diagnostic shows a piece of input as a quoted literal, so that blanks and
controls in it can be seen.  Single quotes stand around the text, or double
quotes when that saves an escape: when it holds single quotes and no double
ones.  A backslash, the surrounding quote and everything unprintable are
escaped, by the shortest of `\xNN`, `\uNNNN` and `\UNNNNNNNN`.

Text goes into a URI as the bytes of its UTF-8 encoding.  Letters, digits and a
few marks stand for themselves; every other byte is a percent sign with its two
hexadecimal digits, in upper case.
-/

namespace Lifeline.Text

def quoteFor (text : List Char) : Char :=
  if text.contains '\'' && !text.contains '"' then '"' else '\''

/-- How one character is written between the given quotes. -/
def escapeIn (quote char : Char) : List Char :=
  if char = quote || char = '\\' then ['\\', char]
  else if char = '\t' then ['\\', 't']
  else if char = '\n' then ['\\', 'n']
  else if char = '\r' then ['\\', 'r']
  else if isPrintable char then [char]
  else if char.toNat < 0x100 then '\\' :: 'x' :: paddedDigits 16 2 char.toNat
  else if char.toNat < 0x10000 then '\\' :: 'u' :: paddedDigits 16 4 char.toNat
  else '\\' :: 'U' :: paddedDigits 16 8 char.toNat

def quoted (text : String) : String :=
  let quote := quoteFor text.toList
  String.ofList (quote :: text.toList.flatMap (escapeIn quote) ++ [quote])

/-- Characters that stand for themselves in a URI. -/
def isUnreserved (char : Char) : Bool :=
  char.isAlphanum ||
    ['-', '_', '.', '!', '~', '*', '\'', '(', ')'].contains char

def percentByte (byte : UInt8) : List Char :=
  ['%', (Nat.digitChar (byte.toNat / 16)).toUpper,
    (Nat.digitChar (byte.toNat % 16)).toUpper]

def percentChar (char : Char) : List Char :=
  if isUnreserved char then [char]
  else (String.utf8EncodeChar char).flatMap percentByte

def percentEncode (text : String) : String :=
  String.ofList (text.toList.flatMap percentChar)

end Lifeline.Text
