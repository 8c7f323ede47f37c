import Lifeline.Text.Escape

/-!
# Letters

A program is given words that need not be text.  Where text has a character, such
a word may have half of a surrogate pair, standing alone.  One half of them comes
in for bytes that are no part of a character; the others come in by mistake.

A word can be shown, with its surrogates as escapes, and it can name a file, where
the surrogates that came in for bytes are bytes again.  There is no way to write a
surrogate in UTF-8.
-/

namespace Lifeline.Text

inductive Letter where
  | char (value : Char)
  /-- Half of a surrogate pair, by its distance from U+D800. -/
  | surrogate (index : Fin 2048)
  deriving DecidableEq

namespace Letter

def char? : Letter → Option Char
  | char value => some value
  | surrogate _ => none

def escaped : Letter → List Char
  | char value => [value]
  | surrogate index => '\\' :: 'u' :: paddedDigits 16 4 (0xD800 + index.val)

/-- The bytes of a letter in the name of a file.  The surrogates from U+DC80 to
U+DCFF came in for single bytes, and no name holds any other. -/
def bytes? : Letter → Option (List UInt8)
  | char value => some (String.utf8EncodeChar value)
  | surrogate index =>
      if 0x480 ≤ index.val && index.val < 0x500 then
        some [UInt8.ofNat (index.val - 0x400)]
      else none

end Letter

abbrev Letters := List Letter

namespace Letters

def ofText (text : String) : Letters :=
  text.toList.map .char

def isText (word : Letters) : Bool :=
  word.all fun letter => letter.char?.isSome

def chars? (word : Letters) : Option (List Char) :=
  word.mapM Letter.char?

def text? (word : Letters) : Option String :=
  word.chars?.map String.ofList

/-- A word with a character in the place of every surrogate. -/
def filled (standIn : Char) (word : Letters) : String :=
  String.ofList (word.map fun letter => letter.char?.getD standIn)

def shown (word : Letters) : String :=
  String.ofList (word.flatMap Letter.escaped)

def quoted (word : Letters) : String :=
  let quote := quoteFor (word.filterMap Letter.char?)
  let inside := word.flatMap fun letter =>
    match letter with
    | .char value => escapeIn quote value
    | .surrogate _ => letter.escaped
  String.ofList (quote :: inside ++ [quote])

/-- The name of a file that a word stands for. -/
def pathBytes? (word : Letters) : Option (List UInt8) :=
  (word.mapM Letter.bytes?).map List.flatten

end Letters

end Lifeline.Text
