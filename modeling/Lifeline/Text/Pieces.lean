/-!
# Pieces of text

Text is taken apart at blanks, at marks and at newlines.  The functions here work
on lists of characters.

A character is blank when it separates words without being seen.  Names, captions
and lines are trimmed of blanks at their ends, and the words of an annotation are
the runs between blanks.

A line is cut at the first occurrence of a mark.  `cutAt?` says whether the mark
occurs; `cut` falls back to the whole text with nothing after it.  A colon that
introduces a caption counts only outside double quotes, which is what
`cutUnquoted?` looks for.

A script is broken into lines at every newline.  A caption is broken at every
newline as well, and also at every written escape of one: a backslash followed by
the letter `n`.  Both always give at least one line.
-/

namespace Lifeline.Text

/-- Characters that separate words: the controls from tab to carriage return
and from file separator to unit separator, the next-line control, and every
space and separator of Unicode. -/
def isBlank (char : Char) : Bool :=
  let code := char.toNat
  (0x09 ≤ code && code ≤ 0x0D) || (0x1C ≤ code && code ≤ 0x20) ||
    code == 0x85 || code == 0xA0 || code == 0x1680 ||
    (0x2000 ≤ code && code ≤ 0x200A) || code == 0x2028 || code == 0x2029 ||
    code == 0x202F || code == 0x205F || code == 0x3000

def trimStart (text : List Char) : List Char :=
  text.dropWhile isBlank

def trimEnd (text : List Char) : List Char :=
  (text.reverse.dropWhile isBlank).reverse

def trim (text : List Char) : List Char :=
  trimEnd (trimStart text)

/-- The runs of characters between blanks, in order; none of them is empty. -/
def words (text : List Char) : List (List Char) :=
  (text.splitOnP isBlank).filter (· ≠ [])

/-- A name as it is stored: trimmed, and then rid of its double quotes. -/
def unquote (text : List Char) : List Char :=
  (trim text).filter (· ≠ '"')

/-- The text before the first occurrence of the mark and the text after it, if
the mark occurs. -/
def cutAt? {κ : Type} [DecidableEq κ] (mark : List κ) :
    List κ → Option (List κ × List κ)
  | [] => if mark.isEmpty then some ([], []) else none
  | char :: rest =>
      if mark.isPrefixOf (char :: rest) then
        some ([], (char :: rest).drop mark.length)
      else
        (cutAt? mark rest).map fun (before, after) => (char :: before, after)

/-- The text before the first occurrence of the mark and the text after it; the
whole text and nothing when the mark does not occur. -/
def cut (mark text : List Char) : List Char × List Char :=
  (cutAt? mark text).getD (text, [])

/-- The text before and after the first occurrence of a character outside
double quotes.  The flag says whether the text starts inside quotes. -/
def cutUnquoted? (mark : Char) :
    Bool → List Char → Option (List Char × List Char)
  | _, [] => none
  | quoted, char :: rest =>
      if char = '"' then
        (cutUnquoted? mark (!quoted) rest).map
          fun (before, after) => (char :: before, after)
      else if char = mark && !quoted then
        some ([], rest)
      else
        (cutUnquoted? mark quoted rest).map
          fun (before, after) => (char :: before, after)

/-- The text before and after the first character equal to the mark outside
double quotes; the whole text and nothing when there is none. -/
def cutUnquoted (mark : Char) (text : List Char) : List Char × List Char :=
  (cutUnquoted? mark false text).getD (text, [])

def lines (text : List Char) : List (List Char) :=
  text.splitOn '\n'

/-- A line ends in a newline, however its end was written. -/
def normalizeLines : List Char → List Char
  | [] => []
  | '\r' :: '\n' :: rest => '\n' :: normalizeLines rest
  | '\r' :: rest => '\n' :: normalizeLines rest
  | char :: rest => char :: normalizeLines rest

def extendFirst (char : Char) : List (List Char) → List (List Char)
  | [] => [[char]]
  | first :: rest => (char :: first) :: rest

/-- The lines of a caption, broken from left to right at newlines and at a
backslash followed by `n`. -/
def captionLines : List Char → List (List Char)
  | [] => [[]]
  | '\n' :: rest => [] :: captionLines rest
  | '\\' :: 'n' :: rest => [] :: captionLines rest
  | char :: rest => extendFirst char (captionLines rest)

def captionStrings (caption : String) : List String :=
  (captionLines caption.toList).map String.ofList

end Lifeline.Text
