import Lifeline.Text.Pieces
import Mathlib.Data.List.Infix

/-!
# Reading documents

A document in XML, as far as drawings use it, is one element with attributes, texts and
further elements, in which characters are written as references: by one of four names or
by their decimal code.

It is read from its first character to its last.  What has been read is the content so far
of the innermost element that is open, with the elements around it, and of the piece of
markup that is being read what has come so far.  A document is refused if anything in it is
not as it should be: a character that may not stand in documents or at its place, a
reference that means nothing, an attribute given twice, an end that does not match the
element that is open.
-/

namespace Lifeline.Xml

/-- What stands in a document: texts, and elements with what stands in them. -/
inductive Node where
  | text (content : String)
  | element (tag : String) (attributes : List (String × String)) (content : List Node)

def liesIn (ranges : List (Nat × Nat)) (char : Char) : Bool :=
  ranges.any fun (first, last) => first ≤ char.toNat && char.toNat ≤ last

def isLegal (char : Char) : Bool :=
  liesIn [(0x9, 0xA), (0xD, 0xD), (0x20, 0xD7FF), (0xE000, 0xFFFD), (0x10000, 0x10FFFF)] char

def isSpace (char : Char) : Bool :=
  [' ', '\t', '\n', '\r'].contains char

def beginsName (char : Char) : Bool :=
  liesIn
    [(0x3A, 0x3A), (0x41, 0x5A), (0x5F, 0x5F), (0x61, 0x7A), (0xC0, 0xD6), (0xD8, 0xF6),
      (0xF8, 0x2FF), (0x370, 0x37D), (0x37F, 0x1FFF), (0x200C, 0x200D), (0x2070, 0x218F),
      (0x2C00, 0x2FEF), (0x3001, 0xD7FF), (0xF900, 0xFDCF), (0xFDF0, 0xFFFD),
      (0x10000, 0xEFFFF)]
    char

def continuesName (char : Char) : Bool :=
  beginsName char ||
    liesIn [(0x2D, 0x2E), (0x30, 0x39), (0xB7, 0xB7), (0x300, 0x36F), (0x203F, 0x2040)] char

def isName : List Char → Bool
  | [] => false
  | first :: rest => beginsName first && rest.all continuesName

/-- The character that a reference means, which stands between an ampersand and a
semicolon. -/
def referred? : List Char → Option Char
  | ['a', 'm', 'p'] => some '&'
  | ['l', 't'] => some '<'
  | ['g', 't'] => some '>'
  | ['q', 'u', 'o', 't'] => some '"'
  | '#' :: digits =>
      let char := Char.ofNat
        (digits.foldl (fun code digit => 10 * code + (digit.toNat - '0'.toNat)) 0)
      if !digits.isEmpty && digits.all Char.isDigit && isLegal char then some char else none
  | _ => none

/-- A text with its references resolved.  What of a reference has been read is kept, once
its ampersand has been. -/
def resolve? : Option (List Char) → List Char → Option (List Char)
  | none, [] => some []
  | some _, [] => none
  | none, char :: rest =>
      if char = '&' then resolve? (some []) rest else (resolve? none rest).map (char :: ·)
  | some name, char :: rest =>
      if char = ';' then
        (referred? name).bind fun meant => (resolve? none rest).map (meant :: ·)
      else resolve? (some (name ++ [char])) rest

structure Start where
  tag : String
  attributes : List (String × String) := []

structure Opened where
  start : Start
  before : List Node

structure Progress where
  /-- What stands in the innermost element that is open, or in the document. -/
  content : List Node := []
  /-- The elements that are open, innermost first. -/
  opened : List Opened := []

namespace Progress

variable (progress : Progress)

def add (nodes : List Node) : Progress :=
  { progress with content := progress.content ++ nodes }

def enter (start : Start) : Progress :=
  { content := [], opened := ⟨start, progress.content⟩ :: progress.opened }

def leave? (tag : String) : Option Progress :=
  match progress.opened with
  | [] => none
  | ⟨start, before⟩ :: outer =>
      if start.tag = tag then
        some ⟨before ++ [.element start.tag start.attributes progress.content], outer⟩
      else none

/-- Add a text with references in it.  Around the outermost element there are only spaces. -/
def addText? (written : List Char) : Option Progress :=
  if written.isEmpty then some progress
  else if progress.opened.isEmpty then
    if written.all isSpace then some progress else none
  else if [']', ']', '>'] <:+: written then none
  else (resolve? none written).map fun text => progress.add [.text (String.ofList text)]

end Progress

/-- An attribute behind those of a tag, in which it must be the first of its name. -/
def Start.attribute? (start : Start) (name : String) (written : List Char) : Option Start :=
  if (start.attributes.map Prod.fst).contains name then none
  else (resolve? none written).map fun value =>
    { start with attributes := start.attributes ++ [(name, String.ofList value)] }

/-- The piece of markup that is being read. -/
inductive Mode where
  | text (written : List Char)
  /-- Behind a `<`. -/
  | markup
  | tag (name : List Char)
  /-- Between the attributes of a tag, behind a space or not. -/
  | inTag (start : Start) (spaced : Bool)
  | attribute (start : Start) (name : List Char)
  /-- Behind the name of an attribute. -/
  | equals (start : Start) (name : String)
  /-- Behind the `=` of an attribute. -/
  | quote (start : Start) (name : String)
  | value (start : Start) (name : String) (quote : Char) (written : List Char)
  /-- Behind the `/` of an element without content. -/
  | emptyTag (start : Start)
  | endTag (name : List Char)
  /-- Behind the name in the end of an element. -/
  | endGap (name : String)

structure State where
  progress : Progress := {}
  mode : Mode := .text []

def Progress.inTag? (progress : Progress) (start : Start) (spaced : Bool) (char : Char) :
    Option State :=
  if isSpace char then some ⟨progress, .inTag start true⟩
  else if char = '>' then some ⟨progress.enter start, .text []⟩
  else if char = '/' then some ⟨progress, .emptyTag start⟩
  else if spaced && beginsName char then some ⟨progress, .attribute start [char]⟩
  else none

def Progress.endTag? (progress : Progress) (name : String) (char : Char) : Option State :=
  if isSpace char then some ⟨progress, .endGap name⟩
  else if char = '>' then (progress.leave? name).map (⟨·, .text []⟩)
  else none

namespace State

def step? (state : State) (char : Char) : Option State :=
  let progress := state.progress
  match state.mode with
  | .text written =>
      if char = '<' then (progress.addText? written).map (⟨·, .markup⟩)
      else some ⟨progress, .text (written ++ [char])⟩
  | .markup =>
      if char = '/' then some ⟨progress, .endTag []⟩
      else if beginsName char then some ⟨progress, .tag [char]⟩
      else none
  | .tag name =>
      if continuesName char then some ⟨progress, .tag (name ++ [char])⟩
      else progress.inTag? ⟨String.ofList name, []⟩ false char
  | .inTag start spaced => progress.inTag? start spaced char
  | .attribute start name =>
      if continuesName char then some ⟨progress, .attribute start (name ++ [char])⟩
      else if isSpace char then some ⟨progress, .equals start (String.ofList name)⟩
      else if char = '=' then some ⟨progress, .quote start (String.ofList name)⟩
      else none
  | .equals start name =>
      if isSpace char then some state
      else if char = '=' then some ⟨progress, .quote start name⟩
      else none
  | .quote start name =>
      if isSpace char then some state
      else if char = '"' || char = '\'' then some ⟨progress, .value start name char []⟩
      else none
  | .value start name quote written =>
      if char = quote then (start.attribute? name written).map (⟨progress, .inTag · false⟩)
      else if char = '<' then none
      else
        -- A space is read for a tab or the end of a line, unless it is written as a reference.
        let read := if isSpace char then ' ' else char
        some ⟨progress, .value start name quote (written ++ [read])⟩
  | .emptyTag start =>
      if char = '>' then
        some ⟨progress.add [.element start.tag start.attributes []], .text []⟩
      else none
  | .endTag [] => if beginsName char then some ⟨progress, .endTag [char]⟩ else none
  | .endTag name =>
      if continuesName char then some ⟨progress, .endTag (name ++ [char])⟩
      else progress.endTag? (String.ofList name) char
  | .endGap name => progress.endTag? name char

def run? (state : State) (chars : List Char) : Option State :=
  chars.foldlM step? state

def document? (state : State) : Option Node :=
  match state.mode with
  | .text written =>
      match state.progress.addText? written with
      | some ⟨[.element tag attributes content], []⟩ => some (.element tag attributes content)
      | _ => none
  | _ => none

end State

/-- The element that a text is the document of. -/
def read? (text : String) : Option Node :=
  let chars := Text.normalizeLines text.toList
  if chars.all isLegal then (State.run? {} chars).bind State.document? else none

end Lifeline.Xml
