import Lifeline.Actor
import Lifeline.Event
import Lifeline.Text.Escape

/-!
# Statements

Each line of a script is one statement.  The word before its first space decides
which; a line that begins with no such word is a signal, or is meant to be one.
A statement is read from a trimmed line, on its own: what it does to the blocks
that are open around it is for `Lifeline.Script` to say.

A signal is written as its source, an arrow, its destination, a colon and a
caption.  The colon is the first one outside double quotes, the arrow the first
one before it, and the caption is anything but nothing.  A dash before the arrow
makes the line dotted.  Flags may stand before the destination, each at most once
and in this order: `>` for an open arrowhead, `*` for an actor that the signal
spawns, `+` and `-` for one that it activates or deactivates.

Reading a script and laying it out never fail: what cannot be used is left out,
and a remark says so.  Each cause is a constructor, and `Remark.text` gives its
wording, with pieces of the script shown as quoted literals.
-/

namespace Lifeline

namespace Signal

inductive Fault where
  | shape
  | unnamed
  deriving DecidableEq

/-- Whether a text begins with a flag, and the text after it. -/
def takeFlag (flag : Char) : List Char → Bool × List Char
  | [] => (false, [])
  | char :: rest => if char = flag then (true, rest) else (false, char :: rest)

/-- Whether a text ends with a dash, and the text before it. -/
def takeDash (text : List Char) : Bool × List Char :=
  if text.getLast? = some '-' then (true, text.dropLast) else (false, text)

def ofEnds (source destination caption : List Char) : Except Fault Signal :=
  let (dotted, source) := takeDash (Text.unquote source)
  let (openHead, destination) := takeFlag '>' (Text.unquote destination)
  let (spawns, destination) := takeFlag '*' destination
  let (activates, destination) := takeFlag '+' destination
  let (deactivates, destination) := takeFlag '-' destination
  let source := Text.trim source
  let destination := Text.trim destination
  if source.isEmpty || destination.isEmpty then
    .error .unnamed
  else
    .ok
      { caption := String.ofList (Text.trim caption)
        source := String.ofList source
        destination := String.ofList destination
        dotted, openHead, spawns, activates, deactivates }

def read (line : List Char) : Except Fault Signal :=
  let (ends, caption) := Text.cutUnquoted ':' line
  match Text.cutAt? ['-', '>'] ends with
  | none => .error .shape
  | some (source, destination) =>
      if caption.isEmpty then .error .shape
      else ofEnds source destination caption

def markers {α : Type} (signal : Signal) : List (Event α) :=
  (if signal.activates then [.lifetime .activate signal.destination] else []) ++
    (if signal.deactivates then [.lifetime .deactivate signal.destination]
      else [])

/-- The events that a signal adds to a sequence: itself, not yet placed, and
the markers that it implies. -/
def events {α : Type} (signal : Signal) : List (Event α) :=
  .signal signal {} :: signal.markers

end Signal

inductive Statement where
  | close
  /-- Declare an actor; without a caption there is nothing to declare. -/
  | declaration (kind : ActorKind) (caption nickname : String)
  | note (note : Note)
  | conditional (kind : ConditionalKind) (caption : String)
  | alternative (caption : String)
  | lifetime (kind : LifetimeKind) (target : String)
  | synchrony (kind : SynchronyKind)
  /-- Close whatever was opened last. -/
  | brace
  | numbering (start : String)
  | comment
  /-- Send a signal, if the line has the form of one. -/
  | signal (result : Except Signal.Fault Signal)

namespace Note

/-- Where an annotation is anchored: the words after the alignment and its
preposition, or the one word after the alignment. -/
def anchor : List (List Char) → Option (List Char)
  | _ :: _ :: word :: others =>
      some (Text.unquote ([' '].intercalate (word :: others)))
  | [_, word] => some (Text.unquote word)
  | _ => none

def read (kind : NoteKind) (rest : List Char) : Note :=
  let (place, caption) := Text.cut [':'] rest
  let words := Text.words place
  { kind := kind
    caption := String.ofList (Text.trim caption)
    align := String.ofList (words.headD [])
    location := (anchor words).map String.ofList
    multiline := caption.isEmpty }

end Note

namespace Statement

def readDeclaration (kind : ActorKind) (rest : List Char) : Statement :=
  let (caption, nickname) := Text.cut [' ', 'a', 's', ' '] rest
  .declaration kind (String.ofList (Text.unquote caption))
    (String.ofList (Text.unquote nickname))

/-- The statement of a line that begins with a word and goes on with a rest. -/
def ofWord (line : List Char) (word : String) (rest : List Char) : Statement :=
  if word = "end" then .close
  else if let some kind := ActorKind.ofName? word then readDeclaration kind rest
  else if let some kind := NoteKind.ofName? word then
    .note (Note.read kind rest)
  else if let some kind := ConditionalKind.ofName? word then
    .conditional kind (String.ofList rest)
  else if word = "else" then .alternative (String.ofList rest)
  else if let some kind := LifetimeKind.ofName? word then
    .lifetime kind (String.ofList (Text.unquote rest))
  else if let some kind := SynchronyKind.ofName? word then .synchrony kind
  else if word = "\x7d" then .brace
  else if word = "autonumber" then .numbering (String.ofList rest)
  else if line.head? = some '#' then .comment
  else .signal (Signal.read line)

def read (line : List Char) : Statement :=
  let (word, rest) := Text.cut [' '] line
  ofWord line (String.ofList word) rest

end Statement

/-- Why something in a script is left out or looks unfinished. -/
inductive Remark where
  | unnamedActor (kind : ActorKind)
  /-- A line is neither a statement nor a signal. -/
  | unrecognizedLine (line : String)
  /-- A line has the shape of a signal but an end without a name. -/
  | unnamedEnd (line : String)
  /-- A line begins another case where no conditional is open. -/
  | strayAlternative (line : String)
  | unclosedBlocks (count : Nat)
  /-- A signal names an actor that the diagram does not have. -/
  | unknownEnd (source destination : String)
  /-- An annotation is anchored to no actor of the diagram. -/
  | unanchored (kind : NoteKind) (location : Option String)
  deriving DecidableEq

namespace Remark

def text : Remark → String
  | unnamedActor kind => "Dropping " ++ kind.name ++ " declaration without a name"
  | unrecognizedLine line => "Ignoring unrecognized line: " ++ Text.quoted line
  | unnamedEnd line =>
      "Ignoring signal without source or destination: " ++ Text.quoted line
  | strayAlternative line =>
      "'else' outside of a conditional block: " ++ Text.quoted line
  | unclosedBlocks count =>
      "Script ended with " ++ toString count ++ " unclosed block(s)"
  | unknownEnd source destination =>
      "Signal " ++ Text.quoted source ++ " -> " ++ Text.quoted destination ++
        " references an unknown actor"
  | unanchored kind location =>
      kind.name ++ " anchored to unknown actor " ++
        (location.map Text.quoted).getD "None" ++ " is not placed"

end Remark

end Lifeline
