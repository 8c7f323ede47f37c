import Lifeline.Script
import Mathlib.Data.List.Infix

/-!
# Scripts as they are written

Someone who writes a script thinks of clauses: declarations, signals,
annotations, blocks with clauses inside them.  This file says what a list of
clauses means, as actors and a tree of events, and how it is written, line by
line.

Writing leaves some freedom.  A synchrony block ends with `end` or with a brace.
Any line may be indented and may have blanks at its end, and blank lines and
comments may stand between lines, except inside a block annotation, where they
would be part of the caption.  `Dressed` relates the lines of clauses to the lines
of a text that makes use of this freedom.

Not everything can be written.  A name stands between double quotes, so it holds
none; the line of a signal is cut at its first arrow, so its source holds none.
`Clause.Writable` collects these conditions.
-/

namespace Lifeline

/-- A case as it is written: its caption and the clauses under it. -/
structure Branch (γ : Type) where
  caption : String
  clauses : List γ

/-- A part of a script with everything inside it. -/
inductive Clause where
  | declaration (kind : ActorKind) (caption : String) (nickname : Option String)
  | signal (signal : Signal)
  /-- An annotation with its caption on the same line. -/
  | note (kind : NoteKind) (align location caption : String)
  /-- An annotation with its caption on the lines that follow. -/
  | noteBlock (kind : NoteKind) (align location : String) (body : List String)
  | conditional (kind : ConditionalKind) (caption : String) (clauses : List Clause)
      (others : List (Branch Clause))
  | synchrony (kind : SynchronyKind) (clauses : List Clause) (braced : Bool)
  | lifetime (kind : LifetimeKind) (target : String)
  | numbering (start : String)

section Meaning

variable {α : Type} [Scalar α]

/-- The caption that the lines of a block annotation make: each trimmed, and
followed by a newline. -/
def Note.captionOf : List String → String
  | [] => ""
  | line :: rest =>
      String.ofList (Text.trim line.toList) ++ "\n" ++ Note.captionOf rest

mutual

def Clause.events : Clause → List (Event α)
  | .declaration _ _ _ => []
  | .signal signal => signal.events
  | .note kind align location caption =>
      [.note { kind, caption, align, location := some location } NotePlace.unset]
  | .noteBlock kind align location body =>
      [.note
        { kind, caption := Note.captionOf body, align, location := some location
          multiline := true }
        NotePlace.unset]
  | .conditional kind caption clauses others =>
      [.conditional kind Frame.unset
        (Case.unset caption (Clause.allEvents clauses) :: Branch.cases others)]
  | .synchrony kind clauses _ => [.synchrony kind (Clause.allEvents clauses)]
  | .lifetime kind target => [.lifetime kind target]
  | .numbering start => [.numbering start]
termination_by structural clause => clause

def Clause.allEvents : List Clause → List (Event α)
  | [] => []
  | clause :: rest => clause.events ++ Clause.allEvents rest
termination_by structural clauses => clauses

def Branch.cases : List (Branch Clause) → List (Case α (Event α))
  | [] => []
  | ⟨caption, clauses⟩ :: rest =>
      Case.unset caption (Clause.allEvents clauses) :: Branch.cases rest
termination_by structural branches => branches

end

mutual

/-- The actors after one clause: declared ones, and those that a signal names for
the first time. -/
def Clause.cast : Clause → List (Actor α) → List (Actor α)
  | .declaration kind caption nickname, actors =>
      actors ++ [Actor.declare kind caption (nickname.getD "")]
  | .signal signal, actors =>
      Draft.mention (Draft.mention actors signal.source) signal.destination
  | .conditional _ _ clauses others, actors =>
      Branch.cast others (Clause.allCast clauses actors)
  | .synchrony _ clauses _, actors => Clause.allCast clauses actors
  | .note _ _ _ _, actors | .noteBlock _ _ _ _, actors
  | .lifetime _ _, actors | .numbering _, actors => actors
termination_by structural clause => clause

def Clause.allCast : List Clause → List (Actor α) → List (Actor α)
  | [], actors => actors
  | clause :: rest, actors => Clause.allCast rest (clause.cast actors)
termination_by structural clauses => clauses

def Branch.cast : List (Branch Clause) → List (Actor α) → List (Actor α)
  | [], actors => actors
  | ⟨_, clauses⟩ :: rest, actors => Branch.cast rest (Clause.allCast clauses actors)
termination_by structural branches => branches

end

/-- The diagram that clauses mean. -/
def Clause.diagram (clauses : List Clause) : Diagram α where
  actors := Clause.allCast clauses []
  events := Clause.allEvents clauses

end Meaning

structure WrittenLine where
  chars : List Char
  /-- Whether the line stands inside a block annotation, where nothing may be put
  before it. -/
  inNote : Bool := false

namespace Clause

def quote (name : String) : List Char :=
  '"' :: name.toList ++ ['"']

def opening (word : String) (rest : List Char) : List Char :=
  word.toList ++ ' ' :: rest

def nicknameText : Option String → List Char
  | none => []
  | some nickname => [' ', 'a', 's', ' '] ++ quote nickname

def placeText (align location : String) : List Char :=
  align.toList ++ ' ' :: 'o' :: 'f' :: ' ' :: location.toList

end Clause

namespace Signal

def flags (signal : Signal) : List Char :=
  (if signal.openHead then ['>'] else []) ++ (if signal.spawns then ['*'] else []) ++
    (if signal.activates then ['+'] else []) ++
    (if signal.deactivates then ['-'] else [])

def arrow (signal : Signal) : List Char :=
  if signal.dotted then ['-', '-', '>'] else ['-', '>']

def lineText (signal : Signal) : List Char :=
  Clause.quote signal.source ++ signal.arrow ++ signal.flags ++
    Clause.quote signal.destination ++ ':' :: ' ' :: signal.caption.toList

end Signal

mutual

def Clause.lines : Clause → List WrittenLine
  | .declaration kind caption nickname =>
      [{ chars :=
          Clause.opening kind.name (Clause.quote caption ++ Clause.nicknameText nickname) }]
  | .signal signal => [{ chars := signal.lineText }]
  | .note kind align location caption =>
      [{ chars :=
          Clause.opening kind.name
            (Clause.placeText align location ++ ':' :: ' ' :: caption.toList) }]
  | .noteBlock kind align location body =>
      { chars := Clause.opening kind.name (Clause.placeText align location) } ::
        body.map (fun line => { chars := line.toList, inNote := true }) ++
        [{ chars := ['e', 'n', 'd'], inNote := true }]
  | .conditional kind caption clauses others =>
      { chars := Clause.opening kind.name caption.toList } ::
        Clause.allLines clauses ++ Branch.lines others ++
        [{ chars := ['e', 'n', 'd'] }]
  | .synchrony kind clauses braced =>
      { chars := Clause.opening kind.name ['\x7b'] } ::
        Clause.allLines clauses ++
        [{ chars := if braced then ['\x7d'] else ['e', 'n', 'd'] }]
  | .lifetime kind target => [{ chars := Clause.opening kind.name target.toList }]
  | .numbering start => [{ chars := Clause.opening "autonumber" start.toList }]
termination_by structural clause => clause

def Clause.allLines : List Clause → List WrittenLine
  | [] => []
  | clause :: rest => clause.lines ++ Clause.allLines rest
termination_by structural clauses => clauses

def Branch.lines : List (Branch Clause) → List WrittenLine
  | [] => []
  | ⟨caption, clauses⟩ :: rest =>
      { chars := Clause.opening "else" caption.toList } ::
        Clause.allLines clauses ++ Branch.lines rest
termination_by structural branches => branches

end

/-- Blanks that keep a line one line. -/
def Text.Padding (blanks : List Char) : Prop :=
  (∀ char ∈ blanks, Text.isBlank char = true) ∧ '\n' ∉ blanks

/-- A line without meaning: a blank one, or a comment. -/
def Text.Filler (line : List Char) : Prop :=
  '\n' ∉ line ∧ (Text.trim line = [] ∨ (Text.trim line).head? = some '#')

/-- The lines of a text in which written lines are indented, have blanks at their
ends, and have blank lines and comments between them and behind them. -/
inductive Dressed : List WrittenLine → List (List Char) → Prop where
  | nil : Dressed [] []
  | line {line : WrittenLine} {rest : List WrittenLine} {text : List (List Char)}
      {before after : List Char} (indentation : Text.Padding before)
      (trailing : Text.Padding after) (dressed : Dressed rest text) :
      Dressed (line :: rest) ((before ++ line.chars ++ after) :: text)
  | filler {lines : List WrittenLine} {text : List (List Char)} {filler : List Char}
      (outside : ∀ line ∈ lines.head?, line.inNote = false)
      (meaningless : Text.Filler filler) (dressed : Dressed lines text) :
      Dressed lines (filler :: text)

namespace Text

def OneLine (text : String) : Prop :=
  '\n' ∉ text.toList

def Quotable (name : String) : Prop :=
  '"' ∉ name.toList ∧ OneLine name

def Trimmed (text : String) : Prop :=
  text ≠ "" ∧ trim text.toList = text.toList

def EndTrimmed (text : String) : Prop :=
  trimEnd text.toList = text.toList

/-- A word that stands for itself in front of a colon. -/
def Word (text : String) : Prop :=
  text ≠ "" ∧ ':' ∉ text.toList ∧ ∀ char ∈ text.toList, isBlank char = false

def SingleSpaced (text : String) : Prop :=
  Quotable text ∧ Trimmed text ∧ ':' ∉ text.toList ∧
    [' '].intercalate (words text.toList) = text.toList

end Text

/-- Whether the name of a destination is taken for a flag: it begins with a flag,
and the signal has neither that flag nor one that comes later. -/
def Signal.BeginsLikeFlag (signal : Signal) : Prop :=
  signal.destination.toList.head? = some '>' ∧
      ¬ (signal.openHead ∨ signal.spawns ∨ signal.activates ∨ signal.deactivates) ∨
    signal.destination.toList.head? = some '*' ∧
      ¬ (signal.spawns ∨ signal.activates ∨ signal.deactivates) ∨
    signal.destination.toList.head? = some '+' ∧
      ¬ (signal.activates ∨ signal.deactivates) ∨
    signal.destination.toList.head? = some '-' ∧ ¬ signal.deactivates

/-- The conditions under which a signal can be written. -/
structure Signal.Writable (signal : Signal) : Prop where
  source : Text.Quotable signal.source ∧ Text.Trimmed signal.source
  destination : Text.Quotable signal.destination ∧ Text.Trimmed signal.destination
  caption : Text.OneLine signal.caption ∧ Text.Trimmed signal.caption
  /-- No arrow stands before the arrow. -/
  noArrow : ¬ ['-', '>'] <:+: signal.source.toList
  /-- The source does not make an undotted line dotted. -/
  noDash : signal.dotted = false → signal.source.toList.getLast? ≠ some '-'
  noFlag : ¬ signal.BeginsLikeFlag

mutual

/-- The conditions under which a clause can be written. -/
def Clause.Writable : Clause → Prop
  | .declaration kind caption nickname =>
      kind ∈ ActorKind.declared ∧ Text.Quotable caption ∧ caption ≠ "" ∧
        ¬ [' ', 'a', 's', ' '] <:+: caption.toList ∧
        ∀ name ∈ nickname, Text.Quotable name
  | .signal signal => signal.Writable
  | .note _ align location caption =>
      Text.Word align ∧ Text.SingleSpaced location ∧ Text.OneLine caption ∧
        Text.Trimmed caption
  | .noteBlock _ align location body =>
      Text.Word align ∧ Text.SingleSpaced location ∧
        ∀ line ∈ body, Text.OneLine line ∧
          (Text.cut [' '] (Text.trim line.toList)).1 ≠ ['e', 'n', 'd']
  | .conditional _ caption clauses others =>
      Text.OneLine caption ∧ Text.EndTrimmed caption ∧ Clause.AllWritable clauses ∧
        Branch.Writable others
  | .synchrony _ clauses _ => Clause.AllWritable clauses
  | .lifetime _ target =>
      Text.Quotable target ∧ Text.trim target.toList = target.toList
  | .numbering start => Text.OneLine start ∧ Text.EndTrimmed start
termination_by structural clause => clause

def Clause.AllWritable : List Clause → Prop
  | [] => True
  | clause :: rest => clause.Writable ∧ Clause.AllWritable rest
termination_by structural clauses => clauses

def Branch.Writable : List (Branch Clause) → Prop
  | [] => True
  | ⟨caption, clauses⟩ :: rest =>
      Text.OneLine caption ∧ Text.EndTrimmed caption ∧ Clause.AllWritable clauses ∧
        Branch.Writable rest
termination_by structural branches => branches

end

namespace Text

instance (blanks : List Char) : Decidable (Padding blanks) :=
  decidable_of_iff (blanks.all isBlank = true ∧ '\n' ∉ blanks) (by simp [Padding])

instance (line : List Char) : Decidable (Filler line) :=
  inferInstanceAs
    (Decidable ('\n' ∉ line ∧ (trim line = [] ∨ (trim line).head? = some '#')))

instance (text : String) : Decidable (OneLine text) :=
  inferInstanceAs (Decidable ('\n' ∉ text.toList))

instance (name : String) : Decidable (Quotable name) :=
  inferInstanceAs (Decidable ('"' ∉ name.toList ∧ OneLine name))

instance (text : String) : Decidable (Trimmed text) :=
  inferInstanceAs (Decidable (text ≠ "" ∧ trim text.toList = text.toList))

instance (text : String) : Decidable (EndTrimmed text) :=
  inferInstanceAs (Decidable (trimEnd text.toList = text.toList))

instance (text : String) : Decidable (Word text) :=
  decidable_of_iff
    (text ≠ "" ∧ ':' ∉ text.toList ∧ text.toList.all (fun char => !isBlank char) = true)
    (by simp [Word])

instance (text : String) : Decidable (SingleSpaced text) :=
  inferInstanceAs
    (Decidable
      (Quotable text ∧ Trimmed text ∧ ':' ∉ text.toList ∧
        [' '].intercalate (words text.toList) = text.toList))

end Text

namespace Signal

instance (signal : Signal) : Decidable signal.BeginsLikeFlag :=
  inferInstanceAs
    (Decidable
      (signal.destination.toList.head? = some '>' ∧
          ¬ (signal.openHead ∨ signal.spawns ∨ signal.activates ∨ signal.deactivates) ∨
        signal.destination.toList.head? = some '*' ∧
          ¬ (signal.spawns ∨ signal.activates ∨ signal.deactivates) ∨
        signal.destination.toList.head? = some '+' ∧
          ¬ (signal.activates ∨ signal.deactivates) ∨
        signal.destination.toList.head? = some '-' ∧ ¬ signal.deactivates))

theorem writable_iff (signal : Signal) :
    signal.Writable ↔
      (Text.Quotable signal.source ∧ Text.Trimmed signal.source) ∧
        (Text.Quotable signal.destination ∧ Text.Trimmed signal.destination) ∧
        (Text.OneLine signal.caption ∧ Text.Trimmed signal.caption) ∧
        ¬ ['-', '>'] <:+: signal.source.toList ∧
        (signal.dotted = false → signal.source.toList.getLast? ≠ some '-') ∧
        ¬ signal.BeginsLikeFlag := by
  constructor
  · rintro ⟨source, destination, caption, noArrow, noDash, noFlag⟩
    exact ⟨source, destination, caption, noArrow, noDash, noFlag⟩
  · rintro ⟨source, destination, caption, noArrow, noDash, noFlag⟩
    exact ⟨source, destination, caption, noArrow, noDash, noFlag⟩

instance (signal : Signal) : Decidable signal.Writable :=
  decidable_of_iff' _ signal.writable_iff

end Signal

mutual

def Clause.decideWritable : (clause : Clause) → Decidable clause.Writable
  | .declaration kind caption nickname =>
      inferInstanceAs
        (Decidable
          (kind ∈ ActorKind.declared ∧ Text.Quotable caption ∧ caption ≠ "" ∧
            ¬ [' ', 'a', 's', ' '] <:+: caption.toList ∧
            ∀ name ∈ nickname, Text.Quotable name))
  | .signal signal => inferInstanceAs (Decidable signal.Writable)
  | .note _ align location caption =>
      inferInstanceAs
        (Decidable
          (Text.Word align ∧ Text.SingleSpaced location ∧ Text.OneLine caption ∧
            Text.Trimmed caption))
  | .noteBlock _ align location body =>
      inferInstanceAs
        (Decidable
          (Text.Word align ∧ Text.SingleSpaced location ∧
            ∀ line ∈ body, Text.OneLine line ∧
              (Text.cut [' '] (Text.trim line.toList)).1 ≠ ['e', 'n', 'd']))
  | .conditional _ caption clauses others =>
      let _ := Clause.decideAllWritable clauses
      let _ := Branch.decideWritable others
      inferInstanceAs
        (Decidable
          (Text.OneLine caption ∧ Text.EndTrimmed caption ∧ Clause.AllWritable clauses ∧
            Branch.Writable others))
  | .synchrony _ clauses _ => Clause.decideAllWritable clauses
  | .lifetime _ target =>
      inferInstanceAs
        (Decidable (Text.Quotable target ∧ Text.trim target.toList = target.toList))
  | .numbering start =>
      inferInstanceAs (Decidable (Text.OneLine start ∧ Text.EndTrimmed start))
termination_by structural clause => clause

def Clause.decideAllWritable :
    (clauses : List Clause) → Decidable (Clause.AllWritable clauses)
  | [] => .isTrue trivial
  | clause :: rest =>
      let _ := clause.decideWritable
      let _ := Clause.decideAllWritable rest
      inferInstanceAs (Decidable (clause.Writable ∧ Clause.AllWritable rest))
termination_by structural clauses => clauses

def Branch.decideWritable :
    (branches : List (Branch Clause)) → Decidable (Branch.Writable branches)
  | [] => .isTrue trivial
  | ⟨caption, clauses⟩ :: rest =>
      let _ := Clause.decideAllWritable clauses
      let _ := Branch.decideWritable rest
      inferInstanceAs
        (Decidable
          (Text.OneLine caption ∧ Text.EndTrimmed caption ∧ Clause.AllWritable clauses ∧
            Branch.Writable rest))
termination_by structural branches => branches

end

instance (clauses : List Clause) : Decidable (Clause.AllWritable clauses) :=
  Clause.decideAllWritable clauses

end Lifeline
