import Lifeline.Script.Statement

/-!
# Scripts

A script is text, one statement a line.  Reading it gives the actors in the
order in which they are first named and the tree of events, none of them laid
out yet.  Every text is a script; what it says in vain is listed as remarks.

A script is read line by line into a draft: the actors so far, the sequence of
events that is being filled, the blocks open around it, and the block annotation
whose lines are being collected.

A conditional is open in two steps.  It is *entered* while one of its cases is
filled.  Closing just that case, as a brace does, leaves the conditional
*exposed*: events still go to its last case, and closing once more completes it.
A line `else` closes what was opened last and begins another case if that exposes
a conditional.  A line `end` closes what was opened last, and if that exposes a
conditional, it closes the conditional as well.

Nothing is ever taken out of a draft, so however lines open and close blocks,
the events keep the order of the lines that state them.
-/

namespace Lifeline

/-- A block around the sequence that is being filled, with the events before the
block in the sequence around it. -/
inductive Block (α : Type) where
  | conditional (before : List (Event α)) (kind : ConditionalKind)
      (done : List (Case α (Event α))) (caption : String) (entered : Bool)
  | synchrony (before : List (Event α)) (kind : SynchronyKind)

namespace Block

variable {α : Type} [Scalar α]

/-- The sequence around a block, completed by the block with its innermost
sequence. -/
def complete : Block α → List (Event α) → List (Event α)
  | conditional before kind done caption _, inner =>
      before ++ [.conditional kind Frame.unset (done ++ [Case.unset caption inner])]
  | synchrony before kind, inner => before ++ [.synchrony kind inner]

omit [Scalar α] in
/-- How many closings a block takes. -/
def depth : Block α → Nat
  | conditional _ _ _ _ entered => if entered then 2 else 1
  | synchrony _ _ => 1

end Block

/-- A script read so far. -/
structure Draft (α : Type) where
  actors : List (Actor α) := []
  /-- The sequence that is being filled. -/
  events : List (Event α) := []
  /-- The blocks around it, innermost first. -/
  blocks : List (Block α) := []
  /-- The annotation whose lines are being collected; it will be the next
  event of the sequence. -/
  note : Option Note := none
  remarks : List Remark := []

namespace Draft

variable {α : Type} [Scalar α]

omit [Scalar α] in
def append (draft : Draft α) (events : List (Event α)) : Draft α :=
  { draft with events := draft.events ++ events }

omit [Scalar α] in
def remark (draft : Draft α) (remark : Remark) : Draft α :=
  { draft with remarks := draft.remarks ++ [remark] }

/-- Add an actor for a name that none of the actors answers to. -/
def mention (actors : List (Actor α)) (name : String) : List (Actor α) :=
  if actors.any (·.answersTo name) then actors
  else actors ++ [Actor.declare .participant name]

/-- Close what was opened last: the annotation being collected, else the case or
block being filled.  At the outermost level there is nothing to close. -/
def closeInnermost (draft : Draft α) : Draft α :=
  match draft.note, draft.blocks with
  | some note, _ =>
      { draft with
        events := draft.events ++ [.note note NotePlace.unset]
        note := none }
  | none, [] => draft
  | none, .conditional before kind done caption true :: outer =>
      { draft with
        blocks := .conditional before kind done caption false :: outer }
  | none, block :: outer =>
      { draft with events := block.complete draft.events, blocks := outer }

omit [Scalar α] in
def exposed (draft : Draft α) : Bool :=
  match draft.note, draft.blocks with
  | none, .conditional _ _ _ _ false :: _ => true
  | _, _ => false

/-- Close what was opened last and, if that exposes a conditional, the
conditional as well. -/
def close (draft : Draft α) : Draft α :=
  let closed := draft.closeInnermost
  if closed.exposed then closed.closeInnermost else closed

/-- Close what was opened last and begin another case of the conditional that
this exposes. -/
def alternative (draft : Draft α) (line caption : String) : Draft α :=
  let closed := draft.closeInnermost
  match closed.note, closed.blocks with
  | none, .conditional before kind done last false :: outer =>
      { closed with
        events := []
        blocks :=
          .conditional before kind (done ++ [Case.unset last closed.events])
            caption true :: outer }
  | _, _ => closed.remark (.strayAlternative line)

omit [Scalar α] in
def openConditional (draft : Draft α) (kind : ConditionalKind)
    (caption : String) : Draft α :=
  { draft with
    events := []
    blocks := .conditional draft.events kind [] caption true :: draft.blocks }

omit [Scalar α] in
def openSynchrony (draft : Draft α) (kind : SynchronyKind) : Draft α :=
  { draft with
    events := []
    blocks := .synchrony draft.events kind :: draft.blocks }

def annotate (draft : Draft α) (note : Note) : Draft α :=
  if note.multiline then { draft with note := some note }
  else draft.append [.note note NotePlace.unset]

def declare (draft : Draft α) (kind : ActorKind) (caption nickname : String) :
    Draft α :=
  if caption = "" then draft.remark (.unnamedActor kind)
  else
    { draft with
      actors := draft.actors ++ [Actor.declare kind caption nickname] }

def send (draft : Draft α) (signal : Signal) : Draft α :=
  { draft with
    events := draft.events ++ signal.events
    actors := mention (mention draft.actors signal.source) signal.destination }

/-- Take a line as a signal.  A line that is not one is left out, with a remark
unless it is empty. -/
def sendLine (draft : Draft α) (line : String) :
    Except Signal.Fault Signal → Draft α
  | .ok signal => draft.send signal
  | .error fault =>
      if line = "" then draft
      else
        match fault with
        | .shape => draft.remark (.unrecognizedLine line)
        | .unnamed => draft.remark (.unnamedEnd line)

def carryOut (draft : Draft α) (line : String) : Statement → Draft α
  | .close => draft.close
  | .declaration kind caption nickname => draft.declare kind caption nickname
  | .note note => draft.annotate note
  | .conditional kind caption => draft.openConditional kind caption
  | .alternative caption => draft.alternative line caption
  | .lifetime kind target => draft.append [.lifetime kind target]
  | .synchrony kind => draft.openSynchrony kind
  | .brace => draft.closeInnermost
  | .numbering start => draft.append [.numbering start]
  | .comment => draft
  | .signal result => draft.sendLine line result

/-- Read one line.  While an annotation is being collected every line but `end`
belongs to its caption. -/
def readLine (draft : Draft α) (line : List Char) : Draft α :=
  let trimmed := Text.trim line
  let statement := Statement.read trimmed
  match draft.note, statement with
  | some _, .close => draft.close
  | some note, _ =>
      { draft with
        note := some
          { note with
            caption := note.caption ++ String.ofList trimmed ++ "\n" } }
  | none, _ => draft.carryOut (String.ofList trimmed) statement

def readLines (draft : Draft α) (lines : List (List Char)) : Draft α :=
  lines.foldl readLine draft

def ofText (text : List Char) : Draft α :=
  readLines {} (Text.lines text)

omit [Scalar α] in
/-- How many closings the open blocks take, with that of an annotation being
collected. -/
def depth (draft : Draft α) : Nat :=
  draft.blocks.foldr (fun block total => block.depth + total)
    (if draft.note.isSome then 1 else 0)

/-- The whole sequence of events, with every open block completed. -/
def allEvents (draft : Draft α) : List (Event α) :=
  let innermost :=
    match draft.note with
    | some note => draft.events ++ [.note note NotePlace.unset]
    | none => draft.events
  draft.blocks.foldl (fun inner block => block.complete inner) innermost

omit [Scalar α] in
/-- Every remark, with one on the blocks that are still open. -/
def allRemarks (draft : Draft α) : List Remark :=
  if draft.depth = 0 then draft.remarks
  else draft.remarks ++ [.unclosedBlocks draft.depth]

end Draft

structure Diagram (α : Type) where
  actors : List (Actor α) := []
  events : List (Event α) := []

namespace Script

def read {α : Type} [Scalar α] (text : String) : Diagram α :=
  let draft := Draft.ofText text.toList
  { actors := draft.actors, events := draft.allEvents }

/-- The remarks on a script.  They do not depend on the numbers that a layout
would use. -/
def remarks (text : String) : List Remark :=
  (Draft.ofText text.toList : Draft Rat).allRemarks

end Script

end Lifeline
