import Lifeline.Actor
import Lifeline.Event
import Lifeline.TextArt.Glyph

/-!
# Marks of a diagram

Each part of a diagram that was laid out is drawn by marks.  Positions are taken
down to whole cells, and a position that is missing counts as zero.

Marks do not depend on the style or on the canvas they will be made on.
-/

namespace Lifeline

variable {α : Type} [Scalar α]

/-- The cell of a position, or cell zero without one. -/
def cell (position : Option α) : Int :=
  (position.map floor).getD 0

/-- The cells that a position may take up, rounded up; none without one. -/
def cellCeil (position : Option α) : Int :=
  (position.map ceil).getD 0

def written (x y : Int) (caption : String) : List (Mark Ink) :=
  Mark.ofCaption .letter x y caption

namespace Actor

/-- A stick figure standing on a lane, above its name. -/
def figureMarks (lane y : Int) : List (Mark Ink) :=
  Mark.ofLine .letter (lane - 2) y ['.', '_', 'O', '_', '.'] ++
    [⟨lane, y + 1, .letter '|'⟩, ⟨lane - 1, y + 2, .letter '/'⟩,
      ⟨lane + 1, y + 2, .letter '\\'⟩]

def headMarks (actor : Actor α) : List (Mark Ink) :=
  let x := floor actor.x
  let y := floor actor.topY
  let width := floor actor.width
  let height := floor actor.height
  let lane := floor actor.laneX
  match actor.kind with
  | .actor =>
      figureMarks lane y ++ written (x + 1) (y + 3) actor.caption
  | .participant | .other _ =>
      Mark.ofBox (Ink.heavyBox .boxTopRight) x y width height ++
        [⟨lane, y + height - 1, .glyph .tee⟩] ++
        written (x + 1) (y + 1) actor.caption

def lifelineMarks (actor : Actor α) : List (Mark Ink) :=
  (Mark.range (floor actor.topY + floor actor.height)
      (floor actor.bottomY + 1)).map fun row =>
    ⟨floor actor.laneX, row, .glyph .lifeline⟩

/-- A head and the line below it. -/
def marks (actor : Actor α) : List (Mark Ink) :=
  actor.headMarks ++ actor.lifelineMarks

end Actor

namespace Signal

def strokeGlyph (signal : Signal) : Glyph :=
  if signal.dotted then .dottedStroke else .stroke

def rightHead (signal : Signal) : Glyph :=
  if signal.openHead then .openRight else .closedRight

def leftHead (signal : Signal) : Glyph :=
  if signal.openHead then .openLeft else .closedLeft

def hookMarks (signal : Signal) (lane y : Int) : List (Mark Ink) :=
  [⟨lane + 1, y - 1, .glyph signal.strokeGlyph⟩,
    ⟨lane + 2, y - 1, .glyph signal.strokeGlyph⟩,
    ⟨lane + 3, y - 1, .glyph .loopTop⟩,
    ⟨lane + 3, y, .glyph .loopBottom⟩,
    ⟨lane + 2, y, .glyph signal.strokeGlyph⟩,
    ⟨lane + 1, y, .glyph signal.leftHead⟩]

def arrowMarks (signal : Signal) (startX endX y : Int) : List (Mark Ink) :=
  (Mark.range (min startX endX + 1) (max startX endX)).map
      (fun x => (⟨x, y, .glyph signal.strokeGlyph⟩ : Mark Ink)) ++
    [if startX < endX then ⟨endX - 1, y, .glyph signal.rightHead⟩
      else ⟨endX + 1, y, .glyph signal.leftHead⟩]

/-- Whether a signal can be drawn by marks.  Its caption stands midway between
its lanes, so a signal between two lanes needs the positions of both. -/
def markable (signal : Signal) (place : SignalPlace α) : Bool :=
  signal.isSelf place || (place.startX.isSome && place.endX.isSome)

def marks (signal : Signal) (place : SignalPlace α) : List (Mark Ink) :=
  let startX := cell place.startX
  let endX := cell place.endX
  let y := cell place.startY
  let lineY := y + max (cell place.height) 1
  if signal.isSelf place then
    signal.hookMarks startX lineY ++
      written (startX - cellCeil place.width) y signal.caption
  else
    let middle := half (place.startX.getD zero + place.endX.getD zero)
    signal.arrowMarks startX endX lineY ++
      written (floor middle - floor (half (place.width.getD zero))) y
        signal.caption

end Signal

def NoteKind.inks : NoteKind → BoxInks Ink
  | .state => Ink.roundBox
  | .ref => Ink.thinBox
  | .note => Ink.heavyBox .fold

def Note.marks (note : Note) (place : NotePlace α) : List (Mark Ink) :=
  let x := cell place.x
  let y := cell place.y
  Mark.ofBox note.kind.inks x y (cell place.width) (cell place.height) ++
    written (x + floor place.textMarginX) (y + floor place.textMarginY)
      note.caption

/-- A caption in brackets, unless it is empty. -/
def bracketed (x y : Int) (caption : String) : List (Mark Ink) :=
  if caption = "" then [] else written x y ("[" ++ caption ++ "]")

/-- The frame of a conditional with a tab that says its kind. -/
def Frame.marks (kind : ConditionalKind) (frame : Frame α) : List (Mark Ink) :=
  let x := floor frame.x
  let y := floor frame.y
  Mark.ofBox (Ink.heavyBox .boxTopRight) x y (floor frame.width)
      (floor frame.height) ++
    [⟨x + 6, y, .glyph .tee⟩, ⟨x + 6, y + 1, .glyph .thinDown⟩,
      ⟨x, y + 2, .glyph .tabJoin⟩] ++
    ((Mark.range 1 6).map fun step => ⟨x + step, y + 2, .glyph .thinAcross⟩) ++
    [⟨x + 6, y + 2, .glyph .tabCorner⟩] ++
    written (x + 2) (y + 1) kind.name

/-- The heading of a case.  That of the first case stands beside the tab; that of
any other stands on a line which divides it from the case before. -/
def Frame.headingMarks (frame : Frame α) (first : Bool) (y : α)
    (caption : String) : List (Mark Ink) :=
  let left := floor frame.x
  if first then bracketed (left + 8) (floor frame.y + 1) caption
  else
    let line := floor y - 1
    ((Mark.range 1 (floor frame.width - 1)).map fun step =>
        ⟨left + step, line, .glyph .divider⟩) ++
      bracketed (left + 2) line caption

def Mark.pen : Pen α (Mark Ink) where
  signal := Signal.marks
  note := Note.marks
  frame kind frame := frame.marks kind
  heading := Frame.headingMarks

def Event.marks (event : Event α) : List (Mark Ink) :=
  event.draw Mark.pen

def Event.allMarks (events : List (Event α)) : List (Mark Ink) :=
  Event.drawAll Mark.pen events

def Case.marks (frame : Frame α) (first : Bool)
    (cases : List (Case α (Event α))) : List (Mark Ink) :=
  Case.drawAll Mark.pen frame first cases

theorem Event.marks_signal (signal : Signal) (place : SignalPlace α) :
    (Event.signal signal place).marks =
      if place.placed then signal.marks place else [] :=
  rfl

theorem Event.marks_note (note : Note) (place : NotePlace α) :
    (Event.note note place).marks =
      if place.placed then note.marks place else [] :=
  rfl

theorem Event.marks_conditional (kind : ConditionalKind) (frame : Frame α)
    (cases : List (Case α (Event α))) :
    (Event.conditional kind frame cases).marks =
      frame.marks kind ++ Case.marks frame true cases :=
  rfl

theorem Event.allMarks_cons (event : Event α) (rest : List (Event α)) :
    Event.allMarks (event :: rest) = event.marks ++ Event.allMarks rest :=
  rfl

theorem Case.marks_cons (frame : Frame α) (first : Bool)
    (headed : Case α (Event α)) (rest : List (Case α (Event α))) :
    Case.marks frame first (headed :: rest) =
      frame.headingMarks first headed.y headed.caption ++
        Event.allMarks headed.events ++ Case.marks frame false rest :=
  rfl

end Lifeline
