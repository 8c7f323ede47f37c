import Lifeline.Scalar

/-!
# Events

What happens along the lifelines of a diagram is a list of events, in order.
A signal goes from one actor to another, an annotation is written beside one.
A conditional holds cases and a synchrony block holds events, so events form a
tree.  Lifetime and numbering markers stand in the list without being drawn.

Signals, annotations, conditionals and their cases carry the geometry that a
layout gave them last.  A signal or an annotation that was never placed has
none.  The statements about content are kept apart from geometry: `Signal` and
`Note` are what a script says, `SignalPlace` and `NotePlace` are where it
is drawn.

A tree is drawn part by part, and a `Pen` says what is drawn of each part.
-/

namespace Lifeline

/-- What an annotation is drawn as. -/
inductive NoteKind where
  | note
  | ref
  | state
  deriving DecidableEq

namespace NoteKind

def name : NoteKind → String
  | note => "note"
  | ref => "ref"
  | state => "state"

def all : List NoteKind := [note, ref, state]

def ofName? (word : String) : Option NoteKind :=
  all.find? (·.name == word)

end NoteKind

/-- What holds the cases of a conditional together. -/
inductive ConditionalKind where
  | alt
  | opt
  | loop
  | par
  | seq
  deriving DecidableEq

namespace ConditionalKind

def name : ConditionalKind → String
  | alt => "alt"
  | opt => "opt"
  | loop => "loop"
  | par => "par"
  | seq => "seq"

def all : List ConditionalKind := [alt, opt, loop, par, seq]

def ofName? (word : String) : Option ConditionalKind :=
  all.find? (·.name == word)

end ConditionalKind

/-- Whether the events of a synchrony block happen together or in turn. -/
inductive SynchronyKind where
  | parallel
  | serial
  deriving DecidableEq

namespace SynchronyKind

def name : SynchronyKind → String
  | parallel => "parallel"
  | serial => "serial"

def all : List SynchronyKind := [parallel, serial]

def ofName? (word : String) : Option SynchronyKind :=
  all.find? (·.name == word)

end SynchronyKind

inductive LifetimeKind where
  | activate
  | deactivate
  | destroy
  deriving DecidableEq

namespace LifetimeKind

def name : LifetimeKind → String
  | activate => "activate"
  | deactivate => "deactivate"
  | destroy => "destroy"

def all : List LifetimeKind := [activate, deactivate, destroy]

def ofName? (word : String) : Option LifetimeKind :=
  all.find? (·.name == word)

end LifetimeKind

structure Signal where
  caption : String
  source : String
  destination : String
  dotted : Bool := false
  openHead : Bool := false
  spawns : Bool := false
  activates : Bool := false
  deactivates : Bool := false
  deriving DecidableEq

/-- Where a signal is drawn.  The position is that of its caption, and the size
is the caption's. -/
structure SignalPlace (α : Type) where
  startX : Option α := none
  endX : Option α := none
  startY : Option α := none
  endY : Option α := none
  width : Option α := none
  height : Option α := none
  deriving DecidableEq

namespace SignalPlace

variable {α : Type}

def placed (place : SignalPlace α) : Bool :=
  place.startY.isSome

end SignalPlace

/-- Whether a signal comes back to where it starts.  Positions decide when it has
both, so that two names of one actor count as one; otherwise its names do. -/
def Signal.isSelf {α : Type} [BEq α] (signal : Signal) (place : SignalPlace α) :
    Bool :=
  match place.startX, place.endX with
  | some startX, some endX => startX == endX
  | _, _ => signal.source == signal.destination

/-- An annotation as a script states it.  It is multiline when its caption is
written on the lines that follow. -/
structure Note where
  kind : NoteKind
  caption : String
  align : String
  location : Option String
  multiline : Bool := false
  deriving DecidableEq

/-- Where an annotation is drawn, and how far inside its text begins. -/
structure NotePlace (α : Type) where
  x : Option α := none
  y : Option α := none
  width : Option α := none
  height : Option α := none
  textMarginX : α
  textMarginY : α
  deriving DecidableEq

namespace NotePlace

variable {α : Type}

def placed (place : NotePlace α) : Bool :=
  place.y.isSome

def unset [Scalar α] : NotePlace α where
  textMarginX := zero
  textMarginY := zero

end NotePlace

structure Frame (α : Type) where
  x : α
  y : α
  width : α
  height : α
  deriving DecidableEq

namespace Frame

def unset {α : Type} [Scalar α] : Frame α where
  x := zero
  y := zero
  width := zero
  height := zero

end Frame

/-- One case of a conditional, over a type of events. -/
structure Case (α ε : Type) where
  caption : String
  y : α
  height : α
  events : List ε

namespace Case

def unset {α ε : Type} [Scalar α] (caption : String) (events : List ε) :
    Case α ε where
  caption := caption
  y := zero
  height := zero
  events := events

end Case

inductive Event (α : Type) where
  | signal (signal : Signal) (place : SignalPlace α)
  | note (note : Note) (place : NotePlace α)
  | conditional (kind : ConditionalKind) (frame : Frame α)
      (cases : List (Case α (Event α)))
  | synchrony (kind : SynchronyKind) (events : List (Event α))
  | lifetime (kind : LifetimeKind) (target : String)
  | numbering (start : String)
  deriving Inhabited

section Placed

variable {α : Type} (signalTest : Signal → SignalPlace α → Bool)
  (noteTest : Note → NotePlace α → Bool)

mutual

/-- Whether the placed signals and annotations of one event pass their tests. -/
def Event.placedPass : Event α → Bool
  | .signal signal place => !place.placed || signalTest signal place
  | .note note place => !place.placed || noteTest note place
  | .conditional _ _ cases => Case.placedPass cases
  | .synchrony _ events => Event.allPlacedPass events
  | .lifetime _ _ => true
  | .numbering _ => true
termination_by structural event => event

def Event.allPlacedPass : List (Event α) → Bool
  | [] => true
  | event :: rest => event.placedPass && Event.allPlacedPass rest
termination_by structural events => events

def Case.placedPass : List (Case α (Event α)) → Bool
  | [] => true
  | ⟨_, _, _, events⟩ :: rest =>
      Event.allPlacedPass events && Case.placedPass rest
termination_by structural cases => cases

end

end Placed

/-- What is drawn of the parts of a tree.  A conditional comes to its frame and then
its cases, each below its heading, and all of that is enclosed. -/
structure Pen (α δ : Type) where
  signal : Signal → SignalPlace α → List δ
  note : Note → NotePlace α → List δ
  frame : ConditionalKind → Frame α → List δ
  /-- The heading of a case: its frame, whether it is the first, its position and
  its caption are given. -/
  heading : Frame α → Bool → α → String → List δ
  enclose : List δ → List δ := id

section Drawn

variable {α δ : Type} (pen : Pen α δ)

mutual

/-- What is drawn of one event and those inside it.  A signal or an annotation that
is not placed is left out. -/
def Event.draw : Event α → List δ
  | .signal signal place => if place.placed then pen.signal signal place else []
  | .note note place => if place.placed then pen.note note place else []
  | .conditional kind frame cases =>
      pen.enclose (pen.frame kind frame ++ Case.drawAll frame true cases)
  | .synchrony _ events => Event.drawAll events
  | .lifetime _ _ => []
  | .numbering _ => []
termination_by structural event => event

def Event.drawAll : List (Event α) → List δ
  | [] => []
  | event :: rest => event.draw ++ Event.drawAll rest
termination_by structural events => events

def Case.drawAll (frame : Frame α) (first : Bool) :
    List (Case α (Event α)) → List δ
  | [] => []
  | ⟨caption, y, _, events⟩ :: rest =>
      pen.heading frame first y caption ++ Event.drawAll events ++
        Case.drawAll frame false rest
termination_by structural cases => cases

end

end Drawn

end Lifeline
