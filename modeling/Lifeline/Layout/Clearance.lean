import Lifeline.Directory
import Lifeline.Event
import Lifeline.Measure
import Lifeline.Script.Statement

/-!
# Clearances

An event needs room between two lanes.  A signal needs it between the lanes of
its ends, an annotation between its lane and the next.  What needs how much is
listed in the order of the tree, and the same walk records the size of every
caption that is going to be drawn.

Events that name an actor the diagram does not have need no room.  They are left
as they are, and a remark says so.
-/

namespace Lifeline

/-- Two lanes with the distance that an event needs between them. -/
structure Clearance (α : Type) where
  first : Nat
  second : Nat
  room : α
  deriving DecidableEq

section Remarks

variable {α : Type} (directory : Directory α)

mutual

/-- Remarks on one event and those inside it that cannot be drawn. -/
def Event.remarks : Event α → List Remark
  | .signal signal _ =>
      match directory.ends? signal.source signal.destination with
      | some _ => []
      | none => [.unknownEnd signal.source signal.destination]
  | .note note _ =>
      match directory.anchor? note.location with
      | some _ => []
      | none => [.unanchored note.kind note.location]
  | .conditional _ _ cases => Case.remarks cases
  | .synchrony _ events => Event.allRemarks events
  | .lifetime _ _ => []
  | .numbering _ => []
termination_by structural event => event

def Event.allRemarks : List (Event α) → List Remark
  | [] => []
  | event :: rest => event.remarks ++ Event.allRemarks rest
termination_by structural events => events

def Case.remarks : List (Case α (Event α)) → List Remark
  | [] => []
  | ⟨_, _, _, events⟩ :: rest => Event.allRemarks events ++ Case.remarks rest
termination_by structural cases => cases

end

end Remarks

variable {α : Type} [Scalar α]

/-- The size of an annotation: that of its caption with padding all around. -/
def Note.extent (measure : Measurer α) (sizes : Sizes α)
    (note : Note) : Extent α :=
  let caption := measure note.caption
  { width := caption.width + twice sizes.padding
    height := caption.height + twice sizes.padding }

section Clearances

variable (directory : Directory α) (measure : Measurer α) (sizes : Sizes α)

mutual

/-- What one event and those inside it need. -/
def Event.clearances : Event α → List (Clearance α)
  | .signal signal _ =>
      match directory.ends? signal.source signal.destination with
      | some (source, destination) =>
          [⟨source.lane, destination.lane,
            (measure signal.caption).width + twice sizes.padding⟩]
      | none => []
  | .note note _ =>
      match directory.anchor? note.location with
      | some entry =>
          [⟨entry.lane, entry.lane + 1,
            (note.extent measure sizes).width + twice sizes.padding⟩]
      | none => []
  | .conditional _ _ cases => Case.clearances cases
  | .synchrony _ events => Event.allClearances events
  | .lifetime _ _ => []
  | .numbering _ => []
termination_by structural event => event

def Event.allClearances : List (Event α) → List (Clearance α)
  | [] => []
  | event :: rest => event.clearances ++ Event.allClearances rest
termination_by structural events => events

def Case.clearances : List (Case α (Event α)) → List (Clearance α)
  | [] => []
  | ⟨_, _, _, events⟩ :: rest =>
      Event.allClearances events ++ Case.clearances rest
termination_by structural cases => cases

end

mutual

/-- An event with the sizes of what is going to be drawn. -/
def Event.measured : Event α → Event α
  | .signal signal place =>
      match directory.ends? signal.source signal.destination with
      | some _ =>
          let caption := measure signal.caption
          .signal signal
            { place with
              width := some caption.width, height := some caption.height }
      | none => .signal signal place
  | .note note place =>
      match directory.anchor? note.location with
      | some _ =>
          let extent := note.extent measure sizes
          .note note
            { place with
              width := some extent.width, height := some extent.height }
      | none => .note note place
  | .conditional kind frame cases =>
      .conditional kind frame (Case.measured cases)
  | .synchrony kind events => .synchrony kind (Event.allMeasured events)
  | .lifetime kind target => .lifetime kind target
  | .numbering start => .numbering start
termination_by structural event => event

def Event.allMeasured : List (Event α) → List (Event α)
  | [] => []
  | event :: rest => event.measured :: Event.allMeasured rest
termination_by structural events => events

def Case.measured : List (Case α (Event α)) → List (Case α (Event α))
  | [] => []
  | ⟨caption, y, height, events⟩ :: rest =>
      ⟨caption, y, height, Event.allMeasured events⟩ :: Case.measured rest
termination_by structural cases => cases

end

end Clearances

end Lifeline
