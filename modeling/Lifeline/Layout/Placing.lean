import Lifeline.Directory
import Lifeline.Event
import Lifeline.Measure

/-!
# Placing events

Events are placed from top to bottom.  A cursor moves down past every signal and
annotation whose names resolve, by its height and a margin; what does not
resolve keeps whatever place it had and takes no room.

A conditional surrounds its cases with a frame as wide as the whole drawing.
Its cases follow each other without a gap.  A synchrony block leaves no trace:
its events are placed as if they stood in the list around it.

The cursor is lost below an event whose names resolve but whose height was never
measured.  That event still gets its position, and nothing after it is placed.
-/

namespace Lifeline

variable {α : Type} [Scalar α]

/-- The height of a frame: that of its cases together, and what every frame
has beyond. -/
def Frame.heightAround (sizes : Sizes α) {ε : Type} (cases : List (Case α ε)) :
    α :=
  cases.foldl (fun total placed => total + placed.height) sizes.frameMinHeight

variable (directory : Directory α) (sizes : Sizes α) (total : α)

mutual

/-- Place one event from a vertical position on, in a drawing of some total
width.  The position below it is returned with it, unless the cursor is lost. -/
def Event.place (y : α) : Event α → Event α × Option α
  | .signal signal place =>
      match directory.ends? signal.source signal.destination with
      | some (source, destination) =>
          (.signal signal
            { place with
              startX := some source.actor.laneX
              endX := some destination.actor.laneX
              startY := some y
              endY := some y },
            place.height.map fun height => y + (sizes.signalMargin + height))
      | none => (.signal signal place, some y)
  | .note note place =>
      match directory.anchor? note.location with
      | some entry =>
          (.note note
            { place with
              x := some (entry.actor.laneX + sizes.noteMarginX)
              y := some y
              textMarginX := sizes.noteTextMarginX
              textMarginY := sizes.noteTextMarginY },
            place.height.map fun height => y + (sizes.noteMarginY + height))
      | none => (.note note place, some y)
  | .conditional kind frame cases =>
      match Case.place (y + sizes.frameMarginItems) cases with
      | (placed, none) =>
          (.conditional kind { frame with x := zero, y := y } placed, none)
      | (placed, some bottom) =>
          let around :=
            { x := zero, y := y, width := total
              height := Frame.heightAround sizes placed }
          (.conditional kind around placed, some (bottom + sizes.frameMarginBottom))
  | .synchrony kind events =>
      let (placed, bottom) := Event.placeAll y events
      (.synchrony kind placed, bottom)
  | .lifetime kind target => (.lifetime kind target, some y)
  | .numbering start => (.numbering start, some y)
termination_by structural event => event

/-- Place a list of events, each below the one before. -/
def Event.placeAll (y : α) : List (Event α) → List (Event α) × Option α
  | [] => ([], some y)
  | event :: rest =>
      match event.place y with
      | (placed, none) => (placed :: rest, none)
      | (placed, some next) =>
          let (others, bottom) := Event.placeAll next rest
          (placed :: others, bottom)
termination_by structural events => events

/-- Place the cases of a conditional, each below the one before. -/
def Case.place (y : α) :
    List (Case α (Event α)) → List (Case α (Event α)) × Option α
  | [] => ([], some y)
  | ⟨caption, top, height, events⟩ :: rest =>
      match Event.placeAll y events with
      | (placed, none) => (⟨caption, top, height, placed⟩ :: rest, none)
      | (placed, some next) =>
          let (others, bottom) := Case.place next rest
          (⟨caption, y, next - y, placed⟩ :: others, bottom)
termination_by structural cases => cases

end

end Lifeline
