import Lifeline.Layout.Gaps
import Lifeline.Layout.Placing
import Lifeline.Script

/-!
# Layout

A layout gives every actor a lane and every event that can be drawn a place.
The heads of the actors and the needs of the events decide the gaps between the
lanes; the lanes then decide where events are placed, from top to bottom.

A layout reads the captions and names of a diagram and nothing of an earlier
layout, so laying out a second time changes nothing.
-/

namespace Lifeline

variable {α : Type} [Scalar α]

namespace Actor

/-- An actor with the size of its head: a box around its caption, below a figure
if it is drawn as one. -/
def measured (measure : Measurer α) (sizes : Sizes α) (actor : Actor α) :
    Actor α :=
  let caption := measure actor.caption
  let figure :=
    match actor.kind with
    | .participant | .other _ => zero
    | .actor => sizes.figureHeight
  { actor with
    width := caption.width + twice sizes.padding
    height := caption.height + twice sizes.padding + figure }

/-- Give actors their lanes from a position on, each one gap further than the
one before.  The position after the last gap is returned with them. -/
def spread (sizes : Sizes α) (position : α) :
    List (Actor α) → List α → List (Actor α) × α
  | [], _ => ([], position)
  | actor :: rest, gaps =>
      let placed :=
        { actor with
          laneX := position
          x := position - half actor.width
          topY := sizes.padding }
      let (others, width) :=
        spread sizes (position + gaps.headD zero) rest gaps.tail
      (placed :: others, width)

def highest (actors : List (Actor α)) : α :=
  actors.foldl (fun height actor => larger height actor.height) zero

end Actor

namespace Diagram

omit [Scalar α] in
def directory (diagram : Diagram α) : Directory α :=
  Directory.ofActors diagram.actors

def clearances (measure : Measurer α) (sizes : Sizes α) (diagram : Diagram α) :
    List (Clearance α) :=
  Event.allClearances diagram.directory measure sizes diagram.events

def gaps (measure : Measurer α) (sizes : Sizes α) (diagram : Diagram α) :
    List α :=
  let heads := diagram.actors.map (Actor.measured measure sizes)
  Gaps.settle (Gaps.ofWidths sizes (heads.map Actor.width))
    (diagram.clearances measure sizes)

omit [Scalar α] in
def remarks (diagram : Diagram α) : List Remark :=
  Event.allRemarks diagram.directory diagram.events

/-- Lay out a diagram.  The size of the drawing is returned with it.  Whatever is
placed has been measured just before, so the cursor is never lost. -/
def layout (measure : Measurer α) (sizes : Sizes α) (diagram : Diagram α) :
    Diagram α × Extent α :=
  let heads := diagram.actors.map (Actor.measured measure sizes)
  let gaps := diagram.gaps measure sizes
  let (actors, width) :=
    Actor.spread sizes (gaps.headD zero) heads gaps.tail
  let events :=
    Event.allMeasured diagram.directory measure sizes diagram.events
  let top := Actor.highest heads + sizes.padding * ((2 : Nat) : α) + ((1 : Nat) : α)
  let (placed, cursor) :=
    Event.placeAll (Directory.ofActors actors) sizes width top events
  let bottom := cursor.getD top
  ({ actors := actors.map fun actor => { actor with bottomY := bottom }
     events := placed },
    { width := width, height := bottom + sizes.padding })

end Diagram

end Lifeline
