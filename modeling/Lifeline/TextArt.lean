import Lifeline.Layout
import Lifeline.TextArt.Marks

/-!
# Drawings in text

A diagram that was laid out in cells is drawn by making its marks on a canvas,
the actors first and then the events, and reading the canvas row by row.

A diagram that was put together by hand may lack a position that is needed.
`Diagram.textArt?` says so; a layout leaves nothing out.
-/

namespace Lifeline

variable {α : Type} [Scalar α]

namespace Diagram

/-- The marks of a diagram: those of its actors, then those of its events. -/
def marks (diagram : Diagram α) : List (Mark Ink) :=
  diagram.actors.flatMap Actor.marks ++ Event.allMarks diagram.events

def startCanvas (extent : Extent α) : Canvas :=
  Canvas.ofCorner (max (ceil extent.width - 1) 0) (ceil extent.height + 1)

def canvas (style : Style) (extent : Extent α) (diagram : Diagram α) : Canvas :=
  (startCanvas extent).draw (diagram.marks.map (Mark.map (Ink.text style)))

/-- Whether everything in a diagram that is placed can be drawn by marks. -/
def markable (diagram : Diagram α) : Bool :=
  Event.allPlacedPass Signal.markable (fun _ _ => true) diagram.events

/-- A diagram as text.  There is nothing to draw without actors and events. -/
def textArt (style : Style) (extent : Extent α) (diagram : Diagram α) : String :=
  if diagram.actors.isEmpty && diagram.events.isEmpty then ""
  else (diagram.canvas style extent).text

/-- A diagram as text, unless something in it cannot be drawn. -/
def textArt? (style : Style) (extent : Extent α) (diagram : Diagram α) :
    Option String :=
  if diagram.markable then some (diagram.textArt style extent) else none

end Diagram

def Script.textArt {α : Type} [Scalar α] (style : Style) (text : String) :
    String :=
  let (diagram, extent) :=
    (Script.read text : Diagram α).layout Measurer.cells Sizes.cells
  diagram.textArt style extent

end Lifeline
