import Lifeline.Layout
import Lifeline.Svg.Drawing
import Lifeline.Text.Escape

/-!
# Vector drawings

A diagram that was laid out in pixels is drawn as one element: the arrowheads,
then the actors, then the events.  The drawing of a script can also be given as
a URI that carries it as data.

A diagram that was put together by hand may lack a position or a size that is
needed.  `Diagram.svg?` says so; a layout leaves nothing out.
-/

namespace Lifeline

/-- The drawing of a diagram as an element. -/
def Diagram.svg {α : Type} [Scalar α] (theme : Svg.Theme) (sizes : Sizes α)
    (extent : Extent α) (diagram : Diagram α) : Svg.Element where
  tag := "svg"
  attributes :=
    [("xmlns", Svg.namespaceName), Svg.number "width" extent.width,
      Svg.number "height" extent.height, ("overflow", "visible")]
  children :=
    Svg.arrowheads theme ::
      (diagram.actors.map (Svg.lifeline theme sizes) ++
        Svg.eventList theme sizes diagram.events)

/-- Whether everything in a diagram that is placed can be drawn by elements. -/
def Diagram.drawable {α : Type} [Scalar α] (diagram : Diagram α) : Bool :=
  Event.allPlacedPass Svg.signalDrawable Svg.noteDrawable diagram.events

/-- The drawing of a diagram as an element, unless something in it cannot be
drawn. -/
def Diagram.svg? {α : Type} [Scalar α] (theme : Svg.Theme) (sizes : Sizes α)
    (extent : Extent α) (diagram : Diagram α) : Option Svg.Element :=
  if diagram.drawable then some (diagram.svg theme sizes extent) else none

namespace Script

variable {α : Type} [Scalar α]

def svgElement (theme : Svg.Theme) (measure : Measurer α) (text : String) :
    Svg.Element :=
  let (diagram, extent) := (Script.read text).layout measure Sizes.pixels
  diagram.svg theme Sizes.pixels extent

def svg (theme : Svg.Theme) (measure : Measurer α) (text : String) : String :=
  (svgElement theme measure text).render

def svgUri (theme : Svg.Theme) (measure : Measurer α) (text : String) : String :=
  "data:image/svg+xml," ++ Text.percentEncode (svg theme measure text)

end Script

end Lifeline
