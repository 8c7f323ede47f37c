import Lifeline.Actor
import Lifeline.Scalar
import Lifeline.Event
import Lifeline.Measure
import Lifeline.Svg.Element
import Lifeline.Text.Pieces

/-!
# Elements of a diagram

Each part of a diagram that was laid out in pixels is drawn by one group of
elements.  Within it shapes come before captions, so that the halo around a
caption covers the lines behind it.

An element that needs a position or a size to compute with cannot be drawn
without it: `signalDrawable` and `noteDrawable` say what is needed.  Where a size
is only copied into an attribute, the lack of it is written there.
-/

namespace Lifeline.Svg

structure Theme where
  foreground : String := "#000"
  background : String := "#fff"
  fontFamily : String := "Arial"
  fontSize : Int := 16
  deriving DecidableEq

def namespaceName : String := "http://www.w3.org/2000/svg"

def dashes : String := "4, 2"

section Shapes

variable {α : Type} [Scalar α]

def px (count : Nat) : α := (count : α)

def number (name : String) (value : α) : String × String :=
  (name, hundredths value)

/-- An attribute that is a number, or the lack of one. -/
def numberOrNone (name : String) (value : Option α) : String × String :=
  (name, (value.map hundredths).getD "None")

def shape (tag : String) (attributes : List (String × String)) : Element :=
  { tag := tag, attributes := attributes }

def group (attributes : List (String × String)) (children : List Element) :
    Element :=
  { tag := "g", attributes := attributes, children := children }

def line (x₁ y₁ x₂ y₂ : α) (attributes : List (String × String) := []) :
    Element :=
  shape "line"
    ([number "x1" x₁, number "y1" y₁, number "x2" x₂, number "y2" y₂] ++
      attributes)

def outline (theme : Theme) (width : String) : List (String × String) :=
  [("stroke", theme.foreground), ("stroke-width", width)]

def captionStyle (theme : Theme) : String :=
  "font-size: " ++ toString theme.fontSize ++ "px; font-family: " ++
    theme.fontFamily ++ "; fill: " ++ theme.foreground ++ "; stroke: " ++
    theme.background ++ "; stroke-width: 4; paint-order: stroke fill;"

/-- One line of a caption; every line but the first goes one font size further
down. -/
def span (x : α) (index : Nat) (content : String) : Element :=
  { tag := "tspan"
    attributes := [number "x" x, ("dy", if index = 0 then "0" else "1em")]
    text := content }

def caption (theme : Theme) (x y : α) (content : String)
    (anchor : String := "start") : Element :=
  { tag := "text"
    attributes :=
      [number "x" x, number "y" y, ("text-anchor", anchor),
        ("dominant-baseline", "hanging"), ("style", captionStyle theme)]
    children :=
      (Text.captionStrings content).zipIdx.map
        fun (content, index) => span x index content }

/-- Whether a caption is anywhere in a drawing. -/
def Element.captioned (drawing : Element) : Bool :=
  drawing.inOrder.any fun element => element.tag == "text"

end Shapes

/-- An arrowhead that lines refer to by its name. -/
def arrowhead (theme : Theme) (name path fill : String) : Element :=
  { tag := "marker"
    attributes :=
      [("id", name), ("viewBox", "0 -5 10 10"), ("refX", "5"), ("refY", "0"),
        ("markerWidth", "6"), ("markerHeight", "6"), ("orient", "auto")]
    children :=
      [shape "path"
        [("d", path), ("fill", fill), ("stroke", theme.foreground),
          ("stroke-width", "2px"), ("class", "arrowHead")]] }

def arrowheads (theme : Theme) : Element :=
  { tag := "defs"
    children :=
      [arrowhead theme "arrowClosedRight" "M0,-5L10,0L0,5" theme.foreground,
        arrowhead theme "arrowOpenRight" "M0,-5L10,0M10,0L0,5" "none",
        arrowhead theme "arrowClosedLeft" "M10,-5L0,0L10,5" theme.foreground,
        arrowhead theme "arrowOpenLeft" "M10,-5L0,0M0,0L10,5" "none"] }

variable {α : Type} [Scalar α]

/-- A stick figure hanging from a point. -/
def figure (theme : Theme) (x top : α) : Element :=
  group (outline theme "2px" ++ [("fill", "none")])
    [shape "circle"
        [number "cx" x, number "cy" (top + px 6), number "r" (px 6 : α)],
      line x (top + px 12) x (top + px 22),
      line x (top + px 16) (x - px 8) (top + px 12),
      line x (top + px 16) (x + px 8) (top + px 12),
      line x (top + px 22) (x - px 8) (top + px 30),
      line x (top + px 22) (x + px 8) (top + px 30)]

def headBox (theme : Theme) (actor : Actor α) : Element :=
  shape "rect"
    ([number "x" actor.x, number "y" actor.topY, number "width" actor.width,
        number "height" actor.height, ("fill", "none")] ++
      outline theme "2px")

def lifeline (theme : Theme) (sizes : Sizes α) (actor : Actor α) : Element :=
  let top := actor.topY + sizes.padding
  let (head, captionY) :=
    match actor.kind with
    | .actor => (figure theme actor.laneX actor.topY, top + sizes.figureHeight)
    | .participant | .other _ => (headBox theme actor, top)
  group []
    [head,
      line actor.laneX (actor.topY + actor.height) actor.laneX actor.bottomY
        (outline theme "1px"),
      caption theme (actor.x + sizes.padding) captionY actor.caption]

def signalOutline (theme : Theme) (signal : Signal) : List (String × String) :=
  let head := if signal.openHead then "Open" else "Closed"
  outline theme "2px" ++
    [("marker-end", "url(#arrow" ++ head ++ "Right)")] ++
    (if signal.dotted then [("stroke-dasharray", dashes)] else [])

/-- The path of a signal that comes back to its lane. -/
def hookPath (x y : α) : String :=
  "M " ++ hundredths x ++ " " ++ hundredths (y - px 10) ++
    " h 50 a 10 10 0 0 1 10 10 v 1 a 10 10 0 0 1 -10 10 h -44"

/-- Whether a signal can be drawn: where it starts and how high its caption is
are needed, and where it ends unless it comes back. -/
def signalDrawable (signal : Signal) (place : SignalPlace α) : Bool :=
  place.startX.isSome && place.height.isSome &&
    (signal.isSelf place || place.endX.isSome)

def signal (theme : Theme) (signal : Signal) (place : SignalPlace α) :
    Element :=
  let startX := place.startX.getD zero
  let endX := place.endX.getD zero
  let startY := place.startY.getD zero
  let height := place.height.getD zero
  if signal.isSelf place then
    group []
      [shape "path"
          (signalOutline theme signal ++
            [("fill", "none"), ("d", hookPath startX (startY + half height))]),
        caption theme (startX - px 5) startY signal.caption "end"]
  else
    let y := startY + height
    let tip := if startX < endX then endX - px 7 else endX + px 7
    group []
      [line startX y tip y (signalOutline theme signal),
        caption theme (half (startX + endX)) startY signal.caption "middle"]

/-- The outline of a note: its folded corner and the sheet. -/
def sheet (x y width height : α) : List Element :=
  [shape "path"
      [("d", "M " ++ hundredths (x + width - px 10) ++ "," ++
        hundredths (y + px 1) ++ " v 9 h 9")],
    shape "path"
      [("d", "M " ++ hundredths x ++ " " ++ hundredths y ++ " h " ++
        hundredths (width - px 10) ++ " l 10 10 v " ++
        hundredths (height - px 10) ++ " h " ++ hundredths (-width) ++ " z")]]

def noteOutline (kind : NoteKind) (x y : α) (width height : Option α) :
    List Element :=
  match kind with
  | .state =>
      [shape "rect"
        [number "x" x, number "y" y, ("rx", "10"), ("ry", "10"),
          numberOrNone "width" width, numberOrNone "height" height]]
  | .ref =>
      [shape "rect"
        [number "x" x, number "y" y, numberOrNone "width" width,
          numberOrNone "height" height]]
  | .note => sheet x y (width.getD zero) (height.getD zero)

/-- Whether an annotation can be drawn: its position is needed, and its size for
the folded corner of a note. -/
def noteDrawable (note : Note) (place : NotePlace α) : Bool :=
  place.x.isSome &&
    match note.kind with
    | .note => place.width.isSome && place.height.isSome
    | .ref | .state => true

def note (theme : Theme) (note : Note) (place : NotePlace α) : Element :=
  let x := place.x.getD zero
  let y := place.y.getD zero
  group ([("fill", "none")] ++ outline theme "2px")
    (noteOutline note.kind x y place.width place.height ++
      [caption theme (x + place.textMarginX) (y + place.textMarginY)
        note.caption])

/-- The width of the tab that says the kind of a conditional. -/
def tabWidth : α := px 40

/-- The frame of a conditional, and its kind in the tab. -/
def frame (theme : Theme) (sizes : Sizes α) (kind : ConditionalKind)
    (frame : Frame α) : List Element :=
  [group ([("fill", "none")] ++ outline theme "2px")
      [shape "path"
          [("d", "M " ++ hundredths (frame.x + tabWidth) ++ " " ++
            hundredths frame.y ++ " v 15 l -5 5 h -35")],
        shape "rect"
          [number "x" frame.x, number "y" frame.y,
            number "width" frame.width, number "height" frame.height]],
    caption theme (frame.x + half sizes.padding) (frame.y + px 3) kind.name]

def label (theme : Theme) (x y : α) (content : String) : List Element :=
  if content = "" then [] else [caption theme x y ("[" ++ content ++ "]")]

/-- The heading of a case.  That of the first case stands beside the tab; that of
any other stands below a line which divides it from the case before. -/
def heading (theme : Theme) (sizes : Sizes α) (frame : Frame α) (first : Bool)
    (y : α) (content : String) : List Element :=
  if first then
    label theme (frame.x + tabWidth + sizes.padding) (frame.y + px 3) content
  else
    let divider := y - sizes.padding
    line frame.x divider (frame.x + frame.width) divider
        (outline theme "2px" ++ [("stroke-dasharray", dashes)]) ::
      label theme (frame.x + sizes.padding) (divider + px 3) content

def pen (theme : Theme) (sizes : Sizes α) : Pen α Element where
  signal content place := [signal theme content place]
  note content place := [note theme content place]
  frame := frame theme sizes
  heading := heading theme sizes
  enclose inside := [group [] inside]

/-- The elements of events; those of a conditional stand in one group. -/
def eventList (theme : Theme) (sizes : Sizes α) (events : List (Event α)) :
    List Element :=
  Event.drawAll (pen theme sizes) events

end Lifeline.Svg
