import Lifeline.Text.Pieces

/-!
# Canvases and marks

A canvas is a grid of cells, each holding a string, that grows to the right and
downwards as cells are written.  A cell that was never written holds a blank.
Writing to a negative position does nothing.

The cells are kept by columns, all of one height.  A canvas may have no columns,
and it may have columns without cells.

A drawing on a canvas is a list of marks, each an ink at a position.  Marks are
made one after the other, so of two at one position the later one is seen.  The
inks can be anything: strings for a canvas, or roles that become characters only
when a style is chosen.
-/

namespace Lifeline

/-- A grid of cells, column by column from the left, each column from the
top. -/
structure Canvas where
  columns : Array (Array String)
  deriving DecidableEq

namespace Canvas

/-- What a cell holds that was never written. -/
def blank : String := " "

def empty : Canvas := ⟨#[]⟩

def ofSize (width height : Nat) : Canvas :=
  ⟨Array.replicate width (Array.replicate height blank)⟩

/-- The blank canvas whose last cell is at a position.  Where the position is
negative there is no column or no row. -/
def ofCorner (x y : Int) : Canvas :=
  ofSize (x + 1).toNat (y + 1).toNat

def width (canvas : Canvas) : Nat :=
  canvas.columns.size

def height (canvas : Canvas) : Nat :=
  (canvas.columns.getD 0 #[]).size

/-- The position of the last cell.  The canvas without columns counts as having
one row. -/
def corner (canvas : Canvas) : Int × Int :=
  ((canvas.width : Int) - 1,
    if canvas.width = 0 then 0 else (canvas.height : Int) - 1)

def get? (canvas : Canvas) (x y : Nat) : Option String :=
  canvas.columns[x]?.bind fun column => column[y]?

/-- Grow so that a position is inside, keeping every cell. -/
def grow (canvas : Canvas) (x y : Int) : Canvas :=
  let right := max x canvas.corner.1
  let bottom := max y canvas.corner.2
  ⟨(Array.range (right + 1).toNat).map fun column =>
    (Array.range (bottom + 1).toNat).map fun row =>
      (canvas.get? column row).getD blank⟩

/-- Write a cell, growing when it is outside.  A negative position is left
alone. -/
def put (canvas : Canvas) (x y : Int) (content : String) : Canvas :=
  if x < 0 || y < 0 then canvas
  else
    let roomy :=
      if (canvas.width : Int) ≤ x || (canvas.height : Int) ≤ y then
        canvas.grow x y
      else canvas
    ⟨roomy.columns.modify x.toNat fun column =>
      column.setIfInBounds y.toNat content⟩

def row (canvas : Canvas) (y : Nat) : List Char :=
  canvas.columns.toList.flatMap fun column => (column.getD y "").toList

/-- The rows without the blanks at their ends, one a line, and without the empty
lines at the end. -/
def chars (canvas : Canvas) : List Char :=
  let rows := (List.range canvas.height).map fun y => Text.trimEnd (canvas.row y)
  ((['\n'].intercalate rows).reverse.dropWhile (· == '\n')).reverse

def text (canvas : Canvas) : String :=
  String.ofList canvas.chars

end Canvas

structure Mark (β : Type) where
  x : Int
  y : Int
  ink : β
  deriving DecidableEq

structure BoxInks (β : Type) where
  across : β
  down : β
  topLeft : β
  topRight : β
  bottomLeft : β
  bottomRight : β

namespace Mark

variable {β γ : Type}

def map (change : β → γ) (mark : Mark β) : Mark γ :=
  ⟨mark.x, mark.y, change mark.ink⟩

/-- The whole numbers from one up to, but not including, another. -/
def range (first last : Int) : List Int :=
  (List.range (last - first).toNat).map fun (index : Nat) => first + index

def ofLine (letter : Char → β) (x y : Int) (line : List Char) : List (Mark β) :=
  line.zipIdx.map fun (char, index) => ⟨x + index, y, letter char⟩

/-- A caption, one line a row. -/
def ofCaption (letter : Char → β) (x y : Int) (caption : String) :
    List (Mark β) :=
  (Text.captionLines caption.toList).zipIdx.flatMap fun (line, index) =>
    ofLine letter x (y + index) line

/-- The border of a box of some width and height: first its sides, then its
corners. -/
def ofBox (inks : BoxInks β) (x y width height : Int) : List (Mark β) :=
  let right := x + width - 1
  let bottom := y + height - 1
  ((range 1 (width - 1)).flatMap fun step =>
    [⟨x + step, y, inks.across⟩, ⟨x + step, bottom, inks.across⟩]) ++
  ((range 1 (height - 1)).flatMap fun step =>
    [⟨x, y + step, inks.down⟩, ⟨right, y + step, inks.down⟩]) ++
  [⟨x, y, inks.topLeft⟩, ⟨right, y, inks.topRight⟩,
    ⟨x, bottom, inks.bottomLeft⟩, ⟨right, bottom, inks.bottomRight⟩]

end Mark

def Canvas.draw (canvas : Canvas) (marks : List (Mark String)) : Canvas :=
  marks.foldl (fun drawn mark => drawn.put mark.x mark.y mark.ink) canvas

end Lifeline
