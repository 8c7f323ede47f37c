import Lifeline.Scalar

/-!
# Measures and sizes

A measurer gives the size of the rectangle that a caption takes up.  Drawings in
text count cells: a caption is as wide as its longest line and as high as it has
lines.

A drawing in pixels is measured with a font at some size.  One font is always
there, the built-in one, but no font is there at every size: what it comes to is
given from outside.

Sizes are the distances that a layout keeps.  There are two presets: one for
drawings in pixels, one for drawings in the cells of a text.
-/

namespace Lifeline

structure Extent (α : Type) where
  width : α
  height : α
  deriving DecidableEq

/-- How much room each caption takes. -/
abbrev Measurer (α : Type) := String → Extent α

namespace Measurer

variable {α : Type} [Scalar α]

def longest (lines : List (List Char)) : Nat :=
  (lines.map List.length).foldl max 0

def constant (extent : Extent α) : Measurer α :=
  fun _ => extent

def monospaced (character line : α) : Measurer α := fun caption =>
  let lines := Text.captionLines caption.toList
  { width := ((longest lines : Nat) : α) * character
    height := ((lines.length : Nat) : α) * line }

/-- The cells of a grid that a caption fills. -/
def cells : Measurer α := fun caption =>
  let lines := Text.captionLines caption.toList
  { width := ((longest lines : Nat) : α)
    height := ((lines.length : Nat) : α) }

end Measurer

/-- Why a font cannot be used. -/
inductive FontError where
  | notPositive (size : Int)
  | unreadable
  | unsupported
  | nullCharacter
  /-- The name of a font file is not text. -/
  | surrogate
  deriving DecidableEq

namespace FontError

def message : FontError → String
  | notPositive size =>
      "font size must be greater than 0, not " ++ toString size
  | unreadable => "cannot open resource"
  | unsupported => "unknown file format"
  | nullCharacter => "embedded null byte"
  | surrogate => "surrogates not allowed"

end FontError

/-- The built-in font: how captions are measured with it at a size. -/
abbrev BuiltinFont (α : Type) := Int → Except FontError (Measurer α)

/-- The distances that a layout keeps. -/
structure Sizes (α : Type) where
  /-- Between a box and its text, and between neighbouring boxes. -/
  padding : α
  signalMargin : α
  /-- Between a lifeline and an annotation beside it. -/
  noteMarginX : α
  noteMarginY : α
  noteTextMarginX : α
  noteTextMarginY : α
  /-- The height that a frame has beyond that of its cases. -/
  frameMinHeight : α
  frameMarginBottom : α
  /-- Between the top of a frame and its first case. -/
  frameMarginItems : α
  figureHeight : α
  deriving DecidableEq

namespace Sizes

variable {α : Type} [Scalar α]

/-- The distances of a drawing in pixels. -/
def pixels : Sizes α where
  padding := (10 : Nat)
  signalMargin := (50 : Nat)
  noteMarginX := (10 : Nat)
  noteMarginY := (20 : Nat)
  noteTextMarginX := (10 : Nat)
  noteTextMarginY := (10 : Nat)
  frameMinHeight := (20 : Nat)
  frameMarginBottom := (10 : Nat)
  frameMarginItems := (30 : Nat)
  figureHeight := (30 : Nat)

/-- The distances of a drawing in cells. -/
def cells : Sizes α where
  padding := (1 : Nat)
  signalMargin := (2 : Nat)
  noteMarginX := (1 : Nat)
  noteMarginY := (1 : Nat)
  noteTextMarginX := (1 : Nat)
  noteTextMarginY := (1 : Nat)
  frameMinHeight := (3 : Nat)
  frameMarginBottom := (1 : Nat)
  frameMarginItems := (3 : Nat)
  figureHeight := (1 : Nat)

end Sizes

end Lifeline
