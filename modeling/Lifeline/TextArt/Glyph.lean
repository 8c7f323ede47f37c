import Lifeline.Canvas

/-!
# Glyphs

A drawing in text is made of glyphs and of letters.  A glyph is a part of a
line, a frame or an arrow, and each style has a character for it; a letter
stands for itself in every style.
-/

namespace Lifeline

/-- The characters that glyphs are drawn with. -/
inductive Style where
  /-- Box-drawing characters. -/
  | unicode
  /-- Characters of ASCII alone. -/
  | ascii
  deriving DecidableEq

/-- The parts that a drawing is put together from. -/
inductive Glyph where
  | boxAcross
  | boxDown
  | boxTopLeft
  | boxTopRight
  | boxBottomLeft
  | boxBottomRight
  /-- Where a lifeline leaves a box, or the tab of a frame its border. -/
  | tee
  | lifeline
  | stroke
  | dottedStroke
  | closedRight
  | closedLeft
  | openRight
  | openLeft
  | loopTop
  | loopBottom
  /-- The folded corner of a note. -/
  | fold
  | divider
  | tabJoin
  | tabCorner
  | thinAcross
  | thinDown
  | thinTopLeft
  | thinTopRight
  | thinBottomLeft
  | thinBottomRight
  | roundTopLeft
  | roundTopRight
  | roundBottomLeft
  | roundBottomRight
  deriving DecidableEq

namespace Glyph

def unicode : Glyph → Char
  | boxAcross => '═'
  | boxDown => '║'
  | boxTopLeft => '╔'
  | boxTopRight => '╗'
  | boxBottomLeft => '╚'
  | boxBottomRight => '╝'
  | tee => '╤'
  | lifeline => '│'
  | stroke => '─'
  | dottedStroke => '╌'
  | closedRight => '►'
  | closedLeft => '◄'
  | openRight => '>'
  | openLeft => '<'
  | loopTop => '┐'
  | loopBottom => '┘'
  | fold => '·'
  | divider => '┈'
  | tabJoin => '╟'
  | tabCorner => '╯'
  | thinAcross => '─'
  | thinDown => '│'
  | thinTopLeft => '┌'
  | thinTopRight => '┐'
  | thinBottomLeft => '└'
  | thinBottomRight => '┘'
  | roundTopLeft => '╭'
  | roundTopRight => '╮'
  | roundBottomLeft => '╰'
  | roundBottomRight => '╯'

def ascii : Glyph → Char
  | boxAcross => '='
  | boxDown => '|'
  | boxTopLeft | boxTopRight | boxBottomLeft | boxBottomRight => '+'
  | tee => '+'
  | lifeline => '|'
  | stroke => '-'
  | dottedStroke => '.'
  | closedRight | openRight => '>'
  | closedLeft | openLeft => '<'
  | loopTop | loopBottom => '+'
  | fold => '.'
  | divider => '.'
  | tabJoin | tabCorner => '+'
  | thinAcross => '-'
  | thinDown => '|'
  | thinTopLeft | thinTopRight | thinBottomLeft | thinBottomRight => '+'
  | roundTopLeft | roundTopRight => '.'
  | roundBottomLeft | roundBottomRight => '\''

def char : Style → Glyph → Char
  | .unicode => unicode
  | .ascii => ascii

end Glyph

/-- What a mark of a drawing shows. -/
inductive Ink where
  | glyph (glyph : Glyph)
  | letter (char : Char)
  deriving DecidableEq

namespace Ink

def char (style : Style) : Ink → Char
  | glyph shape => shape.char style
  | letter char => char

def text (style : Style) (ink : Ink) : String :=
  String.singleton (ink.char style)

/-- The border of heads, frames and notes; a note has a folded corner. -/
def heavyBox (corner : Glyph) : BoxInks Ink where
  across := glyph .boxAcross
  down := glyph .boxDown
  topLeft := glyph .boxTopLeft
  topRight := glyph corner
  bottomLeft := glyph .boxBottomLeft
  bottomRight := glyph .boxBottomRight

def thinBox : BoxInks Ink where
  across := glyph .thinAcross
  down := glyph .thinDown
  topLeft := glyph .thinTopLeft
  topRight := glyph .thinTopRight
  bottomLeft := glyph .thinBottomLeft
  bottomRight := glyph .thinBottomRight

def roundBox : BoxInks Ink where
  across := glyph .thinAcross
  down := glyph .thinDown
  topLeft := glyph .roundTopLeft
  topRight := glyph .roundTopRight
  bottomLeft := glyph .roundBottomLeft
  bottomRight := glyph .roundBottomRight

end Ink

end Lifeline
