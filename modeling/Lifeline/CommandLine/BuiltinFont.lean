import Lifeline.CommandLine

/-!
# The built-in font

Vector drawings are measured with a proportional font that is always there.  Its
advances are whole pixels and there is no kerning, so a line is as wide as the
advances of its characters together, and a caption as wide as its widest line.
Lines are stacked one font size apart, and the last one takes a full line
height.

Hinted advances are known for six sizes and for the printable characters of
ASCII.  Other sizes scale those of the default size, and other characters are
taken to be as wide as a question mark.

There is no other font to measure with.  Font files are looked for, and whatever
is found is in no format that is known.
-/

namespace Lifeline

/-- The measures of the built-in font at one size, in pixels. -/
structure FontMetrics where
  size : Nat
  /-- Ascent and descent together. -/
  lineHeight : Nat
  /-- The advances of the characters from the space to the tilde. -/
  advances : Array Nat

namespace FontMetrics

def hinted : List FontMetrics := [
  { size := 8
    lineHeight := 10
    advances := #[
      2, 1, 3, 5, 4, 6, 5, 1, 3, 3, 5, 5, 2, 2, 2, 2, 5, 5, 5, 5, 5, 5, 5,
      5, 5, 5, 2, 2, 5, 5, 5, 4, 6, 5, 5, 5, 6, 5, 5, 6, 7, 3, 4, 5, 5, 8,
      7, 5, 5, 5, 5, 5, 5, 5, 5, 8, 5, 5, 6, 3, 2, 3, 5, 4, 2, 5, 4, 4, 5,
      5, 2, 5, 4, 2, 2, 4, 2, 5, 4, 4, 4, 5, 2, 5, 3, 5, 4, 6, 4, 4, 5, 3,
      3, 3, 5] },
  { size := 10
    lineHeight := 13
    advances := #[
      2, 3, 3, 6, 7, 7, 7, 1, 4, 3, 7, 7, 2, 3, 2, 3, 6, 6, 6, 6, 6, 6, 6,
      6, 6, 6, 2, 2, 6, 6, 6, 4, 10, 6, 6, 7, 7, 6, 6, 7, 8, 3, 6, 6, 6, 9,
      8, 7, 6, 7, 6, 6, 6, 7, 6, 10, 6, 6, 7, 3, 3, 3, 6, 5, 3, 5, 6, 5, 6,
      6, 3, 6, 7, 3, 3, 6, 3, 9, 7, 5, 6, 6, 4, 4, 3, 7, 5, 8, 5, 5, 6, 3,
      3, 3, 6] },
  { size := 12
    lineHeight := 15
    advances := #[
      3, 3, 4, 7, 7, 9, 8, 3, 4, 4, 7, 7, 3, 3, 3, 4, 7, 7, 7, 7, 7, 7, 7,
      7, 7, 7, 3, 3, 7, 7, 7, 6, 11, 8, 7, 9, 8, 7, 7, 9, 9, 3, 7, 7, 7,
      10, 8, 9, 7, 9, 7, 6, 8, 8, 7, 11, 8, 7, 8, 4, 4, 4, 7, 6, 4, 7, 7,
      7, 8, 7, 3, 8, 7, 3, 3, 6, 3, 11, 7, 7, 7, 8, 4, 6, 4, 7, 6, 9, 6, 6,
      7, 4, 3, 3, 7] },
  { size := 16
    lineHeight := 20
    advances := #[
      3, 4, 5, 9, 9, 12, 11, 3, 6, 5, 9, 10, 4, 4, 3, 5, 9, 9, 9, 9, 9, 9,
      9, 9, 9, 9, 3, 3, 10, 9, 9, 9, 14, 10, 11, 11, 12, 10, 10, 12, 12, 5,
      9, 10, 10, 14, 12, 12, 11, 12, 11, 9, 10, 11, 10, 15, 10, 9, 10, 6,
      5, 5, 9, 8, 5, 9, 10, 9, 10, 9, 6, 10, 9, 4, 4, 8, 4, 14, 9, 10, 10,
      10, 5, 8, 6, 9, 8, 13, 8, 8, 8, 5, 5, 6, 9] },
  { size := 20
    lineHeight := 25
    advances := #[
      4, 5, 7, 11, 12, 15, 13, 4, 6, 6, 11, 12, 4, 6, 5, 6, 12, 12, 12, 12,
      12, 12, 12, 12, 12, 12, 5, 5, 12, 12, 11, 11, 17, 13, 13, 14, 14, 12,
      12, 14, 15, 5, 11, 12, 12, 17, 14, 15, 12, 15, 12, 12, 13, 13, 12,
      19, 13, 12, 12, 6, 6, 6, 12, 10, 6, 11, 12, 11, 13, 11, 7, 13, 11, 4,
      4, 10, 5, 17, 11, 12, 12, 13, 6, 9, 7, 12, 10, 16, 10, 10, 10, 6, 5,
      6, 12] },
  { size := 24
    lineHeight := 30
    advances := #[
      5, 5, 8, 15, 14, 18, 16, 4, 8, 8, 13, 14, 5, 7, 5, 7, 14, 14, 14, 14,
      14, 14, 14, 14, 14, 14, 5, 5, 13, 14, 14, 12, 19, 15, 15, 17, 17, 14,
      14, 17, 17, 6, 13, 14, 14, 20, 17, 18, 14, 18, 15, 14, 15, 16, 15,
      23, 15, 14, 15, 8, 7, 7, 14, 12, 7, 13, 15, 13, 15, 13, 8, 15, 15, 5,
      5, 13, 6, 21, 15, 15, 15, 15, 9, 11, 8, 15, 12, 19, 12, 12, 12, 7, 5,
      8, 14] }]

/-- The size that other sizes are scaled from. -/
def defaultSize : Nat := 16

/-- Metrics scaled to another size, rounded to whole pixels. -/
def scale (metrics : FontMetrics) (size : Nat) : FontMetrics where
  size := size
  lineHeight := (2 * metrics.lineHeight * size + metrics.size) / (2 * metrics.size)
  advances := metrics.advances.map fun advance =>
    (2 * advance * size + metrics.size) / (2 * metrics.size)

def ofSize (size : Nat) : FontMetrics :=
  match hinted.find? (·.size == size) with
  | some metrics => metrics
  | none =>
      match hinted.find? (·.size == defaultSize) with
      | some metrics => metrics.scale size
      | none => ⟨size, size, #[]⟩

def advance (metrics : FontMetrics) (char : Char) : Nat :=
  let known := if 0x20 ≤ char.toNat && char.toNat ≤ 0x7E then char else '?'
  metrics.advances.getD (known.toNat - 0x20) 0

def lineWidth (metrics : FontMetrics) (line : List Char) : Nat :=
  line.foldl (fun total char => total + metrics.advance char) 0

def extent (metrics : FontMetrics) (caption : String) : Nat × Nat :=
  let lines := Text.captionLines caption.toList
  ((lines.map metrics.lineWidth).foldl max 0,
    metrics.size * (lines.length - 1) + metrics.lineHeight)

end FontMetrics

namespace Measurer

def builtin {α : Type} [Scalar α] (size : Nat) : Measurer α :=
  let metrics := FontMetrics.ofSize size
  fun caption =>
    let (width, height) := metrics.extent caption
    { width := (width : α), height := (height : α) }

/-- Measuring with the built-in font at a size that has to be positive. -/
def builtin? {α : Type} [Scalar α] (size : Int) : Except FontError (Measurer α) :=
  if size ≤ 0 then .error (.notPositive size)
  else .ok (builtin size.toNat)

end Measurer

namespace CommandLine

/-- Why a font file cannot be used at a size, given what comes of reading it.  A
directory can be opened like any of them. -/
def fontFileError (path : Text.Letters) (size : Int)
    (found : Except PathError ByteArray) : FontError :=
  if size ≤ 0 then .notPositive size
  else if !path.isText then .surrogate
  else
    match found with
    | .error .nullCharacter => .nullCharacter
    | .error .isDirectory | .ok _ => .unsupported
    | .error _ => .unreadable

/-- The built-in font as the only one. -/
def Fonts.builtinOnly : Fonts where
  builtin := Measurer.builtin?
  load tree path size := .error (fontFileError path size (tree.read path))

end CommandLine

end Lifeline
