import Lifeline.Measure
import Lifeline.Svg
import Lifeline.TextArt

/-!
# Rendering

A script is rendered in one of two formats, which are asked for by name.  A
drawing in text is laid out in cells; a vector drawing is laid out in pixels and
measured with the built-in font at the size of its theme, or with any other
measurer that is given.

Three things can go wrong, and they are looked for in this order: what is to be
rendered is not text, the format is not known, the font has no such size.
-/

namespace Lifeline

inductive Format where
  | ascii
  | svg
  deriving DecidableEq

namespace Format

def name : Format → String
  | ascii => "ascii"
  | svg => "svg"

def all : List Format := [ascii, svg]

def ofName? (word : String) : Option Format :=
  all.find? (·.name == word)

end Format

/-- What is handed over to be rendered. -/
inductive Source where
  | script (text : String)
  /-- Not text, but a value of a kind that has a name. -/
  | other (kind : String)

inductive RenderError where
  | notText (kind : String)
  | unknownFormat (name : String)
  | font (error : FontError)
  deriving DecidableEq

namespace RenderError

def message : RenderError → String
  | notText kind => "Expected script text, got " ++ kind
  | unknownFormat name =>
      "Unknown output format: \"" ++ name ++ "\". Expected one of " ++
        String.intercalate ", " (Format.all.map Format.name) ++ "."
  | font error => error.message

end RenderError

structure Look (α : Type) where
  style : Style := .unicode
  theme : Svg.Theme := {}
  /-- How captions of vector drawings are measured; by the built-in font if this
  is left open. -/
  measure : Option (Measurer α) := none

namespace Script

variable {α : Type} [Scalar α] (builtin : BuiltinFont α)

def measurer (look : Look α) : Except RenderError (Measurer α) :=
  match look.measure with
  | some measure => .ok measure
  | none => (builtin look.theme.fontSize).mapError .font

def renderAs (look : Look α) (text : String) :
    Format → Except RenderError String
  | .ascii => .ok (textArt (α := α) look.style text)
  | .svg => do
      let measure ← measurer builtin look
      pure (svg look.theme measure text)

/-- The drawing of what is handed over, in the format of a name. -/
def render (look : Look α) (source : Source) (format : String) :
    Except RenderError String :=
  match source with
  | .other kind => .error (.notText kind)
  | .script text =>
      match Format.ofName? format with
      | none => .error (.unknownFormat format)
      | some format => renderAs builtin look text format

end Script

end Lifeline
