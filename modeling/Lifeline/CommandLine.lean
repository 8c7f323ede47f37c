import Lifeline.CommandLine.Files
import Lifeline.CommandLine.Settings

/-!
# The command line

The program reads a script from a file or from its standard input, renders it,
and writes the drawing to a file or to its standard output.

It looks for what can go wrong in the order of that work: the input cannot be
read, it is not UTF-8, the font cannot be used, there is no format, the output
cannot be opened, the drawing is not text.  Nothing is written before the drawing
is complete, but a drawing that is not text is not found out before its file is
opened, and opening a file for writing empties it.

What the program needs of its surroundings is a `World`.  It can be the real one,
or a `FileTree` that is carried along, which is the one to reason about.  Fonts
come from outside in either.
-/

namespace Lifeline.CommandLine

open Text (Letters)

/-- How files and fonts are reached. -/
structure World (m : Type → Type) where
  input : m ByteArray
  read : Letters → m (Except PathError ByteArray)
  write : Letters → ByteArray → m (Except PathError Unit)
  builtinFont : BuiltinFont Float
  loadFont : Letters → Int → m (Except FontError (Measurer Float))

/-- What a run breaks off with when its end is not an exit. -/
inductive Failure where
  | notUtf8
  | notPositive (size : Int)
  /-- A font is needed, and its size was given without a value. -/
  | noFontSize
  /-- The format was given without a value. -/
  | noFormat
  | nullCharacter
  | surrogateInPath
  | surrogateInDrawing

namespace Failure

def message? : Failure → Option String
  | notUtf8 | noFontSize | surrogateInPath | surrogateInDrawing => none
  | notPositive size => some (FontError.notPositive size).message
  | noFormat => some (RenderError.unknownFormat noValue).message
  | nullCharacter => some (PathError.nullCharacter.message [])

end Failure

inductive Ending where
  | exit (code : Nat)
  | failure (failure : Failure)

structure Outcome where
  ending : Ending
  output : String := ""
  errors : String := ""

namespace Outcome

def unopened (action : String) (path : Letters) (error : PathError) : Outcome :=
  match error with
  | .nullCharacter => { ending := .failure .nullCharacter }
  | .surrogate => { ending := .failure .surrogateInPath }
  | error =>
      { ending := .exit 1
        errors := action ++ " " ++ path.shown ++ ": " ++ error.message path ++ "\n" }

def unmeasured (font : Letters) : FontError → Outcome
  | .notPositive size => { ending := .failure (.notPositive size) }
  | .nullCharacter => { ending := .failure .nullCharacter }
  | .surrogate => { ending := .failure .surrogateInPath }
  | error =>
      { ending := .exit 1
        errors := "Cannot load font " ++ font.shown ++ ": " ++ error.message ++ "\n" }

/-- A run that refuses its command line or answers a question about it. -/
def stopped : Stop → Outcome
  | .help => { ending := .exit 0 }
  | .refused error =>
      { ending := .exit 2
        errors := "sequence-diagrams: error: " ++ error.message ++ "\n" }

def after (log : String) (outcome : Outcome) : Outcome :=
  { outcome with errors := log ++ outcome.errors }

end Outcome

def decode? (bytes : ByteArray) : Option String :=
  (String.fromUTF8? bytes).map fun text =>
    String.ofList (Text.normalizeLines text.toList)

/-- What is logged about a script: the remarks of reading it, then those of
laying it out. -/
def logOf (text : String) : String :=
  let diagram : Diagram Rat := Script.read text
  String.join ((Script.remarks text ++ diagram.remarks).map fun remark =>
    "DEBUG sequence_diagrams: " ++ remark.text ++ "\n")

section Run

variable {m : Type → Type} [Monad m] (world : World m)

def readInput (input : Letters) : m (Except PathError ByteArray) :=
  if input = [Word.dash] then .ok <$> world.input else world.read input

/-- The font to measure with at a size. -/
def font (settings : Settings) (size : Int) :
    m (Except FontError (Measurer Float)) :=
  match settings.fontFile with
  | none => pure (world.builtinFont size)
  | some path => world.loadFont path size

/-- The vector drawing of a script, if it is text.  The foreground is in every
drawing and the background around captions, so a surrogate in them is drawn. -/
def vector? (settings : Settings) (size : Int) (measure : Measurer Float)
    (text : String) : Option String :=
  let drawing := Script.svgElement (settings.theme size '?') measure text
  if settings.foreground.isText &&
      (settings.background.isText || !drawing.captioned) then
    some drawing.render
  else none

/-- How a run ends that has a place for its drawing. -/
def Ending.ofDrawing : Option String → Ending
  | some _ => .exit 0
  | none => .failure .surrogateInDrawing

/-- What is written of a drawing; nothing is, if it is not text. -/
def written (drawing : Option String) : String :=
  (drawing.map (· ++ "\n")).getD ""

def deliver (settings : Settings) (drawing : Option String) : m Outcome := do
  match settings.destination with
  | none => pure { ending := .ofDrawing drawing, output := written drawing }
  | some path =>
      match ← world.write path (written drawing).toUTF8 with
      | .ok () => pure { ending := .ofDrawing drawing }
      | .error error => pure (.unopened "Cannot write" path error)

/-- Render a script and deliver the drawing, unless something is wrong with the
format or the font. -/
def draw (settings : Settings) (text : String) : m Outcome := do
  let log := if settings.verbose then logOf text else ""
  match settings.format, settings.fontSize with
  | none, _ => pure { ending := .failure .noFormat }
  | some .ascii, _ => do
      let drawing := Script.textArt (α := Float) settings.style text
      pure ((← deliver world settings (some drawing)).after log)
  | some .svg, none => pure { ending := .failure .noFontSize }
  | some .svg, some size =>
      match ← font world settings size with
      | .error error => pure (.unmeasured (settings.font.getD []) error)
      | .ok measure => do
          let drawing := vector? settings size measure text
          pure ((← deliver world settings drawing).after log)

def run (line : List Letters) : m Outcome := do
  match Settings.read line with
  | .error stop => pure (.stopped stop)
  | .ok (settings, input) =>
      match ← readInput world input with
      | .error error => pure (.unopened "Cannot read" input error)
      | .ok bytes =>
          match decode? bytes with
          | none => pure { ending := .failure .notUtf8 }
          | some text => draw world settings text

end Run

/-- The fonts there are: the built-in one, and those in files. -/
structure Fonts where
  builtin : BuiltinFont Float
  load : FileTree → Letters → Int → Except FontError (Measurer Float)

def FileTree.world (fonts : Fonts) (input : ByteArray) : World (StateM FileTree) where
  input := pure input
  read path := do
    let tree ← get
    pure (tree.read path)
  write path content := do
    let tree ← get
    match tree.write path content with
    | .ok written => set written; pure (.ok ())
    | .error error => pure (.error error)
  builtinFont := fonts.builtin
  loadFont path size := do
    let tree ← get
    pure (fonts.load tree path size)

/-- Run a command line in a file tree.  The tree after the run is returned with
the outcome. -/
def runIn (fonts : Fonts) (tree : FileTree) (input : ByteArray)
    (line : List Letters) : Outcome × FileTree :=
  (run (FileTree.world fonts input) line).run tree

end Lifeline.CommandLine
