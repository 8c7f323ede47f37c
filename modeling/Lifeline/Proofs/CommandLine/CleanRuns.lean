import Lifeline.CommandLine.BuiltinFont
import Lifeline.Proofs.CommandLine.Files
import Lifeline.Proofs.CommandLine.Surrogates

/-!
# Runs leave nothing half done

What a run of the command line comes to is decided by the line, the standard input, the
fonts and the files before anything is written.  A run that exits with 0 has written the
drawing and a newline to one place, and a run that ends otherwise has written nothing,
neither to its standard output nor to a file.  There is one exception: whether a drawing is
text is not found out before its file is opened, so one that is not leaves its file empty.

The exit code is 1 exactly if a path cannot be opened at the point at which it is needed
and is a path at all.  A word that cannot be one breaks the run off, and so do input that is
not UTF-8, a font size that is not positive where the font is needed, a format or such a
font size that is given without a value, and a drawing that is not text.

Fonts are as they are found outside.  What is asked of them is that they have no sizes but
the positive ones, that the built-in one can be used at all of these, and that a font file
which cannot be used says so.
-/

namespace Lifeline

open Text (Letters)

/-- How a font that cannot be used at a positive size ends a run. -/
def FontError.fault? : FontError → Option CommandLine.Fault
  | .notPositive _ => none
  | .unreadable | .unsupported => some .system
  | .nullCharacter => some .nullCharacter
  | .surrogate => some .surrogate

namespace CommandLine

def Fault.ending : Fault → Ending
  | .system => .exit 1
  | .nullCharacter => .failure .nullCharacter
  | .surrogate => .failure .surrogateInPath

/-- How a word ends a run if it is the path of a font file that cannot be used.  Such a path
has to be text. -/
def fontFault (path : Letters) : Fault :=
  if path.isText = false then .surrogate
  else if .char '\x00' ∈ path then .nullCharacter
  else .system

namespace Fonts

/-- What can be relied on of fonts.  None has a size that is not positive, and the built-in
font has all others. -/
structure Documented (fonts : Fonts) : Prop where
  builtin_ok : ∀ size, 0 < size → ∃ measure, fonts.builtin size = .ok measure
  builtin_error : ∀ size, size ≤ 0 → fonts.builtin size = .error (.notPositive size)
  load_error : ∀ tree path size, size ≤ 0 → fonts.load tree path size = .error (.notPositive size)

/-- Whether no font can be loaded from a path, in any size. -/
def Unusable (fonts : Fonts) (tree : FileTree) (path : Letters) : Prop :=
  ∀ size, 0 < size →
    ∃ error, fonts.load tree path size = .error error ∧ error.fault? = some (fontFault path)

end Fonts

namespace Settings

/-- How a drawing looks, with a character in the place of every surrogate.  The font size
matters to vector drawings alone, and there are none without one. -/
def look (settings : Settings) (standIn : Char) : Look Float where
  style := settings.style
  theme := settings.theme (settings.fontSize.getD 0) standIn

/-- Whether captions are measured with a font, at a size that fonts can have. -/
def Measures (settings : Settings) : Prop :=
  settings.format = some .svg ∧ ∃ size, settings.fontSize = some size ∧ 0 < size

/-- Whether a drawing is made: in text without further conditions, and as a vector drawing
with the built-in font. -/
def Draws (settings : Settings) : Prop :=
  settings.format = some .ascii ∨ settings.Measures ∧ settings.fontFile = none

def Loads (settings : Settings) (path : Letters) : Prop :=
  settings.Measures ∧ settings.fontFile = some path

/-- Whether there is a place for a drawing. -/
def Opens (settings : Settings) (tree : FileTree) : Prop :=
  ∀ path, settings.destination = some path → ∃ names, tree.locate path = .ok names

/-- Whether a text is the drawing of a script, whatever stands in the place of surrogates. -/
def Depicts (settings : Settings) (fonts : Fonts) (text drawing : String) : Prop :=
  ∃ format, settings.format = some format ∧ ∀ standIn,
    Script.render fonts.builtin (settings.look standIn) (.script text) format.name = .ok drawing

end Settings

section Input

variable (tree : FileTree) (stdin : ByteArray) (name : Letters)

/-- The input of a name; a dash is the standard input. -/
def inputBytes : Except PathError ByteArray :=
  if name = [Word.dash] then .ok stdin else tree.read name

/-- Whether the input is read and says something. -/
def Reads (text : String) : Prop :=
  ∃ bytes, inputBytes tree stdin name = .ok bytes ∧ decode? bytes = some text

end Input

section Ends

variable (fonts : Fonts) (tree : FileTree) (stdin : ByteArray) (settings : Settings)
  (name : Letters)

/-- A path that cannot be opened at the point at which it is needed, and what that does to
the run. -/
inductive Unopened : (path : Letters) → Fault → Prop
  | input {error : PathError} :
      inputBytes tree stdin name = .error error → Unopened name (nameFault name)
  | font {text : String} {path : Letters} :
      Reads tree stdin name text → settings.Loads path → Unopened path (fontFault path)
  | output {text : String} {path : Letters} {error : PathError} :
      Reads tree stdin name text → settings.Draws → settings.destination = some path →
        tree.locate path = .error error → Unopened path (nameFault path)

def Breaks : Failure → Prop
  | .notUtf8 => ∃ bytes, inputBytes tree stdin name = .ok bytes ∧ decode? bytes = none
  | .notPositive size =>
      (∃ text, Reads tree stdin name text) ∧ settings.format = some .svg ∧
        settings.fontSize = some size ∧ size ≤ 0
  | .noFormat => (∃ text, Reads tree stdin name text) ∧ settings.format = none
  | .noFontSize =>
      (∃ text, Reads tree stdin name text) ∧ settings.format = some .svg ∧
        settings.fontSize = none
  | .nullCharacter => ∃ path, Unopened tree stdin settings name path .nullCharacter
  | .surrogateInPath => ∃ path, Unopened tree stdin settings name path .surrogate
  | .surrogateInDrawing =>
      ∃ text, Reads tree stdin name text ∧ settings.Draws ∧ settings.Opens tree ∧
        ¬ ∃ drawing, settings.Depicts fonts text drawing

/-- Whether a text is all that was written: to the standard output, or to one file, which
is where the path of the destination leads. -/
def WritesOnly (written : String) (outcome : Outcome) (after : FileTree) : Prop :=
  match settings.destination with
  | none => outcome.output = written ∧ after = tree
  | some path =>
      outcome.output = "" ∧
        ∃ bytes names, FileTree.check path = .ok bytes ∧
          after.walk (FileTree.start bytes) (FileTree.split bytes) = .ok (.inside names) ∧
          ∀ other, after.node? other =
            if other = names then some (.file written.toUTF8) else tree.node? other

/-- What a run of a command line comes to, given its settings and the name of its input. -/
structure Clean (outcome : Outcome) (after : FileTree) : Prop where
  untouched : outcome.ending ≠ .exit 0 → outcome.ending ≠ .failure .surrogateInDrawing →
    outcome.output = "" ∧ after = tree
  emptied : outcome.ending = .failure .surrogateInDrawing →
    WritesOnly tree settings "" outcome after
  delivered : outcome.ending = .exit 0 →
    ∃ text drawing, Reads tree stdin name text ∧ settings.Depicts fonts text drawing ∧
      WritesOnly tree settings (drawing ++ "\n") outcome after
  exits : outcome.ending = .exit 1 ↔ ∃ path, Unopened tree stdin settings name path .system
  breaks : ∀ failure, outcome.ending = .failure failure ↔
    Breaks fonts tree stdin settings name failure
  ends : outcome.ending = .exit 0 ∨ outcome.ending = .exit 1 ∨
    ∃ failure, outcome.ending = .failure failure

end Ends

section Stages

variable {fonts : Fonts} {tree : FileTree} {stdin : ByteArray} {settings : Settings}

theorem run_readInput (name : Letters) :
    (readInput (FileTree.world fonts stdin) name).run tree =
      (inputBytes tree stdin name, tree) := by
  rw [readInput, inputBytes]
  split <;> rfl

theorem run_write (path : Letters) (content : ByteArray) :
    ((FileTree.world fonts stdin).write path content).run tree =
      match tree.locate path with
      | .ok names => (.ok (), tree.insert names content)
      | .error error => (.error error, tree) := by
  have writeEq := tree.write_eq path content
  simp only [FileTree.world, StateT.run_bind, StateT.run_get, pure_bind]
  rw [writeEq]
  cases tree.locate path <;> rfl

theorem run_deliver (drawing : Option String) :
    (deliver (FileTree.world fonts stdin) settings drawing).run tree =
      match settings.destination with
      | none => ({ ending := .ofDrawing drawing, output := written drawing }, tree)
      | some path =>
          match tree.locate path with
          | .ok names =>
              ({ ending := .ofDrawing drawing }, tree.insert names (written drawing).toUTF8)
          | .error error => (.unopened "Cannot write" path error, tree) := by
  rw [deliver]
  cases settings.destination with
  | none => rfl
  | some path =>
      simp only [StateT.run_bind, run_write]
      cases tree.locate path <;> rfl

theorem runIn_eq {line : List Letters} {name : Letters}
    (accepted : Settings.read line = .ok (settings, name)) :
    runIn fonts tree stdin line =
      match inputBytes tree stdin name with
      | .error error => (.unopened "Cannot read" name error, tree)
      | .ok bytes =>
          match decode? bytes with
          | none => ({ ending := .failure .notUtf8 }, tree)
          | some text => (draw (FileTree.world fonts stdin) settings text).run tree := by
  rw [runIn, run, accepted]
  simp only [StateT.run_bind, run_readInput]
  cases inputBytes tree stdin name with
  | error error => rfl
  | ok bytes =>
      change StateT.run (match decode? bytes with
        | none => pure { ending := .failure .notUtf8 }
        | some text => draw (FileTree.world fonts stdin) settings text) tree = _
      dsimp only
      cases decode? bytes <;> rfl

theorem run_draw_of_loads {path : Letters} (unusable : fonts.Unusable tree path)
    (loads : settings.Loads path) (text : String) :
    ∃ error, error.fault? = some (fontFault path) ∧
      (draw (FileTree.world fonts stdin) settings text).run tree =
        (.unmeasured path error, tree) := by
  obtain ⟨⟨formatEq, size, sizeEq, positive⟩, fontEq⟩ := loads
  obtain ⟨error, loadEq, faultEq⟩ := unusable size positive
  have given : settings.font = some path := (Option.filter_eq_some_iff.mp fontEq).1
  have fontRun : (font (FileTree.world fonts stdin) settings size).run tree =
      (.error error, tree) := by
    rw [font.eq_def, fontEq, ← loadEq]
    rfl
  refine ⟨error, faultEq, ?_⟩
  rw [draw, formatEq, sizeEq]
  simp only [StateT.run_bind, fontRun, given]
  rfl

theorem run_draw_of_notPositive (documented : fonts.Documented) {size : Int}
    (formatEq : settings.format = some .svg) (sizeEq : settings.fontSize = some size)
    (small : size ≤ 0) (text : String) :
    (draw (FileTree.world fonts stdin) settings text).run tree =
      ({ ending := .failure (.notPositive size) }, tree) := by
  have fontRun : (font (FileTree.world fonts stdin) settings size).run tree =
      (.error (.notPositive size), tree) := by
    rw [font.eq_def]
    cases settings.fontFile with
    | none => exact congrArg (·, tree) (documented.builtin_error size small)
    | some path => exact congrArg (·, tree) (documented.load_error tree path size small)
  rw [draw, formatEq, sizeEq]
  simp only [StateT.run_bind, fontRun]
  rfl

/-- Where nothing is in the way of a drawing, it is delivered if it is text. -/
theorem run_draw_of_draws (documented : fonts.Documented) (draws : settings.Draws)
    (text : String) :
    ∃ drawing log,
      (∀ depicted, drawing = some depicted ↔ settings.Depicts fonts text depicted) ∧
        (draw (FileTree.world fonts stdin) settings text).run tree =
          Prod.map (Outcome.after log) id
            ((deliver (FileTree.world fonts stdin) settings drawing).run tree) := by
  rcases draws with formatEq | ⟨⟨formatEq, size, sizeEq, positive⟩, fontEq⟩
  · refine ⟨some (Script.textArt (α := Float) settings.style text),
      if settings.verbose then logOf text else "", fun depicted => ?_, ?_⟩
    · have renderEq (standIn : Char) :
          Script.render fonts.builtin (settings.look standIn) (.script text) Format.ascii.name =
            .ok (Script.textArt (α := Float) settings.style text) := rfl
      simp [Settings.Depicts, formatEq, renderEq]
    · rw [draw, formatEq]
      rfl
  · obtain ⟨measure, measureEq⟩ := documented.builtin_ok size positive
    refine ⟨vector? settings size measure text, if settings.verbose then logOf text else "",
      fun depicted => ?_, ?_⟩
    · have renderEq (standIn : Char) :
          Script.render fonts.builtin (settings.look standIn) (.script text) Format.svg.name =
            .ok (Script.svg (settings.theme size standIn) measure text) := by
        have lookEq : settings.look standIn =
            { style := settings.style, theme := settings.theme size standIn } := by
          rw [Settings.look, sizeEq]
          rfl
        have measurerEq : Script.measurer fonts.builtin (settings.look standIn) = .ok measure := by
          rw [lookEq]
          exact congrArg (Except.mapError RenderError.font) measureEq
        change Script.renderAs fonts.builtin (settings.look standIn) text .svg = _
        rw [Script.renderAs, measurerEq, lookEq]
        rfl
      simp [vector?_eq_some_iff, Settings.Depicts, formatEq, renderEq]
    · have fontRun : (font (FileTree.world fonts stdin) settings size).run tree =
          (.ok measure, tree) := by
        rw [font.eq_def, fontEq, ← measureEq]
        rfl
      rw [draw, formatEq, sizeEq]
      simp only [StateT.run_bind, fontRun]
      rfl

end Stages

section Reached

variable {fonts : Fonts} {tree : FileTree} {stdin : ByteArray} {settings : Settings}
  {name path : Letters} {text : String} {line : List Letters}

/-- Whether a run ends in some way and has written nothing. -/
structure Leaves (tree : FileTree) (ending : Ending) (result : Outcome × FileTree) : Prop where
  ending_eq : result.1.ending = ending
  output_eq : result.1.output = ""
  tree_eq : result.2 = tree

theorem leaves_unopened (action : String) (error : PathError) :
    Leaves tree error.fault.ending (.unopened action path error, tree) := by
  cases error <;> exact ⟨rfl, rfl, rfl⟩

theorem leaves_unmeasured {error : FontError} {fault : Fault}
    (faultEq : error.fault? = some fault) :
    Leaves tree fault.ending (.unmeasured path error, tree) := by
  cases error <;> cases faultEq <;> exact ⟨rfl, rfl, rfl⟩

theorem Leaves.after {ending : Ending} {result : Outcome × FileTree}
    (leaves : Leaves tree ending result) (log : String) :
    Leaves tree ending (result.map (Outcome.after log) id) :=
  ⟨leaves.ending_eq, leaves.output_eq, leaves.tree_eq⟩

theorem fault_of_inputBytes_error {error : PathError}
    (unread : inputBytes tree stdin name = .error error) : error.fault = nameFault name := by
  rw [inputBytes] at unread
  split at unread
  · cases unread
  · exact FileTree.fault_of_read_error unread

theorem runIn_of_reads (accepted : Settings.read line = .ok (settings, name))
    (reads : Reads tree stdin name text) :
    runIn fonts tree stdin line =
      (draw (FileTree.world fonts stdin) settings text).run tree := by
  obtain ⟨bytes, bytesEq, decoded⟩ := reads
  rw [runIn_eq accepted, bytesEq]
  simp only [decoded]

theorem leaves_of_unopened {fault : Fault} (documented : fonts.Documented)
    (unusable : ∀ path, settings.fontFile = some path → fonts.Unusable tree path)
    (accepted : Settings.read line = .ok (settings, name))
    (unopened : Unopened tree stdin settings name path fault) :
    Leaves tree fault.ending (runIn fonts tree stdin line) := by
  cases unopened with
  | input unread =>
      rw [runIn_eq accepted, unread, ← fault_of_inputBytes_error unread]
      exact leaves_unopened "Cannot read" _
  | font reads loads =>
      obtain ⟨error, faultEq, runEq⟩ := run_draw_of_loads (unusable path loads.2) loads _
      rw [runIn_of_reads accepted reads, runEq]
      exact leaves_unmeasured faultEq
  | output reads draws destinationEq unlocated =>
      obtain ⟨drawing, log, -, runEq⟩ := run_draw_of_draws documented draws _
      rw [runIn_of_reads accepted reads, runEq, run_deliver, destinationEq]
      simp only [unlocated]
      rw [← FileTree.fault_of_locate_error unlocated]
      exact (leaves_unopened "Cannot write" _).after log

/-- What a run breaks off with is found out before anything is written, except that a
drawing is not text. -/
theorem leaves_of_breaks {failure : Failure} (documented : fonts.Documented)
    (unusable : ∀ path, settings.fontFile = some path → fonts.Unusable tree path)
    (accepted : Settings.read line = .ok (settings, name))
    (breaks : Breaks fonts tree stdin settings name failure)
    (early : failure ≠ .surrogateInDrawing) :
    Leaves tree (.failure failure) (runIn fonts tree stdin line) := by
  cases failure with
  | notUtf8 =>
      obtain ⟨bytes, bytesEq, undecoded⟩ := breaks
      rw [runIn_eq accepted, bytesEq]
      simp only [undecoded]
      exact ⟨rfl, rfl, rfl⟩
  | notPositive size =>
      obtain ⟨⟨text, reads⟩, formatEq, sizeEq, small⟩ := breaks
      rw [runIn_of_reads accepted reads, run_draw_of_notPositive documented formatEq sizeEq small]
      exact ⟨rfl, rfl, rfl⟩
  | noFormat =>
      obtain ⟨⟨text, reads⟩, formatEq⟩ := breaks
      rw [runIn_of_reads accepted reads, draw, formatEq]
      exact ⟨rfl, rfl, rfl⟩
  | noFontSize =>
      obtain ⟨⟨text, reads⟩, formatEq, sizeEq⟩ := breaks
      rw [runIn_of_reads accepted reads, draw, formatEq, sizeEq]
      exact ⟨rfl, rfl, rfl⟩
  | nullCharacter =>
      obtain ⟨path, unopened⟩ := breaks
      exact leaves_of_unopened documented unusable accepted unopened
  | surrogateInPath =>
      obtain ⟨path, unopened⟩ := breaks
      exact leaves_of_unopened documented unusable accepted unopened
  | surrogateInDrawing => exact absurd rfl early

theorem writesOnly_of_draws (documented : fonts.Documented)
    (accepted : Settings.read line = .ok (settings, name))
    (reads : Reads tree stdin name text) (draws : settings.Draws) (opens : settings.Opens tree) :
    ∃ drawing, (∀ depicted, drawing = some depicted ↔ settings.Depicts fonts text depicted) ∧
      (runIn fonts tree stdin line).1.ending = .ofDrawing drawing ∧
        WritesOnly tree settings (written drawing) (runIn fonts tree stdin line).1
          (runIn fonts tree stdin line).2 := by
  obtain ⟨drawing, log, depictsIff, runEq⟩ := run_draw_of_draws documented draws text
  refine ⟨drawing, depictsIff, ?_⟩
  rw [runIn_of_reads accepted reads, runEq, run_deliver, WritesOnly]
  cases destinationEq : settings.destination with
  | none => exact ⟨rfl, rfl, rfl⟩
  | some path =>
      obtain ⟨names, located⟩ := opens path destinationEq
      have writable := FileTree.writable_of_locate located
      obtain ⟨bytes, checked, walked⟩ :=
        FileTree.walk_of_locate located (written drawing).toUTF8
      simp only [located]
      exact ⟨rfl, rfl, bytes, names, checked, walked, writable.node?_insert _⟩

/-- Why a run ends as it does. -/
def Explains (fonts : Fonts) (tree : FileTree) (stdin : ByteArray) (settings : Settings)
    (name : Letters) : Ending → Prop
  | .exit 0 => ∃ text drawing, Reads tree stdin name text ∧ settings.Draws ∧
      settings.Opens tree ∧ settings.Depicts fonts text drawing
  | .exit 1 => ∃ path, Unopened tree stdin settings name path .system
  | .exit _ => False
  | .failure failure => Breaks fonts tree stdin settings name failure

theorem explains_of_unopened {fault : Fault}
    (unopened : Unopened tree stdin settings name path fault) :
    Explains fonts tree stdin settings name fault.ending := by
  cases fault <;> exact ⟨path, unopened⟩

theorem exists_explains_of_draws (reads : Reads tree stdin name text) (draws : settings.Draws) :
    ∃ ending, Explains fonts tree stdin settings name ending := by
  by_cases opens : settings.Opens tree
  · by_cases depicts : ∃ drawing, settings.Depicts fonts text drawing
    · obtain ⟨drawing, depicts⟩ := depicts
      exact ⟨.exit 0, text, drawing, reads, draws, opens, depicts⟩
    · exact ⟨.failure .surrogateInDrawing, text, reads, draws, opens, depicts⟩
  · simp only [Settings.Opens, not_forall] at opens
    obtain ⟨path, destinationEq, unlocated⟩ := opens
    cases located : tree.locate path with
    | ok names => exact absurd ⟨names, located⟩ unlocated
    | error error => exact ⟨_, explains_of_unopened (.output reads draws destinationEq located)⟩

theorem exists_explains_of_reads (reads : Reads tree stdin name text) :
    ∃ ending, Explains fonts tree stdin settings name ending := by
  cases formatEq : settings.format with
  | none => exact ⟨.failure .noFormat, ⟨text, reads⟩, formatEq⟩
  | some format =>
      cases format with
      | ascii => exact exists_explains_of_draws reads (Or.inl formatEq)
      | svg =>
          cases sizeEq : settings.fontSize with
          | none => exact ⟨.failure .noFontSize, ⟨text, reads⟩, formatEq, sizeEq⟩
          | some size =>
              by_cases small : size ≤ 0
              · exact ⟨.failure (.notPositive size), ⟨text, reads⟩, formatEq, sizeEq, small⟩
              · have measures : settings.Measures := ⟨formatEq, size, sizeEq, by omega⟩
                cases fontEq : settings.fontFile with
                | none => exact exists_explains_of_draws reads (Or.inr ⟨measures, fontEq⟩)
                | some path => exact ⟨_, explains_of_unopened (.font reads ⟨measures, fontEq⟩)⟩

theorem exists_explains (fonts : Fonts) (tree : FileTree) (stdin : ByteArray)
    (settings : Settings) (name : Letters) :
    ∃ ending, Explains fonts tree stdin settings name ending := by
  cases bytesEq : inputBytes tree stdin name with
  | error error => exact ⟨_, explains_of_unopened (.input bytesEq)⟩
  | ok bytes =>
      cases decoded : decode? bytes with
      | none => exact ⟨.failure .notUtf8, bytes, bytesEq, decoded⟩
      | some text => exact exists_explains_of_reads ⟨bytes, bytesEq, decoded⟩

section Run

variable (documented : fonts.Documented)
  (accepted : Settings.read line = .ok (settings, name))
  (unusable : ∀ path, settings.fontFile = some path → fonts.Unusable tree path)

include documented accepted unusable

theorem leaves_of_explains {ending : Ending}
    (explains : Explains fonts tree stdin settings name ending) (undelivered : ending ≠ .exit 0)
    (unemptied : ending ≠ .failure .surrogateInDrawing) :
    Leaves tree ending (runIn fonts tree stdin line) := by
  cases ending with
  | exit code =>
      match code with
      | 0 => exact absurd rfl undelivered
      | 1 =>
          obtain ⟨path, unopened⟩ := explains
          exact leaves_of_unopened documented unusable accepted unopened
      | _ + 2 => exact explains.elim
  | failure failure =>
      have early : failure ≠ .surrogateInDrawing := fun late => unemptied (congrArg _ late)
      exact leaves_of_breaks documented unusable accepted explains early

omit unusable in
theorem delivers_of_explains (explains : Explains fonts tree stdin settings name (.exit 0)) :
    (runIn fonts tree stdin line).1.ending = .exit 0 ∧
      ∃ text drawing, Reads tree stdin name text ∧ settings.Depicts fonts text drawing ∧
        WritesOnly tree settings (drawing ++ "\n") (runIn fonts tree stdin line).1
          (runIn fonts tree stdin line).2 := by
  obtain ⟨text, drawing, reads, draws, opens, depicts⟩ := explains
  obtain ⟨found, depictsIff, endingEq, writes⟩ :=
    writesOnly_of_draws documented accepted reads draws opens
  obtain rfl := (depictsIff drawing).mpr depicts
  exact ⟨endingEq, text, drawing, reads, depicts, writes⟩

omit unusable in
theorem empties_of_explains
    (explains : Explains fonts tree stdin settings name (.failure .surrogateInDrawing)) :
    (runIn fonts tree stdin line).1.ending = .failure .surrogateInDrawing ∧
      WritesOnly tree settings "" (runIn fonts tree stdin line).1
        (runIn fonts tree stdin line).2 := by
  obtain ⟨text, reads, draws, opens, undepicted⟩ := explains
  obtain ⟨found, depictsIff, endingEq, writes⟩ :=
    writesOnly_of_draws documented accepted reads draws opens
  cases found with
  | none => exact ⟨endingEq, writes⟩
  | some drawing => exact absurd ⟨drawing, (depictsIff drawing).mp rfl⟩ undepicted

/-- A run ends in the one way for which there is a reason. -/
theorem ending_eq_iff (ending : Ending) :
    (runIn fonts tree stdin line).1.ending = ending ↔
      Explains fonts tree stdin settings name ending := by
  have ending_eq {ending : Ending} (explains : Explains fonts tree stdin settings name ending) :
      (runIn fonts tree stdin line).1.ending = ending := by
    by_cases delivered : ending = .exit 0
    · subst delivered
      exact (delivers_of_explains documented accepted explains).1
    by_cases emptied : ending = .failure .surrogateInDrawing
    · subst emptied
      exact (empties_of_explains documented accepted explains).1
    exact (leaves_of_explains documented accepted unusable explains delivered emptied).ending_eq
  constructor
  · rintro rfl
    obtain ⟨ending, explains⟩ := exists_explains fonts tree stdin settings name
    rwa [ending_eq explains]
  · exact ending_eq

end Run

end Reached

def lettered : Settings where
  input := some (Letters.ofText "-")
  format := some .svg
  font := some (Letters.ofText "f")
  output := some (Letters.ofText "out")

theorem documented_builtinOnly : Fonts.builtinOnly.Documented where
  builtin_ok size positive := by
    have large : ¬ size ≤ 0 := by omega
    exact ⟨_, if_neg large⟩
  builtin_error size small := if_pos small
  load_error tree path size small := congrArg Except.error (if_pos small)

theorem unusable_lettered (path : Letters) (fontEq : lettered.fontFile = some path) :
    Fonts.builtinOnly.Unusable ⟨[]⟩ path := by
  obtain rfl : Letters.ofText "f" = path := Option.some.inj fontEq
  intro size positive
  have large : ¬ size ≤ 0 := by omega
  exact ⟨.unreadable, congrArg Except.error (if_neg large), rfl⟩

/-- A word with a surrogate that stands for no byte. -/
def stray : Letters := [.surrogate 0]

end CommandLine

end Lifeline
