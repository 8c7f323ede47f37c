import Lifeline.CommandLine.Switch
import Lifeline.Render

/-!
# Settings

The words of a command line are taken from left to right.  The first plain word
names the input, and switches may stand before and after it.  A switch given
twice counts as it was given last.

Two dashes that are attached to a switch separate it from a value that never
comes: the switch is given, without a value.  A format or a font size is then
missing, a colour is written as the lack of one, and a font or an output is as if
not asked for.

A line that cannot be used is refused with the first thing that is wrong with
it.  What is missing or left over shows only at the end: first a missing input,
then the words that found no use.
-/

namespace Lifeline.CommandLine

open Text (Letters)

/-- How the lack of a value is written. -/
def noValue : String := "[]"

structure Settings where
  input : Option Letters := none
  format : Option Format := some .ascii
  style : Style := .unicode
  foreground : Letters := Letters.ofText "#000"
  background : Letters := Letters.ofText "#fff"
  font : Option Letters := none
  fontSize : Option Int := some 16
  output : Option Letters := none
  verbose : Bool := false

namespace Settings

/-- The file to write to, if not the standard output. -/
def destination (settings : Settings) : Option Letters :=
  settings.output.filter (· ≠ [])

/-- The font file, if not the built-in font. -/
def fontFile (settings : Settings) : Option Letters :=
  settings.font.filter (· ≠ [])

/-- The theme of vector drawings, with a character in the place of every
surrogate. -/
def theme (settings : Settings) (fontSize : Int) (standIn : Char) : Svg.Theme where
  foreground := settings.foreground.filled standIn
  background := settings.background.filled standIn
  fontSize := fontSize

end Settings

inductive UsageError where
  | ambiguous (word : Letters) (names : List String)
  | missingValue (switch : Switch)
  | uselessValue (switch : Switch) (value : Letters)
  | notInteger (switch : Switch) (value : Letters)
  | noSuchFormat (switch : Switch) (value : Letters)
  | missingInput
  | leftOver (words : List Letters)

namespace UsageError

def about (switch : Switch) (message : String) : String :=
  "argument " ++ switch.title ++ ": " ++ message

def message : UsageError → String
  | ambiguous word names =>
      "ambiguous option: " ++ word.shown ++ " could match " ++
        String.intercalate ", " names
  | missingValue switch => about switch "expected one argument"
  | uselessValue switch value =>
      about switch ("ignored explicit argument " ++ value.quoted)
  | notInteger switch value =>
      about switch ("invalid int value: " ++ value.quoted)
  | noSuchFormat switch value =>
      about switch ("invalid choice: " ++ value.quoted ++ " (choose from " ++
        String.intercalate ", " (Format.all.map fun format => Text.quoted format.name) ++
        ")")
  | missingInput => "the following arguments are required: input"
  | leftOver words =>
      "unrecognized arguments: " ++ String.intercalate " " (words.map Letters.shown)

end UsageError

inductive Stop where
  | help
  | refused (error : UsageError)

/-- A switch with the value that goes with it, if one does. -/
abbrev Given := Switch × Option Letters

/-- The value that is attached to a switch; two dashes are none. -/
def attachedValue (word : Letters) : Option Letters :=
  if word = Word.dashes then none else some word

/-- The switches that are run together in one word, from one with attached
letters on.  If the last of them takes its value from the next word, it is returned
apart from the others. -/
def unravel (switch : Switch) (long : Bool) :
    Letters → Except UsageError (List Given × Option Switch)
  | [] =>
      if switch.takesValue then .ok ([(switch, attachedValue [])], none)
      else .error (.uselessValue switch [])
  | letter :: rest =>
      if switch.takesValue then .ok ([(switch, attachedValue (letter :: rest))], none)
      else
        match if long then none else Switch.ofWord? [Word.dash, letter] with
        | none => .error (.uselessValue switch (letter :: rest))
        | some (_, next) =>
            if !rest.isEmpty then do
              let (others, pending) ← unravel next false rest
              pure ((switch, none) :: others, pending)
            else if next.takesValue then .ok ([(switch, none)], some next)
            else .ok ([(switch, none), (next, none)], none)

def Found.unravel (found : Found) : Except UsageError (List Given × Option Switch) :=
  match found.attached with
  | some attached =>
      CommandLine.unravel found.switch (found.name.toList.take 2 == ['-', '-'])
        attached
  | none =>
      if found.switch.takesValue then .ok ([], some found.switch)
      else .ok ([(found.switch, none)], none)

namespace Settings

/-- The settings with a switch taken into account. -/
def set (settings : Settings) : Given → Except Stop Settings
  | (.help, _) => .error .help
  | (.ascii, _) => .ok { settings with style := .ascii }
  | (.verbose, _) => .ok { settings with verbose := true }
  | (.format, none) => .ok { settings with format := none }
  | (.format, some value) =>
      match value.text?.bind Format.ofName? with
      | some format => .ok { settings with format := some format }
      | none => .error (.refused (.noSuchFormat .format value))
  | (.fontSize, none) => .ok { settings with fontSize := none }
  | (.fontSize, some value) =>
      match value.chars?.bind Text.integer? with
      | some size => .ok { settings with fontSize := some size }
      | none => .error (.refused (.notInteger .fontSize value))
  | (.foreground, value) =>
      .ok { settings with foreground := value.getD (Letters.ofText noValue) }
  | (.background, value) =>
      .ok { settings with background := value.getD (Letters.ofText noValue) }
  | (.font, value) => .ok { settings with font := value }
  | (.output, value) => .ok { settings with output := value }

def setAll (settings : Settings) (given : List Given) : Except Stop Settings :=
  given.foldlM set settings

/-- Take words into account in turn.  Words without a use are collected. -/
def take (settings : Settings) (unused : List Letters) :
    List Word → Except Stop (Settings × List Letters)
  | [] => .ok (settings, unused)
  | .plain word :: .separator :: rest =>
      if settings.input.isNone then
        take { settings with input := some word } unused rest
      else take settings (unused ++ [word, Word.dashes]) rest
  | .plain word :: rest =>
      if settings.input.isNone then
        take { settings with input := some word } unused rest
      else take settings (unused ++ [word]) rest
  | .separator :: .plain word :: rest =>
      if settings.input.isNone then
        take { settings with input := some word } unused rest
      else take settings (unused ++ [Word.dashes, word]) rest
  | .separator :: rest => take settings (unused ++ [Word.dashes]) rest
  | .unknown word :: rest => take settings (unused ++ [word]) rest
  | .option found :: rest =>
      match found.unravel with
      | .error error => .error (.refused error)
      | .ok (given, none) => do
          take (← settings.setAll given) unused rest
      | .ok (given, some switch) =>
          match rest with
          | .plain value :: rest => do
              take (← settings.setAll (given ++ [(switch, some value)])) unused rest
          | _ => .error (.refused (.missingValue switch))

def words : List Letters → Except Stop (List Word)
  | [] => .ok []
  | word :: rest =>
      if word = Word.dashes then .ok (.separator :: rest.map .plain)
      else
        match Word.read word with
        | .error names => .error (.refused (.ambiguous word names))
        | .ok first => do
            let others ← words rest
            pure (first :: others)

/-- The settings of a command line with the name of its input. -/
def read (line : List Letters) : Except Stop (Settings × Letters) := do
  let (settings, unused) ← take {} [] (← words line)
  match settings.input with
  | none => .error (.refused .missingInput)
  | some input =>
      if unused.isEmpty then pure (settings, input)
      else .error (.refused (.leftOver unused))

end Settings

end Lifeline.CommandLine
