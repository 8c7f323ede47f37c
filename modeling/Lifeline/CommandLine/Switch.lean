import Lifeline.Text.Letter

/-!
# Switches and words

The words of a command line are switches and plain words.  A long switch may be
shortened as long as what is left means one switch only, and its value may
follow an equals sign.  The value of a short switch may follow it directly, and
short switches without values may be run together.  What follows an equals sign
after a short switch without a value is run together with it as well.

A word `--` says that everything after it is plain.  Plain are also the empty
word, a single dash, negative numbers, and words with a space that mean no
switch.
-/

namespace Lifeline.CommandLine

open Text (Letter Letters)

inductive Switch where
  | help
  | format
  | ascii
  | foreground
  | background
  | font
  | fontSize
  | output
  | verbose
  deriving DecidableEq

namespace Switch

/-- The names of a switch, short ones first. -/
def names : Switch → List String
  | help => ["-h", "--help"]
  | format => ["--format"]
  | ascii => ["--ascii"]
  | foreground => ["--foreground"]
  | background => ["--background"]
  | font => ["--font"]
  | fontSize => ["--font-size"]
  | output => ["-o", "--output"]
  | verbose => ["-v", "--verbose"]

def all : List Switch :=
  [help, format, ascii, foreground, background, font, fontSize, output, verbose]

def takesValue : Switch → Bool
  | help | ascii | verbose => false
  | format | foreground | background | font | fontSize | output => true

def title (switch : Switch) : String :=
  String.intercalate "/" switch.names

def table : List (String × Switch) :=
  all.flatMap fun switch => switch.names.map fun name => (name, switch)

/-- The switch that a word names in full, with its name. -/
def ofWord? (word : Letters) : Option (String × Switch) :=
  table.find? fun entry => Letters.ofText entry.1 == word

end Switch

/-- A switch as it is found in a word. -/
structure Found where
  name : String
  switch : Switch
  /-- What is written in one word with the switch, be it a value or further
  switches. -/
  attached : Option Letters := none

inductive Word where
  | separator
  | plain (word : Letters)
  | option (found : Found)
  | unknown (word : Letters)

namespace Word

def dash : Letter := .char '-'

def dashes : Letters := [dash, dash]

/-- What stands before the first equals sign of a word and what follows it. -/
def cutValue? (word : Letters) : Option (Letters × Letters) :=
  Text.cutAt? [.char '='] word

/-- The switches that a word beginning with two dashes may stand for. -/
def longMatches (word : Letters) : List Found :=
  let (start, attached) : Letters × Option Letters :=
    match cutValue? word with
    | some (start, value) => (start, some value)
    | none => (word, none)
  Switch.table.filterMap fun (name, switch) =>
    if start.isPrefixOf (Letters.ofText name) then some ⟨name, switch, attached⟩
    else none

/-- The switches that a word beginning with one dash may stand for. -/
def shortMatches (word : Letters) : List Found :=
  Switch.table.filterMap fun (name, switch) =>
    if Letters.ofText name = word.take 2 then
      some ⟨name, switch, some (word.drop 2)⟩
    else if word.isPrefixOf (Letters.ofText name) then some ⟨name, switch, none⟩
    else none

def candidates (word : Letters) : List Found :=
  if word.take 2 = dashes then longMatches word else shortMatches word

/-- The switch that a word names in full, on its own or before an equals
sign. -/
def named? (word : Letters) : Option Found :=
  match Switch.ofWord? word with
  | some (name, switch) => some ⟨name, switch, none⟩
  | none =>
      match cutValue? word with
      | none => none
      | some (start, value) =>
          (Switch.ofWord? start).map fun (name, switch) => ⟨name, switch, some value⟩

def isNumeral (text : List Char) : Bool :=
  !text.isEmpty && text.all fun char => (Text.digitValue? char).isSome

/-- Whether a text is a negative number, with or without decimals.  A newline at
its end does not count. -/
def isNegative : List Char → Bool
  | '-' :: rest =>
      let number := if rest.getLast? = some '\n' then rest.dropLast else rest
      isNumeral number ||
        match Text.cutAt? ['.'] number with
        | some (whole, decimals) =>
            (whole.isEmpty || isNumeral whole) && isNumeral decimals
        | none => false
  | _ => false

/-- What a word stands for, or the names that it might be short for if there are
several. -/
def read (word : Letters) : Except (List String) Word :=
  if word.head? ≠ some dash then .ok (.plain word)
  else
    match named? word with
    | some found => .ok (.option found)
    | none =>
        if word.length = 1 then .ok (.plain word)
        else
          match candidates word with
          | [found] => .ok (.option found)
          | [] =>
              if word.chars?.any isNegative || word.contains (.char ' ') then
                .ok (.plain word)
              else .ok (.unknown word)
          | several => .error (several.map Found.name)

end Word

end Lifeline.CommandLine
