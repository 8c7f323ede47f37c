import Lifeline.Proofs.SignalLine
import Lifeline.Proofs.Text.Blank

/-!
# The names that scripts hold

Names come into a script by declarations, signals, annotations and lifetime markers.  The
names of a script are those that its statements bring in, line by line; the lines inside a
block annotation bring in none.

A signal also brings in actors, but only under names that are at its ends.
-/

namespace Lifeline

variable {α : Type}

/-- Whether a name has the form in which names can be compared. -/
structure Text.Normal (name : String) : Prop where
  unquoted : '"' ∉ name.toList
  oneLine : '\n' ∉ name.toList
  trimmed : Text.trim name.toList = name.toList

def Actor.names (actor : Actor α) : List String :=
  [actor.caption, actor.nickname]

namespace Event

/-- The names at the ends of a signal. -/
def ends : Event α → List String
  | .signal content _ => [content.source, content.destination]
  | .note _ _ | .conditional _ _ _ | .synchrony _ _ | .lifetime _ _ | .numbering _ => []

/-- The names by which an event refers to an actor that need not exist. -/
def references : Event α → List String
  | .note content _ => content.location.toList
  | .lifetime _ target => [target]
  | .signal _ _ | .conditional _ _ _ | .synchrony _ _ | .numbering _ => []

end Event

namespace Diagram

def ends (diagram : Diagram α) : List String :=
  (Event.flattenAll diagram.events).flatMap Event.ends

/-- The captions and nicknames of actors and the names at the ends of signals. -/
def parties (diagram : Diagram α) : List String :=
  diagram.actors.flatMap Actor.names ++ diagram.ends

/-- The locations of annotations and the targets of lifetime markers. -/
def references (diagram : Diagram α) : List String :=
  (Event.flattenAll diagram.events).flatMap Event.references

/-- Whether all names are in normal form, and none that belongs to an actor is empty. -/
structure NamesNormal (diagram : Diagram α) : Prop where
  named : ∀ name ∈ diagram.parties, name ≠ ""
  normal : ∀ name ∈ diagram.parties ++ diagram.references, Text.Normal name

end Diagram

namespace Statement

/-- The names of the actor that a statement declares. -/
def declared : Statement → List String
  | .declaration _ caption nickname =>
      if caption = "" then [] else [caption, if nickname = "" then caption else nickname]
  | .signal _ | .close | .note _ | .conditional _ _ | .alternative _ | .lifetime _ _
  | .synchrony _ | .brace | .numbering _ | .comment => []

def ends : Statement → List String
  | .signal (.ok stated) => [stated.source, stated.destination]
  | .signal (.error _) | .close | .declaration _ _ _ | .note _ | .conditional _ _
  | .alternative _ | .lifetime _ _ | .synchrony _ | .brace | .numbering _ | .comment => []

def parties (statement : Statement) : List String :=
  statement.declared ++ statement.ends

def references : Statement → List String
  | .note stated => stated.location.toList
  | .lifetime _ target => [target]
  | .signal (.ok stated) =>
      (if stated.activates then [stated.destination] else []) ++
        if stated.deactivates then [stated.destination] else []
  | .signal (.error _) | .close | .declaration _ _ _ | .conditional _ _ | .alternative _
  | .synchrony _ | .brace | .numbering _ | .comment => []

/-- Whether a statement is followed by lines that belong to it. -/
def collects : Statement → Bool
  | .note stated => stated.multiline
  | .close | .declaration _ _ _ | .conditional _ _ | .alternative _ | .lifetime _ _ | .synchrony _
  | .brace | .numbering _ | .comment | .signal _ => false

variable [Scalar α]

/-- The events that a statement adds to the row of all events. -/
def added : Statement → List (Event α)
  | .note stated => [.note stated NotePlace.unset]
  | .conditional kind _ => [.conditional kind Frame.unset []]
  | .lifetime kind target => [.lifetime kind target]
  | .synchrony kind => [.synchrony kind []]
  | .numbering start => [.numbering start]
  | .signal (.ok stated) => stated.events
  | .signal (.error _) | .close | .declaration _ _ _ | .alternative _ | .brace | .comment => []

theorem flatMap_ends_added (statement : Statement) :
    (statement.added : List (Event α)).flatMap Event.ends = statement.ends := by
  cases statement with
  | signal result =>
      cases result with
      | error => rfl
      | ok signal =>
          rw [added, Signal.events, Signal.markers]
          split <;> split <;> rfl
  | close | declaration | note | conditional | alternative | lifetime | synchrony | brace
  | numbering | comment => rfl

theorem flatMap_references_added (statement : Statement) :
    (statement.added : List (Event α)).flatMap Event.references = statement.references := by
  cases statement with
  | note note => exact List.append_nil _
  | signal result =>
      cases result with
      | error => rfl
      | ok signal =>
          rw [added, references, Signal.events, Signal.markers]
          split <;> split <;> rfl
  | close | declaration | conditional | alternative | lifetime | synchrony | brace | numbering
  | comment => rfl

end Statement

namespace Outline

variable [Scalar α] {outline : Outline α} {name : String}

def ends (outline : Outline α) : List String :=
  outline.row.flatMap Event.ends

def parties (outline : Outline α) : List String :=
  outline.actors.flatMap Actor.names ++ outline.ends

def references (outline : Outline α) : List String :=
  outline.row.flatMap Event.references

theorem row_carryOut (noteEq : outline.note = none) (statement : Statement) :
    (outline.carryOut statement).row = outline.row ++ statement.added := by
  cases statement with
  | note note =>
      cases multiline : note.multiline <;>
        simp [row, carryOut, append, noteEq, multiline, Statement.added]
  | declaration kind caption nickname =>
      rw [carryOut]
      split <;> simp [row, Statement.added]
  | signal result => cases result <;> simp [row, carryOut, append, noteEq, Statement.added]
  | close | alternative | brace | comment => exact (List.append_nil _).symm
  | conditional | lifetime | synchrony | numbering =>
      simp [row, carryOut, append, noteEq, Statement.added]

theorem ends_carryOut (noteEq : outline.note = none) (statement : Statement) :
    (outline.carryOut statement).ends = outline.ends ++ statement.ends := by
  rw [ends, row_carryOut noteEq, List.flatMap_append, Statement.flatMap_ends_added, ends]

theorem references_carryOut (noteEq : outline.note = none) (statement : Statement) :
    (outline.carryOut statement).references = outline.references ++ statement.references := by
  rw [references, row_carryOut noteEq, List.flatMap_append, Statement.flatMap_references_added,
    references]

/-- The actors that a signal brings in have its names. -/
theorem mem_names_newcomers {actors : List (Actor α)} {signal : Signal}
    (member : name ∈ ((Draft.newcomers actors signal).map
      (Actor.declare .participant · : String → Actor α)).flatMap Actor.names) :
    name = signal.source ∨ name = signal.destination := by
  simp only [List.mem_flatMap, List.mem_map, Draft.newcomers, List.mem_filter] at member
  obtain ⟨actor, ⟨newcomer, ⟨inSignal, -⟩, rfl⟩, inNames⟩ := member
  have same : name = newcomer := by simpa [Actor.names, Actor.declare] using inNames
  rw [same]
  simpa using inSignal

theorem mem_parties_carryOut (noteEq : outline.note = none) (statement : Statement) :
    name ∈ (outline.carryOut statement).parties ↔
      name ∈ outline.parties ∨ name ∈ statement.parties := by
  -- What comes in with a signal has a name that is at one of its ends.
  have actors : ∃ others, (outline.carryOut statement).actors.flatMap Actor.names =
      outline.actors.flatMap Actor.names ++ (statement.declared ++ others) ∧
        ∀ other ∈ others, other ∈ statement.ends := by
    cases statement with
    | declaration kind caption nickname =>
        refine ⟨[], ?_, by simp⟩
        rw [carryOut, Statement.declared]
        split <;> simp [Actor.names, Actor.declare]
    | signal result =>
        cases result with
        | error => exact ⟨[], (List.append_nil _).symm, by simp⟩
        | ok signal =>
            have actorsEq : (outline.carryOut (.signal (.ok signal))).actors = _ :=
              Draft.mention_mention outline.actors signal
            rw [actorsEq, List.flatMap_append]
            refine ⟨_, rfl, fun other member => ?_⟩
            simpa [Statement.ends] using mem_names_newcomers member
    | note note =>
        refine ⟨[], ?_, by simp⟩
        rw [carryOut]
        split <;> exact (List.append_nil _).symm
    | close | alternative | brace | comment | conditional | lifetime | synchrony | numbering =>
        exact ⟨[], (List.append_nil _).symm, by simp⟩
  obtain ⟨others, actorsEq, atEnds⟩ := actors
  rw [parties, parties, Statement.parties, actorsEq, ends_carryOut noteEq]
  simp only [List.mem_append]
  have atEnd := atEnds name
  tauto

/-- Whether names are gathered from an outline such that a statement adds names of its own,
and collecting the lines of an annotation adds none. -/
structure Gathers (gather : Outline α → List String) (added : Statement → List String) :
    Prop where
  start : gather {} = []
  carryOut : ∀ outline : Outline α, outline.note = none → ∀ statement name,
    name ∈ gather (outline.carryOut statement) ↔ name ∈ gather outline ∨ name ∈ added statement
  collect : ∀ (outline : Outline α) note caption, outline.note = some note →
    gather { outline with note := some { note with caption } } = gather outline
  close : ∀ outline : Outline α,
    gather { outline with events := outline.row, note := none } = gather outline

theorem gathers_references : Gathers (references (α := α)) Statement.references := by
  constructor
  · rfl
  · intro outline noteEq statement name
    rw [references_carryOut noteEq, List.mem_append]
  · intro outline note caption noteEq
    simp [references, row, noteEq, Event.references]
  · intro outline
    simp [references, row]

theorem gathers_ends : Gathers (ends (α := α)) Statement.ends := by
  constructor
  · rfl
  · intro outline noteEq statement name
    rw [ends_carryOut noteEq, List.mem_append]
  · intro outline note caption noteEq
    simp [ends, row, noteEq, Event.ends]
  · intro outline
    simp [ends, row]

theorem gathers_parties : Gathers (parties (α := α)) Statement.parties := by
  constructor
  · rfl
  · intro outline noteEq statement name
    exact mem_parties_carryOut noteEq statement
  · intro outline note caption noteEq
    rw [parties, gathers_ends.collect outline note caption noteEq, parties]
  · intro outline
    rw [parties, gathers_ends.close, parties]

end Outline

namespace Script

/-- The lines that are read as statements, trimmed.  Those behind a statement that collects
lines belong to it up to one with `end` for its first word; the flag says whether the lines
begin with such ones. -/
def statedLines : Bool → List (List Char) → List (List Char)
  | _, [] => []
  | true, line :: rest =>
      statedLines (String.ofList (Text.cut [' '] (Text.trim line)).1 ≠ "end") rest
  | false, line :: rest =>
      Text.trim line :: statedLines (Statement.read (Text.trim line)).collects rest

/-- The lines of a text that are read as statements. -/
def stated (text : String) : List (List Char) :=
  statedLines false (Text.lines text.toList)

end Script

namespace Outline

variable [Scalar α] {outline : Outline α} {name : String}

theorem isSome_note_carryOut (noteEq : outline.note = none) (statement : Statement) :
    (outline.carryOut statement).note.isSome = statement.collects := by
  have unchanged : outline.note.isSome = false := by rw [noteEq, Option.isSome_none]
  cases statement with
  | note note =>
      rw [carryOut, Statement.collects]
      split
      next multiline => exact multiline.symm
      next oneLine => exact unchanged.trans (Bool.eq_false_iff.mpr oneLine).symm
  | declaration kind caption nickname =>
      rw [carryOut]
      split <;> exact unchanged
  | signal result => cases result <;> exact unchanged
  | close | alternative | brace | comment | conditional | lifetime | synchrony | numbering =>
      exact unchanged

theorem Gathers.mem_readLines {gather : Outline α → List String}
    {added : Statement → List String} (gathers : Gathers gather added)
    (lines : List (List Char)) :
    name ∈ gather (lines.foldl readLine outline) ↔
      name ∈ gather outline ∨
        ∃ line ∈ Script.statedLines outline.note.isSome lines,
          name ∈ added (Statement.read line) := by
  induction lines generalizing outline with
  | nil => simp [Script.statedLines]
  | cons line rest ih =>
      rw [List.foldl_cons, ih]
      cases noteEq : outline.note with
      | none =>
          have readEq : outline.readLine line =
              outline.carryOut (Statement.read (Text.trim line)) := by
            rw [readLine, noteEq]
          rw [readEq, gathers.carryOut outline noteEq, isSome_note_carryOut noteEq]
          simp [Script.statedLines, or_assoc]
      | some note =>
          rw [Option.isSome_some, Script.statedLines]
          by_cases closes : String.ofList (Text.cut [' '] (Text.trim line)).1 = "end"
          · have readEq : outline.readLine line =
                { outline with events := outline.row, note := none } := by
              simp only [readLine, noteEq, if_pos closes]
            rw [readEq, gathers.close, decide_eq_false (not_not.mpr closes)]
            rfl
          · have readEq : outline.readLine line =
                { outline with
                  note := some
                    { note with
                      caption := note.caption ++ String.ofList (Text.trim line) ++ "\n" } } := by
              simp only [readLine, noteEq, if_neg closes]
            rw [readEq, gathers.collect outline note _ noteEq, decide_eq_true closes]
            rfl

/-- The names gathered from a text are those that its statements add. -/
theorem Gathers.mem_ofText {gather : Outline α → List String}
    {added : Statement → List String} (gathers : Gathers gather added) (text : String) :
    name ∈ gather (ofText text.toList) ↔
      ∃ line ∈ Script.stated text, name ∈ added (Statement.read line) := by
  rw [ofText, gathers.mem_readLines, gathers.start]
  simp [Script.stated]

end Outline

theorem Script.ends_read [Scalar α] (text : String) :
    (Script.read text : Diagram α).ends = (Outline.ofText text.toList : Outline α).ends := by
  rw [Diagram.ends, (Script.read_flattened (α := α) text).2, Outline.ends]

theorem Script.parties_read [Scalar α] (text : String) :
    (Script.read text : Diagram α).parties =
      (Outline.ofText text.toList : Outline α).parties := by
  rw [Diagram.parties, (Script.read_flattened (α := α) text).1, Script.ends_read, Outline.parties]

theorem Script.references_read [Scalar α] (text : String) :
    (Script.read text : Diagram α).references =
      (Outline.ofText text.toList : Outline α).references := by
  rw [Diagram.references, (Script.read_flattened (α := α) text).2, Outline.references]

end Lifeline
