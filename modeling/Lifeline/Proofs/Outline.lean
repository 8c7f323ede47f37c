import Lifeline.Proofs.Flattening
import Lifeline.Proofs.Statement

/-!
# Scripts without their nesting

A script can be read without keeping track of blocks.  Such a reading remembers
the actors so far, the events so far in one row, and the block annotation whose
lines are being collected.  Lines that close a block or begin another case mean
nothing to it, unless they close an annotation.

The main result is that this outline and the full reading of a script hold the
same actors and, once the tree of events is flattened, the same events in the
same order.  So however lines open and close blocks, and in whatever wrong
order, nothing is lost, doubled or moved.

What carries the proof is that a draft is filled only at its innermost sequence,
which is the end of everything read so far: an open block puts what stands in
front of it, and what its earlier cases hold, before that sequence.
-/

namespace Lifeline

variable {α : Type} [Scalar α]

theorem Actor.answersTo_declare (kind : ActorKind) (caption name : String) :
    (Actor.declare kind caption : Actor α).answersTo name = (caption == name) := by
  rw [answersTo, declare]
  simp

/-- Once a name is mentioned, there is an actor for it and for every name there was one
for before. -/
theorem Draft.any_mention (actors : List (Actor α)) (mentioned name : String) :
    (mention actors mentioned).any (·.answersTo name) =
      (actors.any (·.answersTo name) || mentioned == name) := by
  rw [mention]
  split
  next answered =>
    by_cases same : mentioned = name
    · rw [← same, answered, Bool.true_or]
    · rw [beq_eq_false_iff_ne.mpr same, Bool.or_false]
  next =>
    rw [List.any_append, List.any_cons, List.any_nil, Bool.or_false, Actor.answersTo_declare]

/-- A script read without its blocks. -/
structure Outline (α : Type) where
  actors : List (Actor α) := []
  events : List (Event α) := []
  /-- The annotation whose lines are being collected. -/
  note : Option Note := none

namespace Outline

omit [Scalar α] in
def append (outline : Outline α) (events : List (Event α)) : Outline α :=
  { outline with events := outline.events ++ events }

def row (outline : Outline α) : List (Event α) :=
  outline.events ++
    (outline.note.map fun note => Event.note note NotePlace.unset).toList

/-- Carry out the statement of a line.  Blocks leave a trace where they are
opened and nowhere else. -/
def carryOut (outline : Outline α) : Statement → Outline α
  | .close | .alternative _ | .brace | .comment => outline
  | .declaration kind caption nickname =>
      if caption = "" then outline
      else
        { outline with
          actors := outline.actors ++ [Actor.declare kind caption nickname] }
  | .note note =>
      if note.multiline then { outline with note := some note }
      else outline.append [.note note NotePlace.unset]
  | .conditional kind _ => outline.append [.conditional kind Frame.unset []]
  | .lifetime kind target => outline.append [.lifetime kind target]
  | .synchrony kind => outline.append [.synchrony kind []]
  | .numbering start => outline.append [.numbering start]
  | .signal (.ok signal) =>
      { outline.append signal.events with
        actors :=
          Draft.mention (Draft.mention outline.actors signal.source)
            signal.destination }
  | .signal (.error _) => outline

/-- Read one line.  While an annotation is being collected a line whose first word
is `end` closes it, and every other line belongs to its caption. -/
def readLine (outline : Outline α) (line : List Char) : Outline α :=
  let trimmed := Text.trim line
  match outline.note with
  | none => outline.carryOut (Statement.read trimmed)
  | some note =>
      if String.ofList (Text.cut [' '] trimmed).1 = "end" then
        { outline with events := outline.row, note := none }
      else
        { outline with
          note := some
            { note with
              caption := note.caption ++ String.ofList trimmed ++ "\n" } }

def ofText (text : List Char) : Outline α :=
  (Text.lines text).foldl readLine {}

end Outline

namespace Block

/-- What stands before the innermost sequence of a block, in one row. -/
def opening : Block α → List (Event α)
  | conditional before kind done _ _ =>
      Event.flattenAll before ++ .conditional kind Frame.unset [] :: Case.flatten done
  | synchrony before kind => Event.flattenAll before ++ [.synchrony kind []]

theorem flattenAll_complete (block : Block α) (inner : List (Event α)) :
    Event.flattenAll (block.complete inner) =
      block.opening ++ Event.flattenAll inner := by
  cases block <;>
    simp [complete, opening, Case.unset, Event.flattenAll, Event.flatten, Case.flatten]

/-- What stands before the innermost sequence of several blocks, innermost block
first. -/
def openings : List (Block α) → List (Event α)
  | [] => []
  | block :: outer => openings outer ++ block.opening

theorem flattenAll_foldl_complete (blocks : List (Block α))
    (inner : List (Event α)) :
    Event.flattenAll (blocks.foldl (fun inner block => block.complete inner) inner) =
      openings blocks ++ Event.flattenAll inner := by
  induction blocks generalizing inner with
  | nil => rfl
  | cons block outer ih =>
      rw [List.foldl_cons, ih, flattenAll_complete, openings, List.append_assoc]

end Block

namespace Draft

/-- Everything in a draft in one row, but for the annotation that is being
collected. -/
def row (draft : Draft α) : List (Event α) :=
  Block.openings draft.blocks ++ Event.flattenAll draft.events

def collected (draft : Draft α) : List (Event α) :=
  (draft.note.map fun note => Event.note note NotePlace.unset).toList

theorem flattenAll_allEvents (draft : Draft α) :
    Event.flattenAll draft.allEvents = draft.row ++ draft.collected := by
  rw [allEvents, Block.flattenAll_foldl_complete, row, collected]
  cases draft.note with
  | none => simp
  | some note => simp [Event.flattenAll, Event.flatten]

@[simp]
theorem row_append (draft : Draft α) (events : List (Event α)) :
    (draft.append events).row = draft.row ++ Event.flattenAll events := by
  simp [row, append]

omit [Scalar α] in
/-- What is open last in a draft, if anything is: an annotation, a case of a conditional, a
conditional that was exposed, or a synchrony block. -/
@[elab_as_elim]
theorem casesOpen {motive : Draft α → Prop}
    (noted : ∀ actors events blocks note remarks,
      motive ⟨actors, events, blocks, some note, remarks⟩)
    (outermost : ∀ actors events remarks, motive ⟨actors, events, [], none, remarks⟩)
    (entered : ∀ actors events before kind done caption outer remarks,
      motive ⟨actors, events, .conditional before kind done caption true :: outer, none, remarks⟩)
    (exposed : ∀ actors events before kind done caption outer remarks,
      motive ⟨actors, events, .conditional before kind done caption false :: outer, none, remarks⟩)
    (synchrony : ∀ actors events before kind outer remarks,
      motive ⟨actors, events, .synchrony before kind :: outer, none, remarks⟩)
    (draft : Draft α) : motive draft := by
  obtain ⟨actors, events, blocks, note, remarks⟩ := draft
  cases note with
  | some note => exact noted ..
  | none =>
      cases blocks with
      | nil => exact outermost ..
      | cons block outer =>
          cases block with
          | conditional before kind done caption isEntered =>
              cases isEntered with
              | true => exact entered ..
              | false => exact exposed ..
          | synchrony before kind => exact synchrony ..

/-- The diagram that a draft states.  A script states that of the draft of its lines. -/
def diagram (draft : Draft α) : Diagram α :=
  { actors := draft.actors, events := draft.allEvents }

theorem readLine_of_note {draft : Draft α} (noteEq : draft.note = none) {line : List Char}
    {statement : Statement} (readEq : Statement.read (Text.trim line) = statement) :
    draft.readLine line = draft.carryOut (String.ofList (Text.trim line)) statement := by
  simp only [readLine, noteEq, readEq]

@[simp]
theorem actors_closeInnermost (draft : Draft α) :
    draft.closeInnermost.actors = draft.actors := by
  rw [closeInnermost]; split <;> rfl

@[simp]
theorem note_closeInnermost (draft : Draft α) : draft.closeInnermost.note = none := by
  rw [closeInnermost]; split <;> first | rfl | assumption

theorem row_closeInnermost (draft : Draft α) :
    draft.closeInnermost.row = draft.row ++ draft.collected := by
  rw [closeInnermost]
  split
  next note blocks noteEq =>
    simp [row, collected, noteEq, Event.flattenAll, Event.flatten]
  next noteEq blocksEq => simp [collected, noteEq]
  next before kind done caption outer noteEq blocksEq =>
    simp [row, collected, noteEq, blocksEq, Block.openings, Block.opening]
  next block outer _ noteEq blocksEq =>
    simp [row, collected, noteEq, blocksEq, Block.openings,
      Block.flattenAll_complete]

/-- Of a draft without an open annotation, closing leaves the row as it is. -/
theorem row_closeInnermost_of_note {draft : Draft α} (noteEq : draft.note = none) :
    draft.closeInnermost.row = draft.row := by
  simp [row_closeInnermost, collected, noteEq]

@[simp]
theorem actors_close (draft : Draft α) : draft.close.actors = draft.actors := by
  rw [close]; split <;> simp

@[simp]
theorem note_close (draft : Draft α) : draft.close.note = none := by
  rw [close]; split <;> simp

theorem row_close (draft : Draft α) : draft.close.row = draft.row ++ draft.collected := by
  rw [close]
  split
  · rw [row_closeInnermost_of_note (note_closeInnermost draft), row_closeInnermost]
  · rw [row_closeInnermost]

@[simp]
theorem actors_alternative (draft : Draft α) (line caption : String) :
    (draft.alternative line caption).actors = draft.actors := by
  rw [alternative]; split <;> simp [remark]

@[simp]
theorem note_alternative (draft : Draft α) (line caption : String) :
    (draft.alternative line caption).note = none := by
  rw [alternative]; split <;> simp [remark]

/-- The events of the case that ends come before the sequence of the next case, as
they came before its end. -/
theorem row_alternative (draft : Draft α) (line caption : String) :
    (draft.alternative line caption).row = draft.row ++ draft.collected := by
  rw [← row_closeInnermost, alternative]
  split
  next before kind done last outer noteEq blocksEq =>
    simp [row, blocksEq, Block.openings, Block.opening, Case.unset, Case.flatten,
      Event.flattenAll]
  next => rfl

end Draft

namespace Outline

/-- An outline holds what a draft holds. -/
structure Agrees (outline : Outline α) (draft : Draft α) : Prop where
  actors : outline.actors = draft.actors
  events : outline.events = draft.row
  note : outline.note = draft.note

namespace Agrees

variable {outline : Outline α} {draft : Draft α}

theorem row_eq (agrees : outline.Agrees draft) :
    outline.row = draft.row ++ draft.collected := by
  rw [row, Draft.collected, agrees.events, agrees.note]

theorem carryOut (agrees : outline.Agrees draft) (noteEq : draft.note = none)
    (line : String) (statement : Statement) :
    (outline.carryOut statement).Agrees (draft.carryOut line statement) := by
  -- With nothing being collected, closing leaves the row as it is.
  have nothing : draft.collected = [] := by simp [Draft.collected, noteEq]
  obtain ⟨actorsEq, eventsEq, noteAgrees⟩ := agrees
  have outlineNote : outline.note = none := noteAgrees.trans noteEq
  have appended (events : List (Event α)) (leaves : Event.flattenAll events = events) :
      (outline.append events).Agrees (draft.append events) :=
    ⟨actorsEq, by simp [append, eventsEq, leaves], noteAgrees⟩
  cases statement with
  | close =>
      change outline.Agrees draft.close
      exact ⟨by simpa using actorsEq,
        by simpa [Draft.row_close, nothing] using eventsEq, by simpa using outlineNote⟩
  | alternative caption =>
      change outline.Agrees (draft.alternative line caption)
      exact ⟨by simpa using actorsEq,
        by simpa [Draft.row_alternative, nothing] using eventsEq,
        by simpa using outlineNote⟩
  | brace =>
      change outline.Agrees draft.closeInnermost
      exact ⟨by simpa using actorsEq,
        by simpa [Draft.row_closeInnermost, nothing] using eventsEq,
        by simpa using outlineNote⟩
  | comment => exact ⟨actorsEq, eventsEq, noteAgrees⟩
  | declaration kind caption nickname =>
      rw [Outline.carryOut, Draft.carryOut, Draft.declare]
      split
      · exact ⟨actorsEq, eventsEq, noteAgrees⟩
      · exact ⟨by simp [actorsEq], eventsEq, noteAgrees⟩
  | note note =>
      rw [Outline.carryOut, Draft.carryOut, Draft.annotate]
      split
      · exact ⟨actorsEq, eventsEq, rfl⟩
      · exact appended _ rfl
  | conditional kind caption =>
      exact ⟨actorsEq,
        by simp [Outline.carryOut, append, Draft.carryOut, Draft.openConditional,
          Draft.row, Block.openings, Block.opening, Case.flatten, Event.flattenAll,
          eventsEq],
        noteAgrees⟩
  | lifetime kind target => exact appended _ rfl
  | synchrony kind =>
      exact ⟨actorsEq,
        by simp [Outline.carryOut, append, Draft.carryOut, Draft.openSynchrony,
          Draft.row, Block.openings, Block.opening, Event.flattenAll, eventsEq],
        noteAgrees⟩
  | numbering start => exact appended _ rfl
  | signal result =>
      cases result with
      | ok signal =>
          exact ⟨by simp [Outline.carryOut, Draft.carryOut, Draft.sendLine, Draft.send,
              actorsEq],
            (appended _ signal.flattenAll_events).events, noteAgrees⟩
      | error fault =>
          change outline.Agrees (draft.sendLine line (.error fault))
          by_cases empty : line = ""
          · simpa [Draft.sendLine, empty] using ⟨actorsEq, eventsEq, noteAgrees⟩
          · cases fault <;>
              simpa [Draft.sendLine, empty] using ⟨actorsEq, eventsEq, noteAgrees⟩

theorem readLine (agrees : outline.Agrees draft) (line : List Char) :
    (outline.readLine line).Agrees (draft.readLine line) := by
  rw [Outline.readLine, Draft.readLine, agrees.note]
  cases noteEq : draft.note with
  | none => exact agrees.carryOut noteEq _ _
  | some note =>
      by_cases closes : Statement.read (Text.trim line) = .close
      · simp only [(Statement.read_eq_close_iff _).mp closes, closes, if_true]
        exact ⟨by simpa using agrees.actors,
          by simpa [Draft.row_close] using agrees.row_eq, by simp⟩
      · have notEnd := mt (Statement.read_eq_close_iff _).mpr closes
        simp only [notEnd, if_false]
        exact ⟨agrees.actors, agrees.events, rfl⟩

theorem readLines (agrees : outline.Agrees draft) (lines : List (List Char)) :
    (lines.foldl Outline.readLine outline).Agrees (draft.readLines lines) := by
  induction lines generalizing outline draft with
  | nil => exact agrees
  | cons line rest ih => exact ih (agrees.readLine line)

end Agrees

theorem agrees_ofText (text : List Char) :
    (ofText text : Outline α).Agrees (Draft.ofText text) :=
  Agrees.readLines ⟨rfl, rfl, rfl⟩ (Text.lines text)

/-- What statements keep, and the lines and the end of an annotation, a whole script
keeps. -/
theorem readLines_keeps {kept : Outline α → Prop}
    (carryOut : ∀ outline, kept outline → ∀ statement, kept (outline.carryOut statement))
    (collect : ∀ outline, kept outline → ∀ note, kept { outline with note := some note })
    (close : ∀ outline, kept outline → kept { outline with events := outline.row, note := none })
    {outline : Outline α} (start : kept outline) (lines : List (List Char)) :
    kept (lines.foldl readLine outline) := by
  induction lines generalizing outline with
  | nil => exact start
  | cons line rest ih =>
      refine ih ?_
      rw [readLine]
      split
      · exact carryOut outline start _
      · split
        · exact close outline start
        · exact collect outline start _

/-- Whether nothing in the row is placed. -/
def Unplaced (outline : Outline α) : Prop :=
  ∀ event ∈ outline.events,
    event.placedPass (fun _ _ => false) (fun _ _ => false) = true

namespace Unplaced

variable {outline : Outline α}

omit [Scalar α] in
theorem append (unplaced : outline.Unplaced) {events : List (Event α)}
    (others : ∀ event ∈ events,
      event.placedPass (fun _ _ => false) (fun _ _ => false) = true) :
    (outline.append events).Unplaced := by
  intro event member
  rcases List.mem_append.mp member with inRow | inOthers
  · exact unplaced event inRow
  · exact others event inOthers

theorem row (unplaced : outline.Unplaced) :
    ∀ event ∈ outline.row,
      event.placedPass (fun _ _ => false) (fun _ _ => false) = true := by
  intro event member
  rcases List.mem_append.mp member with inEvents | inNote
  · exact unplaced event inEvents
  · rw [Option.mem_toList, Option.map_eq_some_iff] at inNote
    obtain ⟨note, -, rfl⟩ := inNote
    rfl

theorem carryOut (unplaced : outline.Unplaced) (statement : Statement) :
    (outline.carryOut statement).Unplaced := by
  cases statement with
  | close | alternative | brace | comment => exact unplaced
  | declaration kind caption nickname =>
      rw [Outline.carryOut]
      split
      · exact unplaced
      · exact unplaced
  | note note =>
      rw [Outline.carryOut]
      split
      · exact unplaced
      · exact unplaced.append (by simp; rfl)
  | conditional | lifetime | synchrony | numbering =>
      exact unplaced.append (by simp; rfl)
  | signal result =>
      cases result with
      | ok signal =>
          refine unplaced.append fun event member => ?_
          rw [Signal.events, Signal.markers, List.mem_cons, List.mem_append] at member
          rcases member with rfl | activation | deactivation
          · rfl
          · split at activation <;> simp at activation
            rw [activation]
            rfl
          · split at deactivation <;> simp at deactivation
            rw [deactivation]
            rfl
      | error => exact unplaced

end Unplaced

end Outline

/-- Nesting loses, doubles and moves nothing: the actors and the flattened events
of a script are those of its outline, which knows no blocks. -/
theorem Script.read_flattened (text : String) :
    (Script.read text : Diagram α).actors = (Outline.ofText text.toList).actors ∧
      Event.flattenAll (Script.read text : Diagram α).events =
        (Outline.ofText text.toList).row := by
  have agrees : (Outline.ofText text.toList : Outline α).Agrees _ :=
    Outline.agrees_ofText text.toList
  exact ⟨agrees.actors.symm,
    by rw [agrees.row_eq, ← Draft.flattenAll_allEvents]; rfl⟩

theorem Script.nonePlaced_read (text : String) :
    Event.NonePlaced (Script.read text : Diagram α).events := by
  have agrees : (Outline.ofText text.toList : Outline α).Agrees _ :=
    Outline.agrees_ofText text.toList
  have unplaced : (Outline.ofText text.toList : Outline α).Unplaced :=
    Outline.readLines_keeps (fun _ unplaced => unplaced.carryOut) (fun _ unplaced _ => unplaced)
      (fun _ unplaced => unplaced.row) (by intro event member; cases member) _
  rw [Event.nonePlaced_iff, Script.read, Draft.flattenAll_allEvents, ← agrees.row_eq]
  exact unplaced.row

end Lifeline
