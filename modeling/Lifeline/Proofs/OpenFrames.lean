import Lifeline.Proofs.Outline

/-!
# The stack of open frames

While a script is read, what is open can be kept on a stack of frames: sequences of
events, conditionals, and the annotation whose lines are being collected.  A
conditional and the sequence of its last case are two frames.  Reading such a stack
can go wrong: a stack may be empty, a conditional may have no case that events could
go to, an annotation has no sequence at all, and what is taken off may not belong to
what is below it.  Here every step asks, and fails if it has to.

The main result is that no text makes it fail.  A draft is such a stack with its
frames put together, so the stack has a frame at all times and its conditionals have
cases, and what is left on it at the end is the diagram that the script states.
-/

namespace Lifeline

variable {α : Type}

/-- Something that is open while a script is read. -/
inductive OpenFrame (α : Type) where
  /-- The outermost sequence, or that of the last case of the conditional below. -/
  | sequence (events : List (Event α))
  | synchrony (kind : SynchronyKind) (events : List (Event α))
  | conditional (kind : ConditionalKind) (cases : List (Case α (Event α)))
  | note (note : Note)

section LastCase

/-- Change the events of the last of some cases, if there is one. -/
def Case.changeLast? (change : List (Event α) → List (Event α))
    (cases : List (Case α (Event α))) : Option (List (Case α (Event α))) :=
  cases.getLast?.map fun last =>
    cases.dropLast ++ [{ last with events := change last.events }]

@[simp]
theorem Case.changeLast?_concat (change : List (Event α) → List (Event α))
    (done : List (Case α (Event α))) (last : Case α (Event α)) :
    Case.changeLast? change (done ++ [last]) =
      some (done ++ [{ last with events := change last.events }]) := by
  rw [changeLast?, List.getLast?_concat, List.dropLast_concat, Option.map_some]

end LastCase

variable [Scalar α]

namespace OpenFrame

/-- Add events to the sequence that a frame stands for.  That of a conditional is the
one of its last case; an annotation has none. -/
def append? (frame : OpenFrame α) (events : List (Event α)) : Option (OpenFrame α) :=
  match frame with
  | .sequence before => some (.sequence (before ++ events))
  | .synchrony kind before => some (.synchrony kind (before ++ events))
  | .conditional kind cases =>
      (Case.changeLast? (· ++ events) cases).map (.conditional kind)
  | .note _ => none

/-- Put a frame into the one below it. -/
def join? (inner outer : OpenFrame α) : Option (OpenFrame α) :=
  match inner, outer with
  | .sequence events, .conditional kind cases =>
      (Case.changeLast? (fun _ => events) cases).map (.conditional kind)
  | .sequence _, _ => none
  | .synchrony kind events, outer => outer.append? [.synchrony kind events]
  | .conditional kind cases, outer => outer.append? [.conditional kind Frame.unset cases]
  | .note content, outer => outer.append? [.note content NotePlace.unset]

end OpenFrame

/-- The actors so far and the open frames, the innermost first. -/
structure FrameStack (α : Type) where
  actors : List (Actor α) := []
  frames : List (OpenFrame α) := [.sequence []]

namespace FrameStack

/-- Take a frame off a stack. -/
def pop? : List (OpenFrame α) → Option (List (OpenFrame α))
  | [] => none
  | [_] => some []
  | inner :: outer :: rest => (inner.join? outer).map (· :: rest)

/-- Take a frame off a stack that has more than one. -/
def popInner? : List (OpenFrame α) → Option (List (OpenFrame α))
  | [root] => some [root]
  | frames => pop? frames

def append? (events : List (Event α)) : List (OpenFrame α) → Option (List (OpenFrame α))
  | [] => none
  | top :: rest => (top.append? events).map (· :: rest)

/-- Open a frame in the sequence of the innermost one. -/
def push? (opened : List (OpenFrame α)) (frames : List (OpenFrame α)) :
    Option (List (OpenFrame α)) :=
  (append? [] frames).map fun _ => opened ++ frames

/-- Take a frame off, and another one if that exposes a conditional. -/
def close? (frames : List (OpenFrame α)) : Option (List (OpenFrame α)) :=
  (popInner? frames).bind fun
    | [] => none
    | .conditional kind cases :: rest => pop? (.conditional kind cases :: rest)
    | closed => some closed

/-- Take a frame off and begin another case of the conditional that this exposes. -/
def alternative? (caption : String) (frames : List (OpenFrame α)) :
    Option (List (OpenFrame α)) :=
  (popInner? frames).bind fun
    | [] => none
    | .conditional kind cases :: rest =>
        some (.sequence [] :: .conditional kind (cases ++ [Case.unset caption []]) :: rest)
    | closed => some closed

/-- The frames after the statement of a line. -/
def framesAfter? (frames : List (OpenFrame α)) :
    Statement → Option (List (OpenFrame α))
  | .close => close? frames
  | .declaration _ _ _ | .comment => some frames
  | .note note =>
      if note.multiline then push? [.note note] frames
      else append? [.note note NotePlace.unset] frames
  | .conditional kind caption =>
      push? [.sequence [], .conditional kind [Case.unset caption []]] frames
  | .alternative caption => alternative? caption frames
  | .lifetime kind target => append? [.lifetime kind target] frames
  | .synchrony kind => push? [.synchrony kind []] frames
  | .brace => popInner? frames
  | .numbering start => append? [.numbering start] frames
  | .signal (.ok signal) => append? signal.events frames
  | .signal (.error _) => append? [] frames

def actorsAfter (actors : List (Actor α)) : Statement → List (Actor α)
  | .declaration kind caption nickname =>
      if caption = "" then actors else actors ++ [Actor.declare kind caption nickname]
  | .signal (.ok signal) =>
      Draft.mention (Draft.mention actors signal.source) signal.destination
  | _ => actors

/-- Read one line.  The innermost frame is looked at first. -/
def readLine? (stack : FrameStack α) (line : List Char) : Option (FrameStack α) :=
  let trimmed := Text.trim line
  match stack.frames, Statement.read trimmed with
  | [], _ => none
  | frames, .close => (close? frames).map (⟨stack.actors, ·⟩)
  | .note note :: rest, _ =>
      let extended :=
        { note with caption := note.caption ++ String.ofList trimmed ++ "\n" }
      some ⟨stack.actors, .note extended :: rest⟩
  | frames, statement =>
      (framesAfter? frames statement).map (⟨actorsAfter stack.actors statement, ·⟩)

def readLines? (stack : FrameStack α) (lines : List (List Char)) :
    Option (FrameStack α) :=
  lines.foldlM readLine? stack

/-- The outermost sequence with every frame put into the one below it. -/
def allEvents? : List (OpenFrame α) → Option (List (Event α))
  | [] => none
  | innermost :: rest =>
      (rest.foldlM OpenFrame.join? innermost).bind fun
        | .sequence events => some events
        | _ => none

def diagram? (stack : FrameStack α) : Option (Diagram α) :=
  (allEvents? stack.frames).map fun events => { actors := stack.actors, events }

/-- Whether a stack has a frame, and every conditional on it a case. -/
structure Sound (stack : FrameStack α) : Prop where
  nonempty : stack.frames ≠ []
  cases : ∀ kind cases, .conditional kind cases ∈ stack.frames → cases ≠ []

end FrameStack

namespace Block

/-- The frames of blocks around a sequence.  A conditional that is entered has two. -/
def frames : List (Block α) → List (Event α) → List (OpenFrame α)
  | [], events => [.sequence events]
  | .conditional before kind done caption true :: outer, events =>
      .sequence events :: .conditional kind (done ++ [Case.unset caption []]) ::
        frames outer before
  | .conditional before kind done caption false :: outer, events =>
      .conditional kind (done ++ [Case.unset caption events]) :: frames outer before
  | .synchrony before kind :: outer, events =>
      .synchrony kind events :: frames outer before

theorem exists_frames_eq_cons (blocks : List (Block α)) (events : List (Event α)) :
    ∃ top rest, frames blocks events = top :: rest ∧ ∀ note, top ≠ .note note := by
  cases blocks with
  | nil => exact ⟨_, _, rfl, by simp⟩
  | cons block outer =>
      cases block with
      | conditional before kind done caption entered =>
          cases entered <;> exact ⟨_, _, rfl, by simp⟩
      | synchrony before kind => exact ⟨_, _, rfl, by simp⟩

theorem append?_frames (blocks : List (Block α)) (events others : List (Event α)) :
    FrameStack.append? others (frames blocks events) =
      some (frames blocks (events ++ others)) := by
  cases blocks with
  | nil => rfl
  | cons block outer =>
      cases block with
      | conditional before kind done caption entered =>
          cases entered with
          | true => rfl
          | false =>
              rw [frames, FrameStack.append?, OpenFrame.append?, Case.changeLast?_concat]
              rfl
      | synchrony before kind => rfl

theorem cases_ne_nil_of_mem_frames {blocks : List (Block α)} {events : List (Event α)}
    {kind : ConditionalKind} {cases : List (Case α (Event α))}
    (member : .conditional kind cases ∈ frames blocks events) : cases ≠ [] := by
  induction blocks generalizing events with
  | nil =>
      rw [frames, List.mem_singleton] at member
      cases member
  | cons block outer ih =>
      cases block with
      | conditional before blockKind done caption entered =>
          cases entered <;> rw [frames] at member <;>
            simp only [List.mem_cons, OpenFrame.conditional.injEq, reduceCtorEq,
              false_or] at member
          all_goals
            rcases member with ⟨-, rfl⟩ | deeper
            · simp
            · exact ih deeper
      | synchrony before blockKind =>
          rw [frames, List.mem_cons] at member
          rcases member with impossible | deeper
          · cases impossible
          · exact ih deeper

end Block

namespace FrameStack

/-- What is not a sequence is put into the frame below it as one more event. -/
theorem pop?_cons_frames {inner : OpenFrame α} {event : Event α}
    (joins : ∀ outer, inner.join? outer = outer.append? [event]) (blocks : List (Block α))
    (events : List (Event α)) :
    pop? (inner :: Block.frames blocks events) =
      some (Block.frames blocks (events ++ [event])) := by
  rw [← Block.append?_frames]
  obtain ⟨top, rest, framesEq, -⟩ := Block.exists_frames_eq_cons blocks events
  rw [framesEq, pop?, append?, joins]

theorem popInner?_cons_frames (inner : OpenFrame α) (blocks : List (Block α))
    (events : List (Event α)) :
    popInner? (inner :: Block.frames blocks events) =
      pop? (inner :: Block.frames blocks events) := by
  obtain ⟨top, rest, framesEq, -⟩ := Block.exists_frames_eq_cons blocks events
  rw [framesEq, popInner?]
  simp

theorem allEvents?_cons_frames {inner : OpenFrame α} {event : Event α}
    (joins : ∀ outer, inner.join? outer = outer.append? [event]) (blocks : List (Block α))
    (events : List (Event α)) :
    allEvents? (inner :: Block.frames blocks events) =
      allEvents? (Block.frames blocks (events ++ [event])) := by
  have appended := Block.append?_frames blocks events [event]
  obtain ⟨top, rest, framesEq, -⟩ := Block.exists_frames_eq_cons blocks events
  rw [framesEq, append?, Option.map_eq_some_iff] at appended
  obtain ⟨joined, joinedEq, framesEq'⟩ := appended
  rw [framesEq, ← framesEq', allEvents?, allEvents?, List.foldlM_cons, joins, joinedEq]
  rfl

theorem allEvents?_frames (blocks : List (Block α)) (events : List (Event α)) :
    allEvents? (Block.frames blocks events) =
      some (blocks.foldl (fun inner block => block.complete inner) events) := by
  induction blocks generalizing events with
  | nil => rfl
  | cons block outer ih =>
      rw [List.foldl_cons, ← ih]
      cases block with
      | conditional before kind done caption entered =>
          have exposed :
              allEvents? (Block.frames (.conditional before kind done caption false :: outer)
                events) = allEvents? (Block.frames outer
                  ((Block.conditional before kind done caption entered).complete events)) :=
            allEvents?_cons_frames (fun _ => rfl) outer before
          cases entered with
          | false => exact exposed
          | true =>
              rw [← exposed, Block.frames, Block.frames, allEvents?, allEvents?,
                List.foldlM_cons, OpenFrame.join?, Case.changeLast?_concat]
              rfl
      | synchrony before kind => exact allEvents?_cons_frames (fun _ => rfl) outer before

end FrameStack

namespace Draft

/-- The frames that a draft puts together. -/
def frames (draft : Draft α) : List (OpenFrame α) :=
  (draft.note.map OpenFrame.note).toList ++ Block.frames draft.blocks draft.events

def stack (draft : Draft α) : FrameStack α :=
  ⟨draft.actors, draft.frames⟩

variable {draft : Draft α}

theorem frames_of_none (noteEq : draft.note = none) :
    draft.frames = Block.frames draft.blocks draft.events := by
  rw [frames, noteEq]
  rfl

theorem frames_of_some {note : Note} (noteEq : draft.note = some note) :
    draft.frames = .note note :: Block.frames draft.blocks draft.events := by
  rw [frames, noteEq]
  rfl

theorem sound_stack (draft : Draft α) : draft.stack.Sound := by
  obtain ⟨top, rest, framesEq, -⟩ := Block.exists_frames_eq_cons draft.blocks draft.events
  constructor
  · rw [stack, frames, framesEq]
    simp
  · intro kind cases member
    rw [stack, frames, List.mem_append] at member
    rcases member with inNote | inBlocks
    · simp at inNote
    · exact Block.cases_ne_nil_of_mem_frames inBlocks

theorem diagram?_stack (draft : Draft α) :
    draft.stack.diagram? = some draft.diagram := by
  have eventsEq : FrameStack.allEvents? draft.frames = some draft.allEvents := by
    rw [allEvents]
    cases noteEq : draft.note with
    | none => rw [frames_of_none noteEq, FrameStack.allEvents?_frames]
    | some note =>
        rw [frames_of_some noteEq, FrameStack.allEvents?_cons_frames (fun _ => rfl),
          FrameStack.allEvents?_frames]
  rw [FrameStack.diagram?, stack, eventsEq, Option.map_some, diagram]

theorem popInner?_frames (draft : Draft α) :
    FrameStack.popInner? draft.frames = some draft.closeInnermost.frames := by
  cases draft using casesOpen with
  | noted actors events blocks note remarks =>
      rw [frames_of_some rfl, FrameStack.popInner?_cons_frames,
        FrameStack.pop?_cons_frames (fun _ => rfl)]
      rfl
  | outermost => rfl
  | entered =>
      rw [frames_of_none rfl, frames_of_none rfl]
      simp only [Block.frames, FrameStack.popInner?, FrameStack.pop?,
        OpenFrame.join?, Case.changeLast?_concat, Option.map_some]
      rfl
  | exposed | synchrony =>
      rw [frames_of_none rfl, frames_of_none rfl, Block.frames,
        FrameStack.popInner?_cons_frames, FrameStack.pop?_cons_frames (fun _ => rfl)]
      rfl

/-- Of a draft without an open annotation, the frame on top tells whether a conditional is
exposed. -/
theorem exposed_or_frames (noteEq : draft.note = none) :
    (∃ before kind done caption outer,
        draft.exposed = true ∧ draft.blocks = .conditional before kind done caption false :: outer ∧
          draft.frames =
            .conditional kind (done ++ [Case.unset caption draft.events]) ::
              Block.frames outer before) ∨
      (draft.exposed = false ∧ ∃ top rest, draft.frames = top :: rest ∧
        ∀ kind cases, top ≠ .conditional kind cases) := by
  rw [frames_of_none noteEq]
  cases draft using casesOpen with
  | noted => cases noteEq
  | exposed actors events before kind done caption outer =>
      exact Or.inl ⟨before, kind, done, caption, outer, rfl, rfl, rfl⟩
  | outermost | entered | synchrony => exact Or.inr ⟨rfl, _, _, rfl, by simp⟩

theorem close?_frames (draft : Draft α) :
    FrameStack.close? draft.frames = some draft.close.frames := by
  rw [FrameStack.close?, popInner?_frames, Option.bind_some, close]
  rcases exposed_or_frames (note_closeInnermost draft) with
    ⟨before, kind, done, caption, outer, exposed, -, framesEq⟩ |
    ⟨notExposed, top, rest, framesEq, notConditional⟩
  · have popped := popInner?_frames draft.closeInnermost
    rw [framesEq, FrameStack.popInner?_cons_frames] at popped
    simp only [exposed, if_true, framesEq, popped]
  · simp only [notExposed, Bool.false_eq_true, if_false, framesEq]
    cases top with
    | conditional kind cases => exact absurd rfl (notConditional kind cases)
    | sequence | synchrony | note => rfl

theorem alternative?_frames (draft : Draft α) (line caption : String) :
    FrameStack.alternative? caption draft.frames =
      some (draft.alternative line caption).frames := by
  have noteEq := note_closeInnermost draft
  rw [FrameStack.alternative?, popInner?_frames, Option.bind_some, alternative]
  rcases exposed_or_frames noteEq with
    ⟨before, kind, done, last, outer, -, blocksEq, framesEq⟩ |
    ⟨notExposed, top, rest, framesEq, notConditional⟩
  · simp only [framesEq, noteEq, blocksEq]
    rfl
  · have stays : (draft.alternative line caption).frames = draft.closeInnermost.frames := by
      rw [alternative]
      split
      next blocksEq => simp [exposed, blocksEq] at notExposed
      next => rfl
    rw [alternative] at stays
    rw [stays, framesEq]
    cases top with
    | conditional kind cases => exact absurd rfl (notConditional kind cases)
    | sequence | synchrony | note => rfl

theorem append?_frames_of_none (noteEq : draft.note = none) (events : List (Event α)) :
    FrameStack.append? events draft.frames = some (draft.append events).frames := by
  have noteEq' : (draft.append events).note = none := noteEq
  rw [frames_of_none noteEq, frames_of_none noteEq', Block.append?_frames]
  rfl

theorem push?_frames_of_none (noteEq : draft.note = none) (opened : List (OpenFrame α)) :
    FrameStack.push? opened draft.frames = some (opened ++ draft.frames) := by
  rw [FrameStack.push?, append?_frames_of_none noteEq, Option.map_some]

/-- A line that is not a signal leaves at most a remark. -/
theorem sendLine_error (draft : Draft α) (line : String) (fault : Signal.Fault) :
    draft.sendLine line (.error fault) = draft ∨
      ∃ remark, draft.sendLine line (.error fault) = draft.remark remark := by
  simp only [sendLine]
  split
  · exact Or.inl rfl
  · right
    cases fault <;> exact ⟨_, rfl⟩

theorem framesAfter?_frames (noteEq : draft.note = none) (line : String)
    (statement : Statement) :
    FrameStack.framesAfter? draft.frames statement =
      some (draft.carryOut line statement).frames := by
  cases statement with
  | close => exact close?_frames draft
  | declaration kind caption nickname =>
      rw [FrameStack.framesAfter?, carryOut, declare]
      split <;> rfl
  | note note =>
      rw [FrameStack.framesAfter?, carryOut, annotate]
      split
      · rw [push?_frames_of_none noteEq, frames_of_none noteEq]
        rfl
      · exact append?_frames_of_none noteEq _
  | conditional kind caption =>
      rw [FrameStack.framesAfter?, push?_frames_of_none noteEq, frames_of_none noteEq,
        frames_of_none (by exact noteEq)]
      rfl
  | alternative caption => exact alternative?_frames draft line caption
  | lifetime kind target => exact append?_frames_of_none noteEq _
  | synchrony kind =>
      rw [FrameStack.framesAfter?, push?_frames_of_none noteEq, frames_of_none noteEq,
        frames_of_none (by exact noteEq)]
      rfl
  | brace => exact popInner?_frames draft
  | numbering start => exact append?_frames_of_none noteEq _
  | comment => rfl
  | signal result =>
      cases result with
      | ok signal => exact append?_frames_of_none noteEq signal.events
      | error fault =>
          have same : (draft.sendLine line (.error fault)).frames = draft.frames := by
            rcases sendLine_error draft line fault with unchanged | ⟨remark, remarked⟩
            · rw [unchanged]
            · rw [remarked]
              rfl
          rw [FrameStack.framesAfter?, append?_frames_of_none noteEq, carryOut, same, append,
            List.append_nil]

theorem actorsAfter_actors (draft : Draft α) (line : String) (statement : Statement) :
    FrameStack.actorsAfter draft.actors statement = (draft.carryOut line statement).actors := by
  cases statement with
  | close => exact (actors_close draft).symm
  | declaration kind caption nickname =>
      rw [FrameStack.actorsAfter, carryOut, declare]
      split <;> rfl
  | note note =>
      rw [carryOut, annotate]
      split <;> rfl
  | alternative caption => exact (actors_alternative draft line caption).symm
  | brace => exact (actors_closeInnermost draft).symm
  | conditional | lifetime | synchrony | numbering | comment => rfl
  | signal result =>
      cases result with
      | ok signal => rfl
      | error fault =>
          rw [carryOut]
          rcases sendLine_error draft line fault with unchanged | ⟨remark, remarked⟩
          · rw [unchanged]
            rfl
          · rw [remarked]
            rfl

theorem readLine?_stack (draft : Draft α) (line : List Char) :
    draft.stack.readLine? line = some (draft.readLine line).stack := by
  rw [FrameStack.readLine?, readLine]
  generalize Statement.read (Text.trim line) = statement
  have closed := close?_frames draft
  cases noteEq : draft.note with
  | some note =>
      -- Only the end of the annotation is not one more line of it.
      rw [frames_of_some noteEq] at closed
      rw [stack, frames_of_some noteEq]
      cases statement with
      | close => simp only [closed, Option.map_some, stack, actors_close]
      | declaration | note | conditional | alternative | lifetime | synchrony | brace
      | numbering | comment | signal => rfl
  | none =>
      have after := framesAfter?_frames noteEq (String.ofList (Text.trim line)) statement
      have actorsEq := actorsAfter_actors draft (String.ofList (Text.trim line)) statement
      obtain ⟨top, rest, framesEq, notNote⟩ :=
        Block.exists_frames_eq_cons draft.blocks draft.events
      rw [frames_of_none noteEq, framesEq] at closed after
      rw [stack, frames_of_none noteEq, framesEq]
      cases top with
      | note note => exact absurd rfl (notNote note)
      | sequence | synchrony | conditional =>
          cases statement with
          | close => simp only [closed, Option.map_some, stack, carryOut, actors_close]
          | declaration | note | conditional | alternative | lifetime | synchrony | brace
          | numbering | comment | signal =>
              simp only [after, Option.map_some, stack, actorsEq]

theorem readLines?_stack (draft : Draft α) (lines : List (List Char)) :
    draft.stack.readLines? lines = some (draft.readLines lines).stack := by
  induction lines generalizing draft with
  | nil => rfl
  | cons line rest ih =>
      rw [FrameStack.readLines?, List.foldlM_cons, readLine?_stack]
      exact ih (draft.readLine line)

end Draft

/-- No lines make a stack of frames fail.  It is sound after each of them, and what is on
it is what the draft of the lines holds. -/
theorem FrameStack.exists_readLines? (lines : List (List Char)) :
    ∃ stack : FrameStack α,
      FrameStack.readLines? {} lines = some stack ∧ stack.Sound ∧
        stack.diagram? = some (Draft.readLines {} lines).diagram :=
  ⟨(Draft.readLines {} lines).stack, Draft.readLines?_stack {} lines, Draft.sound_stack _,
    Draft.diagram?_stack _⟩

end Lifeline
