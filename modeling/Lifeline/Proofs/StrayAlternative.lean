import Lifeline.Proofs.OpenFrames
import Lifeline.Proofs.StrayBrace

/-!
# A stray `else`

A line `else` closes what was opened last, and then it looks for a conditional to begin
another case of.  If there is none, the line is reported to stand outside of a conditional,
but what it closed stays closed.

So a reported `else` does what a brace in its place would do.  Where no block is open there
is nothing to close, and the line is ignored whatever follows.  In a synchrony block it is
not, nor where a brace has exposed a conditional: a signal behind the line stands behind the
block and no longer in it, and this shows however the script goes on.

It shows for good because reading never moves an event.  The levels of the events, which say
how many blocks each of them stands in, are only appended to.
-/

namespace Lifeline

variable {α : Type}

mutual

/-- In how many blocks an event and those inside it stand, in order. -/
def Event.levels (level : Nat) : Event α → List Nat
  | .signal _ _ => [level]
  | .note _ _ => [level]
  | .conditional _ _ cases => level :: Case.levels (level + 1) cases
  | .synchrony _ events => level :: Event.allLevels (level + 1) events
  | .lifetime _ _ => [level]
  | .numbering _ => [level]
termination_by structural event => event

def Event.allLevels (level : Nat) : List (Event α) → List Nat
  | [] => []
  | event :: rest => event.levels level ++ Event.allLevels level rest
termination_by structural events => events

def Case.levels (level : Nat) : List (Case α (Event α)) → List Nat
  | [] => []
  | ⟨_, _, _, events⟩ :: rest => Event.allLevels level events ++ Case.levels level rest
termination_by structural cases => cases

end

@[simp]
theorem Event.allLevels_append (level : Nat) (first second : List (Event α)) :
    Event.allLevels level (first ++ second) =
      Event.allLevels level first ++ Event.allLevels level second := by
  induction first with
  | nil => rfl
  | cons event rest ih =>
      simp only [List.cons_append, Event.allLevels, ih, List.append_assoc]

@[simp]
theorem Case.levels_append (level : Nat) (first second : List (Case α (Event α))) :
    Case.levels level (first ++ second) = Case.levels level first ++ Case.levels level second := by
  induction first with
  | nil => rfl
  | cons headed rest ih =>
      simp only [List.cons_append, Case.levels, ih, List.append_assoc]

variable [Scalar α]

namespace Block

def levels (level : Nat) : Block α → List Nat
  | conditional before _ done _ _ =>
      Event.allLevels level before ++ level :: Case.levels (level + 1) done
  | synchrony before _ => Event.allLevels level before ++ [level]

/-- The levels of what stands before the innermost sequence of several blocks, innermost
block first. -/
def allLevels : List (Block α) → List Nat
  | [] => []
  | block :: outer => allLevels outer ++ block.levels outer.length

theorem allLevels_complete (block : Block α) (level : Nat) (inner : List (Event α)) :
    Event.allLevels level (block.complete inner) =
      block.levels level ++ Event.allLevels (level + 1) inner := by
  cases block <;>
    simp [complete, levels, Case.unset, Event.allLevels, Event.levels, Case.levels]

theorem allLevels_foldl_complete (blocks : List (Block α)) (inner : List (Event α)) :
    Event.allLevels 0 (blocks.foldl (fun inner block => block.complete inner) inner) =
      allLevels blocks ++ Event.allLevels blocks.length inner := by
  induction blocks generalizing inner with
  | nil => rfl
  | cons block outer ih =>
      rw [List.foldl_cons, ih, allLevels_complete, allLevels, List.append_assoc,
        List.length_cons]

end Block

namespace Draft

variable {draft : Draft α}

def levels (draft : Draft α) : List Nat :=
  Event.allLevels 0 draft.allEvents

theorem levels_eq (draft : Draft α) :
    draft.levels =
      Block.allLevels draft.blocks ++
        (Event.allLevels draft.blocks.length draft.events ++
          if draft.note.isSome then [draft.blocks.length] else []) := by
  rw [levels, allEvents, Block.allLevels_foldl_complete]
  cases draft.note with
  | none => simp
  | some note => simp [Event.allLevels, Event.levels]

/-- Closing changes nothing before something else is said. -/
theorem allEvents_closeInnermost (draft : Draft α) :
    draft.closeInnermost.allEvents = draft.allEvents := by
  cases draft using casesOpen <;> rfl

theorem allEvents_close (draft : Draft α) : draft.close.allEvents = draft.allEvents := by
  rw [close]
  split
  · rw [allEvents_closeInnermost, allEvents_closeInnermost]
  · rw [allEvents_closeInnermost]

theorem levels_closeInnermost (draft : Draft α) :
    draft.closeInnermost.levels = draft.levels :=
  congrArg (Event.allLevels 0) draft.allEvents_closeInnermost

theorem levels_close (draft : Draft α) : draft.close.levels = draft.levels :=
  congrArg (Event.allLevels 0) draft.allEvents_close

theorem levels_alternative (draft : Draft α) (line caption : String) :
    (draft.alternative line caption).levels = draft.levels := by
  have closed : draft.closeInnermost.levels = draft.levels := levels_closeInnermost draft
  rw [alternative, ← closed]
  split
  next before kind done last outer noteEq blocksEq =>
    rw [levels_eq, levels_eq]
    simp [blocksEq, Block.allLevels, Block.levels, Case.unset, Case.levels, Event.allLevels]
  next => rfl

theorem levels_append (noteEq : draft.note = none) (events : List (Event α)) :
    (draft.append events).levels =
      draft.levels ++ Event.allLevels draft.blocks.length events := by
  rw [levels_eq, levels_eq]
  simp [append, noteEq]

theorem levels_carryOut_grows (noteEq : draft.note = none) (line : String)
    (statement : Statement) : draft.levels <+: (draft.carryOut line statement).levels := by
  have appended (events : List (Event α)) : draft.levels <+: (draft.append events).levels := by
    rw [levels_append noteEq]
    exact List.prefix_append _ _
  cases statement with
  | close => exact draft.levels_close ▸ List.prefix_rfl
  | brace => exact draft.levels_closeInnermost ▸ List.prefix_rfl
  | alternative caption => exact draft.levels_alternative line caption ▸ List.prefix_rfl
  | comment => exact List.prefix_rfl
  | lifetime kind target => exact appended _
  | numbering start => exact appended _
  | declaration kind caption nickname =>
      rw [carryOut, declare]
      split <;> exact List.prefix_rfl
  | note note =>
      rw [carryOut, annotate]
      split
      · rw [levels_eq, levels_eq, noteEq]
        simp
      · exact appended _
  | conditional kind caption =>
      have opened : (draft.openConditional kind caption).levels =
          (draft.append [.conditional kind Frame.unset [Case.unset caption []]]).levels := by
        rw [levels_eq, levels_eq]
        simp [openConditional, append, noteEq, Block.allLevels, Block.levels, Case.unset,
          Case.levels, Event.allLevels, Event.levels]
      exact opened ▸ appended _
  | synchrony kind =>
      have opened : (draft.openSynchrony kind).levels =
          (draft.append [.synchrony kind []]).levels := by
        rw [levels_eq, levels_eq]
        simp [openSynchrony, append, noteEq, Block.allLevels, Block.levels, Event.allLevels,
          Event.levels]
      exact opened ▸ appended _
  | signal result =>
      cases result with
      | ok signal => exact appended signal.events
      | error fault =>
          rw [carryOut]
          rcases sendLine_error draft line fault with unchanged | ⟨remark, remarked⟩
          · exact congrArg levels unchanged ▸ List.prefix_rfl
          · exact congrArg levels remarked ▸ List.prefix_rfl

/-- Reading moves no event: every line leaves the levels as they are or appends to them. -/
theorem levels_readLine_grows (draft : Draft α) (line : List Char) :
    draft.levels <+: (draft.readLine line).levels := by
  cases noteEq : draft.note with
  | none =>
      rw [readLine_of_note noteEq rfl]
      exact levels_carryOut_grows noteEq _ _
  | some note =>
      cases statementEq : Statement.read (Text.trim line) with
      | close =>
          rw [readLine_of_close statementEq]
          exact draft.levels_close ▸ List.prefix_rfl
      | declaration | note | conditional | alternative | lifetime | synchrony | brace
      | numbering | comment | signal =>
          rw [readLine, noteEq, statementEq]
          rw [levels_eq, levels_eq, noteEq]
          exact List.prefix_rfl

theorem levels_readLines_grows (draft : Draft α) (lines : List (List Char)) :
    draft.levels <+: (draft.readLines lines).levels := by
  induction lines generalizing draft with
  | nil => exact List.prefix_rfl
  | cons line rest ih => exact (levels_readLine_grows draft line).trans (ih _)

/-- Events that stand on different levels are told apart by every continuation. -/
theorem diagram_ne_of_levels {first second : Draft α} {last next : Nat}
    {before : List Nat} (firstEq : before ++ [last] <+: first.levels)
    (secondEq : before ++ [next] <+: second.levels) (differ : last ≠ next) :
    first.diagram ≠ second.diagram := by
  intro same
  have levelsEq : first.levels = second.levels :=
    congrArg (fun diagram : Diagram α => Event.allLevels 0 diagram.events) same
  rw [← levelsEq] at secondEq
  have prefixEq : before ++ [last] = before ++ [next] :=
    (List.prefix_of_prefix_length_le firstEq secondEq (by simp)).eq_of_length (by simp)
  exact differ (List.cons.inj (List.append_cancel_left prefixEq)).1

@[simp]
theorem remarks_closeInnermost (draft : Draft α) :
    draft.closeInnermost.remarks = draft.remarks := by
  rw [closeInnermost]; split <;> rfl

@[simp]
theorem remarks_close (draft : Draft α) : draft.close.remarks = draft.remarks := by
  rw [close]; split <;> simp

/-- Where closing does not expose a conditional, there is none to begin a case of. -/
theorem alternative_of_not_exposed {line caption : String}
    (hidden : draft.closeInnermost.exposed = false) :
    draft.alternative line caption = draft.closeInnermost.remark (.strayAlternative line) := by
  rw [alternative]
  split
  next blocksEq => simp [exposed, blocksEq] at hidden
  next => rfl

theorem remarks_alternative_of_exposed {line caption : String}
    (shown : draft.closeInnermost.exposed = true) :
    (draft.alternative line caption).remarks = draft.remarks := by
  rw [alternative]
  split
  next => exact draft.remarks_closeInnermost
  next other =>
    unfold exposed at shown
    split at shown
    next noteEq blocksEq => exact absurd blocksEq (other _ _ _ _ _ noteEq)
    next => cases shown

/-- What is remarked when a statement is carried out. -/
def remarksOn (draft : Draft α) (line : String) : Statement → List Remark
  | .declaration kind caption _ => if caption = "" then [.unnamedActor kind] else []
  | .alternative _ =>
      if draft.closeInnermost.exposed then [] else [.strayAlternative line]
  | .signal (.error fault) =>
      if line = "" then []
      else
        match fault with
        | .shape => [.unrecognizedLine line]
        | .unnamed => [.unnamedEnd line]
  | _ => []

theorem remarks_carryOut (draft : Draft α) (line : String) (statement : Statement) :
    (draft.carryOut line statement).remarks =
      draft.remarks ++ draft.remarksOn line statement := by
  cases statement with
  | close => simp [carryOut, remarksOn]
  | brace => simp [carryOut, remarksOn]
  | alternative caption =>
      rw [carryOut, remarksOn]
      cases exposedEq : draft.closeInnermost.exposed with
      | true => simp [remarks_alternative_of_exposed exposedEq]
      | false => simp [alternative_of_not_exposed exposedEq, remark]
  | declaration kind caption nickname =>
      simp only [carryOut, declare, remarksOn]
      split <;> simp [remark]
  | note note =>
      simp only [carryOut, annotate, remarksOn]
      split <;> simp [append]
  | signal result =>
      cases result with
      | ok signal => simp [carryOut, sendLine, send, remarksOn]
      | error fault =>
          simp only [carryOut, sendLine, remarksOn]
          split
          · simp
          · cases fault <;> rfl
  | conditional | lifetime | synchrony | numbering | comment =>
      simp [carryOut, openConditional, openSynchrony, append, remarksOn]

/-- While an annotation is being collected nothing is remarked. -/
theorem remarks_readLine (draft : Draft α) (line : List Char) :
    (draft.readLine line).remarks =
      draft.remarks ++
        if draft.note.isSome then []
        else
          draft.remarksOn (String.ofList (Text.trim line)) (Statement.read (Text.trim line)) := by
  cases noteEq : draft.note with
  | none =>
      rw [readLine_of_note noteEq rfl]
      exact remarks_carryOut draft _ _
  | some note =>
      rw [readLine, noteEq]
      cases Statement.read (Text.trim line) <;> simp

def ReportsAlternative (draft : Draft α) (line : List Char) : Prop :=
  (draft.readLine line).remarks =
    draft.remarks ++ [.strayAlternative (String.ofList (Text.trim line))]

/-- A line is reported exactly if it is an `else`, no annotation is being collected, and
closing what was opened last does not expose a conditional. -/
theorem reportsAlternative_iff {line : List Char} :
    draft.ReportsAlternative line ↔
      draft.note = none ∧ draft.closeInnermost.exposed = false ∧
        ∃ caption, Statement.read (Text.trim line) = .alternative caption := by
  rw [ReportsAlternative, remarks_readLine, List.append_cancel_left_eq]
  cases draft.note with
  | some note => simp
  | none =>
      cases Statement.read (Text.trim line) with
      | alternative caption => simp [remarksOn]
      | declaration kind caption nickname =>
          by_cases unnamed : caption = "" <;> simp [remarksOn, unnamed]
      | signal result =>
          cases result with
          | ok signal => simp [remarksOn]
          | error fault =>
              by_cases empty : String.ofList (Text.trim line) = "" <;> cases fault <;>
                simp_all [remarksOn]
      | close | note | conditional | lifetime | synchrony | brace | numbering | comment =>
          simp [remarksOn]

/-- A line that is reported closes what was opened last, as a brace does. -/
theorem stack_readLine_of_reports {line brace : List Char}
    (reported : draft.ReportsAlternative line)
    (braceEq : Statement.read (Text.trim brace) = .brace) :
    (draft.readLine line).stack = (draft.readLine brace).stack := by
  obtain ⟨noteEq, hidden, caption, lineEq⟩ := reportsAlternative_iff.mp reported
  rw [readLine_of_note noteEq lineEq, readLine_of_note noteEq braceEq, carryOut,
    alternative_of_not_exposed hidden]
  rfl

/-- Drafts that differ in their remarks alone go on alike. -/
theorem diagram_readLines_of_stack {first second : Draft α}
    (same : first.stack = second.stack) (lines : List (List Char)) :
    (first.readLines lines).diagram = (second.readLines lines).diagram := by
  have firstRun := readLines?_stack first lines
  rw [same, readLines?_stack second lines, Option.some.injEq] at firstRun
  have diagrams := congrArg FrameStack.diagram? firstRun
  rw [diagram?_stack, diagram?_stack, Option.some.injEq] at diagrams
  exact diagrams.symm

/-- In a block, the line leaves one block less open. -/
theorem length_blocks_readLine_of_reports {line : List Char}
    (reported : draft.ReportsAlternative line) :
    (draft.readLine line).note = none ∧
      (draft.readLine line).blocks.length = draft.blocks.length - 1 := by
  obtain ⟨noteEq, hidden, caption, lineEq⟩ := reportsAlternative_iff.mp reported
  rw [readLine_of_note noteEq lineEq, carryOut, alternative_of_not_exposed hidden]
  refine ⟨note_closeInnermost draft, ?_⟩
  cases draft using casesOpen with
  | noted => cases noteEq
  | entered => cases hidden
  | outermost | exposed | synchrony => rfl

theorem levels_readLine_signal {line : List Char} {signal : Signal}
    (noteEq : draft.note = none)
    (signalEq : Statement.read (Text.trim line) = .signal (.ok signal)) :
    draft.levels ++ [draft.blocks.length] <+: (draft.readLine line).levels := by
  have sent : (draft.readLine line).levels = (draft.append signal.events).levels := by
    rw [readLine_of_note noteEq signalEq]
    rfl
  rw [sent, levels_append noteEq, List.prefix_append_right_inj]
  exact List.prefix_append [draft.blocks.length] _

end Draft

namespace Script

def ofLines (lines : List (List Char)) : Diagram α :=
  (Draft.readLines {} lines).diagram

theorem ofLines_lines (text : String) :
    (ofLines (Text.lines text.toList) : Diagram α) = read text :=
  rfl

theorem ofLines_append (pre post : List (List Char)) :
    (ofLines (pre ++ post) : Diagram α) =
      ((Draft.readLines {} pre).readLines post).diagram := by
  rw [ofLines, Draft.readLines, List.foldl_append]
  rfl

variable {pre : List (List Char)} {line : List Char}

/-- An `else` that is reported outside of every block is ignored, whatever follows. -/
theorem ofLines_alternative_of_outside
    (reported : (Draft.readLines {} pre : Draft α).ReportsAlternative line)
    (outside : (Draft.readLines {} pre : Draft α).blocks = []) (post : List (List Char)) :
    (ofLines (pre ++ line :: post) : Diagram α) = ofLines (pre ++ post) := by
  obtain ⟨noteEq, hidden, caption, lineEq⟩ := Draft.reportsAlternative_iff.mp reported
  rw [ofLines_append, ofLines_append]
  refine Draft.diagram_readLines_of_stack ?_ post
  rw [Draft.readLine_of_note noteEq lineEq, Draft.carryOut,
    Draft.alternative_of_not_exposed hidden, Draft.closeInnermost, noteEq, outside]
  rfl

theorem ofLines_alternative_of_inside
    (reported : (Draft.readLines {} pre : Draft α).ReportsAlternative line)
    (inside : (Draft.readLines {} pre : Draft α).blocks ≠ []) {signalLine : List Char}
    {signal : Signal}
    (signalEq : Statement.read (Text.trim signalLine) = .signal (.ok signal))
    (post : List (List Char)) :
    (ofLines (pre ++ line :: signalLine :: post) : Diagram α) ≠
      ofLines (pre ++ signalLine :: post) := by
  rw [ofLines_append, ofLines_append]
  generalize (Draft.readLines {} pre : Draft α) = draft at reported inside
  obtain ⟨noteEq, hidden, caption, lineEq⟩ := Draft.reportsAlternative_iff.mp reported
  obtain ⟨noteAfter, lengthEq⟩ := Draft.length_blocks_readLine_of_reports reported
  have levelsEq : (draft.readLine line).levels = draft.levels := by
    rw [Draft.readLine_of_note noteEq lineEq]
    exact Draft.levels_alternative draft _ caption
  have behind := Draft.levels_readLine_signal noteAfter signalEq
  rw [levelsEq] at behind
  refine Draft.diagram_ne_of_levels (behind.trans (Draft.levels_readLines_grows _ post))
    ((Draft.levels_readLine_signal noteEq signalEq).trans
      (Draft.levels_readLines_grows _ post)) ?_
  have opened := List.length_pos_of_ne_nil inside
  omega

/-- An `else` that is reported is ignored exactly where no block is open.  In a block it is
never ignored when a signal stands behind it.  Everywhere it does what a brace does. -/
theorem alternative_ignored_iff
    (reported : (Draft.readLines {} pre : Draft α).ReportsAlternative line) :
    ((∀ post, (ofLines (pre ++ line :: post) : Diagram α) = ofLines (pre ++ post)) ↔
        (Draft.readLines {} pre : Draft α).blocks = []) ∧
      ((Draft.readLines {} pre : Draft α).blocks ≠ [] →
        ∀ signalLine signal,
          Statement.read (Text.trim signalLine) = .signal (.ok signal) →
            ∀ post, (ofLines (pre ++ line :: signalLine :: post) : Diagram α) ≠
              ofLines (pre ++ signalLine :: post)) ∧
      ∀ brace, Statement.read (Text.trim brace) = .brace →
        ∀ post,
          (ofLines (pre ++ line :: post) : Diagram α) = ofLines (pre ++ brace :: post) := by
  refine ⟨⟨fun ignored => ?_, ofLines_alternative_of_outside reported⟩,
    fun inside signalLine signal signalEq =>
      ofLines_alternative_of_inside reported inside signalEq,
    fun brace braceEq post => ?_⟩
  · have signalEq : Statement.read (Text.trim "A->B: x".toList) =
        .signal (.ok { caption := "x", source := "A", destination := "B" }) := by cbv
    exact Classical.byContradiction fun inside =>
      ofLines_alternative_of_inside reported inside signalEq [] (ignored _)
  · rw [ofLines_append, ofLines_append]
    exact Draft.diagram_readLines_of_stack
      (Draft.stack_readLine_of_reports reported braceEq) post

/-- Behind a signal that stands in no block, an `else` is ignored. -/
theorem alternative_ignored_iff_outermost :
    (Draft.readLines {} ["A->B: x".toList] : Draft Rat).ReportsAlternative "else b".toList ∧
      ∀ post, (ofLines (["A->B: x".toList] ++ "else b".toList :: post) : Diagram Rat) =
        ofLines (["A->B: x".toList] ++ post) := by
  have reported : (Draft.readLines {} ["A->B: x".toList] :
      Draft Rat).ReportsAlternative "else b".toList := by
    rw [Draft.ReportsAlternative]
    decide +kernel
  have outermost : (Draft.readLines {} ["A->B: x".toList] : Draft Rat).blocks = [] :=
    List.isEmpty_iff.mp (by decide +kernel)
  exact ⟨reported, (alternative_ignored_iff reported).1.mpr outermost⟩

/-- In a synchrony block an `else` is reported, and yet the signal behind it does not stand
in the block. -/
theorem not_ignored_alternative_synchrony :
    (Draft.readLines {} ["parallel \x7b".toList] :
        Draft Rat).ReportsAlternative "else b".toList ∧
      (ofLines (["parallel \x7b".toList] ++
          "else b".toList :: ["A->B: x".toList, ['\x7d']]) : Diagram Rat) ≠
        ofLines (["parallel \x7b".toList] ++ ["A->B: x".toList, ['\x7d']]) := by
  refine ⟨?_, fun same => ?_⟩
  · rw [Draft.ReportsAlternative]
    decide +kernel
  · have lengths := congrArg (fun diagram : Diagram Rat => diagram.events.length) same
    revert lengths
    decide +kernel

end Script

end Lifeline
