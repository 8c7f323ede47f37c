import Lifeline.Proofs.Outline
import Mathlib.Data.List.Basic

/-!
# A stray brace in a case

A brace that stands in a case of a conditional closes the case, although braces are meant
for synchrony blocks.  The conditional is left exposed, and events still go to its last
case, so at first the brace does not show.

Whether it shows at all depends on the lines behind it.  They are followed here as they
are read in the case alone, as if the case were a script: how many closings lead back to
the case tells which line gives the brace away.  A block in the case that is closed by
`end` does, for that finds the conditional exposed and closes it as well; so do another
brace, and `else`.  An `end` that closes the conditional does not, unless it stands in
another exposed one, and behind it nothing does.
-/

namespace Lifeline

variable {α : Type} [Scalar α]

namespace Block

theorem complete_injective (block : Block α) : Function.Injective block.complete := by
  intro first second same
  cases block with
  | conditional before kind done caption entered =>
      simpa [complete, Case.unset] using same
  | synchrony before kind => simpa [complete] using same

theorem foldl_complete_injective (blocks : List (Block α)) :
    Function.Injective fun events : List (Event α) =>
      blocks.foldl (fun inner block => block.complete inner) events := by
  induction blocks with
  | nil => exact Function.injective_id
  | cons block outer ih => exact ih.comp block.complete_injective

/-- A block is one more event of the sequence around it, whatever it holds. -/
theorem length_complete (block : Block α) (first second : List (Event α)) :
    (block.complete first).length = (block.complete second).length := by
  cases block <;> simp [complete]

omit [Scalar α] in
theorem depth_pos (block : Block α) : 0 < block.depth := by
  cases block with
  | conditional before kind done caption entered => cases entered <;> simp [depth]
  | synchrony before kind => exact Nat.one_pos

end Block

namespace Draft

/-- A draft that was read as if it were a script, put inside blocks. -/
def inside (inner : Draft α) (around : List (Block α)) : Draft α :=
  { inner with blocks := inner.blocks ++ around }

variable {inner : Draft α}

omit [Scalar α] in
theorem depth_eq_zero_iff : inner.depth = 0 ↔ inner.note = none ∧ inner.blocks = [] := by
  obtain ⟨actors, events, blocks, note, remarks⟩ := inner
  cases blocks with
  | nil => cases note <;> simp [depth]
  | cons block outer =>
      have positive := block.depth_pos
      simp [depth]
      omega

omit [Scalar α] in
/-- An open annotation is one more thing to close, and the last one to be counted. -/
theorem depth_of_some {note : Note} (noteEq : inner.note = some note) :
    inner.depth = { inner with note := none }.depth + 1 := by
  obtain ⟨actors, events, blocks, collected, remarks⟩ := inner
  cases noteEq
  induction blocks with
  | nil => rfl
  | cons block outer ih =>
      simp only [depth, List.foldr_cons] at ih ⊢
      omega

theorem depth_closeInnermost (inner : Draft α) :
    inner.closeInnermost.depth = inner.depth - 1 := by
  cases inner using casesOpen with
  | noted actors events blocks note remarks =>
      have counted : (Draft.mk actors events blocks (some note) remarks).depth = _ :=
        depth_of_some rfl
      rw [counted, Nat.add_sub_cancel]
      rfl
  | outermost => rfl
  | entered | exposed | synchrony => simp [closeInnermost, depth, Block.depth]

/-- While something is open in a draft, closing does not reach what is around it. -/
theorem closeInnermost_inside (deep : inner.depth ≠ 0) (around : List (Block α)) :
    (inner.inside around).closeInnermost = inner.closeInnermost.inside around := by
  cases inner using casesOpen with
  | outermost => exact absurd rfl deep
  | noted | entered | exposed | synchrony => rfl

omit [Scalar α] in
theorem exposed_inside (deep : inner.depth ≠ 0) (around : List (Block α)) :
    (inner.inside around).exposed = inner.exposed := by
  cases inner using casesOpen with
  | outermost => exact absurd rfl deep
  | noted | entered | exposed | synchrony => rfl

theorem close_inside (deep : 2 ≤ inner.depth) (around : List (Block α)) :
    (inner.inside around).close = inner.close.inside around := by
  have left : inner.closeInnermost.depth ≠ 0 := by
    rw [depth_closeInnermost]
    omega
  rw [close, closeInnermost_inside (by omega), exposed_inside left, close]
  split
  · exact closeInnermost_inside left around
  · rfl

theorem alternative_inside (deep : 2 ≤ inner.depth) (around : List (Block α))
    (line caption : String) :
    (inner.inside around).alternative line caption =
      (inner.alternative line caption).inside around := by
  have left : inner.closeInnermost.depth ≠ 0 := by
    rw [depth_closeInnermost]
    omega
  have noteEq := note_closeInnermost inner
  rw [alternative, closeInnermost_inside (by omega), alternative]
  generalize inner.closeInnermost = closed at left noteEq
  cases closed using casesOpen with
  | noted => cases noteEq
  | outermost => exact absurd rfl left
  | entered | exposed | synchrony => rfl

/-- Whether a statement, read in a draft, closes what is around it or looks at it. -/
def Leaves (inner : Draft α) : Statement → Prop
  | .brace => inner.depth = 0
  | .alternative _ => inner.note = none ∧ inner.depth ≤ 1
  | .close => inner.depth ≤ 1
  | _ => False

theorem carryOut_inside {statement : Statement} (noteEq : inner.note = none)
    (stays : ¬ inner.Leaves statement) (around : List (Block α)) (line : String) :
    (inner.inside around).carryOut line statement =
      (inner.carryOut line statement).inside around := by
  cases statement with
  | close => exact close_inside (Nat.lt_of_not_le stays) around
  | declaration kind caption nickname =>
      rw [carryOut, carryOut, declare, declare]
      split <;> rfl
  | note note =>
      rw [carryOut, carryOut, annotate, annotate]
      split <;> rfl
  | alternative caption =>
      exact alternative_inside
        (Nat.lt_of_not_le fun shallow => stays ⟨noteEq, shallow⟩) around line caption
  | brace => exact closeInnermost_inside stays around
  | signal result =>
      cases result with
      | ok signal => rfl
      | error fault =>
          simp only [carryOut, sendLine]
          split
          · rfl
          · cases fault <;> rfl
  | conditional | lifetime | synchrony | numbering | comment => rfl

/-- A line that does not leave the draft reads the same inside blocks. -/
theorem readLine_inside {line : List Char}
    (stays : ¬ inner.Leaves (Statement.read (Text.trim line))) (around : List (Block α)) :
    (inner.inside around).readLine line = (inner.readLine line).inside around := by
  cases noteEq : inner.note with
  | none =>
      have noteEq' : (inner.inside around).note = none := noteEq
      rw [readLine_of_note noteEq rfl, readLine_of_note noteEq' rfl,
        carryOut_inside noteEq stays]
  | some note =>
      have noteEq' : (inner.inside around).note = some note := noteEq
      rw [readLine, readLine, noteEq, noteEq']
      cases statementEq : Statement.read (Text.trim line) with
      | close =>
          rw [statementEq] at stays
          exact close_inside (Nat.lt_of_not_le stays) around
      | declaration | note | conditional | alternative | lifetime | synchrony | brace
      | numbering | comment | signal => rfl

def FillsCase (draft : Draft α) : Prop :=
  draft.note = none ∧ ∃ before kind done caption outer,
    draft.blocks = .conditional before kind done caption true :: outer

def alone (draft : Draft α) : Draft α :=
  { draft with blocks := [] }

/-- Whether the block around a conditional is an exposed conditional. -/
def aroundExposed : List (Block α) → Bool
  | _ :: .conditional _ _ _ _ false :: _ => true
  | _ => false

/-- Whether a statement, read in a case, tells that the case was closed before: it closes
what stands directly in the case and goes on, or closes the case, or begins another. -/
def Notices (inner : Draft α) (aroundExposed : Bool) : Statement → Prop
  | .brace => inner.depth = 0
  | .alternative _ => inner.note = none ∧ inner.depth ≤ 1
  | .close => inner.depth = 1 ∨ inner.depth = 0 ∧ aroundExposed = true
  | _ => False

def Ends (inner : Draft α) : Statement → Prop
  | .close => inner.depth = 0
  | _ => False

/-- Whether no line that is read in a case tells that the case was closed before.  No line
does once the conditional has ended. -/
def Unnoticed (aroundExposed : Bool) : Draft α → List (List Char) → Prop
  | _, [] => True
  | inner, line :: rest =>
      ¬ inner.Notices aroundExposed (Statement.read (Text.trim line)) ∧
        (inner.Ends (Statement.read (Text.trim line)) ∨
          Unnoticed aroundExposed (inner.readLine line) rest)

instance decidableNotices (inner : Draft α) (aroundExposed : Bool) :
    (statement : Statement) → Decidable (inner.Notices aroundExposed statement)
  | .brace => inferInstanceAs (Decidable (inner.depth = 0))
  | .alternative _ => inferInstanceAs (Decidable (inner.note = none ∧ inner.depth ≤ 1))
  | .close =>
      inferInstanceAs (Decidable (inner.depth = 1 ∨ inner.depth = 0 ∧ aroundExposed = true))
  | .declaration _ _ _ | .note _ | .conditional _ _ | .lifetime _ _ | .synchrony _
  | .numbering _ | .comment | .signal _ => inferInstanceAs (Decidable False)

instance decidableEnds (inner : Draft α) :
    (statement : Statement) → Decidable (inner.Ends statement)
  | .close => inferInstanceAs (Decidable (inner.depth = 0))
  | .brace | .alternative _ | .declaration _ _ _ | .note _ | .conditional _ _
  | .lifetime _ _ | .synchrony _ | .numbering _ | .comment | .signal _ =>
      inferInstanceAs (Decidable False)

instance decidableUnnoticed (aroundExposed : Bool) :
    (inner : Draft α) → (lines : List (List Char)) →
      Decidable (inner.Unnoticed aroundExposed lines)
  | _, [] => inferInstanceAs (Decidable True)
  | inner, line :: rest =>
      have := decidableUnnoticed aroundExposed (inner.readLine line) rest
      inferInstanceAs (Decidable (¬ inner.Notices aroundExposed _ ∧ (inner.Ends _ ∨ _)))

section Case

variable (before : List (Event α)) (kind : ConditionalKind)
  (done : List (Case α (Event α))) (caption : String) (outer : List (Block α))

theorem allEvents_of_none {draft : Draft α} (noteEq : draft.note = none) :
    draft.allEvents =
      draft.blocks.foldl (fun inner block => block.complete inner) draft.events := by
  rw [allEvents, noteEq]

/-- Whether a signal that is sent next tells two drafts apart. -/
def Apart (first second : Draft α) : Prop :=
  first.note = none ∧ second.note = none ∧
    ∀ signal, (first.send signal).allEvents ≠ (second.send signal).allEvents

theorem apart_of_behind {first second : Draft α} {block : Block α} {outer : List (Block α)}
    (firstNote : first.note = none) (secondNote : second.note = none)
    (firstEq : first.blocks = block :: outer) (secondEq : second.blocks = outer)
    (lengthEq : second.events.length = (block.complete []).length) : Apart first second := by
  refine ⟨firstNote, secondNote, fun signal same => ?_⟩
  rw [allEvents_of_none (by exact firstNote), allEvents_of_none (by exact secondNote)] at same
  simp only [send, firstEq, secondEq, List.foldl_cons] at same
  have lengths := congrArg List.length (Block.foldl_complete_injective outer same)
  rw [block.length_complete _ [], List.length_append, lengthEq] at lengths
  simp [Signal.events] at lengths

theorem apart_of_case {first second : Draft α} {before : List (Event α)}
    {kind : ConditionalKind} {done : List (Case α (Event α))} {headed : Case α (Event α)}
    {caption next : String} {entered nextEntered : Bool} {deeper outer : List (Block α)}
    (firstNote : first.note = none) (secondNote : second.note = none)
    (firstEq : first.blocks = deeper ++ .conditional before kind done caption entered :: outer)
    (secondEq : second.blocks =
      .conditional before kind (done ++ [headed]) next nextEntered :: outer) :
    Apart first second := by
  refine ⟨firstNote, secondNote, fun signal same => ?_⟩
  rw [allEvents_of_none (by exact firstNote), allEvents_of_none (by exact secondNote)] at same
  simp only [send, firstEq, secondEq, List.foldl_append, List.foldl_cons] at same
  have completed := Block.foldl_complete_injective outer same
  simp only [Block.complete, List.append_cancel_left_eq, List.cons.injEq,
    Event.conditional.injEq, and_true, true_and] at completed
  have lengths := congrArg List.length completed
  simp at lengths

theorem readLine_of_close {draft : Draft α} {line : List Char}
    (closeEq : Statement.read (Text.trim line) = .close) : draft.readLine line = draft.close := by
  rw [readLine, closeEq]
  cases draft.note <;> rfl

omit [Scalar α] in
theorem exists_of_depth_eq_zero (shallow : inner.depth = 0) :
    ∃ actors events remarks, inner = ⟨actors, events, [], none, remarks⟩ := by
  obtain ⟨noteEq, blocksEq⟩ := depth_eq_zero_iff.mp shallow
  obtain ⟨actors, events, blocks, note, remarks⟩ := inner
  cases noteEq
  cases blocksEq
  exact ⟨actors, events, remarks, rfl⟩

theorem apart_of_notices {line : List Char} {entered : Bool}
    (notices : inner.Notices
      (aroundExposed (.conditional before kind done caption entered :: outer))
      (Statement.read (Text.trim line))) :
    Apart ((inner.inside (.conditional before kind done caption true :: outer)).readLine line)
      ((inner.inside (.conditional before kind done caption false :: outer)).readLine line) := by
  cases statementEq : Statement.read (Text.trim line) with
  | close =>
      rw [statementEq] at notices
      rw [readLine_of_close statementEq, readLine_of_close statementEq]
      rcases notices with one | ⟨shallow, exposed⟩
      · -- What stands in the case is closed, and the exposed conditional with it.
        have deep : inner.depth ≠ 0 := by omega
        have shallow : inner.closeInnermost.depth = 0 := by
          rw [depth_closeInnermost, one]
        obtain ⟨actors, events, remarks, closedEq⟩ := exists_of_depth_eq_zero shallow
        rw [close, closeInnermost_inside deep, closedEq, close, closeInnermost_inside deep,
          closedEq]
        exact apart_of_behind rfl rfl rfl rfl
          (Block.length_complete (.conditional before kind done caption false) events [])
      · -- The exposed conditional around is closed as well.
        obtain ⟨actors, events, remarks, rfl⟩ := exists_of_depth_eq_zero shallow
        unfold aroundExposed at exposed
        split at exposed
        next around aroundBefore aroundKind aroundDone aroundCaption aroundOuter blocksEq =>
          cases blocksEq
          exact apart_of_behind rfl rfl rfl rfl
            (Block.length_complete
              (.conditional aroundBefore aroundKind aroundDone aroundCaption false) _ [])
        next => cases exposed
  | brace =>
      rw [statementEq] at notices
      obtain ⟨actors, events, remarks, rfl⟩ := exists_of_depth_eq_zero notices
      rw [readLine_of_note rfl statementEq, readLine_of_note rfl statementEq]
      exact apart_of_behind rfl rfl rfl rfl
        (Block.length_complete (.conditional before kind done caption false) events [])
  | alternative next =>
      rw [statementEq] at notices
      obtain ⟨noteEq, shallow⟩ := notices
      rw [readLine_of_note (by exact noteEq) statementEq,
        readLine_of_note (by exact noteEq) statementEq]
      change Apart (alternative _ _ _) (alternative _ _ _)
      rcases Nat.le_one_iff_eq_zero_or_eq_one.mp shallow with none | one
      · -- Another case of the conditional begins, or of the exposed one around it, if any.
        obtain ⟨actors, events, remarks, rfl⟩ := exists_of_depth_eq_zero none
        have lengthEq :
            ((Block.conditional before kind done caption false).complete events).length =
              ((Block.conditional before kind (done ++ [Case.unset caption events]) next
                true).complete []).length := by
          simp [Block.complete]
        cases outer with
        | nil => exact apart_of_behind rfl rfl rfl rfl lengthEq
        | cons block outer =>
            cases block with
            | synchrony => exact apart_of_behind rfl rfl rfl rfl lengthEq
            | conditional _ _ _ _ entered =>
                cases entered with
                | true => exact apart_of_behind rfl rfl rfl rfl lengthEq
                | false => exact apart_of_case rfl rfl (show _ = [_] ++ _ :: _ from rfl) rfl
      · -- The exposed conditional gets another case; the entered one does not.
        have deep : inner.depth ≠ 0 := by omega
        have shallow : inner.closeInnermost.depth = 0 := by
          rw [depth_closeInnermost, one]
        obtain ⟨actors, events, remarks, closedEq⟩ := exists_of_depth_eq_zero shallow
        rw [alternative, closeInnermost_inside deep, closedEq, alternative,
          closeInnermost_inside deep, closedEq]
        exact apart_of_case rfl rfl (show _ = [] ++ _ :: _ from rfl) rfl
  | declaration | note | conditional | lifetime | synchrony | numbering | comment
  | signal => rw [statementEq] at notices; exact notices.elim

variable {before kind done caption outer}

omit [Scalar α] in
theorem ends_iff {statement : Statement} :
    inner.Ends statement ↔ statement = .close ∧ inner.depth = 0 := by
  cases statement <;> simp [Ends]

/-- The end of a conditional that is not in an exposed one makes up for the brace. -/
theorem readLine_eq_of_ends {line : List Char} {entered : Bool}
    (ends : inner.Ends (Statement.read (Text.trim line)))
    (unnoticed : ¬ inner.Notices
      (aroundExposed (.conditional before kind done caption entered :: outer))
      (Statement.read (Text.trim line))) :
    (inner.inside (.conditional before kind done caption true :: outer)).readLine line =
      (inner.inside (.conditional before kind done caption false :: outer)).readLine line := by
  obtain ⟨closeEq, shallow⟩ := ends_iff.mp ends
  rw [closeEq] at unnoticed
  obtain ⟨actors, events, remarks, rfl⟩ := exists_of_depth_eq_zero shallow
  rw [readLine_of_close closeEq, readLine_of_close closeEq]
  cases outer with
  | nil => rfl
  | cons block outer =>
      cases block with
      | synchrony => rfl
      | conditional _ _ _ _ entered =>
          cases entered with
          | true => rfl
          | false => exact absurd (Or.inr ⟨shallow, rfl⟩) unnoticed

omit [Scalar α] in
theorem notices_or_ends_of_leaves {statement : Statement} {exposed : Bool}
    (leaves : inner.Leaves statement) :
    inner.Notices exposed statement ∨ inner.Ends statement := by
  cases statement with
  | close =>
      rcases Nat.le_one_iff_eq_zero_or_eq_one.mp leaves with shallow | one
      · exact Or.inr shallow
      · exact Or.inl (Or.inl one)
  | brace | alternative => exact Or.inl leaves
  | declaration | note | conditional | lifetime | synchrony | numbering | comment
  | signal => exact leaves.elim

theorem diagram_inside (inner : Draft α) :
    (inner.inside (.conditional before kind done caption true :: outer)).diagram =
      (inner.inside (.conditional before kind done caption false :: outer)).diagram := by
  simp only [diagram, allEvents, inside, List.foldl_append]
  rfl

/-- Unless a line notices, an entered conditional and an exposed one lead to the same
diagram. -/
theorem diagram_eq_of_unnoticed {entered : Bool} {lines : List (List Char)}
    (unnoticed : inner.Unnoticed
      (aroundExposed (.conditional before kind done caption entered :: outer)) lines) :
    ((inner.inside (.conditional before kind done caption true :: outer)).readLines
        lines).diagram =
      ((inner.inside (.conditional before kind done caption false :: outer)).readLines
        lines).diagram := by
  induction lines generalizing inner with
  | nil => exact diagram_inside inner
  | cons line rest ih =>
      obtain ⟨unnoticedLine, unnoticedRest⟩ := unnoticed
      rw [readLines, List.foldl_cons, readLines, List.foldl_cons]
      by_cases ends : inner.Ends (Statement.read (Text.trim line))
      · rw [readLine_eq_of_ends ends unnoticedLine]
      · have stays : ¬ inner.Leaves (Statement.read (Text.trim line)) := fun leaves =>
          (notices_or_ends_of_leaves leaves).elim unnoticedLine ends
        rw [readLine_inside stays, readLine_inside stays]
        exact ih (unnoticedRest.resolve_left ends)

theorem Apart.diagram_ne {first second : Draft α} (apart : Apart first second)
    {line : List Char} {signal : Signal}
    (signalEq : Statement.read (Text.trim line) = .signal (.ok signal)) :
    (first.readLine line).diagram ≠ (second.readLine line).diagram := by
  obtain ⟨firstNote, secondNote, differ⟩ := apart
  intro same
  rw [readLine_of_note firstNote signalEq, readLine_of_note secondNote signalEq] at same
  exact differ signal (congrArg Diagram.events same)

theorem exists_diagram_ne {entered : Bool} {signalLine : List Char} {signal : Signal}
    (signalEq : Statement.read (Text.trim signalLine) = .signal (.ok signal))
    {lines : List (List Char)}
    (noticed : ¬ inner.Unnoticed
      (aroundExposed (.conditional before kind done caption entered :: outer)) lines) :
    ∃ front, front <+: lines ∧
      ((inner.inside (.conditional before kind done caption true :: outer)).readLines
          (front ++ [signalLine])).diagram ≠
        ((inner.inside (.conditional before kind done caption false :: outer)).readLines
          (front ++ [signalLine])).diagram := by
  induction lines generalizing inner with
  | nil => exact absurd trivial noticed
  | cons line rest ih =>
      by_cases notices : inner.Notices
          (aroundExposed (.conditional before kind done caption entered :: outer))
          (Statement.read (Text.trim line))
      · exact ⟨[line], ⟨rest, rfl⟩,
          (apart_of_notices before kind done caption outer notices).diagram_ne signalEq⟩
      · have goesOn : ¬ inner.Ends (Statement.read (Text.trim line)) := fun ends =>
          noticed ⟨notices, Or.inl ends⟩
        have stays : ¬ inner.Leaves (Statement.read (Text.trim line)) := fun leaves =>
          (notices_or_ends_of_leaves leaves).elim notices goesOn
        obtain ⟨front, ⟨back, restEq⟩, differ⟩ :=
          ih fun unnoticedRest => noticed ⟨notices, Or.inr unnoticedRest⟩
        refine ⟨line :: front, ⟨back, by rw [List.cons_append, restEq]⟩, ?_⟩
        rw [List.cons_append, readLines, List.foldl_cons, readLines, List.foldl_cons,
          readLine_inside stays, readLine_inside stays]
        exact differ

end Case

theorem Unnoticed.concat_of_prefix {exposed : Bool} {front lines : List (List Char)}
    {signalLine : List Char} {signal : Signal}
    (signalEq : Statement.read (Text.trim signalLine) = .signal (.ok signal))
    (unnoticed : inner.Unnoticed exposed lines) (isFront : front <+: lines) :
    inner.Unnoticed exposed front ∧ inner.Unnoticed exposed (front ++ [signalLine]) := by
  induction front generalizing inner lines with
  | nil =>
      refine ⟨trivial, ?_, Or.inr trivial⟩
      rw [signalEq]
      exact id
  | cons line front ih =>
      obtain ⟨back, rfl⟩ := isFront
      obtain ⟨unnoticedLine, ends | unnoticedRest⟩ := unnoticed
      · exact ⟨⟨unnoticedLine, Or.inl ends⟩, unnoticedLine, Or.inl ends⟩
      · obtain ⟨alone, followed⟩ := ih unnoticedRest ⟨back, rfl⟩
        exact ⟨⟨unnoticedLine, Or.inr alone⟩, unnoticedLine, Or.inr followed⟩

theorem closeInnermost_of_fillsCase {draft : Draft α} {before : List (Event α)}
    {kind : ConditionalKind} {done : List (Case α (Event α))} {caption : String}
    {outer : List (Block α)} (noteEq : draft.note = none)
    (blocksEq : draft.blocks = .conditional before kind done caption true :: outer) :
    draft.closeInnermost =
      draft.alone.inside (.conditional before kind done caption false :: outer) := by
  obtain ⟨actors, events, blocks, note, remarks⟩ := draft
  cases noteEq
  cases blocksEq
  rfl

/-- Whether a brace between two parts of a script changes nothing. -/
def IgnoresBrace (α : Type) [Scalar α] (pre : List (List Char)) (brace : List Char)
    (post : List (List Char)) : Prop :=
  (readLines {} (pre ++ brace :: post) : Draft α).diagram = (readLines {} (pre ++ post)).diagram

/-- With the brace the conditional is exposed, and without it entered, when the lines behind
are read. -/
theorem ignoresBrace_iff {pre lines : List (List Char)} {brace : List Char}
    {before : List (Event α)} {kind : ConditionalKind} {done : List (Case α (Event α))}
    {caption : String} {outer : List (Block α)}
    (noteEq : (readLines {} pre : Draft α).note = none)
    (blocksEq : (readLines {} pre : Draft α).blocks =
      .conditional before kind done caption true :: outer)
    (braceEq : Statement.read (Text.trim brace) = .brace) :
    IgnoresBrace α pre brace lines ↔
      (((readLines {} pre : Draft α).alone.inside
          (.conditional before kind done caption true :: outer)).readLines lines).diagram =
        (((readLines {} pre : Draft α).alone.inside
          (.conditional before kind done caption false :: outer)).readLines lines).diagram := by
  have enteredEq : (readLines {} pre : Draft α).alone.inside
      (.conditional before kind done caption true :: outer) = readLines {} pre := by
    rw [inside, alone, List.nil_append, ← blocksEq]
  have exposedEq : (readLines {} pre : Draft α).readLine brace =
      (readLines {} pre : Draft α).alone.inside
        (.conditional before kind done caption false :: outer) := by
    rw [readLine_of_note noteEq braceEq]
    exact closeInnermost_of_fillsCase noteEq blocksEq
  have withBrace : readLines {} (pre ++ brace :: lines) =
      ((readLines {} pre : Draft α).readLine brace).readLines lines := by
    rw [readLines, List.foldl_append, List.foldl_cons]
    rfl
  have without : readLines {} (pre ++ lines) = (readLines {} pre : Draft α).readLines lines := by
    rw [readLines, List.foldl_append]
    rfl
  rw [IgnoresBrace, withBrace, without, exposedEq, enteredEq, eq_comm]

/-- A brace in a case is not noticed by the lines behind it exactly if they, any part of
them, and any part of them with one more signal, say the same with and without it. -/
theorem unnoticed_iff_ignoresBrace {pre post : List (List Char)} {brace signalLine : List Char}
    {signal : Signal} (fills : (readLines {} pre : Draft α).FillsCase)
    (braceEq : Statement.read (Text.trim brace) = .brace)
    (signalEq : Statement.read (Text.trim signalLine) = .signal (.ok signal)) :
    (readLines {} pre : Draft α).alone.Unnoticed
        (aroundExposed (readLines {} pre : Draft α).blocks) post ↔
      ∀ front, front <+: post →
        IgnoresBrace α pre brace front ∧ IgnoresBrace α pre brace (front ++ [signalLine]) := by
  obtain ⟨noteEq, before, kind, done, caption, outer, blocksEq⟩ := fills
  rw [blocksEq]
  constructor
  · intro unnoticed front isFront
    rw [ignoresBrace_iff noteEq blocksEq braceEq, ignoresBrace_iff noteEq blocksEq braceEq]
    exact (unnoticed.concat_of_prefix signalEq isFront).imp diagram_eq_of_unnoticed
      diagram_eq_of_unnoticed
  · intro same
    refine Classical.byContradiction fun noticed => ?_
    obtain ⟨front, isFront, differ⟩ := exists_diagram_ne signalEq noticed
    exact differ ((ignoresBrace_iff noteEq blocksEq braceEq).mp (same front isFront).2)

/-- A signal and the `end` of the conditional do not notice the brace. -/
theorem unnoticed_iff_ignoresBrace_signal :
    (readLines {} ["alt a".toList] : Draft Rat).FillsCase ∧
      IgnoresBrace Rat ["alt a".toList] ['\x7d'] ["A->B: x".toList, "end".toList] := by
  have fills : (readLines {} ["alt a".toList] : Draft Rat).FillsCase :=
    ⟨by cbv, [], .alt, [], "a", [], by cbv⟩
  have braceEq : Statement.read (Text.trim ['\x7d']) = .brace := by cbv
  have signalEq : Statement.read (Text.trim "B->A: y".toList) =
      .signal (.ok { caption := "y", source := "B", destination := "A" }) := by cbv
  have unnoticed : (readLines {} ["alt a".toList] : Draft Rat).alone.Unnoticed
      (aroundExposed (readLines {} ["alt a".toList] : Draft Rat).blocks)
      ["A->B: x".toList, "end".toList] := by decide +kernel
  have ignored := (unnoticed_iff_ignoresBrace fills braceEq signalEq).mp unnoticed
  exact ⟨fills, (ignored _ List.prefix_rfl).1⟩

/-- An annotation of several lines behind the brace: its `end` closes the conditional, and the
signal behind it stands outside. -/
theorem not_ignoresBrace_note :
    (readLines {} ["alt a".toList] : Draft Rat).FillsCase ∧
      ¬ IgnoresBrace Rat ["alt a".toList] ['\x7d']
        ["note over A".toList, "hello".toList, "end".toList, "A->B: x".toList,
          "end".toList] := by
  refine ⟨⟨by cbv, [], .alt, [], "a", [], by cbv⟩, fun same => ?_⟩
  have lengths := congrArg (fun diagram : Diagram Rat => diagram.events.length) same
  revert lengths
  decide +kernel

end Draft

end Lifeline
