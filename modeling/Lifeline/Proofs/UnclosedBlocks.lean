import Lifeline.Proofs.Joining
import Lifeline.Proofs.StrayAlternative

/-!
# The count of unclosed blocks

A script that ends within blocks is reported with a number of unclosed blocks.  What is
counted are the closings that are missing, and a conditional that is in one of its cases
takes two of them: one for the case and one for itself.  A line `end` closes both.

Here the blocks themselves are counted, for texts that a well-nested script begins with.
Annotations, conditionals and synchrony blocks are told apart, and each line opens a block,
closes the innermost one, begins another case of it, or does neither.  The number that is
reported is the number of these blocks plus that of the conditionals among them.  So the
report counts blocks exactly where no conditional is open, and there is none exactly where
no block is open.
-/

namespace Lifeline

variable {α : Type}

/-- What is opened by one line and closed by another. -/
inductive BlockKind where
  | note
  | conditional
  | synchrony
  deriving DecidableEq

def Statement.opens? : Statement → Option BlockKind
  | .note content => if content.multiline then some .note else none
  | .conditional _ _ => some .conditional
  | .synchrony _ => some .synchrony
  | _ => none

/-- Whether a statement neither opens nor closes anything, a case of a conditional included. -/
def Statement.Plain : Statement → Prop
  | .close | .alternative _ | .brace => False
  | statement => statement.opens? = none

/-- Lines in which every block is closed by its own `end`, or a synchrony block by a brace.
Other cases are begun directly in conditionals alone. -/
inductive WellNested : (inCase : Bool) → List (List Char) → Prop
  | nil {inCase : Bool} : WellNested inCase []
  | append {inCase : Bool} {first second : List (List Char)} :
      WellNested inCase first → WellNested inCase second →
        WellNested inCase (first ++ second)
  | plain {inCase : Bool} {line : List Char} :
      (Statement.read (Text.trim line)).Plain → WellNested inCase [line]
  | alternative {line : List Char} {caption : String} :
      Statement.read (Text.trim line) = .alternative caption → WellNested true [line]
  | note {inCase : Bool} {opening closing : List Char} {body : List (List Char)} {note : Note} :
      Statement.read (Text.trim opening) = .note note → note.multiline = true →
        (∀ line ∈ body, Statement.read (Text.trim line) ≠ .close) →
          Statement.read (Text.trim closing) = .close →
            WellNested inCase (opening :: (body ++ [closing]))
  | conditional {inCase : Bool} {opening closing : List Char} {body : List (List Char)}
      {kind : ConditionalKind} {caption : String} :
      Statement.read (Text.trim opening) = .conditional kind caption → WellNested true body →
        Statement.read (Text.trim closing) = .close →
          WellNested inCase (opening :: (body ++ [closing]))
  | synchrony {inCase : Bool} {opening closing : List Char} {body : List (List Char)}
      {kind : SynchronyKind} :
      Statement.read (Text.trim opening) = .synchrony kind → WellNested false body →
        Statement.read (Text.trim closing) = .close ∨
            Statement.read (Text.trim closing) = .brace →
          WellNested inCase (opening :: (body ++ [closing]))

namespace BlockKind

/-- The open blocks after a statement, innermost first, if it closes and continues what it
may. -/
def after? (opened : List BlockKind) (statement : Statement) : Option (List BlockKind) :=
  match opened, statement with
  | [], .close => none
  | _ :: outer, .close => some outer
  | .note :: outer, _ => some (.note :: outer)
  | .conditional :: outer, .alternative _ => some (.conditional :: outer)
  | _, .alternative _ => none
  | .synchrony :: outer, .brace => some outer
  | _, .brace => none
  | opened, statement => some (statement.opens?.toList ++ opened)

def afterLines? (opened : List BlockKind) (lines : List (List Char)) :
    Option (List BlockKind) :=
  lines.foldlM (fun opened line => after? opened (Statement.read (Text.trim line))) opened

/-- Whether lines that are well-nested, in a case or not, may stand in these blocks. -/
def Admits (opened : List BlockKind) : (inCase : Bool) → Prop
  | true => opened.head? = some .conditional
  | false => opened.head? ≠ some .note

variable {opened : List BlockKind} {inCase : Bool}

@[simp]
theorem afterLines?_nil : afterLines? opened [] = some opened :=
  rfl

@[simp]
theorem afterLines?_cons (line : List Char) (rest : List (List Char)) :
    afterLines? opened (line :: rest) =
      (after? opened (Statement.read (Text.trim line))).bind (afterLines? · rest) :=
  List.foldlM_cons

@[simp]
theorem afterLines?_append (first second : List (List Char)) :
    afterLines? opened (first ++ second) =
      (afterLines? opened first).bind (afterLines? · second) :=
  List.foldlM_append

theorem Admits.head_ne (suits : Admits opened inCase) : opened.head? ≠ some .note := by
  cases inCase with
  | true =>
      rw [Admits] at suits
      simp [suits]
  | false => exact suits

@[simp]
theorem after?_close (kind : BlockKind) : after? (kind :: opened) .close = some opened := by
  cases kind <;> rfl

@[simp]
theorem after?_brace : after? (.synchrony :: opened) .brace = some opened :=
  rfl

/-- Outside of annotations a statement that opens a block adds it to the open ones. -/
theorem after?_of_opens {statement : Statement} (outside : opened.head? ≠ some .note)
    {kind : BlockKind} (opens : statement.opens? = some kind) :
    after? opened statement = some (kind :: opened) := by
  rcases opened with _ | ⟨_ | _ | _, outer⟩
  all_goals cases statement <;> simp_all [after?, Statement.opens?]

theorem after?_of_plain {statement : Statement} (outside : opened.head? ≠ some .note)
    (plain : statement.Plain) : after? opened statement = some opened := by
  rcases opened with _ | ⟨_ | _ | _, outer⟩
  all_goals cases statement <;> simp_all [after?, Statement.Plain]

theorem afterLines?_body {body : List (List Char)}
    (stays : ∀ line ∈ body, Statement.read (Text.trim line) ≠ .close) :
    afterLines? (.note :: opened) body = some (.note :: opened) := by
  induction body with
  | nil => rfl
  | cons line rest ih =>
      have stayed : after? (.note :: opened) (Statement.read (Text.trim line)) =
          some (.note :: opened) := by
        have notClose := stays line List.mem_cons_self
        cases statementEq : Statement.read (Text.trim line) with
        | close => exact absurd statementEq notClose
        | declaration | note | conditional | alternative | lifetime | synchrony | brace
        | numbering | comment | signal => rfl
      rw [afterLines?_cons, stayed, Option.bind_some]
      exact ih fun line member => stays line (List.mem_cons_of_mem _ member)

/-- Behind well-nested lines the same blocks are open as before. -/
theorem afterLines?_of_wellNested {lines : List (List Char)}
    (nested : WellNested inCase lines) (suits : Admits opened inCase) :
    afterLines? opened lines = some opened := by
  induction nested generalizing opened with
  | nil => rfl
  | append _ _ ihFirst ihSecond =>
      rw [afterLines?_append, ihFirst suits, Option.bind_some, ihSecond suits]
  | plain plain => simp [after?_of_plain suits.head_ne plain]
  | alternative lineEq =>
      rcases opened with _ | ⟨_ | _ | _, outer⟩ <;> simp_all [Admits, after?]
  | @note _ opening _ _ content openingEq multiline stays closingEq =>
      have opens : (Statement.read (Text.trim opening)).opens? = some .note := by
        rw [openingEq]
        exact if_pos multiline
      simp [after?_of_opens suits.head_ne opens, afterLines?_body stays, closingEq]
  | @conditional _ opening _ _ _ _ openingEq _ closingEq ih =>
      have opens : (Statement.read (Text.trim opening)).opens? = some .conditional :=
        openingEq ▸ rfl
      have inside : Admits (.conditional :: opened) true := rfl
      simp [after?_of_opens suits.head_ne opens, ih inside, closingEq]
  | @synchrony _ opening _ _ _ openingEq _ closingEq ih =>
      have opens : (Statement.read (Text.trim opening)).opens? = some .synchrony :=
        openingEq ▸ rfl
      have inside : Admits (.synchrony :: opened) false := by simp [Admits]
      rcases closingEq with closingEq | closingEq <;>
        simp [after?_of_opens suits.head_ne opens, ih inside, closingEq]

end BlockKind

def Block.kind : Block α → BlockKind
  | conditional _ _ _ _ _ => .conditional
  | synchrony _ _ => .synchrony

/-- Whether events go to a block by a sequence of its own. -/
def Block.entered : Block α → Bool
  | conditional _ _ _ _ entered => entered
  | synchrony _ _ => true

namespace Draft

variable {draft : Draft α} {opened : List BlockKind}

/-- These blocks are open in a draft, and every conditional among them is in a case. -/
structure Follows (draft : Draft α) (opened : List BlockKind) : Prop where
  kinds : opened = (draft.note.map fun _ => .note).toList ++ draft.blocks.map Block.kind
  entered : ∀ block ∈ draft.blocks, block.entered = true

/-- A conditional in a case takes two closings, and everything else takes one. -/
theorem Follows.depth_eq (follows : draft.Follows opened) :
    draft.depth = opened.length + opened.count .conditional := by
  obtain ⟨actors, events, blocks, note, remarks⟩ := draft
  obtain ⟨rfl, entered⟩ := follows
  induction blocks with
  | nil => cases note <;> rfl
  | cons block outer ih =>
      have shallower := ih fun block member => entered block (List.mem_cons_of_mem _ member)
      have enteredBlock := entered block List.mem_cons_self
      simp only [depth, List.foldr_cons, List.map_cons, List.length_append, List.length_cons,
        List.count_append, List.count_cons] at shallower ⊢
      rw [shallower]
      cases block <;> simp_all [Block.kind, Block.entered, Block.depth] <;> omega

theorem exposed_of_entered (entered : ∀ block ∈ draft.blocks, block.entered = true) :
    draft.exposed = false := by
  unfold exposed
  split
  next blocksEq =>
    have enteredBlock := entered _ (blocksEq ▸ List.mem_cons_self)
    cases enteredBlock
  next => rfl

variable [Scalar α]

theorem Follows.closeInnermost {kind : BlockKind} (follows : draft.Follows (kind :: opened))
    (single : kind ≠ .conditional) : draft.closeInnermost.Follows opened := by
  obtain ⟨actors, events, blocks, note, remarks⟩ := draft
  obtain ⟨kindsEq, entered⟩ := follows
  cases note with
  | some note => exact ⟨(List.cons.inj kindsEq).2, entered⟩
  | none =>
      cases blocks with
      | nil => cases kindsEq
      | cons block outer =>
          obtain ⟨rfl, outerEq⟩ := List.cons.inj kindsEq
          cases block with
          | conditional => exact absurd rfl single
          | synchrony =>
              exact ⟨outerEq, fun block member => entered block (List.mem_cons_of_mem _ member)⟩

theorem Follows.close {kind : BlockKind} (follows : draft.Follows (kind :: opened)) :
    draft.close.Follows opened := by
  by_cases single : kind = .conditional
  · -- The case is closed, and then the conditional that this exposes.
    obtain ⟨actors, events, blocks, note, remarks⟩ := draft
    obtain ⟨kindsEq, entered⟩ := follows
    subst single
    cases note with
    | some note => cases kindsEq
    | none =>
        cases blocks with
        | nil => cases kindsEq
        | cons block outer =>
            cases block with
            | conditional before kind done caption inCase =>
                obtain rfl : inCase = true := entered _ List.mem_cons_self
                exact ⟨(List.cons.inj kindsEq).2,
                  fun block member => entered block (List.mem_cons_of_mem _ member)⟩
            | synchrony => cases kindsEq
  · have closed := follows.closeInnermost single
    rw [Draft.close, exposed_of_entered closed.entered]
    exact closed

theorem Follows.alternative (follows : draft.Follows (.conditional :: opened))
    (line caption : String) :
    (draft.alternative line caption).Follows (.conditional :: opened) := by
  obtain ⟨actors, events, blocks, note, remarks⟩ := draft
  obtain ⟨kindsEq, entered⟩ := follows
  cases note with
  | some note => cases kindsEq
  | none =>
      cases blocks with
      | nil => cases kindsEq
      | cons block outer =>
          cases block with
          | conditional before kind done last inCase =>
              obtain rfl : inCase = true := entered _ List.mem_cons_self
              refine ⟨kindsEq, fun block member => ?_⟩
              rcases List.mem_cons.mp member with rfl | deeper
              · rfl
              · exact entered block (List.mem_cons_of_mem _ deeper)
          | synchrony => cases kindsEq

omit [Scalar α] in
theorem Follows.of_same {after : Draft α} (follows : draft.Follows opened)
    (noteEq : after.note = draft.note) (blocksEq : after.blocks = draft.blocks) :
    after.Follows opened where
  kinds := by rw [noteEq, blocksEq, follows.kinds]
  entered := by rw [blocksEq]; exact follows.entered

omit [Scalar α] in
theorem Follows.push {after : Draft α} (follows : draft.Follows opened) (block : Block α)
    (noteEq : draft.note = none) (afterNote : after.note = none)
    (blocksEq : after.blocks = block :: draft.blocks) (entered : block.entered = true) :
    after.Follows (block.kind :: opened) where
  kinds := by simp [follows.kinds, noteEq, afterNote, blocksEq]
  entered := by
    rw [blocksEq, List.forall_mem_cons]
    exact ⟨entered, follows.entered⟩

omit [Scalar α] in
theorem Follows.head_ne (follows : draft.Follows opened) (noteEq : draft.note = none) :
    opened.head? ≠ some .note := by
  rw [follows.kinds, noteEq]
  rcases draft.blocks with _ | ⟨_ | _, outer⟩ <;> simp [Block.kind]

theorem Follows.carryOut {next : List BlockKind} {statement : Statement}
    (follows : draft.Follows opened) (noteEq : draft.note = none)
    (afterEq : BlockKind.after? opened statement = some next) (line : String) :
    (draft.carryOut line statement).Follows next := by
  have outside := follows.head_ne noteEq
  have plain (isPlain : statement.Plain) : next = opened := by
    rw [BlockKind.after?_of_plain outside isPlain] at afterEq
    exact (Option.some.inj afterEq).symm
  have opening {kind : BlockKind} (opens : statement.opens? = some kind) :
      next = kind :: opened := by
    rw [BlockKind.after?_of_opens outside opens] at afterEq
    exact (Option.some.inj afterEq).symm
  cases statement with
  | close =>
      cases opened with
      | nil => cases afterEq
      | cons kind outer => cases afterEq; exact follows.close
  | alternative caption =>
      rcases opened with _ | ⟨_ | _ | _, outer⟩
      · cases afterEq
      · exact absurd rfl outside
      · cases afterEq; exact follows.alternative line caption
      · cases afterEq
  | brace =>
      rcases opened with _ | ⟨_ | _ | _, outer⟩
      · cases afterEq
      · exact absurd rfl outside
      · cases afterEq
      · cases afterEq; exact follows.closeInnermost (by simp)
  | conditional kind caption =>
      obtain rfl := opening rfl
      exact follows.push (.conditional draft.events kind [] caption true) noteEq noteEq rfl rfl
  | synchrony kind =>
      obtain rfl := opening rfl
      exact follows.push (.synchrony draft.events kind) noteEq noteEq rfl rfl
  | note note =>
      rw [Draft.carryOut, annotate]
      split
      next multiline =>
        obtain rfl := opening (if_pos multiline)
        exact ⟨by simp [follows.kinds, noteEq], follows.entered⟩
      next single =>
        obtain rfl := plain (if_neg single)
        exact follows.of_same rfl rfl
  | declaration kind caption nickname =>
      obtain rfl := plain rfl
      rw [Draft.carryOut, declare]
      split <;> exact follows.of_same rfl rfl
  | signal result =>
      obtain rfl := plain rfl
      cases result with
      | ok signal => exact follows.of_same rfl rfl
      | error fault =>
          rw [Draft.carryOut]
          rcases sendLine_error draft line fault with unchanged | ⟨remark, remarked⟩
          · rw [unchanged]
            exact follows
          · rw [remarked]
            exact follows.of_same rfl rfl
  | lifetime | numbering | comment =>
      obtain rfl := plain rfl
      exact follows.of_same rfl rfl

theorem Follows.readLine {next : List BlockKind} {line : List Char}
    (follows : draft.Follows opened)
    (afterEq : BlockKind.after? opened (Statement.read (Text.trim line)) = some next) :
    (draft.readLine line).Follows next := by
  cases noteEq : draft.note with
  | none =>
      rw [readLine_of_note noteEq rfl]
      exact follows.carryOut noteEq afterEq _
  | some note =>
      obtain ⟨outer, rfl⟩ : ∃ outer, opened = .note :: outer := by
        rw [follows.kinds, noteEq]
        exact ⟨_, rfl⟩
      rw [Draft.readLine, noteEq]
      cases statementEq : Statement.read (Text.trim line) with
      | close =>
          rw [statementEq] at afterEq
          cases afterEq
          exact follows.close
      | declaration | note | conditional | alternative | lifetime | synchrony | brace
      | numbering | comment | signal =>
          rw [statementEq] at afterEq
          cases afterEq
          exact ⟨by rw [follows.kinds, noteEq]; rfl, follows.entered⟩

theorem Follows.readLines {next : List BlockKind} {lines : List (List Char)}
    (follows : draft.Follows opened)
    (afterEq : BlockKind.afterLines? opened lines = some next) :
    (draft.readLines lines).Follows next := by
  induction lines generalizing draft opened with
  | nil =>
      cases afterEq
      exact follows
  | cons line rest ih =>
      rw [BlockKind.afterLines?_cons, Option.bind_eq_some_iff] at afterEq
      obtain ⟨between, lineEq, restEq⟩ := afterEq
      exact ih (follows.readLine lineEq) restEq

omit [Scalar α] in
theorem follows_empty : ({} : Draft α).Follows [] :=
  ⟨rfl, by simp⟩

end Draft

/-- Whether a remark is on blocks that are left open. -/
def Remark.onUnclosed : Remark → Bool
  | .unclosedBlocks _ => true
  | _ => false

namespace Draft

variable {draft : Draft α} [Scalar α]

theorem onUnclosed_of_mem_remarksOn {line : String} {statement : Statement} {remark : Remark}
    (member : remark ∈ draft.remarksOn line statement) : remark.onUnclosed = false := by
  unfold remarksOn at member
  split at member
  · split at member <;> simp_all [Remark.onUnclosed]
  · split at member <;> simp_all [Remark.onUnclosed]
  · split at member
    · cases member
    · split at member <;> simp_all [Remark.onUnclosed]
  · cases member

theorem filter_remarks_readLines (draft : Draft α) (lines : List (List Char)) :
    (draft.readLines lines).remarks.filter Remark.onUnclosed =
      draft.remarks.filter Remark.onUnclosed := by
  induction lines generalizing draft with
  | nil => rfl
  | cons line rest ih =>
      refine (ih (draft.readLine line)).trans ?_
      rw [remarks_readLine, List.filter_append, List.append_right_eq_self, List.filter_eq_nil_iff]
      intro remark member
      split at member
      · cases member
      · simp [onUnclosed_of_mem_remarksOn member]

end Draft

namespace Script

/-- Whether one text is the beginning of another up to the end of a line, with or without
the newline. -/
def CutAtLine (text whole : List Char) : Prop :=
  text = whole ∨ ∃ front back, whole = front ++ '\n' :: back ∧
    (text = front ∨ text = front ++ ['\n'])

def unclosedRemarks (text : String) : List Remark :=
  (remarks text).filter Remark.onUnclosed

/-- Whether a text is reported with the number of these blocks, or with nothing if there are
none. -/
def ReportsCount (text : String) (opened : List BlockKind) : Prop :=
  unclosedRemarks text = if opened = [] then [] else [.unclosedBlocks opened.length]

/-- At the end of a line of a well-nested script, it is known which blocks are open. -/
theorem exists_afterLines?_of_cut {text whole : List Char} (cut : CutAtLine text whole)
    (nested : WellNested false (Text.lines whole)) :
    ∃ opened, BlockKind.afterLines? [] (Text.lines text) = some opened := by
  have closed : BlockKind.afterLines? [] (Text.lines whole) = some [] :=
    BlockKind.afterLines?_of_wellNested nested (by simp [BlockKind.Admits])
  rcases cut with rfl | ⟨front, back, rfl, cut⟩
  · exact ⟨[], closed⟩
  · rw [Text.lines_append, BlockKind.afterLines?_append, Option.bind_eq_some_iff] at closed
    obtain ⟨opened, frontEq, -⟩ := closed
    rcases cut with rfl | rfl
    · exact ⟨opened, frontEq⟩
    · -- The line behind the last newline is empty, and in every block it may stand.
      have emptyLine : BlockKind.afterLines? opened (Text.lines []) = some opened := by
        rcases opened with _ | ⟨_ | _ | _, outer⟩ <;> rfl
      refine ⟨opened, ?_⟩
      rw [Text.lines_append, BlockKind.afterLines?_append, frontEq, Option.bind_some, emptyLine]

theorem unclosedRemarks_eq {text : String} {opened : List BlockKind}
    (openedEq : BlockKind.afterLines? [] (Text.lines text.toList) = some opened) :
    unclosedRemarks text =
      if opened = [] then []
      else [.unclosedBlocks (opened.length + opened.count .conditional)] := by
  have depthEq : (Draft.ofText text.toList : Draft Rat).depth = _ :=
    (Draft.follows_empty.readLines openedEq).depth_eq
  have silent : (Draft.ofText text.toList : Draft Rat).remarks.filter Remark.onUnclosed = [] :=
    Draft.filter_remarks_readLines {} _
  rw [unclosedRemarks, remarks, Draft.allRemarks, depthEq]
  cases opened with
  | nil => exact silent
  | cons kind outer =>
      rw [if_neg (by simp), List.filter_append, silent]
      rfl

/-- The report on a text that a well-nested script begins with counts its open blocks and
once more its open conditionals.  So it counts blocks exactly where no conditional is open. -/
theorem reportsCount_iff {text whole : String} (cut : CutAtLine text.toList whole.toList)
    (nested : WellNested false (Text.lines whole.toList)) :
    ∃ opened, BlockKind.afterLines? [] (Text.lines text.toList) = some opened ∧
      (unclosedRemarks text =
        if opened = [] then []
        else [.unclosedBlocks (opened.length + opened.count .conditional)]) ∧
      (ReportsCount text opened ↔ .conditional ∉ opened) := by
  obtain ⟨opened, openedEq⟩ := exists_afterLines?_of_cut cut nested
  have reported := unclosedRemarks_eq openedEq
  refine ⟨opened, openedEq, reported, ?_⟩
  rw [ReportsCount, reported, ← List.count_eq_zero]
  cases opened with
  | nil => simp
  | cons kind outer => simp

/-- In an annotation in a synchrony block, two blocks are reported. -/
theorem reportsCount_iff_collecting :
    CutAtLine "parallel \x7b\nnote over A\nhello".toList
        "parallel \x7b\nnote over A\nhello\nend\n\x7d".toList ∧
      WellNested false (Text.lines "parallel \x7b\nnote over A\nhello\nend\n\x7d".toList) ∧
        ReportsCount "parallel \x7b\nnote over A\nhello" [.note, .synchrony] := by
  have cut : CutAtLine "parallel \x7b\nnote over A\nhello".toList
      "parallel \x7b\nnote over A\nhello\nend\n\x7d".toList :=
    Or.inr ⟨"parallel \x7b\nnote over A\nhello".toList, "end\n\x7d".toList, by decide,
      Or.inl rfl⟩
  have noteEq : Statement.read (Text.trim "note over A".toList) =
      .note { kind := .note, caption := "", align := "over", location := some "A",
              multiline := true } := by cbv
  have stays : ∀ line ∈ ["hello".toList], Statement.read (Text.trim line) ≠ .close := by
    have textEq : Statement.read (Text.trim "hello".toList) = .signal (.error .shape) := by cbv
    intro line member
    rw [List.mem_singleton.mp member, textEq]
    simp
  have collects : WellNested false ["note over A".toList, "hello".toList, "end".toList] :=
    WellNested.note noteEq rfl stays
      (by cbv : Statement.read (Text.trim "end".toList) = .close)
  have nested : WellNested false
      (Text.lines "parallel \x7b\nnote over A\nhello\nend\n\x7d".toList) :=
    WellNested.synchrony
      (by cbv : Statement.read (Text.trim "parallel \x7b".toList) = .synchrony .parallel) collects
      (Or.inr (by cbv : Statement.read (Text.trim ['\x7d']) = .brace))
  obtain ⟨opened, openedEq, -, countsIff⟩ := reportsCount_iff cut nested
  have blocksEq : BlockKind.afterLines? []
      (Text.lines "parallel \x7b\nnote over A\nhello".toList) = some [.note, .synchrony] := by
    cbv
  obtain rfl := Option.some.inj (openedEq.symm.trans blocksEq)
  exact ⟨cut, nested, countsIff.mpr (by decide)⟩

/-- One conditional is reported as two blocks. -/
theorem not_reportsCount_conditional :
    CutAtLine "alt a".toList "alt a\nend".toList ∧
      WellNested false (Text.lines "alt a\nend".toList) ∧
        BlockKind.afterLines? [] (Text.lines "alt a".toList) = some [.conditional] ∧
          ¬ ReportsCount "alt a" [.conditional] := by
  refine ⟨Or.inr ⟨"alt a".toList, "end".toList, by decide, Or.inl rfl⟩, ?_, by cbv, ?_⟩
  · have openingEq : Statement.read (Text.trim "alt a".toList) = .conditional .alt "a" := by cbv
    have closingEq : Statement.read (Text.trim "end".toList) = .close := by cbv
    exact WellNested.conditional openingEq WellNested.nil closingEq
  · rw [ReportsCount]
    decide +kernel

end Script

end Lifeline
