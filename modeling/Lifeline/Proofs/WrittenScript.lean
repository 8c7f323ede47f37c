import Lifeline.Proofs.Outline
import Lifeline.Proofs.WrittenLine

/-!
# Reading what was written

Clauses that are written down and read again give the diagram that they mean.

Reading keeps its place by the blocks that are open, so what is proved of clauses
is proved at any place: the lines of clauses, read into a draft, add the events
and the actors of the clauses to the sequence that the draft fills, and leave the
blocks around it as they were.  The one condition on the place is that it is
*settled*: no annotation is being collected there, and the innermost conditional
is not exposed, for then `end` would close it together with a block inside it.
-/

namespace Lifeline

variable {α : Type} [Scalar α]

namespace Draft

/-- A draft in which lines are read as statements and `end` closes no more than
was opened last. -/
structure Settled (draft : Draft α) : Prop where
  note : draft.note = none
  entered : draft.exposed = false

theorem readLine_pad (draft : Draft α) {before after : List Char}
    (indentation : Text.Padding before) (trailing : Text.Padding after)
    (line : List Char) :
    draft.readLine (before ++ line ++ after) = draft.readLine line := by
  simp only [readLine, Text.trim_pad indentation.1 trailing.1]

theorem readLine_filler {draft : Draft α} (noteEq : draft.note = none)
    {line : List Char} (meaningless : Text.Filler line) :
    draft.readLine line = draft := by
  rcases meaningless.2 with blank | comment
  · simp only [readLine, blank, Statement.read_nil, noteEq]
    rfl
  · cases trimmedEq : Text.trim line with
    | nil => simp [trimmedEq] at comment
    | cons char rest =>
        obtain rfl : char = '#' := by simpa [trimmedEq] using comment
        have readEq : Statement.read ('#' :: rest) = .comment :=
          Statement.read_of_head (Or.inr rfl)
        simp only [readLine, trimmedEq, readEq, noteEq]
        rfl

end Draft

namespace Dressed

variable {line : WrittenLine} {rest : List WrittenLine} {text : List (List Char)}

/-- The text of at least one written line begins, as far as reading goes, with
that line. -/
theorem readLines_cons (dressed : Dressed (line :: rest) text) (draft : Draft α)
    (ready : line.inNote = true ∨ draft.note = none) :
    ∃ others, Dressed rest others ∧
      draft.readLines text = (draft.readLine line.chars).readLines others := by
  -- Fillers in front of the line leave the draft as it is.
  generalize linesEq : line :: rest = lines at dressed
  induction dressed with
  | nil => contradiction
  | line indentation trailing dressed ih =>
      obtain ⟨rfl, rfl⟩ := List.cons.inj linesEq
      refine ⟨_, dressed, ?_⟩
      rw [Draft.readLines, List.foldl_cons, Draft.readLine_pad draft indentation trailing,
        Draft.readLines]
  | filler outside meaningless dressed ih =>
      subst linesEq
      have noteEq : draft.note = none := by
        rcases ready with inNote | noteEq
        · simp [inNote] at outside
        · exact noteEq
      obtain ⟨others, othersDressed, readEq⟩ := ih rfl
      refine ⟨others, othersDressed, ?_⟩
      rw [← readEq, Draft.readLines, List.foldl_cons,
        Draft.readLine_filler noteEq meaningless, Draft.readLines]

theorem readLines_nil (dressed : Dressed [] text) {draft : Draft α}
    (noteEq : draft.note = none) : draft.readLines text = draft := by
  generalize linesEq : ([] : List WrittenLine) = lines at dressed
  induction dressed with
  | nil => rfl
  | line => contradiction
  | filler outside meaningless dressed ih =>
      rw [Draft.readLines, List.foldl_cons, Draft.readLine_filler noteEq meaningless]
      exact ih linesEq

/-- A written line stays on its line, and so does everything put around it. -/
theorem newline_not_mem (dressed : Dressed rest text)
    (oneLine : ∀ line ∈ rest, '\n' ∉ line.chars) : ∀ line ∈ text, '\n' ∉ line := by
  induction dressed with
  | nil => simp
  | line indentation trailing dressed ih =>
      intro line member
      rcases List.mem_cons.mp member with rfl | member
      · simp [indentation.2, trailing.2, oneLine _ List.mem_cons_self]
      · exact ih (fun line member => oneLine line (List.mem_cons_of_mem _ member)) _ member
  | filler outside meaningless dressed ih =>
      intro line member
      rcases List.mem_cons.mp member with rfl | member
      · exact meaningless.1
      · exact ih oneLine _ member

end Dressed

namespace Draft

variable {draft : Draft α}

/-- The draft with other actors and with more events in the sequence that it
fills. -/
def extend (draft : Draft α) (actors : List (Actor α)) (events : List (Event α)) :
    Draft α :=
  { draft with actors, events := draft.events ++ events }

omit [Scalar α] in
theorem Settled.extend (settled : draft.Settled) (actors : List (Actor α))
    (events : List (Event α)) : (draft.extend actors events).Settled :=
  ⟨settled.note, settled.entered⟩

omit [Scalar α] in
/-- The draft in a case of a conditional that stands at its place, when nothing is
in the case yet. -/
def inCase (draft : Draft α) (kind : ConditionalKind) (done : List (Case α (Event α)))
    (caption : String) : Draft α :=
  { draft with
    events := []
    blocks := .conditional draft.events kind done caption true :: draft.blocks }

omit [Scalar α] in
theorem Settled.inCase (settled : draft.Settled) (kind : ConditionalKind)
    (done : List (Case α (Event α))) (caption : String) :
    (draft.inCase kind done caption).Settled :=
  ⟨settled.note, by simp [exposed, Draft.inCase, settled.note]⟩

omit [Scalar α] in
theorem Settled.openSynchrony (settled : draft.Settled) (kind : SynchronyKind) :
    (draft.openSynchrony kind).Settled :=
  ⟨settled.note, by simp [exposed, Draft.openSynchrony, settled.note]⟩

omit [Scalar α] in
theorem extend_extend (draft : Draft α) (first second : List (Actor α))
    (front back : List (Event α)) :
    (draft.extend first front).extend second back = draft.extend second (front ++ back) := by
  simp [extend]

omit [Scalar α] in
def collect (draft : Draft α) (note : Note) : Draft α :=
  { draft with note := some note }

theorem close_collect (settled : draft.Settled) (note : Note) :
    (draft.collect note).close =
      draft.extend draft.actors [.note note NotePlace.unset] := by
  have closedEq : (draft.collect note).closeInnermost =
      draft.extend draft.actors [.note note NotePlace.unset] := by
    rw [closeInnermost, collect, extend, ← settled.note]
  have entered := (settled.extend draft.actors [.note note NotePlace.unset]).entered
  rw [close, closedEq, if_neg (by simp [entered])]

theorem close_inCase (settled : draft.Settled) (kind : ConditionalKind)
    (done : List (Case α (Event α))) (caption : String) (actors : List (Actor α))
    (events : List (Event α)) :
    ((draft.inCase kind done caption).extend actors events).close =
      draft.extend actors
        [.conditional kind Frame.unset (done ++ [Case.unset caption events])] := by
  simp [close, closeInnermost, exposed, inCase, extend, settled.note, Block.complete]

theorem alternative_inCase (settled : draft.Settled) (kind : ConditionalKind)
    (done : List (Case α (Event α))) (caption : String) (actors : List (Actor α))
    (events : List (Event α)) (line next : String) :
    ((draft.inCase kind done caption).extend actors events).alternative line next =
      (draft.extend actors []).inCase kind (done ++ [Case.unset caption events]) next := by
  simp [alternative, closeInnermost, inCase, extend, settled.note]

theorem closeInnermost_synchrony (settled : draft.Settled) (kind : SynchronyKind)
    (actors : List (Actor α)) (events : List (Event α)) :
    ((draft.openSynchrony kind).extend actors events).closeInnermost =
      draft.extend actors [.synchrony kind events] := by
  simp [closeInnermost, openSynchrony, extend, settled.note, Block.complete]

/-- Where the place around a block is settled, `end` closes no more than the
block. -/
theorem close_synchrony (settled : draft.Settled) (kind : SynchronyKind)
    (actors : List (Actor α)) (events : List (Event α)) :
    ((draft.openSynchrony kind).extend actors events).close =
      draft.extend actors [.synchrony kind events] := by
  have entered := (settled.extend actors [.synchrony kind events]).entered
  rw [close, closeInnermost_synchrony settled, if_neg (by simp [entered])]

/-- Any text of written lines, whatever is written behind them, takes one draft to
another. -/
def Reads (draft : Draft α) (lines : List WrittenLine) (result : Draft α) : Prop :=
  ∀ (rest : List WrittenLine) (text : List (List Char)), Dressed (lines ++ rest) text →
    ∃ others, Dressed rest others ∧ draft.readLines text = result.readLines others

namespace Reads

variable {next result : Draft α} {first second : List WrittenLine}

theorem nil (draft : Draft α) : draft.Reads [] draft :=
  fun _ text dressed => ⟨text, dressed, rfl⟩

theorem append (front : draft.Reads first next) (back : next.Reads second result) :
    draft.Reads (first ++ second) result := by
  intro rest text dressed
  rw [List.append_assoc] at dressed
  obtain ⟨middle, middleDressed, frontEq⟩ := front _ _ dressed
  obtain ⟨others, othersDressed, backEq⟩ := back _ _ middleDressed
  exact ⟨others, othersDressed, frontEq.trans backEq⟩

/-- A statement is carried out while no annotation is being collected. -/
theorem line {chars : List Char} {statement : Statement} (noteEq : draft.note = none)
    (readEq : Statement.read (Text.trim chars) = statement) :
    draft.Reads [{ chars }]
      (draft.carryOut (String.ofList (Text.trim chars)) statement) := by
  intro rest text dressed
  obtain ⟨others, othersDressed, restEq⟩ := dressed.readLines_cons draft (Or.inr noteEq)
  rw [readLine_of_note noteEq readEq] at restEq
  exact ⟨others, othersDressed, restEq⟩

/-- A line inside an annotation belongs to its caption. -/
theorem noteLine (draft : Draft α) (note : Note) {line : String}
    (notEnd : (Text.cut [' '] (Text.trim line.toList)).1 ≠ ['e', 'n', 'd']) :
    (draft.collect note).Reads [{ chars := line.toList, inNote := true }]
      (draft.collect
        { note with
          caption := note.caption ++ String.ofList (Text.trim line.toList) ++ "\n" }) := by
  intro rest text dressed
  obtain ⟨others, othersDressed, restEq⟩ :=
    dressed.readLines_cons (draft.collect note) (Or.inl rfl)
  have notClose : Statement.read (Text.trim line.toList) ≠ .close := by
    rw [ne_eq, Statement.read_eq_close_iff]
    exact fun isEnd => notEnd (by simpa using congrArg String.toList isEnd)
  refine ⟨others, othersDressed, restEq.trans ?_⟩
  simp only [readLine, collect]

theorem noteEnd (settled : draft.Settled) (note : Note) :
    (draft.collect note).Reads [{ chars := ['e', 'n', 'd'], inNote := true }]
      (draft.extend draft.actors [.note note NotePlace.unset]) := by
  intro rest text dressed
  obtain ⟨others, othersDressed, restEq⟩ :=
    dressed.readLines_cons (draft.collect note) (Or.inl rfl)
  refine ⟨others, othersDressed, restEq.trans ?_⟩
  rw [← close_collect settled]
  simp only [readLine, collect, Clause.read_end]

end Reads

/-- The lines of a block annotation gather in its caption. -/
theorem reads_body (draft : Draft α) (note : Note) {body : List String}
    (inside : ∀ line ∈ body, (Text.cut [' '] (Text.trim line.toList)).1 ≠ ['e', 'n', 'd']) :
    (draft.collect note).Reads
      (body.map fun line => { chars := line.toList, inNote := true })
      (draft.collect { note with caption := note.caption ++ Note.captionOf body }) := by
  induction body generalizing note with
  | nil => simpa [Note.captionOf] using Reads.nil (draft.collect note)
  | cons line rest ih =>
      have first := Reads.noteLine draft note (inside line List.mem_cons_self)
      have others := ih
        { note with
          caption := note.caption ++ String.ofList (Text.trim line.toList) ++ "\n" }
        fun line member => inside line (List.mem_cons_of_mem _ member)
      simpa [Note.captionOf, String.append_assoc] using first.append others

section Clauses

variable (settled : draft.Settled)

include settled

theorem reads_declaration {kind : ActorKind} {caption : String}
    {nickname : Option String} (declared : kind ∈ ActorKind.declared)
    (quotable : Text.Quotable caption) (nonempty : caption ≠ "")
    (apart : ¬ [' ', 'a', 's', ' '] <:+: caption.toList)
    (nicknameQuotable : ∀ name ∈ nickname, Text.Quotable name) :
    draft.Reads
      [{ chars :=
          Clause.opening kind.name
            (Clause.quote caption ++ Clause.nicknameText nickname) }]
      (draft.extend
        (draft.actors ++ [Actor.declare kind caption (nickname.getD "")]) []) := by
  have read := Reads.line settled.note
    (Clause.read_declaration declared quotable apart nicknameQuotable)
  rw [carryOut, declare, if_neg nonempty] at read
  simpa [extend] using read

theorem reads_signal {signal : Signal} (writable : signal.Writable) :
    draft.Reads [{ chars := signal.lineText }]
      (draft.extend
        (mention (mention draft.actors signal.source) signal.destination)
        signal.events) := by
  have read := Reads.line settled.note (Signal.read_trim_lineText writable)
  rw [carryOut, sendLine, send] at read
  exact read

theorem reads_note (kind : NoteKind) {align location caption : String}
    (word : Text.Word align) (spaced : Text.SingleSpaced location)
    (captionTrimmed : Text.Trimmed caption) :
    draft.Reads
      [{ chars :=
          Clause.opening kind.name
            (Clause.placeText align location ++ ':' :: ' ' :: caption.toList) }]
      (draft.extend draft.actors
        [.note { kind, caption, align, location := some location }
          NotePlace.unset]) := by
  have read := Reads.line settled.note
    (Clause.read_note kind word spaced captionTrimmed)
  rw [carryOut, annotate, if_neg Bool.false_ne_true] at read
  exact read

theorem reads_noteBlock (kind : NoteKind) {align location : String}
    {body : List String} (word : Text.Word align) (spaced : Text.SingleSpaced location)
    (inside : ∀ line ∈ body,
      (Text.cut [' '] (Text.trim line.toList)).1 ≠ ['e', 'n', 'd']) :
    draft.Reads
      ({ chars := Clause.opening kind.name (Clause.placeText align location) } ::
        body.map (fun line => { chars := line.toList, inNote := true }) ++
        [{ chars := ['e', 'n', 'd'], inNote := true }])
      (draft.extend draft.actors
        [.note
          { kind, caption := Note.captionOf body, align, location := some location
            multiline := true }
          NotePlace.unset]) := by
  have opens := Reads.line settled.note (Clause.read_noteBlock kind word spaced)
  rw [carryOut, annotate, if_pos rfl] at opens
  have gathers := opens.append (reads_body draft _ inside)
  have closes := gathers.append (Reads.noteEnd settled _)
  simpa using closes

theorem reads_conditional_opening (kind : ConditionalKind) {caption : String}
    (trimmed : Text.EndTrimmed caption) :
    draft.Reads [{ chars := Clause.opening kind.name caption.toList }]
      (draft.inCase kind [] caption) :=
  Reads.line settled.note (Clause.read_conditional kind trimmed)

theorem reads_alternative {caption : String} (trimmed : Text.EndTrimmed caption)
    (kind : ConditionalKind) (done : List (Case α (Event α))) (last : String)
    (actors : List (Actor α)) (events : List (Event α)) :
    ((draft.inCase kind done last).extend actors events).Reads
      [{ chars := Clause.opening "else" caption.toList }]
      ((draft.extend actors []).inCase kind (done ++ [Case.unset last events]) caption) := by
  have begins := Reads.line ((settled.inCase kind done last).extend actors events).note
    (Clause.read_alternative trimmed)
  rw [carryOut, alternative_inCase settled] at begins
  exact begins

theorem reads_conditional_closing (kind : ConditionalKind)
    (done : List (Case α (Event α))) (caption : String) (actors : List (Actor α))
    (events : List (Event α)) :
    ((draft.inCase kind done caption).extend actors events).Reads
      [{ chars := ['e', 'n', 'd'] }]
      (draft.extend actors
        [.conditional kind Frame.unset (done ++ [Case.unset caption events])]) := by
  have closes := Reads.line ((settled.inCase kind done caption).extend actors events).note
    Clause.read_end
  rw [carryOut, close_inCase settled] at closes
  exact closes

theorem reads_synchrony_opening (kind : SynchronyKind) :
    draft.Reads [{ chars := Clause.opening kind.name ['\x7b'] }]
      (draft.openSynchrony kind) :=
  Reads.line settled.note (Clause.read_synchrony kind)

/-- A synchrony block ends with either of two lines. -/
theorem reads_synchrony_closing (kind : SynchronyKind) (braced : Bool)
    (actors : List (Actor α)) (events : List (Event α)) :
    ((draft.openSynchrony kind).extend actors events).Reads
      [{ chars := if braced then ['\x7d'] else ['e', 'n', 'd'] }]
      (draft.extend actors [.synchrony kind events]) := by
  have inside := (settled.openSynchrony kind).extend actors events
  cases braced with
  | true =>
      have closes := Reads.line inside.note Clause.read_brace
      rw [carryOut, closeInnermost_synchrony settled] at closes
      exact closes
  | false =>
      have closes := Reads.line inside.note Clause.read_end
      rw [carryOut, close_synchrony settled] at closes
      exact closes

theorem reads_lifetime (kind : LifetimeKind) {target : String}
    (quotable : Text.Quotable target)
    (trimmed : Text.trim target.toList = target.toList) :
    draft.Reads [{ chars := Clause.opening kind.name target.toList }]
      (draft.extend draft.actors [.lifetime kind target]) :=
  Reads.line settled.note (Clause.read_lifetime kind quotable trimmed)

theorem reads_numbering {start : String} (trimmed : Text.EndTrimmed start) :
    draft.Reads [{ chars := Clause.opening "autonumber" start.toList }]
      (draft.extend draft.actors [.numbering start]) :=
  Reads.line settled.note (Clause.read_numbering trimmed)

end Clauses

end Draft

mutual

/-- The lines of a clause add what the clause means. -/
theorem Clause.reads (clause : Clause) (writable : clause.Writable) {draft : Draft α}
    (settled : draft.Settled) :
    draft.Reads clause.lines (draft.extend (clause.cast draft.actors) clause.events) := by
  cases clause with
  | declaration kind caption nickname =>
      rw [Clause.Writable] at writable
      obtain ⟨declared, quotable, nonempty, apart, nicknameQuotable⟩ := writable
      rw [Clause.lines, Clause.cast, Clause.events]
      exact Draft.reads_declaration settled declared quotable nonempty apart nicknameQuotable
  | signal signal =>
      rw [Clause.Writable] at writable
      rw [Clause.lines, Clause.cast, Clause.events]
      exact Draft.reads_signal settled writable
  | note kind align location caption =>
      rw [Clause.Writable] at writable
      obtain ⟨word, spaced, -, captionTrimmed⟩ := writable
      rw [Clause.lines, Clause.cast, Clause.events]
      exact Draft.reads_note settled kind word spaced captionTrimmed
  | noteBlock kind align location body =>
      rw [Clause.Writable] at writable
      obtain ⟨word, spaced, inside⟩ := writable
      rw [Clause.lines, Clause.cast, Clause.events]
      exact Draft.reads_noteBlock settled kind word spaced
        fun line member => (inside line member).2
  | conditional kind caption clauses others =>
      rw [Clause.Writable] at writable
      obtain ⟨-, trimmed, clausesWritable, othersWritable⟩ := writable
      rw [Clause.lines, Clause.cast, Clause.events]
      have opens := Draft.reads_conditional_opening settled kind trimmed
      have first := opens.append
        (Clause.readsAll clauses clausesWritable (settled.inCase kind [] caption))
      have rest := Branch.reads others othersWritable settled kind [] caption
        (Clause.allCast clauses draft.actors) (Clause.allEvents clauses)
      rw [List.append_assoc]
      exact first.append rest
  | synchrony kind clauses braced =>
      rw [Clause.Writable] at writable
      rw [Clause.lines, Clause.cast, Clause.events]
      have opens := Draft.reads_synchrony_opening settled kind
      have filled := opens.append
        (Clause.readsAll clauses writable (settled.openSynchrony kind))
      exact filled.append
        (Draft.reads_synchrony_closing settled kind braced _ (Clause.allEvents clauses))
  | lifetime kind target =>
      rw [Clause.Writable] at writable
      rw [Clause.lines, Clause.cast, Clause.events]
      exact Draft.reads_lifetime settled kind writable.1 writable.2
  | numbering start =>
      rw [Clause.Writable] at writable
      rw [Clause.lines, Clause.cast, Clause.events]
      exact Draft.reads_numbering settled writable.2
termination_by structural clause

theorem Clause.readsAll (clauses : List Clause) (writable : Clause.AllWritable clauses)
    {draft : Draft α} (settled : draft.Settled) :
    draft.Reads (Clause.allLines clauses)
      (draft.extend (Clause.allCast clauses draft.actors) (Clause.allEvents clauses)) := by
  cases clauses with
  | nil =>
      rw [Clause.allLines, Clause.allCast, Clause.allEvents]
      simpa [Draft.extend] using Draft.Reads.nil draft
  | cons clause rest =>
      rw [Clause.AllWritable] at writable
      rw [Clause.allLines, Clause.allCast, Clause.allEvents]
      have first := Clause.reads clause writable.1 settled
      have others := Clause.readsAll rest writable.2
        (settled.extend (clause.cast draft.actors) clause.events)
      have both := first.append others
      rw [Draft.extend_extend] at both
      exact both
termination_by structural clauses

/-- The lines of branches and the `end` behind them complete the conditional whose
case is being filled. -/
theorem Branch.reads (branches : List (Branch Clause)) (writable : Branch.Writable branches)
    {draft : Draft α} (settled : draft.Settled) (kind : ConditionalKind)
    (done : List (Case α (Event α))) (caption : String) (actors : List (Actor α))
    (events : List (Event α)) :
    ((draft.inCase kind done caption).extend actors events).Reads
      (Branch.lines branches ++ [{ chars := ['e', 'n', 'd'] }])
      (draft.extend (Branch.cast branches actors)
        [.conditional kind Frame.unset
          (done ++ Case.unset caption events :: Branch.cases branches)]) := by
  cases branches with
  | nil =>
      rw [Branch.lines, Branch.cast, Branch.cases]
      exact Draft.reads_conditional_closing settled kind done caption actors events
  | cons branch rest =>
      obtain ⟨next, clauses⟩ := branch
      rw [Branch.Writable] at writable
      obtain ⟨-, trimmed, clausesWritable, restWritable⟩ := writable
      rw [Branch.lines, Branch.cast, Branch.cases]
      -- What the next case is put in is the place around the conditional, with the actors
      -- that the cases before have named.
      have around := settled.extend actors []
      have begins := Draft.reads_alternative settled trimmed kind done caption actors events
      have filled := begins.append
        (Clause.readsAll clauses clausesWritable (around.inCase kind _ next))
      have others := Branch.reads rest restWritable around kind
        (done ++ [Case.unset caption events]) next (Clause.allCast clauses actors)
        (Clause.allEvents clauses)
      simpa [Draft.extend_extend] using filled.append others
termination_by structural branches

end

/-- Written lines are still there when the lines of their text are put together and
broken again. -/
theorem Dressed.lines_intercalate {lines : List WrittenLine} {text : List (List Char)}
    (dressed : Dressed lines text) (oneLine : ∀ line ∈ lines, '\n' ∉ line.chars) :
    Dressed lines (Text.lines (['\n'].intercalate text)) := by
  cases textEq : text with
  | nil =>
      subst textEq
      cases dressed
      exact Dressed.filler (by simp) ⟨by simp, Or.inl rfl⟩ Dressed.nil
  | cons first others =>
      rw [← textEq, Text.lines, List.splitOn_intercalate '\n'
        (dressed.newline_not_mem oneLine) (by simp [textEq])]
      exact dressed

/-- Reading undoes writing: the text of clauses that can be written, with whatever
indentation, blank lines and comments, is the diagram that they mean, and there is
nothing to remark on it. -/
theorem Script.read_dressed {clauses : List Clause}
    (writable : Clause.AllWritable clauses) {text : List (List Char)}
    (dressed : Dressed (Clause.allLines clauses) text) :
    Script.read (String.ofList (['\n'].intercalate text)) =
        (Clause.diagram clauses : Diagram α) ∧
      Script.remarks (String.ofList (['\n'].intercalate text)) = [] := by
  have broken := dressed.lines_intercalate
    (Clause.newline_not_mem_allLines clauses writable)
  have ofTextEq (β : Type) [Scalar β] :
      (Draft.ofText (['\n'].intercalate text) : Draft β) =
        ({} : Draft β).extend (Clause.allCast clauses []) (Clause.allEvents clauses) := by
    have settled : ({} : Draft β).Settled := ⟨rfl, rfl⟩
    rw [← List.append_nil (Clause.allLines clauses)] at broken
    obtain ⟨others, othersDressed, readEq⟩ :=
      Clause.readsAll clauses writable settled [] _ broken
    rw [Draft.ofText, readEq]
    exact othersDressed.readLines_nil rfl
  constructor
  · rw [Script.read, String.toList_ofList, ofTextEq]
    rfl
  · rw [Script.remarks, String.toList_ofList, ofTextEq]
    rfl

/-- A script with blocks inside one another, indented and commented. -/
theorem Script.read_dressed_nested :
    Script.read
        (String.ofList
          (['\n'].intercalate
            (["\t actor \"Big Bob\" as \"B\"", "# left out", "alt first", "",
              "  \"a: b\"-->+-\"B\": ask ", "  parallel \x7b", "note left of a B",
              "   # kept", "", "end", "  \x7d", "else ", "autonumber 3",
              "end"].map String.toList))) =
      (Clause.diagram
        [.declaration .actor "Big Bob" (some "B"),
          .conditional .alt "first"
            [.signal
                { caption := "ask", source := "a: b", destination := "B", dotted := true
                  activates := true, deactivates := true },
              .synchrony .parallel [.noteBlock .note "left" "a B" ["# kept", ""]] true]
            [⟨"", [.numbering "3"]⟩]] : Diagram Rat) := by
  have plain : Text.Padding [] := by decide
  have two : Text.Padding [' ', ' '] := by decide
  refine (Script.read_dressed (by decide +kernel) ?_).1
  refine .line (by decide : Text.Padding ['\t', ' ']) plain ?_
  refine .filler (by decide) (by decide) (.line plain plain ?_)
  refine .filler (by decide) (by decide) (.line two (by decide : Text.Padding [' ']) ?_)
  refine .line two plain (.line plain plain ?_)
  refine .line (by decide : Text.Padding [' ', ' ', ' ']) plain (.line plain plain ?_)
  refine .line plain plain (.line two plain (.line plain plain ?_))
  exact .line plain plain (.line plain plain .nil)

end Lifeline
