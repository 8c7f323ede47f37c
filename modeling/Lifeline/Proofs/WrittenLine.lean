import Lifeline.Proofs.Clause
import Lifeline.Proofs.Statement
import Lifeline.Proofs.Text.Blank

/-!
# What written lines state

Each line of a clause is read back as the statement it was written for.  A line
begins with the word that decides its statement, or with a double quote, with
which no such word begins; what follows the word is taken apart where it was put
together.
-/

namespace Lifeline

namespace Statement

/-- A line that begins with a keyword is read by that keyword, and the rest of the
line follows one space. -/
theorem read_trim_opening {word : String} (keyword : word ∈ keywords)
    {rest : List Char} (trimmed : Text.trimEnd rest = rest) :
    ∃ line, read (Text.trim (Clause.opening word rest)) = ofWord line word rest := by
  obtain ⟨nonempty, solid, -⟩ := keywords_solid word keyword
  have wordNonempty : word.toList ≠ [] := by simpa using nonempty
  have noSpace : ' ' ∉ word.toList := fun member =>
    absurd (solid ' ' member) (by decide)
  have wordTrimmed : Text.trimEnd word.toList = word.toList :=
    Text.trimEnd_eq_self fun char last => solid char (List.mem_of_getLast? last)
  have trimEq : Text.trim (Clause.opening word rest) =
      Text.trimEnd (word.toList ++ ' ' :: rest) := by
    apply Text.trim_eq_trimEnd
    intro char head
    rw [Clause.opening, List.head?_append_of_ne_nil _ wordNonempty] at head
    exact solid char (List.mem_of_head? head)
  rw [trimEq]
  by_cases empty : rest = []
  · have blank : Text.trimEnd (word.toList ++ [' ']) = word.toList := by
      rw [Text.trimEnd_append_of_blank (by simp), wordTrimmed]
    rw [empty, blank]
    refine ⟨word.toList, ?_⟩
    simp only [read, Text.cut_singleton_of_absent noSpace, String.ofList_toList]
  · have kept : Text.trimEnd (word.toList ++ ' ' :: rest) = word.toList ++ ' ' :: rest := by
      have split : word.toList ++ ' ' :: rest = (word.toList ++ [' ']) ++ rest := by simp
      rw [split, Text.trimEnd_append_of_trimmed trimmed empty]
    rw [kept]
    refine ⟨word.toList ++ ' ' :: rest, ?_⟩
    simp only [read, Text.cut_singleton noSpace, String.ofList_toList]

end Statement

namespace Clause

theorem filter_quote {name : String} (unmarked : '"' ∉ name.toList) :
    (quote name).filter (· ≠ '"') = name.toList := by
  have keep : name.toList.filter (· ≠ '"') = name.toList := by
    rw [List.filter_eq_self]
    intro char member
    simpa using ne_of_mem_of_not_mem member unmarked
  rw [quote, List.filter_append, List.filter_cons, keep]
  simp

theorem head?_quote (name : String) : (quote name).head? = some '"' :=
  rfl

theorem getLast?_quote (name : String) : (quote name).getLast? = some '"' := by
  rw [quote, List.getLast?_concat]

theorem trimEnd_quote (name : String) : Text.trimEnd (quote name) = quote name := by
  apply Text.trimEnd_eq_self
  rw [getLast?_quote]
  simp

theorem unquote_quote {name : String} (unmarked : '"' ∉ name.toList) :
    Text.unquote (quote name) = name.toList := by
  rw [Text.unquote_eq_filter, filter_quote unmarked]
  · rw [head?_quote]; simp
  · rw [getLast?_quote]; simp

theorem cut_declaration {caption : String} (nickname : Option String)
    (apart : ¬ [' ', 'a', 's', ' '] <:+: caption.toList) :
    Text.cut [' ', 'a', 's', ' '] (quote caption ++ nicknameText nickname) =
      (quote caption, (nickname.map quote).getD []) := by
  have quotedApart : ¬ [' ', 'a', 's', ' '] <:+: '"' :: caption.toList := by
    rw [List.infix_cons_iff]
    rintro (atFront | inside)
    · exact absurd (List.cons_prefix_cons.mp atFront).1 (by decide)
    · exact apart inside
  have textEq : quote caption ++ nicknameText nickname =
      '"' :: caption.toList ++ '"' :: nicknameText nickname := by
    simp [quote]
  rw [textEq, Text.cut, Text.cutAt?_skip (by decide) quotedApart]
  cases nickname with
  | none => simp [nicknameText, Text.cutAt?, quote]
  | some nickname =>
      rw [nicknameText, Text.cutAt?_mark (by simp)]
      simp [Text.inFront, quote]

theorem read_declaration {kind : ActorKind} {caption : String}
    {nickname : Option String} (declared : kind ∈ ActorKind.declared)
    (quotable : Text.Quotable caption)
    (apart : ¬ [' ', 'a', 's', ' '] <:+: caption.toList)
    (nicknameQuotable : ∀ name ∈ nickname, Text.Quotable name) :
    Statement.read
        (Text.trim (opening kind.name (quote caption ++ nicknameText nickname))) =
      .declaration kind caption (nickname.getD "") := by
  have keyword := Statement.declared_name_mem_keywords declared
  have trimmed : Text.trimEnd (quote caption ++ nicknameText nickname) =
      quote caption ++ nicknameText nickname := by
    cases nickname with
    | none => rw [nicknameText, List.append_nil, trimEnd_quote]
    | some nickname =>
        rw [nicknameText, ← List.append_assoc,
          Text.trimEnd_append_of_trimmed (trimEnd_quote nickname) (by simp [quote])]
  obtain ⟨line, readEq⟩ := Statement.read_trim_opening keyword trimmed
  have dispatch (rest : List Char) :
      Statement.ofWord line kind.name rest = Statement.readDeclaration kind rest := by
    simp only [ActorKind.declared, List.mem_cons, List.not_mem_nil, or_false] at declared
    rcases declared with rfl | rfl <;> rfl
  rw [readEq, dispatch, Statement.readDeclaration, cut_declaration nickname apart]
  cases nickname with
  | none => simp [unquote_quote quotable.1]
  | some nickname =>
      simp [unquote_quote quotable.1, unquote_quote (nicknameQuotable nickname rfl).1]

end Clause

namespace Signal

variable {signal : Signal}

/-- The flags of a signal are taken off its destination, and nothing of the
destination with them. -/
theorem takeFlag_flags (noFlag : ¬ signal.BeginsLikeFlag)
    (nonempty : signal.destination ≠ "") :
    let afterOpen := takeFlag '>' (signal.flags ++ signal.destination.toList)
    let afterSpawns := takeFlag '*' afterOpen.2
    let afterActivates := takeFlag '+' afterSpawns.2
    let afterDeactivates := takeFlag '-' afterActivates.2
    afterOpen.1 = signal.openHead ∧ afterSpawns.1 = signal.spawns ∧
      afterActivates.1 = signal.activates ∧
      afterDeactivates = (signal.deactivates, signal.destination.toList) := by
  obtain ⟨caption, source, destination, dotted, openHead, spawns, activates,
    deactivates⟩ := signal
  cases charsEq : destination.toList with
  | nil => exact absurd (String.toList_eq_nil_iff.mp charsEq) nonempty
  | cons char rest =>
      simp only [BeginsLikeFlag, charsEq, List.head?_cons, Option.some.injEq] at noFlag
      -- A flag that is not there is only looked for before the flags that are.
      cases openHead <;> cases spawns <;> cases activates <;> cases deactivates <;>
        simp_all [flags, takeFlag]

def dash (signal : Signal) : List Char :=
  if signal.dotted then ['-'] else []

theorem arrow_eq (signal : Signal) : signal.arrow = signal.dash ++ ['-', '>'] := by
  rw [arrow, dash]; split <;> rfl

theorem takeDash_dash
    (noDash : signal.dotted = false → signal.source.toList.getLast? ≠ some '-') :
    takeDash (signal.source.toList ++ signal.dash) =
      (signal.dotted, signal.source.toList) := by
  cases dotted : signal.dotted with
  | false => simp [dash, takeDash, dotted, noDash dotted]
  | true => simp [dash, takeDash, dotted]

theorem cutUnquoted_lineText (writable : signal.Writable) :
    Text.cutUnquoted ':' signal.lineText =
      (Clause.quote signal.source ++ signal.arrow ++ signal.flags ++
          Clause.quote signal.destination,
        ' ' :: signal.caption.toList) := by
  have plain : ∀ char ∈ signal.arrow ++ signal.flags, char ≠ '"' ∧ char ≠ ':' := by
    intro char member
    simp only [arrow, flags, List.mem_append] at member
    split_ifs at member <;> simp at member <;> grind
  have lineEq : signal.lineText =
      '"' :: signal.source.toList ++ '"' ::
        ((signal.arrow ++ signal.flags) ++
          ('"' :: signal.destination.toList ++ '"' ::
            ':' :: ' ' :: signal.caption.toList)) := by
    simp [lineText, Clause.quote]
  rw [lineEq, Text.cutUnquoted, Text.cutUnquoted?_quotes writable.source.1.1,
    Text.cutUnquoted?_skip (fun member => (plain _ member).1 rfl)
      (fun member => (plain _ member).2 rfl),
    Text.cutUnquoted?_quotes writable.destination.1.1]
  simp [Text.cutUnquoted?, Text.inFront, Clause.quote]

theorem cutAt?_ends (writable : signal.Writable) (rest : List Char) :
    Text.cutAt? ['-', '>'] (Clause.quote signal.source ++ signal.arrow ++ rest) =
      some (Clause.quote signal.source ++ signal.dash, rest) := by
  have quotedApart : ¬ ['-', '>'] <:+: '"' :: signal.source.toList := by
    rw [List.infix_cons_iff]
    rintro (atFront | inside)
    · exact absurd (List.cons_prefix_cons.mp atFront).1 (by decide)
    · exact writable.noArrow inside
  have textEq : Clause.quote signal.source ++ signal.arrow ++ rest =
      '"' :: signal.source.toList ++ '"' :: (signal.dash ++ '-' :: '>' :: rest) := by
    simp [Clause.quote, arrow_eq]
  rw [textEq, Text.cutAt?_skip (by decide) quotedApart, dash]
  split <;> simp [Text.cutAt?, Text.inFront, Clause.quote]

theorem read_lineText (writable : signal.Writable) :
    Signal.read signal.lineText = .ok signal := by
  obtain ⟨⟨sourceQuotable, sourceNonempty, sourceTrimmed⟩,
    ⟨destinationQuotable, destinationNonempty, destinationTrimmed⟩,
    ⟨-, captionNonempty, captionTrimmed⟩, noArrow, noDash, noFlag⟩ := id writable
  have sourceEq : Text.unquote (Clause.quote signal.source ++ signal.dash) =
      signal.source.toList ++ signal.dash := by
    rw [Text.unquote_eq_filter, List.filter_append, Clause.filter_quote sourceQuotable.1]
    · rw [dash]; split <;> rfl
    · simp [Clause.quote]
    · rw [List.getLast?_append, Clause.getLast?_quote, dash]
      split
      · simp; rfl
      · simp
  have destinationEq :
      Text.unquote (signal.flags ++ Clause.quote signal.destination) =
        signal.flags ++ signal.destination.toList := by
    rw [Text.unquote_eq_filter, List.filter_append,
      Clause.filter_quote destinationQuotable.1]
    · rw [flags]; split_ifs <;> rfl
    · rw [flags]; split_ifs <;> simp [Clause.quote] <;> rfl
    · rw [List.getLast?_append, Clause.getLast?_quote, Option.some_or]; simp
  obtain ⟨openEq, spawnsEq, activatesEq, restEq⟩ := takeFlag_flags noFlag destinationNonempty
  have endsEq := cutAt?_ends writable (signal.flags ++ Clause.quote signal.destination)
  rw [← List.append_assoc] at endsEq
  simp only [Signal.read, cutUnquoted_lineText writable, endsEq, List.isEmpty_cons,
    Bool.false_eq_true, if_false, ofEnds, sourceEq, takeDash_dash noDash, destinationEq,
    openEq, spawnsEq, activatesEq, restEq, sourceTrimmed, destinationTrimmed,
    Text.trim_space, captionTrimmed, String.ofList_toList]
  simp [sourceNonempty, destinationNonempty]

/-- The line of a signal begins with a quote and ends with its caption. -/
theorem trim_lineText (writable : signal.Writable) :
    Text.trim signal.lineText = signal.lineText := by
  have captionTrimmed := Text.trimEnd_of_trim writable.caption.2.2
  rw [Text.trim_eq_trimEnd]
  · rw [lineText, List.append_cons, List.append_cons,
      Text.trimEnd_append_of_trimmed captionTrimmed (by simpa using writable.caption.2.1)]
  · simp [lineText, Clause.quote]

theorem read_trim_lineText (writable : signal.Writable) :
    Statement.read (Text.trim signal.lineText) = .signal (.ok signal) := by
  obtain ⟨rest, lineEq⟩ : ∃ rest, signal.lineText = '"' :: rest :=
    ⟨signal.lineText.tail, rfl⟩
  rw [trim_lineText writable, lineEq, Statement.read_of_head (Or.inl rfl), ← lineEq,
    read_lineText writable]
  simp

end Signal

namespace Clause

variable {align location : String}

theorem colon_not_mem_placeText (word : Text.Word align)
    (spaced : Text.SingleSpaced location) : ':' ∉ placeText align location := by
  simp [placeText, word.2.1, spaced.2.2.1]

theorem words_placeText (location : String) (word : Text.Word align) :
    Text.words (placeText align location) =
      align.toList :: ['o', 'f'] :: Text.words location.toList := by
  have wordNonempty : align.toList ≠ [] := by simpa using word.1
  have ofSolid : ∀ char ∈ ['o', 'f'], Text.isBlank char = false := by simp; decide
  have ofEq : Text.words (['o', 'f'] ++ ' ' :: location.toList) =
      ['o', 'f'] :: Text.words location.toList :=
    Text.words_cons (by simp) ofSolid (by decide)
  rw [placeText, Text.words_cons wordNonempty word.2.2 (by decide), ← ofEq]
  rfl

theorem anchor_placeText (word : Text.Word align) (spaced : Text.SingleSpaced location) :
    (Note.anchor (Text.words (placeText align location))).map String.ofList =
      some location := by
  obtain ⟨quotable, ⟨nonempty, trimmed⟩, -, joined⟩ := spaced
  rw [words_placeText location word]
  cases wordsEq : Text.words location.toList with
  | nil =>
      have locationEmpty : location = "" := by
        rw [wordsEq] at joined
        exact String.toList_eq_nil_iff.mp joined.symm
      exact absurd locationEmpty nonempty
  | cons first others =>
      rw [wordsEq] at joined
      simp only [Note.anchor, joined, Option.map_some,
        Text.unquote_eq_self trimmed quotable.1, String.ofList_toList]

/-- The line of an annotation ends with its location or with its caption, and
neither ends with a blank. -/
theorem read_opening_note (kind : NoteKind) {rest : List Char}
    (trimmed : Text.trimEnd rest = rest) :
    Statement.read (Text.trim (opening kind.name rest)) =
      .note (Note.read kind rest) := by
  have keyword := Statement.note_name_mem_keywords kind
  obtain ⟨line, readEq⟩ := Statement.read_trim_opening keyword trimmed
  rw [readEq]
  cases kind <;> rfl

theorem read_note (kind : NoteKind) {caption : String} (word : Text.Word align)
    (spaced : Text.SingleSpaced location) (captionTrimmed : Text.Trimmed caption) :
    Statement.read
        (Text.trim
          (opening kind.name (placeText align location ++ ':' :: ' ' :: caption.toList))) =
      .note { kind, caption, align, location := some location } := by
  have captionEnd := Text.trimEnd_of_trim captionTrimmed.2
  have trimmed : Text.trimEnd (placeText align location ++ ':' :: ' ' :: caption.toList) =
      placeText align location ++ ':' :: ' ' :: caption.toList := by
    rw [List.append_cons, List.append_cons,
      Text.trimEnd_append_of_trimmed captionEnd (by simpa using captionTrimmed.1)]
  rw [read_opening_note kind trimmed, Note.read,
    Text.cut_singleton (colon_not_mem_placeText word spaced)]
  have anchorEq := anchor_placeText word spaced
  rw [words_placeText location word] at anchorEq
  simp only [words_placeText location word, anchorEq, Text.trim_space, captionTrimmed.2,
    String.ofList_toList, List.headD_cons, List.isEmpty_cons]

theorem read_noteBlock (kind : NoteKind) (word : Text.Word align)
    (spaced : Text.SingleSpaced location) :
    Statement.read (Text.trim (opening kind.name (placeText align location))) =
      .note { kind, caption := "", align, location := some location, multiline := true } := by
  have locationEnd := Text.trimEnd_of_trim spaced.2.1.2
  have trimmed : Text.trimEnd (placeText align location) = placeText align location := by
    rw [placeText, List.append_cons, List.append_cons, List.append_cons, List.append_cons,
      Text.trimEnd_append_of_trimmed locationEnd (by simpa using spaced.2.1.1)]
  rw [read_opening_note kind trimmed, Note.read,
    Text.cut_singleton_of_absent (colon_not_mem_placeText word spaced)]
  have anchorEq := anchor_placeText word spaced
  rw [words_placeText location word] at anchorEq
  simp only [words_placeText location word, anchorEq, String.ofList_toList,
    List.headD_cons, List.isEmpty_nil]
  rfl

theorem read_conditional (kind : ConditionalKind) {caption : String}
    (trimmed : Text.EndTrimmed caption) :
    Statement.read (Text.trim (opening kind.name caption.toList)) =
      .conditional kind caption := by
  have keyword := Statement.conditional_name_mem_keywords kind
  obtain ⟨line, readEq⟩ := Statement.read_trim_opening keyword trimmed
  have dispatch : Statement.ofWord line kind.name caption.toList =
      .conditional kind (String.ofList caption.toList) := by
    cases kind <;> rfl
  rw [readEq, dispatch, String.ofList_toList]

theorem read_alternative {caption : String} (trimmed : Text.EndTrimmed caption) :
    Statement.read (Text.trim (opening "else" caption.toList)) = .alternative caption := by
  obtain ⟨line, readEq⟩ :=
    Statement.read_trim_opening Statement.else_mem_keywords trimmed
  have dispatch : Statement.ofWord line "else" caption.toList =
      .alternative (String.ofList caption.toList) :=
    rfl
  rw [readEq, dispatch, String.ofList_toList]

theorem read_synchrony (kind : SynchronyKind) :
    Statement.read (Text.trim (opening kind.name ['\x7b'])) = .synchrony kind := by
  have keyword := Statement.synchrony_name_mem_keywords kind
  obtain ⟨line, readEq⟩ := Statement.read_trim_opening keyword
    (by decide : Text.trimEnd ['\x7b'] = ['\x7b'])
  rw [readEq]
  cases kind <;> rfl

theorem read_lifetime (kind : LifetimeKind) {target : String}
    (quotable : Text.Quotable target)
    (trimmed : Text.trim target.toList = target.toList) :
    Statement.read (Text.trim (opening kind.name target.toList)) =
      .lifetime kind target := by
  have keyword := Statement.lifetime_name_mem_keywords kind
  obtain ⟨line, readEq⟩ :=
    Statement.read_trim_opening keyword (Text.trimEnd_of_trim trimmed)
  have dispatch : Statement.ofWord line kind.name target.toList =
      .lifetime kind (String.ofList (Text.unquote target.toList)) := by
    cases kind <;> rfl
  rw [readEq, dispatch, Text.unquote_eq_self trimmed quotable.1, String.ofList_toList]

theorem read_numbering {start : String} (trimmed : Text.EndTrimmed start) :
    Statement.read (Text.trim (opening "autonumber" start.toList)) = .numbering start := by
  obtain ⟨line, readEq⟩ :=
    Statement.read_trim_opening Statement.autonumber_mem_keywords trimmed
  have dispatch : Statement.ofWord line "autonumber" start.toList =
      .numbering (String.ofList start.toList) :=
    rfl
  rw [readEq, dispatch, String.ofList_toList]

theorem read_end : Statement.read (Text.trim ['e', 'n', 'd']) = .close :=
  rfl

theorem read_brace : Statement.read (Text.trim ['\x7d']) = .brace :=
  rfl

end Clause

namespace Clause

theorem newline_not_mem_opening {word : String} (keyword : word ∈ Statement.keywords)
    {rest : List Char} (oneLine : '\n' ∉ rest) : '\n' ∉ opening word rest := by
  have solid := (Statement.keywords_solid word keyword).2.1
  have notInWord : '\n' ∉ word.toList := fun member =>
    absurd (solid '\n' member) (by decide)
  simp [opening, notInWord, oneLine]

theorem newline_not_mem_quote {name : String} (quotable : Text.Quotable name) :
    '\n' ∉ quote name := by
  have oneLine : '\n' ∉ name.toList := quotable.2
  simp [quote, oneLine]

theorem newline_not_mem_placeText {align location : String} (word : Text.Word align)
    (spaced : Text.SingleSpaced location) : '\n' ∉ placeText align location := by
  have notInAlign : '\n' ∉ align.toList := fun member =>
    absurd (word.2.2 '\n' member) (by decide)
  have notInLocation : '\n' ∉ location.toList := spaced.1.2
  simp [placeText, notInAlign, notInLocation]

end Clause

theorem Signal.newline_not_mem_lineText {signal : Signal} (writable : signal.Writable) :
    '\n' ∉ signal.lineText := by
  have notInArrow : '\n' ∉ signal.arrow := by
    rw [arrow]
    split <;> decide
  have notInFlags : '\n' ∉ signal.flags := by
    simp [flags]
  have notInCaption : '\n' ∉ signal.caption.toList := writable.caption.1
  simp [lineText, notInArrow, notInFlags, notInCaption,
    Clause.newline_not_mem_quote writable.source.1,
    Clause.newline_not_mem_quote writable.destination.1]

mutual

/-- No line of a clause holds a newline. -/
theorem Clause.newline_not_mem_lines (clause : Clause) (writable : clause.Writable) :
    ∀ line ∈ clause.lines, '\n' ∉ line.chars := by
  cases clause with
  | declaration kind caption nickname =>
      rw [Clause.Writable] at writable
      obtain ⟨declared, quotable, -, -, nicknameQuotable⟩ := writable
      have keyword := Statement.declared_name_mem_keywords declared
      have notInNickname : '\n' ∉ Clause.nicknameText nickname := by
        cases nickname with
        | none => simp [Clause.nicknameText]
        | some nickname =>
            simp [Clause.nicknameText,
              Clause.newline_not_mem_quote (nicknameQuotable nickname rfl)]
      rw [Clause.lines]
      simpa using Clause.newline_not_mem_opening keyword
        (by simp [notInNickname, Clause.newline_not_mem_quote quotable])
  | signal signal =>
      rw [Clause.Writable] at writable
      rw [Clause.lines]
      simpa using Signal.newline_not_mem_lineText writable
  | note kind align location caption =>
      rw [Clause.Writable] at writable
      obtain ⟨word, spaced, oneLine, -⟩ := writable
      have keyword := Statement.note_name_mem_keywords kind
      rw [Clause.lines]
      simpa using Clause.newline_not_mem_opening keyword
        (by
          simp [Clause.newline_not_mem_placeText word spaced,
            show '\n' ∉ caption.toList from oneLine])
  | noteBlock kind align location body =>
      rw [Clause.Writable] at writable
      obtain ⟨word, spaced, inside⟩ := writable
      have keyword := Statement.note_name_mem_keywords kind
      rw [Clause.lines]
      intro line member
      simp only [List.cons_append, List.mem_cons, List.mem_append, List.mem_map,
        List.not_mem_nil, or_false] at member
      rcases member with rfl | ⟨bodyLine, inBody, rfl⟩ | rfl
      · exact Clause.newline_not_mem_opening keyword
          (Clause.newline_not_mem_placeText word spaced)
      · exact (inside bodyLine inBody).1
      · decide
  | conditional kind caption clauses others =>
      rw [Clause.Writable] at writable
      obtain ⟨oneLine, -, clausesWritable, othersWritable⟩ := writable
      have keyword := Statement.conditional_name_mem_keywords kind
      have first := Clause.newline_not_mem_allLines clauses clausesWritable
      have rest := Branch.newline_not_mem_lines others othersWritable
      rw [Clause.lines]
      intro line member
      simp only [List.cons_append, List.mem_cons, List.mem_append, List.not_mem_nil,
        or_false] at member
      rcases member with rfl | (member | member) | rfl
      · exact Clause.newline_not_mem_opening keyword oneLine
      · exact first line member
      · exact rest line member
      · decide
  | synchrony kind clauses braced =>
      rw [Clause.Writable] at writable
      have keyword := Statement.synchrony_name_mem_keywords kind
      have inside := Clause.newline_not_mem_allLines clauses writable
      rw [Clause.lines]
      intro line member
      simp only [List.cons_append, List.mem_cons, List.mem_append, List.not_mem_nil,
        or_false] at member
      rcases member with rfl | member | rfl
      · exact Clause.newline_not_mem_opening keyword (by decide)
      · exact inside line member
      · cases braced <;> decide
  | lifetime kind target =>
      rw [Clause.Writable] at writable
      have keyword := Statement.lifetime_name_mem_keywords kind
      rw [Clause.lines]
      simpa using Clause.newline_not_mem_opening keyword writable.1.2
  | numbering start =>
      rw [Clause.Writable] at writable
      rw [Clause.lines]
      simpa using Clause.newline_not_mem_opening Statement.autonumber_mem_keywords
        writable.1
termination_by structural clause

theorem Clause.newline_not_mem_allLines (clauses : List Clause)
    (writable : Clause.AllWritable clauses) :
    ∀ line ∈ Clause.allLines clauses, '\n' ∉ line.chars := by
  cases clauses with
  | nil =>
      rw [Clause.allLines]
      simp
  | cons clause rest =>
      rw [Clause.AllWritable] at writable
      rw [Clause.allLines, List.forall_mem_append]
      exact ⟨Clause.newline_not_mem_lines clause writable.1,
        Clause.newline_not_mem_allLines rest writable.2⟩
termination_by structural clauses

theorem Branch.newline_not_mem_lines (branches : List (Branch Clause))
    (writable : Branch.Writable branches) :
    ∀ line ∈ Branch.lines branches, '\n' ∉ line.chars := by
  cases branches with
  | nil =>
      rw [Branch.lines]
      simp
  | cons branch rest =>
      obtain ⟨caption, clauses⟩ := branch
      rw [Branch.Writable] at writable
      obtain ⟨oneLine, -, clausesWritable, restWritable⟩ := writable
      rw [Branch.lines, List.cons_append, List.forall_mem_cons, List.forall_mem_append]
      exact
        ⟨Clause.newline_not_mem_opening Statement.else_mem_keywords oneLine,
          Clause.newline_not_mem_allLines clauses clausesWritable,
          Branch.newline_not_mem_lines rest restWritable⟩
termination_by structural branches

end

end Lifeline
