import Lifeline.Proofs.Names

/-!
# Blanks between quotes

Names are to be stored in one form, so that they can be written with quotes or without: no
blanks at the ends and no quotes.  Blanks are trimmed before the quotes are taken away,
though, so quotes can hide a blank that stands between them and the rest of the name.
Signals trim their names once more when quotes, dash and flags are gone.  Nothing else does,
and this is all that can be wrong with a name.
-/

namespace Lifeline

variable {α : Type}

/-- Where an annotation is anchored, with its quotes. -/
def Note.anchorText : List (List Char) → Option (List Char)
  | _ :: _ :: word :: others => some ([' '].intercalate (word :: others))
  | [_, word] => some word
  | _ => none

theorem Note.mem_of_anchorText {words : List (List Char)} {text : List Char}
    (textEq : anchorText words = some text) {char : Char} (inside : char ∈ text) :
    char = ' ' ∨ ∃ word ∈ words, char ∈ word := by
  rcases words with - | ⟨first, - | ⟨second, - | ⟨third, others⟩⟩⟩
  · cases textEq
  · cases textEq
  · obtain rfl := Option.some.inj textEq
    exact Or.inr ⟨second, by simp, inside⟩
  · obtain rfl := Option.some.inj textEq
    refine (Text.mem_of_mem_intercalate inside).imp List.mem_singleton.mp ?_
    rintro ⟨word, member, inWord⟩
    exact ⟨word, List.mem_cons_of_mem _ (List.mem_cons_of_mem _ member), inWord⟩

theorem Note.anchor_eq_map (words : List (List Char)) :
    anchor words = (anchorText words).map Text.unquote := by
  rcases words with - | ⟨first, - | ⟨second, - | ⟨third, others⟩⟩⟩ <;> rfl

namespace Statement

/-- What a line with this first word and this rest writes for the names that are not trimmed
again: the two names of a declaration that is not left out, the location of an annotation and
the target of a lifetime marker. -/
def namesBehind (word : String) (rest : List Char) : List (List Char) :=
  if (ActorKind.ofName? word).isSome then
    let (caption, nickname) := Text.cut [' ', 'a', 's', ' '] rest
    if Text.unquote caption = [] then [] else [caption, nickname]
  else if (NoteKind.ofName? word).isSome then
    (Note.anchorText (Text.words (Text.cut [':'] rest).1)).toList
  else if (LifetimeKind.ofName? word).isSome then [rest]
  else []

def writtenNames (line : List Char) : List (List Char) :=
  namesBehind (String.ofList (Text.cut [' '] line).1) (Text.cut [' '] line).2

theorem ofWord_declaration {word : String} {kind : ActorKind}
    (found : ActorKind.ofName? word = some kind) (line rest : List Char) :
    ofWord line word rest = readDeclaration kind rest := by
  obtain rfl : kind.name = word := eq_of_beq (List.find?_some found :)
  have declared : kind ∈ ActorKind.declared := List.mem_of_find?_eq_some found
  simp only [ActorKind.declared, List.mem_cons, List.not_mem_nil, or_false] at declared
  rcases declared with rfl | rfl <;> rfl

theorem ofWord_note {word : String} {kind : NoteKind}
    (found : NoteKind.ofName? word = some kind) (line rest : List Char) :
    ofWord line word rest = .note (Note.read kind rest) := by
  obtain rfl : kind.name = word := eq_of_beq (List.find?_some found :)
  cases kind <;> rfl

theorem ofWord_lifetime {word : String} {kind : LifetimeKind}
    (found : LifetimeKind.ofName? word = some kind) (line rest : List Char) :
    ofWord line word rest = .lifetime kind (String.ofList (Text.unquote rest)) := by
  obtain rfl : kind.name = word := eq_of_beq (List.find?_some found :)
  cases kind <;> rfl

/-- How the names of a statement come from what its line writes. -/
inductive Holds : Statement → List (List Char) → Prop
  | declaration (kind : ActorKind) (caption nickname : List Char)
      (captioned : Text.unquote caption ≠ []) :
      Holds (.declaration kind (String.ofList (Text.unquote caption))
        (String.ofList (Text.unquote nickname))) [caption, nickname]
  | note (note : Note) (words : List (List Char))
      (location : note.location = ((Note.anchorText words).map Text.unquote).map String.ofList) :
      Holds (.note note) (Note.anchorText words).toList
  | lifetime (kind : LifetimeKind) (target : List Char) :
      Holds (.lifetime kind (String.ofList (Text.unquote target))) [target]
  | signal (signal : Signal) : Holds (.signal (.ok signal)) []
  | nothing (statement : Statement)
      (nameless : statement.parties ++ statement.references = []) : Holds statement []

theorem holds_writtenNames (line : List Char) : Holds (read line) (writtenNames line) := by
  change Holds (ofWord line (String.ofList (Text.cut [' '] line).1) (Text.cut [' '] line).2) _
  rw [writtenNames]
  generalize String.ofList (Text.cut [' '] line).1 = word
  generalize (Text.cut [' '] line).2 = rest
  rw [namesBehind]
  cases actorEq : ActorKind.ofName? word with
  | some kind =>
      rw [ofWord_declaration actorEq, readDeclaration, Option.isSome_some, if_pos rfl]
      generalize Text.cut [' ', 'a', 's', ' '] rest = names
      by_cases captioned : Text.unquote names.1 = []
      · simp only [if_pos captioned]
        exact .nothing _ (by simp [parties, declared, ends, references, captioned])
      · simp only [if_neg captioned]
        exact .declaration kind names.1 names.2 captioned
  | none =>
      rw [if_neg (by simp)]
      cases noteEq : NoteKind.ofName? word with
      | some kind =>
          rw [ofWord_note noteEq, Option.isSome_some, if_pos rfl]
          exact .note _ _ (by rw [← Note.anchor_eq_map, Note.read])
      | none =>
          rw [if_neg (by simp)]
          cases lifetimeEq : LifetimeKind.ofName? word with
          | some kind =>
              rw [ofWord_lifetime lifetimeEq, Option.isSome_some, if_pos rfl]
              exact .lifetime kind rest
          | none =>
              have ofSignal (result : Except Signal.Fault Signal) : Holds (.signal result) [] := by
                cases result with
                | ok signal => exact .signal signal
                | error fault => exact .nothing _ rfl
              rw [if_neg (by simp), ofWord]
              simp only [actorEq, noteEq, lifetimeEq]
              repeat' split
              all_goals first | exact ofSignal _ | exact .nothing _ rfl

theorem mem_names_signal {signal : Signal} {name : String} :
    name ∈ parties (.signal (.ok signal)) ++ references (.signal (.ok signal)) ↔
      name ∈ ends (.signal (.ok signal)) := by
  simp only [parties, declared, ends, references, List.nil_append, List.mem_append, List.mem_cons,
    List.not_mem_nil, or_false, List.mem_ite_nil_right]
  tauto

/-- A name of a statement is an end of a signal or what the line writes, without quotes. -/
theorem Holds.exists_written {statement : Statement} {texts : List (List Char)}
    (holds : Holds statement texts) {name : String}
    (member : name ∈ statement.parties ++ statement.references) :
    name ∈ statement.ends ∨ ∃ text ∈ texts, name = String.ofList (Text.unquote text) := by
  cases holds with
  | declaration kind caption nickname captioned =>
      have nonempty : String.ofList (Text.unquote caption) ≠ "" := by simpa using captioned
      simp only [parties, declared, ends, references, if_neg nonempty, List.append_nil,
        List.mem_cons, List.not_mem_nil, or_false] at member
      right
      rcases member with rfl | rfl
      · exact ⟨caption, List.mem_cons_self, rfl⟩
      · split
        · exact ⟨caption, List.mem_cons_self, rfl⟩
        · exact ⟨nickname, by simp, rfl⟩
  | note note words location =>
      simp only [parties, declared, ends, references, location, List.nil_append,
        Option.mem_toList, Option.map_map, Option.map_eq_some_iff] at member
      obtain ⟨text, textEq, rfl⟩ := member
      exact Or.inr ⟨text, Option.mem_toList.mpr textEq, rfl⟩
  | lifetime kind target =>
      exact Or.inr ⟨target, List.mem_singleton_self _, List.mem_singleton.mp member⟩
  | signal signal => exact Or.inl (mem_names_signal.mp member)
  | nothing statement nameless =>
      rw [nameless] at member
      cases member

/-- What a line writes is a name of its statement when the quotes are gone, unless nothing is
left of it. -/
theorem Holds.mem_of_written {statement : Statement} {texts : List (List Char)}
    (holds : Holds statement texts) {text : List Char} (member : text ∈ texts)
    (nonempty : Text.unquote text ≠ []) :
    String.ofList (Text.unquote text) ∈ statement.parties ++ statement.references := by
  cases holds with
  | declaration kind caption nickname captioned =>
      have captionNonempty : String.ofList (Text.unquote caption) ≠ "" := by simpa using captioned
      have textNonempty : String.ofList (Text.unquote text) ≠ "" := by simpa using nonempty
      simp only [parties, declared, ends, references, if_neg captionNonempty, List.append_nil]
      rcases List.mem_pair.mp member with rfl | rfl
      · exact List.mem_cons_self
      · rw [if_neg textNonempty]
        exact List.mem_cons_of_mem _ (List.mem_singleton_self _)
  | note note words location =>
      rw [Option.mem_toList] at member
      simp only [parties, declared, ends, references, location, member, List.nil_append]
      exact List.mem_singleton_self _
  | lifetime kind target =>
      rw [List.mem_singleton.mp member]
      exact List.mem_singleton_self _
  | signal | nothing => cases member

/-- What is written behind the first word is made of characters of the rest, and of spaces
between words. -/
theorem mem_of_mem_namesBehind {word : String} {rest text : List Char}
    (member : text ∈ namesBehind word rest) {char : Char} (inside : char ∈ text) :
    char ∈ rest ∨ char = ' ' := by
  rw [namesBehind] at member
  split at member
  · left
    dsimp only at member
    split at member
    · cases member
    · refine Text.mem_of_mem_cut (List.cons_ne_nil ' ' ['a', 's', ' ']) ?_
      rcases List.mem_pair.mp member with rfl | rfl
      · exact Or.inl inside
      · exact Or.inr inside
  · split at member
    · rw [Option.mem_toList] at member
      rcases Note.mem_of_anchorText member inside with space | ⟨word, inPlace, inWord⟩
      · exact Or.inr space
      · exact Or.inl (Text.mem_of_mem_cut (List.cons_ne_nil ':' [])
          (Or.inl (Text.mem_of_mem_words inPlace inWord)))
    · split at member
      · rw [List.mem_singleton.mp member] at inside
        exact Or.inl inside
      · cases member

theorem signal_of_read {line : List Char} {result : Except Signal.Fault Signal}
    (readEq : read line = .signal result) : Signal.read line = result := by
  change ofWord line (String.ofList (Text.cut [' '] line).1) _ = _ at readEq
  unfold ofWord at readEq
  repeat' split at readEq
  all_goals simp_all [readDeclaration]

theorem exists_stated_of_mem_ends {line : List Char} {name : String}
    (member : name ∈ (read line).ends) :
    ∃ signal : Signal, signal.StatedBy line ∧
      (name = signal.source ∨ name = signal.destination) := by
  cases readEq : read line with
  | signal result =>
      rw [readEq] at member
      cases result with
      | error => cases member
      | ok signal =>
          have stated := Signal.read_eq_ok_iff.mp (signal_of_read readEq)
          exact ⟨signal, stated, List.mem_pair.mp member⟩
  | close | declaration | note | conditional | alternative | lifetime | synchrony | brace
  | numbering | comment =>
      rw [readEq] at member
      cases member

theorem trimmed_of_mem_ends {line : List Char} {name : String}
    (member : name ∈ (read line).ends) : Text.trim name.toList = name.toList := by
  obtain ⟨signal, stated, atEnd⟩ := exists_stated_of_mem_ends member
  exact (stated.of_end atEnd).2.1

theorem ne_empty_of_mem_parties {line : List Char} {name : String}
    (member : name ∈ (read line).parties) : name ≠ "" := by
  rcases List.mem_append.mp member with inDeclaration | atEnd
  · cases readEq : read line with
    | declaration kind caption nickname =>
        rw [readEq, declared] at inDeclaration
        split at inDeclaration
        case isTrue => cases inDeclaration
        case isFalse nonempty =>
          rcases List.mem_pair.mp inDeclaration with rfl | rfl
          · exact nonempty
          · split <;> assumption
    | close | signal | note | conditional | alternative | lifetime | synchrony | brace
    | numbering | comment =>
        rw [readEq] at inDeclaration
        cases inDeclaration
  · obtain ⟨signal, stated, atEnd⟩ := exists_stated_of_mem_ends atEnd
    exact (stated.of_end atEnd).1

/-- The names of a line hold no quotes, and no characters but those of the line and
spaces. -/
theorem of_mem_names {line : List Char} {name : String}
    (member : name ∈ (read line).parties ++ (read line).references) {char : Char}
    (inside : char ∈ name.toList) : char ≠ '"' ∧ (char ∈ line ∨ char = ' ') := by
  rcases (holds_writtenNames line).exists_written member with atEnd | ⟨text, inLine, rfl⟩
  · obtain ⟨signal, stated, atEnd⟩ := exists_stated_of_mem_ends atEnd
    obtain ⟨ofLine, notQuote⟩ := (stated.of_end atEnd).2.2 char inside
    exact ⟨notQuote, Or.inl ofLine⟩
  · rw [String.toList_ofList] at inside
    obtain ⟨inText, notQuote⟩ := Text.mem_of_mem_unquote inside
    refine ⟨notQuote, (mem_of_mem_namesBehind inLine inText).imp_left fun inRest => ?_⟩
    exact Text.mem_of_mem_cut (List.cons_ne_nil ' ' []) (Or.inr inRest)

/-- A name of a line is trimmed if the line hides no blank. -/
theorem trimmed_of_mem_names {line : List Char} {name : String}
    (member : name ∈ (read line).parties ++ (read line).references)
    (nothing : ∀ text ∈ writtenNames line, ¬ Text.HidesBlank text) :
    Text.trim name.toList = name.toList := by
  rcases (holds_writtenNames line).exists_written member with atEnd | ⟨text, inLine, rfl⟩
  · exact trimmed_of_mem_ends atEnd
  · rw [String.toList_ofList]
    exact Text.trim_unquote_eq_self_iff.mpr (nothing text inLine)

end Statement

namespace Script

theorem exists_line_of_mem_statedLines {collects : Bool} {lines : List (List Char)}
    {stated : List Char} (member : stated ∈ statedLines collects lines) :
    ∃ line ∈ lines, stated = Text.trim line := by
  induction lines generalizing collects with
  | nil => cases collects <;> cases member
  | cons line rest ih =>
      cases collects with
      | true =>
          obtain ⟨other, inside, statedEq⟩ := ih member
          exact ⟨other, List.mem_cons_of_mem _ inside, statedEq⟩
      | false =>
          rcases List.mem_cons.mp member with here | later
          · exact ⟨line, List.mem_cons_self, here⟩
          · obtain ⟨other, inside, statedEq⟩ := ih later
            exact ⟨other, List.mem_cons_of_mem _ inside, statedEq⟩

theorem newline_not_mem_stated {text : String} {line : List Char}
    (member : line ∈ stated text) : '\n' ∉ line := by
  obtain ⟨untrimmed, inText, rfl⟩ := exists_line_of_mem_statedLines member
  intro newline
  have outside := (Text.mem_of_mem_splitOnP inText (Text.mem_of_mem_trim newline)).2
  simp at outside

variable [Scalar α]

theorem mem_names_read {text : String} {name : String} :
    name ∈ (read text : Diagram α).parties ++ (read text : Diagram α).references ↔
      ∃ line ∈ stated text,
        name ∈ (Statement.read line).parties ++ (Statement.read line).references := by
  rw [parties_read, references_read, List.mem_append, Outline.gathers_parties.mem_ofText,
    Outline.gathers_references.mem_ofText, ← exists_or]
  simp only [List.mem_append, and_or_left]

/-- What every script keeps to: nothing that belongs to an actor is without a name, no name
holds quotes or newlines, and no name at an end of a signal has blanks at its own ends. -/
theorem names_read (text : String) :
    (∀ name ∈ (read text : Diagram α).parties, name ≠ "") ∧
      (∀ name ∈ (read text : Diagram α).parties ++ (read text : Diagram α).references,
        '"' ∉ name.toList ∧ '\n' ∉ name.toList) ∧
      ∀ name ∈ (read text : Diagram α).ends, Text.trim name.toList = name.toList := by
  refine ⟨?_, ?_, ?_⟩
  · intro name member
    rw [parties_read, Outline.gathers_parties.mem_ofText] at member
    obtain ⟨line, -, inLine⟩ := member
    exact Statement.ne_empty_of_mem_parties inLine
  · intro name member
    obtain ⟨line, inText, inLine⟩ := mem_names_read.mp member
    refine ⟨fun quote => (Statement.of_mem_names inLine quote).1 rfl, fun newline => ?_⟩
    rcases (Statement.of_mem_names inLine newline).2 with ofLine | space
    · exact newline_not_mem_stated inText ofLine
    · exact absurd space (by decide)
  · intro name member
    rw [ends_read, Outline.gathers_ends.mem_ofText] at member
    obtain ⟨line, -, inLine⟩ := member
    exact Statement.trimmed_of_mem_ends inLine

/-- The names of a script are in normal form exactly if no line hides a blank in what it
writes.  What may be wrong with a name is blanks at its ends, and that not at the ends of
signals. -/
theorem namesNormal_iff (text : String) :
    ((∀ name ∈ (read text : Diagram α).parties, name ≠ "") ∧
      (∀ name ∈ (read text : Diagram α).parties ++ (read text : Diagram α).references,
        '"' ∉ name.toList ∧ '\n' ∉ name.toList) ∧
      ∀ name ∈ (read text : Diagram α).ends, Text.trim name.toList = name.toList) ∧
    ((read text : Diagram α).NamesNormal ↔
      ∀ line ∈ stated text, ∀ written ∈ Statement.writtenNames line,
        ¬ Text.HidesBlank written) := by
  obtain ⟨named, unmarked, ends⟩ := names_read (α := α) text
  refine ⟨⟨named, unmarked, ends⟩, ?_, ?_⟩
  · intro normal line inText written inLine hides
    have untrimmed := mt Text.trim_unquote_eq_self_iff.mp (not_not.mpr hides)
    -- A name of nothing at all is not stored, but that one has no blank to hide either.
    have nonempty : Text.unquote written ≠ [] := by
      intro empty
      rw [empty] at untrimmed
      exact untrimmed rfl
    have stored := (Statement.holds_writtenNames line).mem_of_written inLine nonempty
    have trimmed := (normal.normal _ (mem_names_read.mpr ⟨line, inText, stored⟩)).trimmed
    rw [String.toList_ofList] at trimmed
    exact untrimmed trimmed
  · refine fun nothing => ⟨named, fun name member => ?_⟩
    obtain ⟨line, inText, inLine⟩ := mem_names_read.mp member
    exact ⟨(unmarked name member).1, (unmarked name member).2,
      Statement.trimmed_of_mem_names inLine (nothing line inText)⟩

/-- Quotes around names with blanks in the middle, hidden blanks at the end of a signal, and
hidden blanks in a line that belongs to an annotation. -/
def quotedNames : String :=
  "participant \"A B\" as \"A\"\nnote over \"A\"\nparticipant \" X \"\nend\n" ++
    "opt now\n\" A \"->+B: x\ndestroy \"B\"\nend"

theorem namesNormal_iff_quotedNames :
    (∀ line ∈ stated quotedNames, ∀ written ∈ Statement.writtenNames line,
      ¬ Text.HidesBlank written) ∧
      (read quotedNames : Diagram Rat).NamesNormal := by
  have nothing : ∀ line ∈ stated quotedNames, ∀ written ∈ Statement.writtenNames line,
      ¬ Text.HidesBlank written := by
    decide +kernel
  exact ⟨nothing, (namesNormal_iff quotedNames).2.mpr nothing⟩

/-- A participant that is declared between quotes and named by a signal between the same ones. -/
def quotedBlanks : String :=
  "participant \" A \"\n\" A \"->B: x"

theorem not_namesNormal_quotedBlanks :
    ¬ (read quotedBlanks : Diagram Rat).NamesNormal := by
  intro normal
  have stored : " A " ∈ (read quotedBlanks : Diagram Rat).parties := by decide
  have trimmed := (normal.normal " A " (List.mem_append_left _ stored)).trimmed
  exact absurd trimmed (by decide)

end Script

end Lifeline
