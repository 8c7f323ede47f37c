import Lifeline.Proofs.Text.Cut
import Lifeline.Script.Statement

/-!
# The first word of a line

The word before the first space decides what a line states, and nothing but
`end` closes a block annotation.  A line that begins with none of the keywords is
a comment or is meant to be a signal.
-/

namespace Lifeline.Statement

theorem read_eq_close_iff (line : List Char) :
    read line = .close ↔
      String.ofList (Text.cut [' '] line).1 = "end" := by
  change ofWord line (String.ofList (Text.cut [' '] line).1) _ = .close ↔ _
  unfold ofWord
  split
  next isEnd => simp [isEnd]
  next notEnd =>
    simp only [notEnd, iff_false]
    repeat' split
    all_goals simp [readDeclaration]

/-- The words that decide what a line states. -/
def keywords : List String :=
  ["end", "participant", "actor", "note", "ref", "state", "alt", "opt", "loop", "par",
    "seq", "else", "activate", "deactivate", "destroy", "parallel", "serial", "\x7d",
    "autonumber"]

/-- A keyword is a word of characters that are not blank, and it does not begin
like a signal or a comment. -/
theorem keywords_solid : ∀ word ∈ keywords,
    word ≠ "" ∧ (∀ char ∈ word.toList, Text.isBlank char = false) ∧
      ∀ char ∈ word.toList.head?, char ≠ '"' ∧ char ≠ '#' := by
  have checked : ∀ word ∈ keywords,
      word ≠ "" ∧ word.toList.all (fun char => !Text.isBlank char) = true ∧
        word.toList.head? ≠ some '"' ∧ word.toList.head? ≠ some '#' := by
    decide
  intro word keyword
  obtain ⟨nonempty, solid, notQuote, notHash⟩ := checked word keyword
  refine ⟨nonempty, by simpa using solid, ?_⟩
  rintro char head
  exact ⟨fun same => notQuote (same ▸ head), fun same => notHash (same ▸ head)⟩

theorem declared_name_mem_keywords {kind : ActorKind}
    (declared : kind ∈ ActorKind.declared) : kind.name ∈ keywords := by
  revert kind; decide

theorem note_name_mem_keywords (kind : NoteKind) : kind.name ∈ keywords := by
  cases kind <;> decide

theorem conditional_name_mem_keywords (kind : ConditionalKind) : kind.name ∈ keywords := by
  cases kind <;> decide

theorem synchrony_name_mem_keywords (kind : SynchronyKind) : kind.name ∈ keywords := by
  cases kind <;> decide

theorem lifetime_name_mem_keywords (kind : LifetimeKind) : kind.name ∈ keywords := by
  cases kind <;> decide

theorem else_mem_keywords : "else" ∈ keywords := by
  decide

theorem autonumber_mem_keywords : "autonumber" ∈ keywords := by
  decide

/-- Kinds that go by keywords are not found under another word. -/
theorem find?_eq_none_of_keywords {κ : Type} {name : κ → String} {all : List κ}
    (named : ∀ kind ∈ all, name kind ∈ keywords) {word : String}
    (notKeyword : word ∉ keywords) :
    all.find? (fun kind => name kind == word) = none := by
  rw [List.find?_eq_none]
  intro kind member same
  exact notKeyword (eq_of_beq same ▸ named kind member)

/-- A line whose first word is not a keyword is a comment or meant to be a
signal. -/
theorem ofWord_of_not_mem {word : String} (notKeyword : word ∉ keywords)
    (line rest : List Char) :
    ofWord line word rest =
      if line.head? = some '#' then .comment else .signal (Signal.read line) := by
  have notActor : ActorKind.ofName? word = none :=
    find?_eq_none_of_keywords (by decide) notKeyword
  have notNote : NoteKind.ofName? word = none :=
    find?_eq_none_of_keywords (by decide) notKeyword
  have notConditional : ConditionalKind.ofName? word = none :=
    find?_eq_none_of_keywords (by decide) notKeyword
  have notLifetime : LifetimeKind.ofName? word = none :=
    find?_eq_none_of_keywords (by decide) notKeyword
  have notSynchrony : SynchronyKind.ofName? word = none :=
    find?_eq_none_of_keywords (by decide) notKeyword
  have different (other : String) (member : other ∈ keywords) : word ≠ other :=
    fun same => notKeyword (same ▸ member)
  simp [ofWord, notActor, notNote, notConditional, notLifetime, notSynchrony,
    different "end" (by decide), different "else" (by decide),
    different "\x7d" (by decide), different "autonumber" (by decide)]

/-- A line that begins with no keyword because its first character begins none. -/
theorem read_of_head {char : Char} {text : List Char}
    (head : char = '"' ∨ char = '#') :
    read (char :: text) =
      if char = '#' then .comment else .signal (Signal.read (char :: text)) := by
  have notKeyword : String.ofList (Text.cut [' '] (char :: text)).1 ∉ keywords := by
    intro member
    have notSpace : char ≠ ' ' := by rcases head with rfl | rfl <;> decide
    have cutEq : ∃ word, (Text.cut [' '] (char :: text)).1 = char :: word := by
      rw [Text.cut, Text.cutAt?_cons (by simpa using notSpace.symm)]
      cases Text.cutAt? [' '] text with
      | none => exact ⟨text, rfl⟩
      | some halves => exact ⟨halves.1, rfl⟩
    obtain ⟨word, wordEq⟩ := cutEq
    rw [wordEq] at member
    have differs := (keywords_solid _ member).2.2 char (by simp)
    rcases head with rfl | rfl
    · exact differs.1 rfl
    · exact differs.2 rfl
  change ofWord _ (String.ofList (Text.cut [' '] (char :: text)).1) _ = _
  rw [ofWord_of_not_mem notKeyword]
  simp

theorem read_nil : read [] = .signal (.error .shape) :=
  rfl

end Lifeline.Statement
