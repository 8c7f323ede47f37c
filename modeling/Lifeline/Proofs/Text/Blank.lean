import Lifeline.Text.Pieces
import Mathlib.Data.List.DropRight

/-!
# Trimming, unquoting and words

Trimming forgets blanks that are put around a text and leaves alone what begins
and ends with something else.  A name between double quotes is unquoted to
itself, and the words of a text are found by splitting it at its first blank.

Unquoting trims before it takes the quotes away, so blanks that stand between quotes and
the rest of a name stay.  A name between quotes of its own is then stored with blanks at its
ends.
-/

namespace Lifeline.Text

variable {text before after : List Char}

@[simp]
theorem isBlank_space : isBlank ' ' = true :=
  rfl

@[simp]
theorem isBlank_quote : isBlank '"' = false :=
  rfl

theorem trimStart_append_of_blank (blank : ∀ char ∈ before, isBlank char = true) :
    trimStart (before ++ text) = trimStart text :=
  List.dropWhile_append_of_pos blank

theorem trimEnd_append_of_blank (blank : ∀ char ∈ after, isBlank char = true) :
    trimEnd (text ++ after) = trimEnd text := by
  rw [trimEnd, List.reverse_append,
    List.dropWhile_append_of_pos (by simpa using blank), trimEnd]

theorem trim_eq_trimEnd (first : ∀ char ∈ text.head?, isBlank char = false) :
    trim text = trimEnd text := by
  cases text with
  | nil => rfl
  | cons char rest =>
      rw [trim, trimStart, List.dropWhile_cons_of_neg (by simpa using first)]

theorem trimEnd_eq_self (last : ∀ char ∈ text.getLast?, isBlank char = false) :
    trimEnd text = text := by
  rw [trimEnd]
  cases reversed : text.reverse with
  | nil => simpa using reversed.symm
  | cons char rest =>
      have lastEq : text.getLast? = some char := by
        rw [List.getLast?_eq_head?_reverse, reversed, List.head?_cons]
      rw [List.dropWhile_cons_of_neg (by simpa using last char lastEq), ← reversed,
        List.reverse_reverse]

/-- The end of a text is trimmed inside its last part, unless that part is
blank. -/
theorem trimEnd_append :
    trimEnd (before ++ after) =
      if trimEnd after = [] then trimEnd before else before ++ trimEnd after := by
  simp only [trimEnd, List.reverse_append, List.dropWhile_append, List.isEmpty_iff,
    List.reverse_eq_nil_iff]
  split <;> simp

theorem trimEnd_append_of_trimmed (trimmed : trimEnd after = after)
    (nonempty : after ≠ []) : trimEnd (before ++ after) = before ++ after := by
  rw [trimEnd_append, trimmed, if_neg nonempty]

/-- A text that trimming leaves alone has nothing to trim at its end. -/
theorem trimEnd_of_trim (trimmed : trim text = text) : trimEnd text = text := by
  have idempotent : trimEnd (trimEnd (trimStart text)) = trimEnd (trimStart text) := by
    simp only [trimEnd, List.reverse_reverse, List.dropWhile_idempotent]
  rw [trim] at trimmed
  rwa [trimmed] at idempotent

theorem trim_pad (blankBefore : ∀ char ∈ before, isBlank char = true)
    (blankAfter : ∀ char ∈ after, isBlank char = true) :
    trim (before ++ text ++ after) = trim text := by
  rw [trim, List.append_assoc, trimStart_append_of_blank blankBefore, trim]
  have nothing : trimStart after = [] := List.dropWhile_eq_nil_iff.mpr blankAfter
  by_cases allBlank : trimStart text = []
  · have blankText : ∀ char ∈ text, isBlank char = true :=
      List.dropWhile_eq_nil_iff.mp allBlank
    rw [trimStart_append_of_blank blankText, nothing, allBlank]
  · have kept : trimStart (text ++ after) = trimStart text ++ after := by
      rw [trimStart, List.dropWhile_append]
      exact if_neg (mt List.isEmpty_iff.mp allBlank)
    rw [kept, trimEnd_append_of_blank blankAfter]

theorem trim_space (text : List Char) : trim (' ' :: text) = trim text :=
  rfl

@[simp]
theorem unquote_nil : unquote [] = [] :=
  rfl

theorem unquote_eq_filter (first : ∀ char ∈ text.head?, isBlank char = false)
    (last : ∀ char ∈ text.getLast?, isBlank char = false) :
    unquote text = text.filter (· ≠ '"') := by
  rw [unquote, trim_eq_trimEnd first, trimEnd_eq_self last]

theorem unquote_eq_self (trimmed : trim text = text) (unmarked : '"' ∉ text) :
    unquote text = text := by
  rw [unquote, trimmed, List.filter_eq_self]
  intro char member
  simpa using ne_of_mem_of_not_mem member unmarked

theorem words_cons {word : List Char} (nonempty : word ≠ [])
    (solid : ∀ char ∈ word, isBlank char = false) {blank : Char}
    (isBlank : isBlank blank = true) :
    words (word ++ blank :: text) = word :: words text := by
  rw [words, List.splitOnP_append_cons_of_forall_mem solid blank isBlank,
    List.filter_cons_of_pos (by simpa using nonempty), words]

theorem trimStart_eq_self_iff :
    trimStart text = text ↔ ∀ char ∈ text.head?, isBlank char = false := by
  cases text with
  | nil => simp [trimStart]
  | cons char rest =>
      rw [trimStart, List.dropWhile_eq_self_iff]
      simp

theorem trimEnd_eq_self_iff :
    trimEnd text = text ↔ ∀ char ∈ text.getLast?, isBlank char = false := by
  rw [trimEnd, ← List.reverse_inj, List.reverse_reverse, List.getLast?_eq_head?_reverse]
  exact trimStart_eq_self_iff

theorem trimEnd_isPrefix (text : List Char) : trimEnd text <+: text :=
  List.reverse_suffix.mp (by
    rw [trimEnd, List.reverse_reverse]
    exact List.dropWhile_suffix isBlank)

theorem trim_eq_self_iff :
    trim text = text ↔ (∀ char ∈ text.head?, isBlank char = false) ∧
      ∀ char ∈ text.getLast?, isBlank char = false := by
  constructor
  · intro trimmed
    -- Trimming the end makes no text longer, so nothing was trimmed at the start.
    have long : text.length ≤ (trimStart text).length :=
      (congrArg List.length trimmed).symm.le.trans (trimEnd_isPrefix (trimStart text)).length_le
    have start : trimStart text = text :=
      (List.dropWhile_suffix isBlank).eq_of_length_le long
    exact ⟨trimStart_eq_self_iff.mp start, trimEnd_eq_self_iff.mp (trimEnd_of_trim trimmed)⟩
  · rintro ⟨first, last⟩
    rw [trim_eq_trimEnd first, trimEnd_eq_self last]

@[simp]
theorem trim_trim (text : List Char) : trim (trim text) = trim text := by
  rw [trim_eq_self_iff]
  constructor
  · intro char head
    have start : trimStart (trimStart text) = trimStart text := List.dropWhile_idempotent ..
    obtain ⟨after, startEq⟩ := trimEnd_isPrefix (trimStart text)
    refine trimStart_eq_self_iff.mp start char ?_
    rw [Option.mem_def, trim] at head
    rw [← startEq, List.head?_append, head]
    rfl
  · refine trimEnd_eq_self_iff.mp ?_
    simp only [trim, trimEnd, List.reverse_reverse, List.dropWhile_idempotent]

/-- Whether quotes keep a blank from being trimmed: nothing but quotes stands before it or
nothing but quotes stands behind it. -/
def HidesBlank (text : List Char) : Prop :=
  ∃ quotes blank rest, (∀ char ∈ quotes, char = '"') ∧ isBlank blank = true ∧
    (trim text = quotes ++ blank :: rest ∨ trim text = rest ++ blank :: quotes)

/-- The first character of a text without its quotes is the first after some quotes. -/
theorem head?_filter_quotes {char : Char} :
    (text.filter (· ≠ '"')).head? = some char ↔
      char ≠ '"' ∧
        ∃ quotes rest, text = quotes ++ char :: rest ∧ ∀ char ∈ quotes, char = '"' := by
  rw [List.head?_filter, List.find?_eq_some_iff_append]
  simp

theorem getLast?_filter_quotes {char : Char} :
    (text.filter (· ≠ '"')).getLast? = some char ↔
      char ≠ '"' ∧
        ∃ quotes rest, text = rest ++ char :: quotes ∧ ∀ char ∈ quotes, char = '"' := by
  rw [List.getLast?_eq_head?_reverse, ← List.filter_reverse, head?_filter_quotes]
  refine and_congr_right fun _ => ⟨?_, ?_⟩
  · rintro ⟨quotes, rest, textEq, allQuotes⟩
    refine ⟨quotes.reverse, rest.reverse, ?_, by simpa using allQuotes⟩
    rw [← List.reverse_reverse text, textEq]
    simp
  · rintro ⟨quotes, rest, rfl, allQuotes⟩
    exact ⟨quotes.reverse, rest.reverse, by simp, by simpa using allQuotes⟩

/-- A name is stored without blanks at its ends exactly if quotes hide none in what was
written. -/
theorem trim_unquote_eq_self_iff : trim (unquote text) = unquote text ↔ ¬ HidesBlank text := by
  have notQuote {char : Char} (blank : isBlank char = true) : char ≠ '"' := by
    rintro rfl
    cases blank
  rw [trim_eq_self_iff, unquote, HidesBlank]
  constructor
  · rintro ⟨first, last⟩ ⟨quotes, blank, rest, allQuotes, isBlank, atStart | atEnd⟩
    · have begins := head?_filter_quotes.mpr ⟨notQuote isBlank, quotes, rest, atStart, allQuotes⟩
      rw [first blank begins] at isBlank
      cases isBlank
    · have ends := getLast?_filter_quotes.mpr ⟨notQuote isBlank, quotes, rest, atEnd, allQuotes⟩
      rw [last blank ends] at isBlank
      cases isBlank
  · intro nothing
    constructor
    · intro char head
      obtain ⟨-, quotes, rest, textEq, allQuotes⟩ := head?_filter_quotes.mp head
      exact Bool.eq_false_iff.mpr fun blank =>
        nothing ⟨quotes, char, rest, allQuotes, blank, Or.inl textEq⟩
    · intro char final
      obtain ⟨-, quotes, rest, textEq, allQuotes⟩ := getLast?_filter_quotes.mp final
      exact Bool.eq_false_iff.mpr fun blank =>
        nothing ⟨quotes, char, rest, allQuotes, blank, Or.inr textEq⟩

instance (text : List Char) : Decidable (HidesBlank text) :=
  decidable_of_iff (trim (unquote text) ≠ unquote text)
    (not_iff_comm.mp trim_unquote_eq_self_iff.symm)

theorem mem_of_mem_trim {char : Char} (member : char ∈ trim text) : char ∈ text :=
  (List.dropWhile_sublist isBlank).subset ((trimEnd_isPrefix (trimStart text)).subset member)

theorem mem_of_mem_unquote {char : Char} (member : char ∈ unquote text) :
    char ∈ text ∧ char ≠ '"' := by
  rw [unquote, List.mem_filter] at member
  exact ⟨mem_of_mem_trim member.1, by simpa using member.2⟩

theorem mem_of_mem_splitOnP {separates : Char → Bool} {piece : List Char}
    (member : piece ∈ text.splitOnP separates) {char : Char} (inside : char ∈ piece) :
    char ∈ text ∧ separates char = false := by
  induction text generalizing piece with
  | nil =>
      rw [List.splitOnP_nil, List.mem_singleton] at member
      simp [member] at inside
  | cons first rest ih =>
      rw [List.splitOnP_cons_eq_if_modifyHead] at member
      obtain ⟨front, others, piecesEq⟩ :=
        List.exists_cons_of_ne_nil (List.splitOnP_ne_nil separates rest)
      have fromRest {piece : List Char} (member : piece ∈ front :: others)
          (inside : char ∈ piece) : char ∈ first :: rest ∧ separates char = false :=
        (ih (piecesEq ▸ member) inside).imp_left (List.mem_cons_of_mem _)
      rw [piecesEq] at member
      split at member
      case isTrue =>
        rcases List.mem_cons.mp member with rfl | later
        · cases inside
        · exact fromRest later inside
      case isFalse notHere =>
        rcases List.mem_cons.mp member with rfl | later
        · rcases List.mem_cons.mp inside with rfl | inFront
          · exact ⟨List.mem_cons_self, Bool.eq_false_iff.mpr notHere⟩
          · exact fromRest List.mem_cons_self inFront
        · exact fromRest (List.mem_cons_of_mem _ later) inside

theorem mem_of_mem_words {word : List Char} (member : word ∈ words text) {char : Char}
    (inside : char ∈ word) : char ∈ text :=
  (mem_of_mem_splitOnP (List.mem_of_mem_filter member) inside).1

theorem mem_of_mem_intercalate {separator : List Char} {words : List (List Char)} {char : Char}
    (member : char ∈ separator.intercalate words) :
    char ∈ separator ∨ ∃ word ∈ words, char ∈ word := by
  induction words with
  | nil => cases member
  | cons word others ih =>
      cases others with
      | nil =>
          rw [List.intercalate_singleton] at member
          exact Or.inr ⟨word, List.mem_cons_self, member⟩
      | cons next others =>
          rw [List.intercalate_cons_cons, List.mem_append, List.mem_append] at member
          rcases member with (inWord | between) | behind
          · exact Or.inr ⟨word, List.mem_cons_self, inWord⟩
          · exact Or.inl between
          · exact (ih behind).imp_right fun ⟨other, inside, inOther⟩ =>
              ⟨other, List.mem_cons_of_mem _ inside, inOther⟩

end Lifeline.Text
