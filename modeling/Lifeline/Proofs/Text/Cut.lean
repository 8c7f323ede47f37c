import Lifeline.Text.Pieces
import Mathlib.Algebra.Group.Nat.Even

/-!
# Where a text is cut

A text is cut at the first place where the mark occurs.  So a part in front in
which the mark does not occur is carried over whole, provided the mark cannot
begin in that part and end behind it; it cannot when the part ends with a
character that the mark does not have.

A cut outside double quotes passes over everything between a pair of quotes.  Quotes
need not come in pairs, though: whether a character is inside them is told by how many
stand before it.
-/

namespace Lifeline.Text

variable {mark body text : List Char}

/-- Put a text before the first half of a cut. -/
def inFront (body : List Char) (halves : List Char × List Char) :
    List Char × List Char :=
  (body ++ halves.1, halves.2)

/-- A mark that begins before a character it does not have also ends before. -/
theorem isPrefix_of_isPrefix_append_cons {stop : Char} (absent : stop ∉ mark)
    (occurs : mark <+: body ++ stop :: text) : mark <+: body := by
  induction mark generalizing body with
  | nil => exact List.nil_prefix
  | cons char rest ih =>
      cases body with
      | nil =>
          have charEq := (List.cons_prefix_cons.mp occurs).1
          exact absurd (charEq ▸ List.mem_cons_self) absent
      | cons first others =>
          obtain ⟨rfl, restOccurs⟩ := List.cons_prefix_cons.mp occurs
          exact List.cons_prefix_cons.mpr
            ⟨rfl, ih (fun member => absent (List.mem_cons_of_mem _ member)) restOccurs⟩

theorem cutAt?_cons {char : Char} (notHere : ¬ mark <+: char :: text) :
    cutAt? mark (char :: text) = (cutAt? mark text).map (inFront [char]) := by
  rw [cutAt?, if_neg (by simpa using notHere)]
  rfl

/-- The cut passes over a part without the mark that ends with a character which
the mark does not have. -/
theorem cutAt?_skip {stop : Char} (absent : stop ∉ mark)
    (apart : ¬ mark <:+: body) :
    cutAt? mark (body ++ stop :: text) =
      (cutAt? mark text).map (inFront (body ++ [stop])) := by
  induction body with
  | nil =>
      have notHere : ¬ mark <+: [] ++ stop :: text := fun occurs =>
        apart (isPrefix_of_isPrefix_append_cons absent occurs).isInfix
      exact cutAt?_cons notHere
  | cons char rest ih =>
      have notHere : ¬ mark <+: (char :: rest) ++ stop :: text := fun occurs =>
        apart (isPrefix_of_isPrefix_append_cons absent occurs).isInfix
      have restApart : ¬ mark <:+: rest := fun occurs =>
        apart (List.infix_cons occurs)
      rw [List.cons_append] at notHere ⊢
      rw [cutAt?_cons notHere, ih restApart, Option.map_map]
      rfl

theorem cutAt?_mark (nonempty : mark ≠ []) :
    cutAt? mark (mark ++ text) = some ([], text) := by
  cases mark with
  | nil => exact absurd rfl nonempty
  | cons char rest =>
      have here : (char :: rest).isPrefixOf (char :: (rest ++ text)) = true :=
        List.isPrefixOf_iff_prefix.mpr (List.prefix_append (char :: rest) text)
      rw [List.cons_append, cutAt?, if_pos here]
      simp

theorem cutAt?_eq_none (apart : ¬ mark <:+: text) : cutAt? mark text = none := by
  induction text with
  | nil =>
      cases mark with
      | nil => exact absurd List.nil_infix apart
      | cons char rest => rfl
  | cons char rest ih =>
      have restApart : ¬ mark <:+: rest := fun occurs => apart (List.infix_cons occurs)
      rw [cutAt?_cons (fun occurs => apart occurs.isInfix), ih restApart,
        Option.map_none]

/-- What a cut finds is an occurrence of the mark, and there is none before it. -/
theorem cutAt?_sound (nonempty : mark ≠ []) {before after : List Char}
    (found : cutAt? mark text = some (before, after)) :
    text = before ++ (mark ++ after) ∧ ¬ mark <:+: before := by
  induction text generalizing before with
  | nil => simp [cutAt?, nonempty] at found
  | cons char rest ih =>
      by_cases here : mark <+: char :: rest
      · rw [cutAt?, if_pos (by simpa using here), Option.some_inj, Prod.mk.injEq] at found
        obtain ⟨rfl, rfl⟩ := found
        exact ⟨List.prefix_iff_eq_append.mp here |>.symm, by simpa using nonempty⟩
      · rw [cutAt?_cons here, Option.map_eq_some_iff] at found
        obtain ⟨⟨front, back⟩, foundLater, halves⟩ := found
        obtain ⟨rfl, rfl⟩ := Prod.mk.inj halves
        obtain ⟨rfl, apart⟩ := ih foundLater
        refine ⟨rfl, fun occurs => ?_⟩
        rcases List.infix_cons_iff.mp occurs with atFront | later
        · exact here (atFront.trans (List.prefix_append (char :: front) (mark ++ back)))
        · exact apart later

/-- The halves of a cut hold nothing that the text does not. -/
theorem mem_of_mem_cut (nonempty : mark ≠ []) {char : Char}
    (member : char ∈ (cut mark text).1 ∨ char ∈ (cut mark text).2) : char ∈ text := by
  rw [cut] at member
  cases found : cutAt? mark text with
  | none => simpa [found] using member
  | some halves =>
      obtain ⟨textEq, -⟩ := cutAt?_sound nonempty found
      rw [found, Option.getD_some] at member
      rw [textEq, List.mem_append, List.mem_append]
      exact member.imp_right Or.inr

theorem cut_singleton {char : Char} (absent : char ∉ body) :
    cut [char] (body ++ char :: text) = (body, text) := by
  have here : cutAt? [char] (body ++ char :: text) = some (body, text) := by
    induction body with
    | nil => exact cutAt?_mark (List.cons_ne_nil char [])
    | cons first rest ih =>
        have notFirst : ¬ [char] <+: first :: (rest ++ char :: text) := fun occurs =>
          absent ((List.cons_prefix_cons.mp occurs).1 ▸ List.mem_cons_self)
        have restAbsent : char ∉ rest := fun member =>
          absent (List.mem_cons_of_mem _ member)
        rw [List.cons_append, cutAt?_cons notFirst, ih restAbsent]
        rfl
  rw [cut, here, Option.getD_some]

theorem cut_singleton_of_absent {char : Char} (absent : char ∉ text) :
    cut [char] text = (text, []) := by
  rw [cut, cutAt?_eq_none, Option.getD_none]
  exact fun occurs => absent (occurs.subset List.mem_cons_self)

theorem cutUnquoted?_closing {char : Char} (unmarked : '"' ∉ body) :
    cutUnquoted? char true (body ++ '"' :: text) =
      (cutUnquoted? char false text).map (inFront (body ++ ['"'])) := by
  induction body with
  | nil => rfl
  | cons first rest ih =>
      have notQuote : first ≠ '"' := fun same => unmarked (same ▸ List.mem_cons_self)
      have restUnmarked : '"' ∉ rest := fun member =>
        unmarked (List.mem_cons_of_mem _ member)
      rw [List.cons_append, cutUnquoted?, if_neg notQuote, if_neg (by simp),
        ih restUnmarked, Option.map_map]
      rfl

theorem cutUnquoted?_quotes {char : Char} (unmarked : '"' ∉ body) :
    cutUnquoted? char false ('"' :: body ++ '"' :: text) =
      (cutUnquoted? char false text).map (inFront ('"' :: body ++ ['"'])) := by
  rw [List.cons_append, cutUnquoted?, if_pos rfl, Bool.not_false,
    cutUnquoted?_closing unmarked, Option.map_map]
  rfl

/-- Outside quotes the cut passes over a part without quotes and without the
character. -/
theorem cutUnquoted?_skip {char : Char} (unmarked : '"' ∉ body) (absent : char ∉ body) :
    cutUnquoted? char false (body ++ text) =
      (cutUnquoted? char false text).map (inFront body) := by
  induction body with
  | nil => exact Option.map_id'.symm
  | cons first rest ih =>
      have notQuote : first ≠ '"' := fun same => unmarked (same ▸ List.mem_cons_self)
      have notChar : first ≠ char := fun same => absent (same ▸ List.mem_cons_self)
      rw [List.cons_append, cutUnquoted?, if_neg notQuote, if_neg (by simp [notChar]),
        ih (fun member => unmarked (List.mem_cons_of_mem _ member))
          (fun member => absent (List.mem_cons_of_mem _ member)), Option.map_map]
      rfl

/-- Whether a text goes up to a mark outside double quotes, with so many quotes in front of
it: before its end there are evenly many, and before no mark in it. -/
structure UpToUnquoted (mark : Char) (quotes : Nat) (text : List Char) : Prop where
  outside : Even (quotes + text.count '"')
  inside : ∀ front back, text = front ++ mark :: back → ¬ Even (quotes + front.count '"')

theorem upToUnquoted_cons {mark char : Char} {quotes : Nat} :
    UpToUnquoted mark quotes (char :: text) ↔
      (char = mark → ¬ Even quotes) ∧ UpToUnquoted mark (quotes + [char].count '"') text := by
  have counted (front : List Char) : quotes + (char :: front).count '"' =
      quotes + [char].count '"' + front.count '"' := by
    rw [← List.singleton_append, List.count_append, Nat.add_assoc]
  constructor
  · rintro ⟨outside, inside⟩
    refine ⟨?_, by rwa [← counted], fun front back textEq => ?_⟩
    · rintro rfl
      exact inside [] text rfl
    · rw [← counted]
      exact inside (char :: front) back (by rw [textEq, List.cons_append])
  · rintro ⟨first, outside, inside⟩
    refine ⟨by rwa [counted], fun front back textEq => ?_⟩
    cases front with
    | nil => exact first (List.cons.inj textEq).1
    | cons other front =>
        obtain ⟨rfl, restEq⟩ := List.cons.inj textEq
        rw [counted]
        exact inside front back restEq

/-- A character in front of a text opens or closes quotes if it is one. -/
theorem cutUnquoted?_cons {mark char : Char} {quotes : Nat}
    (passed : char = mark → ¬ Even quotes) :
    cutUnquoted? mark (decide (¬ Even quotes)) (char :: text) =
      (cutUnquoted? mark (decide (¬ Even (quotes + [char].count '"'))) text).map
        (inFront [char]) := by
  by_cases quote : char = '"'
  · subst quote
    have flips : (!decide (¬ Even quotes)) = decide (¬ Even (quotes + 1)) := by
      rw [← decide_not]
      exact decide_eq_decide.mpr (not_congr Nat.even_add_one.symm)
    rw [cutUnquoted?, if_pos rfl, List.count_singleton_self, flips]
    rfl
  · have counted : [char].count '"' = 0 := List.count_eq_zero.mpr (by simpa using Ne.symm quote)
    rw [cutUnquoted?, if_neg quote, if_neg (by simpa using passed), counted, Nat.add_zero]
    rfl

theorem cutUnquoted?_complete {mark : Char} (notQuote : mark ≠ '"') {quotes : Nat}
    (upTo : UpToUnquoted mark quotes body) :
    cutUnquoted? mark (decide (¬ Even quotes)) (body ++ mark :: text) = some (body, text) := by
  induction body generalizing quotes with
  | nil =>
      have outside : Even quotes := upTo.outside
      rw [List.nil_append, cutUnquoted?, if_neg notQuote, if_pos (by simpa using outside)]
  | cons char rest ih =>
      obtain ⟨passed, restUpTo⟩ := upToUnquoted_cons.mp upTo
      rw [List.cons_append, cutUnquoted?_cons passed, ih restUpTo]
      rfl

theorem cutUnquoted?_sound {mark : Char} (notQuote : mark ≠ '"') (quotes : Nat)
    {before after : List Char}
    (found : cutUnquoted? mark (decide (¬ Even quotes)) text = some (before, after)) :
    text = before ++ mark :: after ∧ UpToUnquoted mark quotes before := by
  induction text generalizing quotes before with
  | nil => cases found
  | cons char rest ih =>
      by_cases here : char = mark ∧ Even quotes
      · obtain ⟨rfl, outside⟩ := here
        rw [cutUnquoted?, if_neg notQuote, if_pos (by simpa using outside), Option.some_inj,
          Prod.mk.injEq] at found
        obtain ⟨rfl, rfl⟩ := found
        exact ⟨rfl, outside, by simp⟩
      · have passed : char = mark → ¬ Even quotes := fun same outside => here ⟨same, outside⟩
        rw [cutUnquoted?_cons passed, Option.map_eq_some_iff] at found
        obtain ⟨⟨front, back⟩, foundLater, halves⟩ := found
        obtain ⟨rfl, rfl⟩ := Prod.mk.inj halves
        obtain ⟨rfl, upTo⟩ := ih _ foundLater
        exact ⟨rfl, upToUnquoted_cons.mpr ⟨passed, upTo⟩⟩

end Lifeline.Text
