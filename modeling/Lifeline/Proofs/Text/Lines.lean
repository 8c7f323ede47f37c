import Lifeline.Text.Pieces

/-!
# The lines of a caption and the breaks between them

A caption is its lines with the breaks between them: every break is a newline or the
written escape of one, and no line holds either.  There is only one way to take a caption
apart like that.  A break cannot begin at the end of a line and run into the next one, for
no break begins with the letter `n`, so it does not matter that breaks are looked for from
left to right.
-/

namespace Lifeline.Text

/-- What ends a line of a caption. -/
inductive LineBreak where
  | newline
  | escape

def LineBreak.chars : LineBreak → List Char
  | newline => ['\n']
  | escape => ['\\', 'n']

/-- The breaks of a caption as they are met from left to right. -/
def captionBreaks : List Char → List LineBreak
  | [] => []
  | '\n' :: rest => .newline :: captionBreaks rest
  | '\\' :: 'n' :: rest => .escape :: captionBreaks rest
  | _ :: rest => captionBreaks rest

/-- Whether a text holds no break. -/
def Unbroken (text : List Char) : Prop :=
  '\n' ∉ text ∧ ¬ ['\\', 'n'] <:+: text

/-- Pieces with breaks between them. -/
def weave : List (List Char) → List LineBreak → List Char
  | [], _ => []
  | piece :: _, [] => piece
  | piece :: pieces, lineBreak :: breaks => piece ++ lineBreak.chars ++ weave pieces breaks

/-- Whether a text is taken apart into pieces and the breaks between them. -/
structure Woven (text : List Char) (pieces : List (List Char)) (breaks : List LineBreak) :
    Prop where
  unbroken : ∀ piece ∈ pieces, Unbroken piece
  length_eq : pieces.length = breaks.length + 1
  weave_eq : weave pieces breaks = text

/-- Whether a text begins with a break. -/
def BeginsBroken (text : List Char) : Prop :=
  ∃ lineBreak : LineBreak, lineBreak.chars <+: text

variable {char : Char} {text rest piece : List Char}

theorem beginsBroken_cons_iff :
    BeginsBroken (char :: rest) ↔ char = '\n' ∨ char = '\\' ∧ rest.head? = some 'n' := by
  constructor
  · rintro ⟨lineBreak, begins⟩
    cases lineBreak with
    | newline => exact Or.inl (List.cons_prefix_cons.mp begins).1.symm
    | escape =>
        obtain ⟨charEq, inRest⟩ := List.cons_prefix_cons.mp begins
        obtain ⟨after, rfl⟩ := inRest
        exact Or.inr ⟨charEq.symm, rfl⟩
  · rintro (rfl | ⟨rfl, headEq⟩)
    · exact ⟨.newline, List.prefix_append _ rest⟩
    · obtain ⟨after, rfl⟩ := List.head?_eq_some_iff.mp headEq
      exact ⟨.escape, List.prefix_append _ after⟩

/-- A caption is read from left to right: it is over, or begins with a break, or else its
first character is part of a line. -/
theorem caption_induction {motive : List Char → Prop} (nil : motive [])
    (lineBreak : ∀ (lineBreak : LineBreak) (rest : List Char), motive rest →
      motive (lineBreak.chars ++ rest))
    (letter : ∀ (char : Char) (rest : List Char), ¬ BeginsBroken (char :: rest) →
      motive rest → motive (char :: rest))
    (text : List Char) : motive text := by
  fun_induction captionLines text with
  | case1 => exact nil
  | case2 rest ih => exact lineBreak .newline rest ih
  | case3 rest ih => exact lineBreak .escape rest ih
  | case4 char rest noNewline noEscape ih =>
      refine letter char rest (fun begins => ?_) ih
      rcases beginsBroken_cons_iff.mp begins with charEq | ⟨charEq, headEq⟩
      · exact noNewline charEq
      · obtain ⟨after, restEq⟩ := List.head?_eq_some_iff.mp headEq
        exact noEscape after charEq restEq

theorem captionLines_break (lineBreak : LineBreak) (rest : List Char) :
    captionLines (lineBreak.chars ++ rest) = [] :: captionLines rest := by
  cases lineBreak <;> rfl

theorem captionBreaks_break (lineBreak : LineBreak) (rest : List Char) :
    captionBreaks (lineBreak.chars ++ rest) = lineBreak :: captionBreaks rest := by
  cases lineBreak <;> rfl

theorem captionLines_cons (goesOn : ¬ BeginsBroken (char :: rest)) :
    captionLines (char :: rest) = extendFirst char (captionLines rest) := by
  rw [beginsBroken_cons_iff, not_or] at goesOn
  rw [captionLines]
  · exact goesOn.1
  · rintro after rfl rfl
    exact goesOn.2 ⟨rfl, rfl⟩

theorem captionBreaks_cons (goesOn : ¬ BeginsBroken (char :: rest)) :
    captionBreaks (char :: rest) = captionBreaks rest := by
  rw [beginsBroken_cons_iff, not_or] at goesOn
  rw [captionBreaks]
  · exact goesOn.1
  · rintro after rfl rfl
    exact goesOn.2 ⟨rfl, rfl⟩

theorem unbroken_nil : Unbroken [] :=
  ⟨List.not_mem_nil, fun within => by simp at within⟩

theorem unbroken_cons (unbroken : Unbroken piece) (goesOn : ¬ BeginsBroken (char :: piece)) :
    Unbroken (char :: piece) := by
  constructor
  · intro member
    rcases List.mem_cons.mp member with rfl | inPiece
    · exact goesOn (beginsBroken_cons_iff.mpr (Or.inl rfl))
    · exact unbroken.1 inPiece
  · intro within
    rcases List.infix_cons_iff.mp within with begins | inPiece
    · exact goesOn ⟨.escape, begins⟩
    · exact unbroken.2 inPiece

theorem BeginsBroken.of_prefix (begins : BeginsBroken piece) (within : piece <+: text) :
    BeginsBroken text := by
  obtain ⟨lineBreak, begins⟩ := begins
  exact ⟨lineBreak, begins.trans within⟩

theorem weave_append (before piece : List Char) (pieces : List (List Char))
    (breaks : List LineBreak) :
    weave ((before ++ piece) :: pieces) breaks = before ++ weave (piece :: pieces) breaks := by
  cases breaks with
  | nil => rfl
  | cons lineBreak breaks => simp only [weave, List.append_assoc]

theorem prefix_weave (piece : List Char) (pieces : List (List Char)) (breaks : List LineBreak) :
    piece <+: weave (piece :: pieces) breaks := by
  have woven := weave_append piece [] pieces breaks
  rw [List.append_nil] at woven
  exact ⟨weave ([] :: pieces) breaks, woven.symm⟩

theorem woven_captionLines (text : List Char) :
    Woven text (captionLines text) (captionBreaks text) := by
  induction text using caption_induction with
  | nil =>
      refine ⟨fun piece member => ?_, rfl, rfl⟩
      rw [List.mem_singleton.mp member]
      exact unbroken_nil
  | lineBreak lineBreak rest ih =>
      rw [captionLines_break, captionBreaks_break]
      refine ⟨fun piece member => ?_, ?_, ?_⟩
      · rcases List.mem_cons.mp member with rfl | inRest
        · exact unbroken_nil
        · exact ih.unbroken piece inRest
      · rw [List.length_cons, List.length_cons, ih.length_eq]
      · rw [weave, ih.weave_eq, List.nil_append]
  | letter char rest goesOn ih =>
      rw [captionLines_cons goesOn, captionBreaks_cons goesOn]
      cases linesEq : captionLines rest with
      | nil =>
          have lengthEq := ih.length_eq
          rw [linesEq, List.length_nil] at lengthEq
          omega
      | cons first others =>
          rw [linesEq] at ih
          have firstBegins : first <+: rest := by
            rw [← ih.weave_eq]
            exact prefix_weave first others _
          refine ⟨fun piece member => ?_, ih.length_eq, ?_⟩
          · rcases List.mem_cons.mp member with rfl | inOthers
            · exact unbroken_cons (ih.unbroken first List.mem_cons_self) fun begins =>
                goesOn (begins.of_prefix (List.cons_prefix_cons.mpr ⟨rfl, firstBegins⟩))
            · exact ih.unbroken piece (List.mem_cons_of_mem _ inOthers)
          · exact (weave_append [char] first others _).trans
              (congrArg (char :: ·) ih.weave_eq)

theorem length_captionLines_pos (caption : List Char) : 0 < (captionLines caption).length := by
  rw [(woven_captionLines caption).length_eq]
  exact Nat.succ_pos _

theorem mem_weave {pieces : List (List Char)} {breaks : List LineBreak}
    (lengthEq : pieces.length = breaks.length + 1) (member : piece ∈ pieces)
    (inPiece : char ∈ piece) : char ∈ weave pieces breaks := by
  induction pieces generalizing breaks with
  | nil => cases member
  | cons first others ih =>
      rcases List.mem_cons.mp member with rfl | inOthers
      · exact (prefix_weave piece others breaks).subset inPiece
      · cases breaks with
        | nil =>
            have nothing : others = [] := List.eq_nil_of_length_eq_zero (by simpa using lengthEq)
            rw [nothing] at inOthers
            cases inOthers
        | cons lineBreak breaks =>
            exact List.mem_append_right _ (ih (by simpa using lengthEq) inOthers)

theorem mem_of_mem_captionLines {caption line : List Char}
    (inCaption : line ∈ captionLines caption) (inLine : char ∈ line) : char ∈ caption := by
  have woven := woven_captionLines caption
  rw [← woven.weave_eq]
  exact mem_weave woven.length_eq inCaption inLine

theorem not_beginsBroken_append (unbroken : Unbroken (char :: piece)) (lineBreak : LineBreak)
    (rest : List Char) : ¬ BeginsBroken (char :: (piece ++ lineBreak.chars ++ rest)) := by
  rw [beginsBroken_cons_iff]
  rintro (rfl | ⟨rfl, headEq⟩)
  · exact unbroken.1 List.mem_cons_self
  · cases piece with
    | nil => cases lineBreak <;> simp [LineBreak.chars] at headEq
    | cons next others =>
        have nextEq : next = 'n' := by simpa using headEq
        rw [nextEq] at unbroken
        exact unbroken.2 ⟨[], others, rfl⟩

theorem Unbroken.of_cons (unbroken : Unbroken (char :: piece)) : Unbroken piece :=
  ⟨fun member => unbroken.1 (List.mem_cons_of_mem _ member),
    fun within => unbroken.2 (within.trans (List.suffix_cons char piece).isInfix)⟩

theorem captionLines_append (unbroken : Unbroken piece) (lineBreak : LineBreak)
    (rest : List Char) :
    captionLines (piece ++ lineBreak.chars ++ rest) = piece :: captionLines rest := by
  induction piece with
  | nil => exact captionLines_break lineBreak rest
  | cons char piece ih =>
      rw [List.cons_append, List.cons_append,
        captionLines_cons (not_beginsBroken_append unbroken lineBreak rest), ih unbroken.of_cons,
        extendFirst]

theorem captionBreaks_append (unbroken : Unbroken piece) (lineBreak : LineBreak)
    (rest : List Char) :
    captionBreaks (piece ++ lineBreak.chars ++ rest) = lineBreak :: captionBreaks rest := by
  induction piece with
  | nil => exact captionBreaks_break lineBreak rest
  | cons char piece ih =>
      rw [List.cons_append, List.cons_append,
        captionBreaks_cons (not_beginsBroken_append unbroken lineBreak rest), ih unbroken.of_cons]

theorem Unbroken.not_beginsBroken (unbroken : Unbroken text) : ¬ BeginsBroken text := by
  rintro ⟨lineBreak, begins⟩
  cases lineBreak with
  | newline => exact unbroken.1 (begins.subset List.mem_cons_self)
  | escape => exact unbroken.2 begins.isInfix

theorem captionLines_of_unbroken (unbroken : Unbroken piece) : captionLines piece = [piece] := by
  induction piece with
  | nil => rfl
  | cons char piece ih =>
      rw [captionLines_cons unbroken.not_beginsBroken, ih unbroken.of_cons, extendFirst]

theorem captionBreaks_of_unbroken (unbroken : Unbroken piece) : captionBreaks piece = [] := by
  induction piece with
  | nil => rfl
  | cons char piece ih =>
      rw [captionBreaks_cons unbroken.not_beginsBroken, ih unbroken.of_cons]

theorem Woven.eq_captionLines {pieces : List (List Char)} {breaks : List LineBreak}
    (woven : Woven text pieces breaks) :
    captionLines text = pieces ∧ captionBreaks text = breaks := by
  induction pieces generalizing text breaks with
  | nil =>
      have lengthEq := woven.length_eq
      rw [List.length_nil] at lengthEq
      omega
  | cons piece pieces ih =>
      have unbroken := woven.unbroken piece List.mem_cons_self
      have lengthEq := woven.length_eq
      rw [List.length_cons, Nat.add_right_cancel_iff] at lengthEq
      rw [← woven.weave_eq]
      cases breaks with
      | nil =>
          rw [List.eq_nil_of_length_eq_zero lengthEq]
          exact ⟨captionLines_of_unbroken unbroken, captionBreaks_of_unbroken unbroken⟩
      | cons lineBreak breaks =>
          have others : Woven (weave pieces breaks) pieces breaks :=
            ⟨fun other member => woven.unbroken other (List.mem_cons_of_mem _ member), lengthEq,
              rfl⟩
          obtain ⟨linesEq, breaksEq⟩ := ih others
          rw [weave, captionLines_append unbroken, captionBreaks_append unbroken, linesEq,
            breaksEq]
          exact ⟨rfl, rfl⟩

/-- There is exactly one way to take a caption apart at its breaks. -/
theorem woven_iff {pieces : List (List Char)} {breaks : List LineBreak} :
    Woven text pieces breaks ↔ captionLines text = pieces ∧ captionBreaks text = breaks := by
  constructor
  · exact Woven.eq_captionLines
  · rintro ⟨rfl, rfl⟩
    exact woven_captionLines text

/-- The character of a list of lines in a row and a column. -/
def letterAt? (lines : List (List Char)) (row column : Nat) : Option Char :=
  lines[row]?.bind (·[column]?)

end Lifeline.Text
