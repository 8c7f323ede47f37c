import Lifeline.Proofs.Marks
import Lifeline.Proofs.Plane

/-!
# Captions fill the cells that they are measured for

A caption is taken apart at its breaks.  Drawn on a blank canvas, its lines stand one below
the other from one column on, and nothing else is written.  The measurer for cells counts
the same lines: the width that it gives is that of the longest line, the height is the
number of lines, and every mark of the caption is in the rectangle of that size.
-/

namespace Lifeline

namespace Measurer

theorem foldl_max_eq_or_mem (lengths : List Nat) (start : Nat) :
    lengths.foldl max start = start ∨ lengths.foldl max start ∈ lengths := by
  induction lengths generalizing start with
  | nil => exact Or.inl rfl
  | cons first rest ih =>
      rw [List.foldl_cons]
      rcases ih (max start first) with maxEq | member
      · rw [maxEq, List.mem_cons]
        omega
      · exact Or.inr (List.mem_cons_of_mem _ member)

/-- Whether a width and a height are just enough for lines of text. -/
structure Fits (lines : List (List Char)) (width height : Nat) : Prop where
  height_eq : height = lines.length
  length_le : ∀ line ∈ lines, line.length ≤ width
  exists_length_eq : ∃ line ∈ lines, line.length = width

theorem fits_longest {lines : List (List Char)} (nonempty : lines ≠ []) :
    Fits lines (longest lines) lines.length where
  height_eq := rfl
  length_le _ member := length_le_longest member
  exists_length_eq := by
    rcases foldl_max_eq_or_mem (lines.map List.length) 0 with longestEq | member
    · -- All lines are empty.
      obtain ⟨line, inLines⟩ := List.exists_mem_of_ne_nil lines nonempty
      have short := length_le_longest inLines
      rw [← longest] at longestEq
      exact ⟨line, inLines, by omega⟩
    · exact List.mem_map.mp member

end Measurer

namespace Mark

variable {β : Type} {mark : Mark β} {letter : Char → β} {column row : Nat}

/-- In each cell from its position on a caption leaves its character, if it has one there. -/
theorem lastIn?_ofCaption (letter : Char → β) (x y : Nat) (caption : String)
    (column row : Nat) :
    lastIn? (ofCaption letter x y caption) (x + column) (y + row) =
      (Text.letterAt? (Text.captionLines caption.toList) row column).map letter := by
  cases letterEq : Text.letterAt? (Text.captionLines caption.toList) row column with
  | none =>
      apply lastIn?_eq_none
      rintro mark member ⟨xEq, yEq⟩
      obtain ⟨otherRow, otherColumn, char, otherEq, rfl⟩ := mem_ofCaption_iff.mp member
      simp only at xEq yEq
      rw [show otherRow = row by omega, show otherColumn = column by omega, letterEq] at otherEq
      cases otherEq
  | some char =>
      apply lastIn?_eq_some
      · refine ⟨_, mem_ofCaption_iff.mpr ⟨row, column, char, letterEq, rfl⟩, ?_, ?_⟩ <;>
          simp only <;> omega
      · rintro mark member ⟨xEq, yEq⟩
        obtain ⟨otherRow, otherColumn, other, otherEq, rfl⟩ := mem_ofCaption_iff.mp member
        simp only at xEq yEq
        rw [show otherRow = row by omega, show otherColumn = column by omega, letterEq,
          Option.some_inj] at otherEq
        rw [otherEq]

end Mark

namespace Canvas

/-- Whether a canvas shows lines of text and nothing else, the lines one a row from a
position on. -/
structure Spells (canvas : Canvas) (x y : Nat) (lines : List (List Char)) : Prop where
  seen_inside : ∀ column row, canvas.seen (x + column) (y + row) =
    ((Text.letterAt? lines row column).map String.singleton).getD blank
  seen_outside : ∀ column row, column < x ∨ row < y → canvas.seen column row = blank

theorem spells_draw_ofCaption (right bottom : Int) (x y : Nat) (caption : String) :
    ((ofCorner right bottom).draw (Mark.ofCaption String.singleton x y caption)).Spells x y
      (Text.captionLines caption.toList) where
  seen_inside column row := by
    rw [seen_draw_eq (even_ofCorner right bottom), Mark.lastIn?_ofCaption, seen_ofCorner]
  seen_outside column row outside := by
    have elsewhere : ∀ mark ∈ Mark.ofCaption String.singleton x y caption,
        ¬ mark.At column row := by
      rintro mark member ⟨xEq, yEq⟩
      have bounds := Mark.bounds_of_mem_ofCaption member
      omega
    rw [seen_draw_eq (even_ofCorner right bottom), Mark.lastIn?_eq_none elsewhere, seen_ofCorner]
    rfl

end Canvas

/-- A caption has one way to be taken apart at its breaks.  On a blank canvas, of whatever
size, its lines are written one a row and nothing else is, and all of it lies in the
rectangle that was measured, which no smaller one could be. -/
theorem caption_fits {α : Type} [Scalar α] (caption : String) (x y : Nat) :
    let lines := Text.captionLines caption.toList
    let marks := Mark.ofCaption String.singleton x y caption
    lines ≠ [] ∧
      (∀ pieces breaks, Text.Woven caption.toList pieces breaks ↔
        lines = pieces ∧ Text.captionBreaks caption.toList = breaks) ∧
      (∀ mark, mark ∈ marks ↔ ∃ (row column : Nat) (char : Char),
        Text.letterAt? lines row column = some char ∧
          mark = ⟨x + column, y + row, String.singleton char⟩) ∧
      (∀ right bottom, ((Canvas.ofCorner right bottom).draw marks).Spells x y lines) ∧
      ∃ width height : Nat, (Measurer.cells caption : Extent α) = ⟨width, height⟩ ∧
        Measurer.Fits lines width height ∧
        ∀ mark ∈ marks, (x ≤ mark.x ∧ mark.x < x + width) ∧ y ≤ mark.y ∧ mark.y < y + height := by
  intro lines marks
  have nonempty : lines ≠ [] := List.ne_nil_of_length_pos (Text.length_captionLines_pos _)
  refine ⟨nonempty, fun pieces breaks => Text.woven_iff, fun mark => Mark.mem_ofCaption_iff,
    fun right bottom => Canvas.spells_draw_ofCaption right bottom x y caption,
    Measurer.longest lines, lines.length, rfl, Measurer.fits_longest nonempty,
    fun mark member => ?_⟩
  obtain ⟨rows, columns⟩ := Mark.bounds_of_mem_ofCaption member
  exact ⟨columns, rows⟩

/-- The empty canvas is a blank one. -/
example : Canvas.ofCorner (-1) (-1) = Canvas.empty := rfl

end Lifeline
