import Lifeline.Measure
import Lifeline.Proofs.Text.Lines
import Lifeline.TextArt.Marks
import Mathlib.Data.List.Basic

/-!
# How far marks reach

Each part of a drawing keeps to the cells that were measured for it: a caption to
its lines and to the length of the longest one, a box to its width and height.
-/

namespace Lifeline

namespace Measurer

theorem le_foldl_max (lengths : List Nat) (start : Nat) :
    start ≤ lengths.foldl max start ∧ ∀ length ∈ lengths, length ≤ lengths.foldl max start := by
  induction lengths generalizing start with
  | nil => simp
  | cons first rest ih =>
      obtain ⟨fromStart, fromRest⟩ := ih (max start first)
      rw [List.foldl_cons]
      refine ⟨by omega, fun length member => ?_⟩
      rcases List.mem_cons.mp member with rfl | member
      · omega
      · exact fromRest length member

theorem length_le_longest {lines : List (List Char)} {line : List Char}
    (member : line ∈ lines) : line.length ≤ longest lines :=
  (le_foldl_max (lines.map List.length) 0).2 _ (List.mem_map_of_mem member)

end Measurer

namespace Mark

variable {β : Type} {x y : Int} {mark : Mark β} {letter : Char → β}

theorem mem_range {first last step : Int} :
    step ∈ range first last ↔ first ≤ step ∧ step < last := by
  rw [range, List.mem_map]
  constructor
  · rintro ⟨index, member, rfl⟩
    rw [List.mem_range] at member
    omega
  · rintro ⟨lower, upper⟩
    refine ⟨(step - first).toNat, ?_, by omega⟩
    rw [List.mem_range]
    omega

theorem mem_ofLine_iff {chars : List Char} :
    mark ∈ ofLine letter x y chars ↔
      ∃ (column : Nat) (char : Char),
        chars[column]? = some char ∧ mark = ⟨x + column, y, letter char⟩ := by
  rw [ofLine, List.mem_map]
  constructor
  · rintro ⟨⟨char, column⟩, member, rfl⟩
    exact ⟨column, char, List.mem_zipIdx_iff_getElem?.mp member, rfl⟩
  · rintro ⟨column, char, charEq, rfl⟩
    exact ⟨⟨char, column⟩, List.mem_zipIdx_iff_getElem?.mpr charEq, rfl⟩

theorem mem_ofCaption_iff {caption : String} :
    mark ∈ ofCaption letter x y caption ↔
      ∃ (row column : Nat) (char : Char),
        Text.letterAt? (Text.captionLines caption.toList) row column = some char ∧
          mark = ⟨x + column, y + row, letter char⟩ := by
  rw [ofCaption, List.mem_flatMap]
  constructor
  · rintro ⟨⟨line, row⟩, member, inLine⟩
    obtain ⟨column, char, charEq, rfl⟩ := mem_ofLine_iff.mp inLine
    refine ⟨row, column, char, ?_, rfl⟩
    rw [Text.letterAt?, List.mem_zipIdx_iff_getElem?.mp member]
    exact charEq
  · rintro ⟨row, column, char, letterEq, rfl⟩
    obtain ⟨line, lineEq, charEq⟩ := Option.bind_eq_some_iff.mp letterEq
    exact ⟨⟨line, row⟩, List.mem_zipIdx_iff_getElem?.mpr lineEq,
      mem_ofLine_iff.mpr ⟨column, char, charEq, rfl⟩⟩

theorem bounds_of_mem_ofLine {line : List Char} (member : mark ∈ ofLine letter x y line) :
    mark.y = y ∧ x ≤ mark.x ∧ mark.x < x + line.length := by
  obtain ⟨column, char, charEq, rfl⟩ := mem_ofLine_iff.mp member
  have inside := (List.getElem?_eq_some_iff.mp charEq).1
  refine ⟨rfl, ?_, ?_⟩ <;> simp only <;> omega

/-- A caption keeps to the cells that it was measured to fill. -/
theorem bounds_of_mem_ofCaption {caption : String}
    (member : mark ∈ ofCaption letter x y caption) :
    (y ≤ mark.y ∧ mark.y < y + (Text.captionLines caption.toList).length) ∧
      x ≤ mark.x ∧ mark.x < x + Measurer.longest (Text.captionLines caption.toList) := by
  obtain ⟨row, column, char, letterEq, rfl⟩ := mem_ofCaption_iff.mp member
  obtain ⟨line, lineEq, charEq⟩ := Option.bind_eq_some_iff.mp letterEq
  have inRows := (List.getElem?_eq_some_iff.mp lineEq).1
  have inLine := (List.getElem?_eq_some_iff.mp charEq).1
  have fits := Measurer.length_le_longest (List.mem_of_getElem? lineEq)
  simp only
  omega

/-- The characters of a line are in cells of their own. -/
theorem pairwise_ofLine (letter : Char → β) (x y : Int) (line : List Char) :
    (ofLine letter x y line).Pairwise fun mark later => mark.x ≠ later.x := by
  rw [List.pairwise_iff_getElem]
  intro first second firstInside secondInside ordered
  simp only [ofLine, List.getElem_map, List.getElem_zipIdx]
  omega

/-- The characters of a caption are in cells of their own. -/
theorem pairwise_ofCaption (letter : Char → β) (x y : Int) (caption : String) :
    (ofCaption letter x y caption).Pairwise fun mark later =>
      mark.x = later.x → mark.y ≠ later.y := by
  rw [ofCaption, List.pairwise_flatMap]
  constructor
  · rintro ⟨line, index⟩ -
    exact (pairwise_ofLine letter x (y + index) line).imp fun apart same => absurd same apart
  · -- The rows of two lines differ.
    rw [List.pairwise_iff_getElem]
    intro first second firstInside secondInside ordered mark inFirst later inSecond _
    simp only [List.getElem_zipIdx] at inFirst inSecond
    have firstRow := (bounds_of_mem_ofLine inFirst).1
    have secondRow := (bounds_of_mem_ofLine inSecond).1
    omega

theorem y_of_mem_ofBox {inks : BoxInks β} {width height : Int} (high : 1 ≤ height)
    (member : mark ∈ ofBox inks x y width height) : y ≤ mark.y ∧ mark.y < y + height := by
  simp only [ofBox, List.mem_append, List.mem_flatMap, List.mem_cons, List.not_mem_nil,
    or_false, mem_range] at member
  rcases member with
    (⟨step, bounds, rfl | rfl⟩ | ⟨step, bounds, rfl | rfl⟩) | rfl | rfl | rfl | rfl <;>
    simp only <;> omega

theorem x_of_mem_ofBox {inks : BoxInks β} {width height : Int} (wide : 1 ≤ width)
    (member : mark ∈ ofBox inks x y width height) : x ≤ mark.x ∧ mark.x < x + width := by
  simp only [ofBox, List.mem_append, List.mem_flatMap, List.mem_cons, List.not_mem_nil,
    or_false, mem_range] at member
  rcases member with
    (⟨step, bounds, rfl | rfl⟩ | ⟨step, bounds, rfl | rfl⟩) | rfl | rfl | rfl | rfl <;>
    simp only <;> omega

end Mark

end Lifeline
