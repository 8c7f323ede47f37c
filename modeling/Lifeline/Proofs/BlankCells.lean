import Lifeline.Proofs.CheckedCanvas
import Lifeline.Proofs.Text.Blank

/-!
# Blank cells are not seen

A cell that was never written shows a blank, whether the canvas has such a cell or
not.  So canvases of different sizes may show the same, and a drawing keeps that up:
a mark shows in its cell on either of them, however far the canvas has to grow.

The text of a canvas depends on nothing but what its cells show.  A canvas that is
wider has blanks at the ends of its rows and one that is higher has blank rows at
its end, and neither gets into the text.  A drawing in text is therefore the same on
a canvas of any size.
-/

namespace Lifeline

namespace Canvas

/-- What a cell shows: its content, or a blank where there is no cell. -/
def seen (canvas : Canvas) (column row : Nat) : String :=
  (canvas.get? column row).getD blank

/-- Whether two canvases show the same in every cell. -/
def SeenAlike (canvas other : Canvas) : Prop :=
  ∀ column row, canvas.seen column row = other.seen column row

variable {canvas other : Canvas} {x y : Int}

theorem seen_of_outside (even : canvas.Even) {column row : Nat}
    (outside : canvas.width ≤ column ∨ canvas.height ≤ row) :
    canvas.seen column row = blank := by
  rw [seen, get?_eq_none_of_outside even outside, Option.getD_none]

theorem isBlank_of_outside (even : canvas.Even) {column row : Nat}
    (outside : canvas.width ≤ column ∨ canvas.height ≤ row) {char : Char}
    (member : char ∈ (canvas.seen column row).toList) : Text.isBlank char = true := by
  have blankEq : blank.toList = [' '] := rfl
  rw [seen_of_outside even outside, blankEq, List.mem_singleton] at member
  rw [member]
  rfl

theorem seen_ofCorner (x y : Int) (column row : Nat) :
    (ofCorner x y).seen column row = blank := by
  rw [seen, get?, ofCorner, ofSize, Array.getElem?_replicate]
  split
  · rw [Option.bind_some, Array.getElem?_replicate]
    split <;> rfl
  · rfl

theorem seen_grow (even : canvas.Even) (x y : Int) (column row : Nat) :
    (canvas.grow x y).seen column row = canvas.seen column row := by
  by_cases inside :
      column < (max x canvas.corner.1 + 1).toNat ∧ row < (max y canvas.corner.2 + 1).toNat
  · rw [seen, get?_grow canvas x y inside.1 inside.2]
    rfl
  · rw [seen_of_outside (even_grow canvas x y), seen_of_outside even]
    · rcases Nat.eq_zero_or_pos canvas.width with empty | positive
      · omega
      · rw [corner_of_pos canvas positive] at inside
        omega
    · rcases Nat.eq_zero_or_pos (canvas.grow x y).width with empty | positive
      · omega
      · rw [width_grow, height_grow canvas x y positive]
        omega

theorem seen_roomy (even : canvas.Even) (x y : Int) (column row : Nat) :
    (canvas.roomy x y).seen column row = canvas.seen column row := by
  rw [roomy]
  split
  · exact seen_grow even x y column row
  · rfl

/-- A mark shows in its own cell and nowhere else. -/
theorem seen_put (even : canvas.Even) (x y : Int) (content : String) (column row : Nat) :
    (canvas.put x y content).seen column row =
      if x = column ∧ y = row then content else canvas.seen column row := by
  by_cases negative : x < 0 ∨ y < 0
  · rw [put_of_neg negative, if_neg (by omega)]
  have nonnegX : 0 ≤ x := by omega
  have nonnegY : 0 ≤ y := by omega
  rw [seen, get?_put nonnegX nonnegY]
  split
  next inCell =>
    obtain ⟨xEq, yEq⟩ := inCell
    have inside := inside_roomy canvas nonnegX nonnegY
    obtain ⟨old, oldEq⟩ := exists_get? (even_roomy even x y)
      (show column < _ by omega) (show row < _ by omega)
    rw [oldEq]
    rfl
  next => exact seen_roomy even x y column row

theorem SeenAlike.put (alike : canvas.SeenAlike other) (even : canvas.Even)
    (otherEven : other.Even) (x y : Int) (content : String) :
    (canvas.put x y content).SeenAlike (other.put x y content) := by
  intro column row
  rw [seen_put even, seen_put otherEven, alike column row]

theorem SeenAlike.draw (alike : canvas.SeenAlike other) (even : canvas.Even)
    (otherEven : other.Even) (marks : List (Mark String)) :
    (canvas.draw marks).SeenAlike (other.draw marks) := by
  induction marks generalizing canvas other with
  | nil => exact alike
  | cons mark rest ih =>
      exact ih (alike.put even otherEven mark.x mark.y mark.ink)
        (even_put even mark.x mark.y mark.ink) (even_put otherEven mark.x mark.y mark.ink)

/-- One row of cells, up to some width and without the blanks at its end. -/
def seenRow (cells : Nat → Nat → String) (width y : Nat) : List Char :=
  Text.trimEnd ((List.range width).flatMap fun x => (cells x y).toList)

/-- Lines one below the other, without the empty ones at the end. -/
def joinLines (lines : List (List Char)) : List Char :=
  ((['\n'].intercalate lines).reverse.dropWhile (· == '\n')).reverse

theorem chars_eq_joinLines (canvas : Canvas) :
    canvas.chars =
      joinLines ((List.range canvas.height).map fun y => Text.trimEnd (canvas.row y)) :=
  rfl

theorem row_eq_flatMap (even : canvas.Even) {y : Nat} (inHeight : y < canvas.height) :
    canvas.row y = (List.range canvas.width).flatMap fun x => (canvas.seen x y).toList := by
  have cellsEq := row?_eq even inHeight
  rw [row?, Option.map_eq_some_iff] at cellsEq
  obtain ⟨cells, mapEq, rowEq⟩ := cellsEq
  have seenEq : (List.range canvas.width).mapM (fun x => canvas.get? x y) =
      some ((List.range canvas.width).map fun x => canvas.seen x y) := by
    apply mapM_eq_some
    intro x member
    obtain ⟨content, contentEq⟩ := exists_get? even (List.mem_range.mp member) inHeight
    rw [seen, contentEq]
    rfl
  rw [mapEq, Option.some_inj] at seenEq
  rw [← rowEq, seenEq, List.flatMap_map]

/-- A row is read alike up to any width that holds the whole canvas, for there are only
blanks behind the canvas. -/
theorem trimEnd_row_eq_seenRow (even : canvas.Even) {width y : Nat}
    (wide : canvas.width ≤ width) (inHeight : y < canvas.height) :
    Text.trimEnd (canvas.row y) = seenRow canvas.seen width y := by
  obtain ⟨more, rfl⟩ := Nat.exists_eq_add_of_le wide
  rw [seenRow, List.range_add, List.flatMap_append, Text.trimEnd_append_of_blank,
    row_eq_flatMap even inHeight]
  intro char member
  simp only [List.flatMap_map, List.mem_flatMap] at member
  obtain ⟨step, -, inCell⟩ := member
  exact isBlank_of_outside even (Or.inl (Nat.le_add_right _ _)) inCell

/-- Below a canvas there are only blanks. -/
theorem seenRow_eq_nil (even : canvas.Even) (width : Nat) {y : Nat}
    (below : canvas.height ≤ y) : seenRow canvas.seen width y = [] := by
  have blanks : ∀ char ∈ (List.range width).flatMap fun x => (canvas.seen x y).toList,
      Text.isBlank char = true := by
    intro char member
    obtain ⟨x, -, inCell⟩ := List.mem_flatMap.mp member
    exact isBlank_of_outside even (Or.inr below) inCell
  rw [seenRow, ← List.nil_append (List.flatMap _ _), Text.trimEnd_append_of_blank blanks]
  rfl

/-- An empty line at the end adds a newline, unless it is the only line. -/
theorem intercalate_concat_nil (lines : List (List Char)) :
    ['\n'].intercalate (lines ++ [[]]) =
      ['\n'].intercalate lines ++ if lines = [] then [] else ['\n'] := by
  induction lines with
  | nil => rfl
  | cons line rest ih =>
      cases rest with
      | nil => simp [List.intercalate, List.intersperse]
      | cons next others =>
          rw [if_neg (List.cons_ne_nil _ _)] at ih ⊢
          simp only [List.intercalate, List.cons_append, List.intersperse_cons_cons,
            List.flatten_cons, List.append_assoc] at ih ⊢
          rw [ih]

theorem joinLines_concat_nil (lines : List (List Char)) :
    joinLines (lines ++ [[]]) = joinLines lines := by
  rw [joinLines, intercalate_concat_nil]
  split
  · rw [List.append_nil]
    rfl
  · rw [List.reverse_append, List.dropWhile_append_of_pos (by simp)]
    rfl

theorem joinLines_append_replicate_nil (lines : List (List Char)) (count : Nat) :
    joinLines (lines ++ List.replicate count []) = joinLines lines := by
  induction count with
  | zero => rw [List.replicate_zero, List.append_nil]
  | succ count ih =>
      rw [List.replicate_succ', ← List.append_assoc, joinLines_concat_nil, ih]

/-- The text of a canvas is that of any page of its cells that holds the whole canvas. -/
theorem chars_eq_of_le (even : canvas.Even) {width height : Nat}
    (wide : canvas.width ≤ width) (high : canvas.height ≤ height) :
    canvas.chars = joinLines ((List.range height).map (seenRow canvas.seen width)) := by
  obtain ⟨more, rfl⟩ := Nat.exists_eq_add_of_le high
  have inside : (List.range canvas.height).map (fun y => Text.trimEnd (canvas.row y)) =
      (List.range canvas.height).map (seenRow canvas.seen width) :=
    List.map_congr_left fun y member =>
      trimEnd_row_eq_seenRow even wide (List.mem_range.mp member)
  have below : ((List.range more).map (canvas.height + ·)).map (seenRow canvas.seen width) =
      List.replicate more [] := by
    rw [List.map_map, List.eq_replicate_iff, List.length_map, List.length_range]
    refine ⟨rfl, fun line member => ?_⟩
    obtain ⟨step, -, rfl⟩ := List.mem_map.mp member
    exact seenRow_eq_nil even width (Nat.le_add_right _ _)
  rw [chars_eq_joinLines, inside, List.range_add, List.map_append, below,
    joinLines_append_replicate_nil]

theorem SeenAlike.text_eq (alike : canvas.SeenAlike other) (even : canvas.Even)
    (otherEven : other.Even) : canvas.text = other.text := by
  have same : canvas.seen = other.seen := funext₂ alike
  rw [text, text, chars_eq_of_le even (le_max_left _ other.width) (le_max_left _ other.height),
    chars_eq_of_le otherEven (le_max_right canvas.width _) (le_max_right canvas.height _), same]

end Canvas

namespace Diagram

variable {α : Type} [Scalar α]

theorem seenAlike_startCanvas (first second : Extent α) :
    (startCanvas first).SeenAlike (startCanvas second) := by
  intro column row
  rw [startCanvas, startCanvas, Canvas.seen_ofCorner, Canvas.seen_ofCorner]

theorem textArt_eq_of_extents (style : Style) (diagram : Diagram α)
    (first second : Extent α) :
    diagram.textArt style first = diagram.textArt style second := by
  have alike : (diagram.canvas style first).SeenAlike (diagram.canvas style second) :=
    (seenAlike_startCanvas first second).draw (even_startCanvas first)
      (even_startCanvas second) _
  rw [textArt, textArt, alike.text_eq (Canvas.even_draw (even_startCanvas first) _)
    (Canvas.even_draw (even_startCanvas second) _)]

/-- A diagram in which everything that is placed is whole has one drawing in text,
whatever the size of the canvas that it is begun on. -/
theorem exists_textArt?_eq (style : Style) {diagram : Diagram α}
    (complete : Event.AllComplete diagram.events) :
    ∃ text, ∀ extent : Extent α, diagram.textArt? style extent = some text := by
  refine ⟨diagram.textArt style ⟨zero, zero⟩, fun extent => ?_⟩
  rw [textArt?, if_pos (markable_of_allComplete complete),
    textArt_eq_of_extents style diagram extent ⟨zero, zero⟩]

/-- A diagram that no layout makes: its signal ends left of the canvas and below its
only lifeline, and its frame is narrower than its tab. -/
def askew : Diagram Rat where
  actors := [Actor.declare .actor "A"]
  events :=
    [.conditional .alt ⟨-3, 2, 1, -4⟩
      [⟨"case", 7, 0,
        [.signal { caption := "out\nand back", source := "A", destination := "Z" }
          { startX := some (1 / 2), endX := some (-9), startY := some 40, endY := some 1,
            width := some 3, height := some (-2) }]⟩]]

theorem exists_textArt?_eq_askew :
    Event.AllComplete askew.events ∧
      ∃ text, ∀ extent : Extent Rat, askew.textArt? .ascii extent = some text :=
  ⟨rfl, exists_textArt?_eq .ascii rfl⟩

end Diagram

end Lifeline
