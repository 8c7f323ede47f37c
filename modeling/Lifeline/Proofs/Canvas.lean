import Lifeline.Canvas

/-!
# What a canvas holds

A canvas is even when its columns are all of one height, and drawing keeps it so.
On an even canvas a mark is seen in its cell until another mark is made there,
whatever the canvas held before.
-/

namespace Lifeline

namespace Mark

variable {β : Type}

/-- Whether a mark is made in a cell. -/
def At (column row : Nat) (mark : Mark β) : Prop :=
  mark.x = column ∧ mark.y = row

instance (column row : Nat) (mark : Mark β) : Decidable (mark.At column row) :=
  inferInstanceAs (Decidable (mark.x = column ∧ mark.y = row))

/-- Of the marks that are made in a cell one is the last. -/
theorem exists_last_at {marks : List (Mark β)} {column row : Nat}
    (touched : ∃ mark ∈ marks, mark.At column row) :
    ∃ before mark after, marks = before ++ mark :: after ∧ mark.At column row ∧
      ∀ later ∈ after, ¬ later.At column row := by
  induction marks with
  | nil => simp at touched
  | cons first rest ih =>
      by_cases inRest : ∃ mark ∈ rest, mark.At column row
      · obtain ⟨before, mark, after, restEq, inCell, last⟩ := ih inRest
        exact ⟨first :: before, mark, after, by rw [restEq, List.cons_append], inCell, last⟩
      · obtain ⟨mark, member, inCell⟩ := touched
        rcases List.mem_cons.mp member with rfl | member
        · exact ⟨[], mark, rest, rfl, inCell,
            fun later member inCell => inRest ⟨later, member, inCell⟩⟩
        · exact absurd ⟨mark, member, inCell⟩ inRest

end Mark

namespace Canvas

/-- Whether the columns of a canvas are all of one height. -/
def Even (canvas : Canvas) : Prop :=
  ∀ column ∈ canvas.columns, column.size = canvas.height

theorem even_empty : empty.Even := by
  intro column member
  simp [empty] at member

theorem even_ofSize (width height : Nat) : (ofSize width height).Even := by
  intro column member
  have widthPos : 0 < width := by
    simp [ofSize] at member
    omega
  simp [ofSize, Canvas.height, Array.getD, widthPos] at member ⊢
  simp [member]

variable {canvas : Canvas} {x y : Int}

theorem width_grow (canvas : Canvas) (x y : Int) :
    (canvas.grow x y).width = (max x canvas.corner.1 + 1).toNat := by
  simp [grow, width]

theorem get?_grow (canvas : Canvas) (x y : Int) {column row : Nat}
    (inWidth : column < (max x canvas.corner.1 + 1).toNat)
    (inHeight : row < (max y canvas.corner.2 + 1).toNat) :
    (canvas.grow x y).get? column row = some ((canvas.get? column row).getD blank) := by
  simp [grow, get?, inWidth, inHeight]

theorem height_grow (canvas : Canvas) (x y : Int) (nonempty : 0 < (canvas.grow x y).width) :
    (canvas.grow x y).height = (max y canvas.corner.2 + 1).toNat := by
  rw [width_grow] at nonempty
  simp [grow, height, Array.getD, nonempty]

theorem even_grow (canvas : Canvas) (x y : Int) : (canvas.grow x y).Even := by
  intro column member
  have nonempty : 0 < (canvas.grow x y).width := by
    rw [width]
    exact Array.size_pos_of_mem member
  rw [height_grow canvas x y nonempty]
  simp only [grow, Array.mem_map] at member
  obtain ⟨index, -, rfl⟩ := member
  simp

theorem lt_of_get? (even : canvas.Even) {column row : Nat} {content : String}
    (held : canvas.get? column row = some content) :
    column < canvas.width ∧ row < canvas.height := by
  rw [get?, Option.bind_eq_some_iff] at held
  obtain ⟨cells, cellsEq, contentEq⟩ := held
  have inRow := (Array.getElem?_eq_some_iff.mp contentEq).1
  rw [even cells (Array.mem_of_getElem? cellsEq)] at inRow
  exact ⟨(Array.getElem?_eq_some_iff.mp cellsEq).1, inRow⟩

def roomy (canvas : Canvas) (x y : Int) : Canvas :=
  if (canvas.width : Int) ≤ x || (canvas.height : Int) ≤ y then canvas.grow x y else canvas

theorem put_eq (nonnegX : 0 ≤ x) (nonnegY : 0 ≤ y) (content : String) :
    canvas.put x y content =
      ⟨(canvas.roomy x y).columns.modify x.toNat fun column =>
        column.setIfInBounds y.toNat content⟩ := by
  rw [put, if_neg (by simp [nonnegX, nonnegY])]
  rfl

theorem put_of_neg (negative : x < 0 ∨ y < 0) (content : String) :
    canvas.put x y content = canvas := by
  rw [put, if_pos (by simpa using negative)]

theorem even_roomy (even : canvas.Even) (x y : Int) : (canvas.roomy x y).Even := by
  rw [roomy]
  split
  · exact even_grow canvas x y
  · exact even

theorem inside_roomy (canvas : Canvas) (nonnegX : 0 ≤ x) (nonnegY : 0 ≤ y) :
    x < (canvas.roomy x y).width ∧ y < (canvas.roomy x y).height := by
  rw [roomy]
  split
  next outside =>
    have nonempty : 0 < (canvas.grow x y).width := by
      rw [width_grow]
      omega
    rw [height_grow canvas x y nonempty, width_grow]
    omega
  next inside =>
    simp only [Bool.or_eq_true, decide_eq_true_eq] at inside
    omega

theorem get?_roomy (even : canvas.Even) (x y : Int) {column row : Nat} {content : String}
    (held : canvas.get? column row = some content) :
    (canvas.roomy x y).get? column row = some content := by
  rw [roomy]
  split
  · obtain ⟨inWidth, inHeight⟩ := lt_of_get? even held
    have nonempty : canvas.width ≠ 0 := by omega
    have cornerEq : canvas.corner = ((canvas.width : Int) - 1, (canvas.height : Int) - 1) := by
      rw [corner, if_neg nonempty]
    rw [get?_grow, held, Option.getD_some]
    · rw [cornerEq]
      omega
    · rw [cornerEq]
      omega
  · exact held

theorem get?_put (nonnegX : 0 ≤ x) (nonnegY : 0 ≤ y) (content : String)
    (column row : Nat) :
    (canvas.put x y content).get? column row =
      if x = column ∧ y = row then
        ((canvas.roomy x y).get? column row).map fun _ => content
      else (canvas.roomy x y).get? column row := by
  rw [put_eq nonnegX nonnegY, get?, get?]
  simp only [Array.getElem?_modify]
  by_cases sameColumn : x.toNat = column
  · have xEq : x = column := by omega
    rw [if_pos sameColumn]
    cases columnEq : (canvas.roomy x y).columns[column]? with
    | none => simp
    | some cells =>
        simp only [Option.map_some, Option.bind_some, Array.getElem?_setIfInBounds, xEq,
          true_and]
        by_cases sameRow : y.toNat = row
        · have yEq : y = row := by omega
          rw [if_pos sameRow, if_pos yEq]
          by_cases inside : row < cells.size
          · simp [sameRow, inside]
          · simp [sameRow, inside]
        · have yNe : y ≠ row := by omega
          rw [if_neg sameRow, if_neg yNe]
  · have xNe : x ≠ column := by omega
    rw [if_neg sameColumn, if_neg fun same => xNe same.1]

/-- Writing a cell changes the size of no column. -/
theorem size_put (canvas : Canvas) {x y : Int} (nonnegX : 0 ≤ x) (nonnegY : 0 ≤ y)
    (content : String) (index : Nat) :
    (canvas.put x y content).columns[index]?.map Array.size =
      (canvas.roomy x y).columns[index]?.map Array.size := by
  rw [put_eq nonnegX nonnegY, Array.getElem?_modify]
  split
  · rw [Option.map_map]
    congr 1
    funext column
    exact Array.size_setIfInBounds
  · rfl

theorem width_put (nonnegX : 0 ≤ x) (nonnegY : 0 ≤ y) (content : String) :
    (canvas.put x y content).width = (canvas.roomy x y).width := by
  rw [put_eq nonnegX nonnegY]
  exact Array.size_modify

theorem height_put (nonnegX : 0 ≤ x) (nonnegY : 0 ≤ y) (content : String) :
    (canvas.put x y content).height = (canvas.roomy x y).height := by
  have first := size_put canvas nonnegX nonnegY content 0
  rw [height, height, Array.getD_eq_getD_getElem?, Array.getD_eq_getD_getElem?]
  cases putEq : (canvas.put x y content).columns[0]? <;>
    cases roomyEq : (canvas.roomy x y).columns[0]? <;> simp_all

theorem even_put (even : canvas.Even) (x y : Int) (content : String) :
    (canvas.put x y content).Even := by
  by_cases negative : x < 0 ∨ y < 0
  · rwa [put_of_neg negative]
  have nonnegX : 0 ≤ x := by omega
  have nonnegY : 0 ≤ y := by omega
  intro column member
  obtain ⟨index, columnEq⟩ := Array.getElem?_of_mem member
  have same := size_put canvas nonnegX nonnegY content index
  rw [columnEq, Option.map_some, eq_comm, Option.map_eq_some_iff] at same
  obtain ⟨cells, cellsEq, sizeEq⟩ := same
  rw [height_put nonnegX nonnegY, ← sizeEq]
  exact even_roomy even x y cells (Array.mem_of_getElem? cellsEq)

theorem exists_get? (even : canvas.Even) {column row : Nat} (inWidth : column < canvas.width)
    (inHeight : row < canvas.height) : ∃ content, canvas.get? column row = some content := by
  have columnEq : canvas.columns[column]? = some canvas.columns[column] :=
    Array.getElem?_eq_getElem inWidth
  have sizeEq := even canvas.columns[column] (Array.getElem_mem inWidth)
  refine ⟨canvas.columns[column][row], ?_⟩
  rw [get?, columnEq, Option.bind_some, Array.getElem?_eq_getElem]

theorem get?_put_self (even : canvas.Even) (column row : Nat) (content : String) :
    (canvas.put column row content).get? column row = some content := by
  have nonnegX : (0 : Int) ≤ column := by omega
  have nonnegY : (0 : Int) ≤ row := by omega
  obtain ⟨inWidth, inHeight⟩ := inside_roomy canvas nonnegX nonnegY
  obtain ⟨old, oldEq⟩ := exists_get? (even_roomy even column row)
    (show column < _ by omega) (show row < _ by omega)
  rw [get?_put nonnegX nonnegY, if_pos ⟨rfl, rfl⟩, oldEq, Option.map_some]

theorem get?_put_of_ne (even : canvas.Even) (content : String) {column row : Nat}
    {held : String} (heldEq : canvas.get? column row = some held)
    (elsewhere : ¬ (x = column ∧ y = row)) :
    (canvas.put x y content).get? column row = some held := by
  by_cases negative : x < 0 ∨ y < 0
  · rwa [put_of_neg negative]
  · rw [get?_put (by omega) (by omega), if_neg elsewhere]
    exact get?_roomy even x y heldEq

theorem even_draw (even : canvas.Even) (marks : List (Mark String)) :
    (canvas.draw marks).Even := by
  induction marks generalizing canvas with
  | nil => exact even
  | cons mark rest ih => exact ih (even_put even mark.x mark.y mark.ink)

theorem draw_append (canvas : Canvas) (first second : List (Mark String)) :
    canvas.draw (first ++ second) = (canvas.draw first).draw second :=
  List.foldl_append

theorem get?_draw_of_untouched (even : canvas.Even) {marks : List (Mark String)}
    {column row : Nat} {held : String} (heldEq : canvas.get? column row = some held)
    (untouched : ∀ mark ∈ marks, ¬ mark.At column row) :
    (canvas.draw marks).get? column row = some held := by
  induction marks generalizing canvas with
  | nil => exact heldEq
  | cons mark rest ih =>
      have elsewhere := untouched mark List.mem_cons_self
      exact ih (even_put even mark.x mark.y mark.ink)
        (get?_put_of_ne even mark.ink heldEq elsewhere)
        fun later member => untouched later (List.mem_cons_of_mem _ member)

theorem get?_draw_of_last (even : canvas.Even) {before after : List (Mark String)}
    {mark : Mark String} {column row : Nat} (inCell : mark.At column row)
    (last : ∀ later ∈ after, ¬ later.At column row) :
    (canvas.draw (before ++ mark :: after)).get? column row = some mark.ink := by
  obtain ⟨xEq, yEq⟩ := inCell
  have evenBefore := even_draw even before
  have written := get?_put_self evenBefore column row mark.ink
  rw [← xEq, ← yEq] at written
  rw [draw_append]
  exact get?_draw_of_untouched (even_put evenBefore mark.x mark.y mark.ink) written last

/-- Whether a canvas shows a drawing as it is by itself: every cell that the drawing
writes on an empty canvas holds the same content. -/
def Shows (canvas : Canvas) (marks : List (Mark String)) : Prop :=
  ∀ column row : Nat, (∃ mark ∈ marks, mark.At column row) →
    ∃ content, (empty.draw marks).get? column row = some content ∧
      canvas.get? column row = some content

/-- A drawing is shown if whatever is drawn later and meets one of its cells puts
there what is there already. -/
theorem shows_draw (even : canvas.Even) {before own after : List (Mark String)}
    (harmless : ∀ mark ∈ own, ∀ later ∈ after,
      mark.x = later.x → mark.y = later.y → mark.ink = later.ink) :
    (canvas.draw (before ++ (own ++ after))).Shows own := by
  intro column row touched
  obtain ⟨front, mark, back, ownEq, inCell, last⟩ := Mark.exists_last_at touched
  have member : mark ∈ own := by simp [ownEq]
  refine ⟨mark.ink, ?_, ?_⟩
  · rw [ownEq]
    exact get?_draw_of_last even_empty inCell last
  · by_cases covered : ∃ later ∈ after, later.At column row
    · obtain ⟨middle, later, rest, afterEq, laterInCell, laterLast⟩ :=
        Mark.exists_last_at covered
      have same : mark.ink = later.ink :=
        harmless mark member later (by simp [afterEq]) (inCell.1.trans laterInCell.1.symm)
          (inCell.2.trans laterInCell.2.symm)
      rw [same, afterEq, ← List.append_assoc, ← List.append_assoc]
      exact get?_draw_of_last even laterInCell laterLast
    · rw [ownEq, List.append_assoc, List.cons_append, ← List.append_assoc]
      apply get?_draw_of_last even inCell
      intro later member laterInCell
      rcases List.mem_append.mp member with inBack | inAfter
      · exact last later inBack laterInCell
      · exact covered ⟨later, inAfter, laterInCell⟩

end Canvas

end Lifeline
