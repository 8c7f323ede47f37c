import Lifeline.Proofs.BlankCells

/-!
# A canvas is a plane on which the last mark wins

Whatever was done to a canvas, its columns are all of one height.  When marks are made on
it, each cell then holds the last of the marks made there, or what it held before, or a
blank.  The canvas gets just as large as the marks in it need, a mark left of it or above
it is not made at all, and two marks in different cells may be made in either order.

Growing a canvas never makes it smaller.  It keeps every cell, and since all it adds is
blank, the text of the canvas stays the same.
-/

namespace Lifeline

namespace Mark

variable {β : Type}

/-- Whether a mark is made at all: left of a canvas and above it there are no cells. -/
def Kept (mark : Mark β) : Prop :=
  0 ≤ mark.x ∧ 0 ≤ mark.y

instance (mark : Mark β) : Decidable mark.Kept :=
  inferInstanceAs (Decidable (0 ≤ mark.x ∧ 0 ≤ mark.y))

/-- How far marks reach along one coordinate, counted in cells from the edge. -/
def needed (coordinate : Mark β → Int) (marks : List (Mark β)) : Nat :=
  ((marks.filter fun mark => mark.Kept).map fun mark => (coordinate mark + 1).toNat).foldr max 0

/-- The ink of the last mark in a cell, if a mark is made there. -/
def lastIn? (marks : List (Mark β)) (column row : Nat) : Option β :=
  (marks.filter fun mark => mark.At column row).getLast?.map Mark.ink

variable {coordinate : Mark β → Int} {mark other : Mark β} {marks : List (Mark β)}
  {column row : Nat}

theorem needed_cons_of_kept (kept : mark.Kept) :
    needed coordinate (mark :: marks) =
      max (coordinate mark + 1).toNat (needed coordinate marks) := by
  rw [needed, List.filter_cons_of_pos (by simpa using kept), List.map_cons, List.foldr_cons,
    needed]

theorem needed_cons_of_not_kept (dropped : ¬ mark.Kept) :
    needed coordinate (mark :: marks) = needed coordinate marks := by
  rw [needed, List.filter_cons_of_neg (by simpa using dropped), needed]

/-- What marks need does not depend on what is written. -/
theorem needed_map {γ : Type} (write : β → γ) (coordinate : Mark γ → Int)
    (marks : List (Mark β)) :
    needed coordinate (marks.map (Mark.map write)) =
      needed (fun mark => coordinate (mark.map write)) marks := by
  rw [needed, List.filter_map, List.map_map, needed]
  rfl

/-- Marks that need a column need a row as well. -/
theorem needed_eq_zero_iff (marks : List (Mark β)) :
    needed Mark.x marks = 0 ↔ needed Mark.y marks = 0 := by
  induction marks with
  | nil => rfl
  | cons mark rest ih =>
      by_cases kept : mark.Kept
      · have nonnegX := kept.1
        have nonnegY := kept.2
        rw [needed_cons_of_kept kept, needed_cons_of_kept kept]
        omega
      · rw [needed_cons_of_not_kept kept, needed_cons_of_not_kept kept, ih]

theorem le_needed {mark : Mark β} (member : mark ∈ marks) (kept : mark.Kept) :
    (coordinate mark + 1).toNat ≤ needed coordinate marks := by
  induction marks with
  | nil => cases member
  | cons first rest ih =>
      rcases List.mem_cons.mp member with rfl | inRest
      · rw [needed_cons_of_kept kept]
        exact le_max_left _ _
      · by_cases firstKept : first.Kept
        · rw [needed_cons_of_kept firstKept]
          exact (ih inRest).trans (le_max_right _ _)
        · rw [needed_cons_of_not_kept firstKept]
          exact ih inRest

theorem needed_le {count : Nat} (within : ∀ mark ∈ marks, coordinate mark < count) :
    needed coordinate marks ≤ count := by
  induction marks with
  | nil => exact Nat.zero_le _
  | cons mark rest ih =>
      have behind := ih fun later member => within later (List.mem_cons_of_mem _ member)
      have own := within mark List.mem_cons_self
      by_cases kept : mark.Kept
      · rw [needed_cons_of_kept kept]
        omega
      · rwa [needed_cons_of_not_kept kept]

theorem lastIn?_cons_of_at (inCell : mark.At column row) :
    lastIn? (mark :: marks) column row = (lastIn? marks column row).or (some mark.ink) := by
  rw [lastIn?, List.filter_cons_of_pos (by simpa using inCell), List.getLast?_cons, lastIn?]
  cases (marks.filter fun mark => mark.At column row).getLast? <;> rfl

theorem lastIn?_cons_of_not_at (elsewhere : ¬ mark.At column row) :
    lastIn? (mark :: marks) column row = lastIn? marks column row := by
  rw [lastIn?, List.filter_cons_of_neg (by simpa using elsewhere), lastIn?]

theorem lastIn?_eq_some {marks : List (Mark β)} {ink : β}
    (made : ∃ mark ∈ marks, mark.At column row)
    (same : ∀ mark ∈ marks, mark.At column row → mark.ink = ink) :
    lastIn? marks column row = some ink := by
  obtain ⟨mark, member, inCell⟩ := made
  have inFilter : mark ∈ marks.filter fun mark => mark.At column row :=
    List.mem_filter.mpr ⟨member, decide_eq_true inCell⟩
  cases lastEq : (marks.filter fun mark => mark.At column row).getLast? with
  | none => rw [List.getLast?_eq_none_iff.mp lastEq] at inFilter; cases inFilter
  | some last =>
      obtain ⟨inMarks, lastInCell⟩ := List.mem_filter.mp (List.mem_of_getLast? lastEq)
      rw [lastIn?, lastEq, Option.map_some, same last inMarks (of_decide_eq_true lastInCell)]

theorem lastIn?_eq_none {marks : List (Mark β)}
    (elsewhere : ∀ mark ∈ marks, ¬ mark.At column row) :
    lastIn? marks column row = none := by
  rw [lastIn?, List.filter_eq_nil_iff.mpr fun mark member => by simpa using elsewhere mark member]
  rfl

theorem needed_swap (coordinate : Mark β → Int) (mark other : Mark β) :
    needed coordinate [mark, other] = needed coordinate [other, mark] := by
  by_cases kept : mark.Kept <;> by_cases otherKept : other.Kept <;>
    simp [needed, kept, otherKept, Nat.max_comm]

/-- In no cell can both of two marks be that are made in different cells. -/
theorem lastIn?_swap (apart : ¬ (mark.x = other.x ∧ mark.y = other.y)) (column row : Nat) :
    lastIn? [mark, other] column row = lastIn? [other, mark] column row := by
  by_cases inCell : mark.At column row
  · have elsewhere : ¬ other.At column row := fun otherInCell =>
      apart ⟨inCell.1.trans otherInCell.1.symm, inCell.2.trans otherInCell.2.symm⟩
    simp [lastIn?, inCell, elsewhere]
  · simp [lastIn?, inCell]

end Mark

namespace Canvas

variable {canvas : Canvas} {x y : Int}

theorem width_roomy (nonnegX : 0 ≤ x) (y : Int) :
    (canvas.roomy x y).width = max canvas.width (x + 1).toNat := by
  have corner_fst : canvas.corner.1 = (canvas.width : Int) - 1 := rfl
  rw [roomy]
  split
  next => rw [width_grow, corner_fst]; omega
  next inside =>
    simp only [Bool.or_eq_true, decide_eq_true_eq] at inside
    omega

theorem height_eq_zero_of_width (empty : canvas.width = 0) : canvas.height = 0 := by
  rw [height, Array.getD_eq_getD_getElem?, Array.getElem?_eq_none (by rw [width] at empty; omega)]
  rfl

theorem height_roomy (nonnegX : 0 ≤ x) (nonnegY : 0 ≤ y) :
    (canvas.roomy x y).height = max canvas.height (y + 1).toNat := by
  rw [roomy]
  split
  next =>
    have nonempty : 0 < (canvas.grow x y).width := by
      rw [width_grow]
      omega
    rw [height_grow canvas x y nonempty]
    rcases Nat.eq_zero_or_pos canvas.width with empty | positive
    · have cornerEq : canvas.corner.2 = 0 := by rw [corner, if_pos empty]
      rw [cornerEq, height_eq_zero_of_width empty]
      omega
    · rw [corner_of_pos canvas positive]
      omega
  next inside =>
    simp only [Bool.or_eq_true, decide_eq_true_eq] at inside
    omega

theorem width_draw (canvas : Canvas) (marks : List (Mark String)) :
    (canvas.draw marks).width = max canvas.width (Mark.needed Mark.x marks) := by
  induction marks generalizing canvas with
  | nil => exact (Nat.max_zero _).symm
  | cons mark rest ih =>
      rw [draw, List.foldl_cons, ← draw, ih]
      by_cases kept : mark.Kept
      · rw [width_put kept.1 kept.2, width_roomy kept.1, Mark.needed_cons_of_kept kept,
          Nat.max_assoc]
      · rw [put_of_neg (by rw [Mark.Kept] at kept; omega), Mark.needed_cons_of_not_kept kept]

theorem height_draw (canvas : Canvas) (marks : List (Mark String)) :
    (canvas.draw marks).height = max canvas.height (Mark.needed Mark.y marks) := by
  induction marks generalizing canvas with
  | nil => exact (Nat.max_zero _).symm
  | cons mark rest ih =>
      rw [draw, List.foldl_cons, ← draw, ih]
      by_cases kept : mark.Kept
      · rw [height_put kept.1 kept.2, height_roomy kept.1 kept.2,
          Mark.needed_cons_of_kept kept, Nat.max_assoc]
      · rw [put_of_neg (by rw [Mark.Kept] at kept; omega), Mark.needed_cons_of_not_kept kept]

theorem corner_draw (canvas : Canvas) (marks : List (Mark String)) :
    (canvas.draw marks).corner =
      (max canvas.corner.1 (Mark.needed Mark.x marks - 1),
        max canvas.corner.2 (Mark.needed Mark.y marks - 1)) := by
  have together := Mark.needed_eq_zero_iff marks
  have widthEq := width_draw canvas marks
  have heightEq := height_draw canvas marks
  rcases Nat.eq_zero_or_pos (canvas.draw marks).width with empty | positive
  · have nothing : canvas.width = 0 := by omega
    rw [corner, if_pos empty, corner, if_pos nothing]
    ext <;> simp only <;> omega
  · rw [corner_of_pos _ positive, corner]
    split
    next nothing =>
      have flat := height_eq_zero_of_width nothing
      ext <;> simp only <;> omega
    next => ext <;> simp only <;> omega

theorem even_ofCorner (x y : Int) : (ofCorner x y).Even :=
  even_ofSize _ _

theorem seen_draw_eq (even : canvas.Even) (marks : List (Mark String)) (column row : Nat) :
    (canvas.draw marks).seen column row =
      (Mark.lastIn? marks column row).getD (canvas.seen column row) := by
  induction marks generalizing canvas with
  | nil => rfl
  | cons mark rest ih =>
      rw [draw, List.foldl_cons, ← draw, ih (even_put even mark.x mark.y mark.ink),
        seen_put even]
      by_cases inCell : mark.At column row
      · rw [if_pos (show mark.x = column ∧ mark.y = row from inCell),
          Mark.lastIn?_cons_of_at inCell]
        cases Mark.lastIn? rest column row <;> rfl
      · rw [if_neg (show ¬ (mark.x = column ∧ mark.y = row) from inCell),
          Mark.lastIn?_cons_of_not_at inCell]

theorem get?_eq_seen (even : canvas.Even) (column row : Nat) :
    canvas.get? column row =
      if column < canvas.width ∧ row < canvas.height then some (canvas.seen column row)
      else none := by
  split
  next inside =>
    obtain ⟨content, contentEq⟩ := exists_get? even inside.1 inside.2
    rw [seen, contentEq, Option.getD_some]
  next outside => exact get?_eq_none_of_outside even (by omega)

/-- Canvases of one size that show the same are the same. -/
theorem eq_of_seen {other : Canvas} (even : canvas.Even) (otherEven : other.Even)
    (width : canvas.width = other.width) (height : canvas.height = other.height)
    (alike : canvas.SeenAlike other) : canvas = other := by
  apply eq_of_get? width
  intro column row
  rw [get?_eq_seen even, get?_eq_seen otherEven, width, height, alike column row]

theorem draw_swap (even : canvas.Even) {mark other : Mark String}
    (apart : ¬ (mark.x = other.x ∧ mark.y = other.y)) :
    canvas.draw [mark, other] = canvas.draw [other, mark] := by
  apply eq_of_seen (even_draw even _) (even_draw even _)
  · rw [width_draw, width_draw, Mark.needed_swap]
  · rw [height_draw, height_draw, Mark.needed_swap]
  · intro column row
    rw [seen_draw_eq even, seen_draw_eq even, Mark.lastIn?_swap apart]

theorem width_le_grow (canvas : Canvas) (x y : Int) : canvas.width ≤ (canvas.grow x y).width := by
  have cornerEq : canvas.corner.1 = (canvas.width : Int) - 1 := rfl
  rw [width_grow, cornerEq]
  omega

theorem height_le_grow (canvas : Canvas) (x y : Int) :
    canvas.height ≤ (canvas.grow x y).height := by
  rcases Nat.eq_zero_or_pos canvas.width with empty | positive
  · rw [height_eq_zero_of_width empty]
    exact Nat.zero_le _
  · have wider := width_le_grow canvas x y
    rw [height_grow canvas x y (by omega), corner_of_pos canvas positive]
    omega

theorem get?_grow_of_get? (even : canvas.Even) (x y : Int) {column row : Nat} {content : String}
    (held : canvas.get? column row = some content) :
    (canvas.grow x y).get? column row = some content := by
  obtain ⟨inWidth, inHeight⟩ := lt_of_get? even held
  have wider := width_le_grow canvas x y
  have higher := height_le_grow canvas x y
  rw [get?_eq_seen (even_grow canvas x y), if_pos (by omega), seen_grow even, seen, held,
    Option.getD_some]

theorem text_grow (even : canvas.Even) (x y : Int) : (canvas.grow x y).text = canvas.text :=
  SeenAlike.text_eq (seen_grow even x y) (even_grow canvas x y) even

/-- What can be done to a canvas. -/
inductive Edit where
  /-- Begin again with a blank canvas whose last cell is at a position. -/
  | restart (x y : Int)
  | put (x y : Int) (content : String)
  | grow (x y : Int)
  | caption (x y : Int) (text : String)
  | box (inks : BoxInks String) (x y width height : Int)

def Edit.apply (canvas : Canvas) : Edit → Canvas
  | .restart x y => ofCorner x y
  | .put x y content => canvas.put x y content
  | .grow x y => canvas.grow x y
  | .caption x y text => canvas.draw (Mark.ofCaption String.singleton x y text)
  | .box inks x y width height => canvas.draw (Mark.ofBox inks x y width height)

/-- The canvas that comes of the empty one. -/
def edited (edits : List Edit) : Canvas :=
  edits.foldl Edit.apply empty

theorem even_apply (even : canvas.Even) (edit : Edit) : (edit.apply canvas).Even := by
  cases edit with
  | restart x y => exact even_ofCorner x y
  | put x y content => exact even_put even x y content
  | grow x y => exact even_grow canvas x y
  | caption x y text => exact even_draw even _
  | box inks x y width height => exact even_draw even _

theorem even_foldl_apply (even : canvas.Even) (edits : List Edit) :
    (edits.foldl Edit.apply canvas).Even := by
  induction edits generalizing canvas with
  | nil => exact even
  | cons edit rest ih => exact ih (even_apply even edit)

theorem even_edited (edits : List Edit) : (edited edits).Even :=
  even_foldl_apply even_empty edits

/-- What marks make of a canvas: it is just large enough for them, and each of its cells
holds the last mark in it, else what it held before, else a blank. -/
structure LastWins (canvas : Canvas) (marks : List (Mark String)) : Prop where
  width_eq : (canvas.draw marks).width = max canvas.width (Mark.needed Mark.x marks)
  height_eq : (canvas.draw marks).height = max canvas.height (Mark.needed Mark.y marks)
  corner_eq : (canvas.draw marks).corner =
    (max canvas.corner.1 (Mark.needed Mark.x marks - 1),
      max canvas.corner.2 (Mark.needed Mark.y marks - 1))
  get?_eq : ∀ column row, (canvas.draw marks).get? column row =
    if column < (canvas.draw marks).width ∧ row < (canvas.draw marks).height then
      some (((Mark.lastIn? marks column row).or (canvas.get? column row)).getD blank)
    else none

theorem lastWins (even : canvas.Even) (marks : List (Mark String)) : canvas.LastWins marks where
  width_eq := width_draw canvas marks
  height_eq := height_draw canvas marks
  corner_eq := corner_draw canvas marks
  get?_eq column row := by
    rw [get?_eq_seen (even_draw even marks), seen_draw_eq even]
    cases Mark.lastIn? marks column row <;> rfl

/-- Whether a canvas is part of a larger one that shows nothing more. -/
structure Within (canvas larger : Canvas) : Prop where
  width_le : canvas.width ≤ larger.width
  height_le : canvas.height ≤ larger.height
  get?_eq : ∀ {column row content}, canvas.get? column row = some content →
    larger.get? column row = some content
  text_eq : larger.text = canvas.text

theorem within_grow (even : canvas.Even) (x y : Int) : canvas.Within (canvas.grow x y) where
  width_le := width_le_grow canvas x y
  height_le := height_le_grow canvas x y
  get?_eq := get?_grow_of_get? even x y
  text_eq := text_grow even x y

/-- Whatever was done to a canvas, its columns are all of one height and of any marks that
are made on it the last one in each cell wins; a mark at a negative position changes
nothing, marks in different cells may be made in either order, and growing shows nothing
more. -/
theorem edited_lastWins (edits : List Edit) :
    (edited edits).Even ∧
      (∀ marks, (edited edits).LastWins marks) ∧
      (∀ mark : Mark String, ¬ mark.Kept →
        (edited edits).put mark.x mark.y mark.ink = edited edits) ∧
      (∀ mark other : Mark String, ¬ (mark.x = other.x ∧ mark.y = other.y) →
        (edited edits).draw [mark, other] = (edited edits).draw [other, mark]) ∧
      ∀ x y, (edited edits).Within ((edited edits).grow x y) := by
  have even := even_edited edits
  refine ⟨even, lastWins even, fun mark dropped => ?_, fun mark other apart => ?_,
    within_grow even⟩
  · apply put_of_neg
    rw [Mark.Kept] at dropped
    omega
  · exact draw_swap even apart

/-- A canvas with columns but no cells, on which a caption begins left of the first
column. -/
def hollow : List Edit :=
  [.restart 2 (-1), .caption (-1) 0 "ab"]

theorem edited_lastWins_hollow :
    (edited hollow).put 3 (-2) "x" = edited hollow ∧
      (edited hollow).draw [⟨0, 1, "c"⟩, ⟨4, 0, "d"⟩] =
        (edited hollow).draw [⟨4, 0, "d"⟩, ⟨0, 1, "c"⟩] ∧
      ((edited hollow).draw [⟨0, 1, "c"⟩, ⟨4, 0, "d"⟩, ⟨0, 1, "e"⟩]).get? 0 1 = some "e" :=
  have facts := edited_lastWins hollow
  ⟨facts.2.2.1 ⟨3, -2, "x"⟩ (by decide), facts.2.2.2.1 ⟨0, 1, "c"⟩ ⟨4, 0, "d"⟩ (by decide),
    ((facts.2.1 _).get?_eq 0 1).trans (by decide +kernel)⟩

end Canvas

end Lifeline
