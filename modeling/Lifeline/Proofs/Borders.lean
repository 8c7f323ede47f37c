import Lifeline.Proofs.Marks
import Lifeline.Proofs.Plane

/-!
# Boxes are drawn as frames

The border of a box is one cell thick: a corner of its own in each corner, one ink along its
upper and lower rows and another down its left and right columns.  No two of its marks that
are made in one cell differ, so the order in which they are made is not seen.

Drawn on a canvas a box leaves what is inside it and what is around it as it was, and the
canvas becomes just as large as it has to be to hold the box.
-/

namespace Lifeline

variable {β : Type}

namespace BoxInks

/-- The ink of a border in a cell that it goes through. -/
def inkAt (inks : BoxInks β) (x y width height column row : Int) : β :=
  if column = x then
    if row = y then inks.topLeft
    else if row = y + height - 1 then inks.bottomLeft
    else inks.down
  else if column = x + width - 1 then
    if row = y then inks.topRight
    else if row = y + height - 1 then inks.bottomRight
    else inks.down
  else inks.across

variable (inks : BoxInks β) {x y width height column row : Int}

theorem inkAt_topLeft (left : column = x) (top : row = y) :
    inks.inkAt x y width height column row = inks.topLeft := by
  rw [inkAt, if_pos left, if_pos top]

theorem inkAt_topRight (wide : 2 ≤ width) (right : column = x + width - 1) (top : row = y) :
    inks.inkAt x y width height column row = inks.topRight := by
  rw [inkAt, if_neg (by omega), if_pos right, if_pos top]

theorem inkAt_bottomLeft (high : 2 ≤ height) (left : column = x)
    (bottom : row = y + height - 1) :
    inks.inkAt x y width height column row = inks.bottomLeft := by
  rw [inkAt, if_pos left, if_neg (by omega), if_pos bottom]

theorem inkAt_bottomRight (wide : 2 ≤ width) (high : 2 ≤ height)
    (right : column = x + width - 1) (bottom : row = y + height - 1) :
    inks.inkAt x y width height column row = inks.bottomRight := by
  rw [inkAt, if_neg (by omega), if_pos right, if_neg (by omega), if_pos bottom]

theorem inkAt_across (left : column ≠ x) (right : column ≠ x + width - 1) :
    inks.inkAt x y width height column row = inks.across := by
  rw [inkAt, if_neg left, if_neg right]

theorem inkAt_down (side : column = x ∨ column = x + width - 1) (top : row ≠ y)
    (bottom : row ≠ y + height - 1) :
    inks.inkAt x y width height column row = inks.down := by
  by_cases left : column = x
  · rw [inkAt, if_pos left, if_neg top, if_neg bottom]
  · rw [inkAt, if_neg left, if_pos (side.resolve_left left), if_neg top, if_neg bottom]

end BoxInks

namespace Mark

variable {inks : BoxInks β} {x y width height column row : Int} {ink : β}

/-- Whether the border of a box goes through a cell. -/
def OnBorder (x y width height column row : Int) : Prop :=
  ((x ≤ column ∧ column < x + width) ∧ y ≤ row ∧ row < y + height) ∧
    (column = x ∨ column = x + width - 1 ∨ row = y ∨ row = y + height - 1)

/-- A box makes a mark in every cell of its border and nowhere else, with the ink of the
cell. -/
theorem mem_ofBox_iff (wide : 2 ≤ width) (high : 2 ≤ height) :
    ⟨column, row, ink⟩ ∈ ofBox inks x y width height ↔
      OnBorder x y width height column row ∧
        ink = inks.inkAt x y width height column row := by
  simp only [ofBox, List.mem_append, List.mem_flatMap, List.mem_cons, List.not_mem_nil,
    or_false, mem_range, mk.injEq]
  rw [OnBorder]
  constructor
  · rintro ((⟨step, bounds, ⟨rfl, rfl, rfl⟩ | ⟨rfl, rfl, rfl⟩⟩ |
      ⟨step, bounds, ⟨rfl, rfl, rfl⟩ | ⟨rfl, rfl, rfl⟩⟩) |
      ⟨rfl, rfl, rfl⟩ | ⟨rfl, rfl, rfl⟩ | ⟨rfl, rfl, rfl⟩ | ⟨rfl, rfl, rfl⟩)
    -- No side reaches into a corner.
    · exact ⟨by omega, (inks.inkAt_across (by omega) (by omega)).symm⟩
    · exact ⟨by omega, (inks.inkAt_across (by omega) (by omega)).symm⟩
    · exact ⟨by omega, (inks.inkAt_down (Or.inl rfl) (by omega) (by omega)).symm⟩
    · exact ⟨by omega, (inks.inkAt_down (Or.inr rfl) (by omega) (by omega)).symm⟩
    · exact ⟨by omega, (inks.inkAt_topLeft rfl rfl).symm⟩
    · exact ⟨by omega, (inks.inkAt_topRight wide rfl rfl).symm⟩
    · exact ⟨by omega, (inks.inkAt_bottomLeft high rfl rfl).symm⟩
    · exact ⟨by omega, (inks.inkAt_bottomRight wide high rfl rfl).symm⟩
  · rintro ⟨⟨inside, edge⟩, rfl⟩
    rw [BoxInks.inkAt]
    split_ifs with left top bottom right top bottom
    · exact Or.inr (Or.inl ⟨left, top, rfl⟩)
    · exact Or.inr (Or.inr (Or.inr (Or.inl ⟨left, bottom, rfl⟩)))
    · exact Or.inl (Or.inr ⟨row - y, by omega, Or.inl ⟨left, by omega, rfl⟩⟩)
    · exact Or.inr (Or.inr (Or.inl ⟨right, top, rfl⟩))
    · exact Or.inr (Or.inr (Or.inr (Or.inr ⟨right, bottom, rfl⟩)))
    · exact Or.inl (Or.inr ⟨row - y, by omega, Or.inr ⟨right, by omega, rfl⟩⟩)
    · have across : row = y ∨ row = y + height - 1 := by omega
      rcases across with top | bottom
      · exact Or.inl (Or.inl ⟨column - x, by omega, Or.inl ⟨by omega, top, rfl⟩⟩)
      · exact Or.inl (Or.inl ⟨column - x, by omega, Or.inr ⟨by omega, bottom, rfl⟩⟩)

theorem lastIn?_ofBox_of_onBorder (inks : BoxInks β) (wide : 2 ≤ width) (high : 2 ≤ height)
    {column row : Nat} (border : OnBorder x y width height column row) :
    lastIn? (ofBox inks x y width height) column row =
      some (inks.inkAt x y width height column row) := by
  apply lastIn?_eq_some
  · exact ⟨_, (mem_ofBox_iff wide high).mpr ⟨border, rfl⟩, rfl, rfl⟩
  · rintro ⟨_, _, ink⟩ member ⟨rfl, rfl⟩
    exact ((mem_ofBox_iff wide high).mp member).2

theorem lastIn?_ofBox_of_not_onBorder (inks : BoxInks β) (wide : 2 ≤ width)
    (high : 2 ≤ height) {column row : Nat}
    (elsewhere : ¬ OnBorder x y width height column row) :
    lastIn? (ofBox inks x y width height) column row = none := by
  apply lastIn?_eq_none
  rintro ⟨_, _, ink⟩ member ⟨rfl, rfl⟩
  exact elsewhere ((mem_ofBox_iff wide high).mp member).1

theorem needed_ofBox (inks : BoxInks β) (x y : Nat) {width height : Nat} (wide : 2 ≤ width)
    (high : 2 ≤ height) :
    needed Mark.x (ofBox inks x y width height) = x + width ∧
      needed Mark.y (ofBox inks x y width height) = y + height := by
  -- No mark is beyond the corner on the lower right.
  have corner :
      ⟨x + width - 1, y + height - 1, inks.bottomRight⟩ ∈ ofBox inks x y width height := by
    simp [ofBox]
  have kept : Kept (⟨x + width - 1, y + height - 1, inks.bottomRight⟩ : Mark β) := by
    constructor <;> simp only <;> omega
  constructor
  · apply le_antisymm
    · exact needed_le fun mark member => (x_of_mem_ofBox (by omega) member).2
    · have reach : _ ≤ needed Mark.x _ := le_needed corner kept
      simp only at reach
      omega
  · apply le_antisymm
    · exact needed_le fun mark member => (y_of_mem_ofBox (by omega) member).2
    · have reach : _ ≤ needed Mark.y _ := le_needed corner kept
      simp only at reach
      omega

end Mark

namespace Canvas

/-- Whether one canvas is another one with the border of a box drawn on it, and nothing
else. -/
structure Framed (before after : Canvas) (inks : BoxInks String) (x y width height : Nat) :
    Prop where
  even : after.Even
  width_eq : after.width = max before.width (x + width)
  height_eq : after.height = max before.height (y + height)
  topLeft : after.get? x y = some inks.topLeft
  topRight : after.get? (x + width - 1) y = some inks.topRight
  bottomLeft : after.get? x (y + height - 1) = some inks.bottomLeft
  bottomRight : after.get? (x + width - 1) (y + height - 1) = some inks.bottomRight
  across : ∀ column, x < column → column < x + width - 1 →
    after.get? column y = some inks.across ∧
      after.get? column (y + height - 1) = some inks.across
  down : ∀ row, y < row → row < y + height - 1 →
    after.get? x row = some inks.down ∧ after.get? (x + width - 1) row = some inks.down
  interior : ∀ column row, x < column → column < x + width - 1 → y < row →
    row < y + height - 1 → after.get? column row = some ((before.get? column row).getD blank)
  outside : ∀ column row, column < after.width → row < after.height →
    (column < x ∨ x + width ≤ column ∨ row < y ∨ y + height ≤ row) →
    after.get? column row = some ((before.get? column row).getD blank)

section Box

variable {canvas : Canvas} (even : canvas.Even) (inks : BoxInks String) (x y : Nat)
  {width height : Nat} (wide : 2 ≤ width) (high : 2 ≤ height)

include wide high in
theorem width_draw_ofBox :
    (canvas.draw (Mark.ofBox inks x y width height)).width = max canvas.width (x + width) := by
  rw [width_draw, (Mark.needed_ofBox inks x y wide high).1]

include wide high in
theorem height_draw_ofBox :
    (canvas.draw (Mark.ofBox inks x y width height)).height =
      max canvas.height (y + height) := by
  rw [height_draw, (Mark.needed_ofBox inks x y wide high).2]

include even wide high

theorem get?_draw_ofBox_of_onBorder {column row : Nat} {ink : String}
    (border : Mark.OnBorder x y width height column row)
    (inkEq : inks.inkAt x y width height column row = ink) :
    (canvas.draw (Mark.ofBox inks x y width height)).get? column row = some ink := by
  have inside : column < (canvas.draw (Mark.ofBox inks x y width height)).width ∧
      row < (canvas.draw (Mark.ofBox inks x y width height)).height := by
    obtain ⟨inBox, -⟩ := border
    rw [width_draw_ofBox inks x y wide high, height_draw_ofBox inks x y wide high]
    omega
  rw [get?_eq_seen (even_draw even _), if_pos inside, seen_draw_eq even,
    Mark.lastIn?_ofBox_of_onBorder inks (by omega) (by omega) border, Option.getD_some, inkEq]

theorem get?_draw_ofBox_of_not_onBorder {column row : Nat}
    (inside : column < max canvas.width (x + width) ∧ row < max canvas.height (y + height))
    (elsewhere : ¬ Mark.OnBorder x y width height column row) :
    (canvas.draw (Mark.ofBox inks x y width height)).get? column row =
      some ((canvas.get? column row).getD blank) := by
  rw [← width_draw_ofBox inks x y wide high, ← height_draw_ofBox inks x y wide high] at inside
  rw [get?_eq_seen (even_draw even _), if_pos inside, seen_draw_eq even,
    Mark.lastIn?_ofBox_of_not_onBorder inks (by omega) (by omega) elsewhere, Option.getD_none,
    seen]

/-- On any canvas whose columns are of one height, a box of at least two columns and two
rows is drawn as its border, and as nothing else. -/
theorem framed_draw_ofBox :
    canvas.Framed (canvas.draw (Mark.ofBox inks x y width height)) inks x y width height := by
  have drawn {column row : Nat} {ink : String} :
      Mark.OnBorder x y width height column row →
        inks.inkAt x y width height column row = ink →
        (canvas.draw (Mark.ofBox inks x y width height)).get? column row = some ink :=
    get?_draw_ofBox_of_onBorder even inks x y wide high
  have kept {column row : Nat} :
      column < max canvas.width (x + width) ∧ row < max canvas.height (y + height) →
        ¬ Mark.OnBorder x y width height column row →
        (canvas.draw (Mark.ofBox inks x y width height)).get? column row =
          some ((canvas.get? column row).getD blank) :=
    get?_draw_ofBox_of_not_onBorder even inks x y wide high
  simp only [Mark.OnBorder] at drawn kept
  exact
    { even := even_draw even _
      width_eq := width_draw_ofBox inks x y wide high
      height_eq := height_draw_ofBox inks x y wide high
      topLeft := drawn (by omega) (inks.inkAt_topLeft rfl rfl)
      topRight := drawn (by omega) (inks.inkAt_topRight (by omega) (by omega) rfl)
      bottomLeft := drawn (by omega) (inks.inkAt_bottomLeft (by omega) rfl (by omega))
      bottomRight := drawn (by omega)
        (inks.inkAt_bottomRight (by omega) (by omega) (by omega) (by omega))
      across := fun column behind before =>
        ⟨drawn (by omega) (inks.inkAt_across (by omega) (by omega)),
          drawn (by omega) (inks.inkAt_across (by omega) (by omega))⟩
      down := fun row below above =>
        ⟨drawn (by omega) (inks.inkAt_down (Or.inl rfl) (by omega) (by omega)),
          drawn (by omega) (inks.inkAt_down (Or.inr (by omega)) (by omega) (by omega))⟩
      interior := fun column row behind before below above => kept (by omega) (by omega)
      outside := fun column row inWidth inHeight beyond => by
        rw [width_draw_ofBox inks x y wide high] at inWidth
        rw [height_draw_ofBox inks x y wide high] at inHeight
        exact kept ⟨inWidth, inHeight⟩ (by omega) }

end Box

/-- Two characters, of which a box reaching out of the canvas is drawn around one. -/
def lettered : Canvas :=
  ((ofSize 3 2).put 2 1 "a").put 0 1 "b"

theorem framed_draw_ofBox_lettered :
    let inks : BoxInks String := ⟨"-", "|", "1", "2", "3", "4"⟩
    let drawn := lettered.draw (Mark.ofBox inks (1 : Nat) (0 : Nat) (3 : Nat) (3 : Nat))
    lettered.Even ∧ 2 ≤ 3 ∧ lettered.Framed drawn inks 1 0 3 3 ∧ drawn.width = 4 ∧
      drawn.get? 2 1 = some "a" ∧ drawn.get? 3 1 = some "|" := by
  intro inks drawn
  have even : lettered.Even := even_put (even_put (even_ofSize 3 2) 2 1 "a") 0 1 "b"
  have framed : lettered.Framed drawn inks 1 0 3 3 :=
    framed_draw_ofBox even inks 1 0 (by decide) (by decide)
  refine ⟨even, by decide, framed, framed.width_eq.trans (by decide), ?_,
    (framed.down 1 (by decide) (by decide)).2⟩
  exact (framed.interior 2 1 (by decide) (by decide) (by decide) (by decide)).trans (by decide)

end Canvas

end Lifeline
