import Lifeline.Proofs.Canvas
import Lifeline.Proofs.CheckedLayout
import Lifeline.TextArt
import Mathlib.Data.List.ProdSigma

/-!
# Canvases that look before they reach

A canvas is a grid of columns.  Here it is grown, written and read once more by steps
that fail wherever there is no such column, or no such cell in it.  Growing copies the
old cells one by one onto a larger blank canvas.

On an even canvas none of these steps fails, and drawings start on an even canvas and
stay on one.
-/

namespace Lifeline

theorem mapM_eq_some {σ ε : Type} {value : σ → ε} {value? : σ → Option ε} {elements : List σ}
    (agree : ∀ element ∈ elements, value? element = some (value element)) :
    elements.mapM value? = some (elements.map value) := by
  induction elements with
  | nil => rfl
  | cons element rest ih =>
      rw [List.mapM_cons, agree element List.mem_cons_self,
        ih fun other member => agree other (List.mem_cons_of_mem _ member)]
      rfl

namespace Canvas

/-- The height of the first column, if there is one. -/
def height? (canvas : Canvas) : Option Nat :=
  canvas.columns[0]?.map Array.size

/-- Write a cell that is there. -/
def set? (canvas : Canvas) (x y : Nat) (content : String) : Option Canvas :=
  (canvas.get? x y).map fun _ =>
    ⟨canvas.columns.modify x fun column => column.setIfInBounds y content⟩

/-- The positions of all cells, column by column. -/
def positions (canvas : Canvas) : List (Nat × Nat) :=
  List.range canvas.width ×ˢ List.range canvas.height

/-- The blank canvas that a canvas grows to. -/
def larger (canvas : Canvas) (x y : Int) : Canvas :=
  ofCorner (max x canvas.corner.1) (max y canvas.corner.2)

/-- Grow by copying every cell onto a larger blank canvas. -/
def grow? (canvas : Canvas) (x y : Int) : Option Canvas :=
  canvas.positions.foldlM
    (fun grown position =>
      (canvas.get? position.1 position.2).bind (grown.set? position.1 position.2))
    (canvas.larger x y)

def put? (canvas : Canvas) (x y : Int) (content : String) : Option Canvas :=
  if x < 0 || y < 0 then some canvas
  else
    let roomy :=
      if (canvas.width : Int) ≤ x then canvas.grow? x y
      else
        canvas.height?.bind fun height =>
          if (height : Int) ≤ y then canvas.grow? x y else some canvas
    roomy.bind fun roomy => roomy.set? x.toNat y.toNat content

def draw? (canvas : Canvas) (marks : List (Mark String)) : Option Canvas :=
  marks.foldlM (fun drawn mark => drawn.put? mark.x mark.y mark.ink) canvas

def row? (canvas : Canvas) (y : Nat) : Option (List Char) :=
  ((List.range canvas.width).mapM fun x => canvas.get? x y).map fun cells =>
    cells.flatMap String.toList

def text? (canvas : Canvas) : Option String :=
  if canvas.width = 0 then some ""
  else
    canvas.height?.bind fun height =>
      ((List.range height).mapM canvas.row?).map fun rows =>
        String.ofList
          ((['\n'].intercalate (rows.map Text.trimEnd)).reverse.dropWhile (· == '\n')).reverse

variable {canvas : Canvas} {x y : Int}

theorem get?_eq_none_of_outside (even : canvas.Even) {column row : Nat}
    (outside : canvas.width ≤ column ∨ canvas.height ≤ row) :
    canvas.get? column row = none := by
  cases held : canvas.get? column row with
  | none => rfl
  | some content =>
      have inside := lt_of_get? even held
      omega

theorem roomy_of_inside (canvas : Canvas) {x y : Int} (inWidth : x < canvas.width)
    (inHeight : y < canvas.height) :
    canvas.roomy x y = canvas := by
  rw [roomy, if_neg]
  simp only [Bool.or_eq_true, decide_eq_true_eq]
  omega

theorem set?_eq (even : canvas.Even) {column row : Nat} (inWidth : column < canvas.width)
    (inHeight : row < canvas.height) (content : String) :
    canvas.set? column row content = some (canvas.put column row content) := by
  obtain ⟨old, oldEq⟩ := exists_get? even inWidth inHeight
  rw [set?, oldEq, put_eq (by omega) (by omega), roomy_of_inside canvas (by omega) (by omega)]
  rfl

/-- Two canvases of one width are the same if their cells are. -/
theorem eq_of_get? {other : Canvas} (widthEq : canvas.width = other.width)
    (getEq : ∀ column row, canvas.get? column row = other.get? column row) :
    canvas = other := by
  obtain ⟨columns⟩ := canvas
  obtain ⟨others⟩ := other
  congr 1
  apply Array.ext widthEq
  intro column inFirst inSecond
  apply Array.ext_getElem?
  intro row
  have same := getEq column row
  rwa [get?, get?, Array.getElem?_eq_getElem inFirst, Array.getElem?_eq_getElem inSecond,
    Option.bind_some, Option.bind_some] at same

/-- The cells of a canvas as marks. -/
def copies (canvas : Canvas) : List (Mark String) :=
  canvas.positions.map fun position =>
    ⟨position.1, position.2, (canvas.get? position.1 position.2).getD blank⟩

theorem mem_positions {position : Nat × Nat} :
    position ∈ canvas.positions ↔
      position.1 < canvas.width ∧ position.2 < canvas.height := by
  rw [positions, List.mem_product, List.mem_range, List.mem_range]

theorem corner_of_pos (canvas : Canvas) (nonempty : 0 < canvas.width) :
    canvas.corner = ((canvas.width : Int) - 1, (canvas.height : Int) - 1) := by
  rw [corner, if_neg (by omega)]

theorem even_larger (canvas : Canvas) (x y : Int) : (canvas.larger x y).Even :=
  even_ofSize _ _

theorem width_larger (canvas : Canvas) (x y : Int) :
    (canvas.larger x y).width = (max x canvas.corner.1 + 1).toNat := by
  simp [larger, ofCorner, ofSize, width]

theorem height_larger (canvas : Canvas) (nonnegX : 0 ≤ x) (y : Int) :
    (canvas.larger x y).height = (max y canvas.corner.2 + 1).toNat := by
  have positive : 0 < (max x canvas.corner.1 + 1).toNat := by omega
  rw [larger, ofCorner, ofSize, height, Array.getD_eq_getD_getElem?,
    Array.getElem?_replicate, if_pos positive, Option.getD_some, Array.size_replicate]

theorem get?_larger {column row : Nat}
    (inWidth : column < (max x canvas.corner.1 + 1).toNat)
    (inHeight : row < (max y canvas.corner.2 + 1).toNat) :
    (canvas.larger x y).get? column row = some blank := by
  simp [larger, ofCorner, ofSize, get?, inWidth, inHeight]

/-- Whether a canvas is even and as large as the one that another grows to. -/
structure AsLarge (canvas : Canvas) (x y : Int) (grown : Canvas) : Prop where
  even : grown.Even
  width : grown.width = (canvas.larger x y).width
  height : grown.height = (canvas.larger x y).height

theorem asLarge_larger (canvas : Canvas) (x y : Int) :
    canvas.AsLarge x y (canvas.larger x y) :=
  ⟨even_larger canvas x y, rfl, rfl⟩

/-- Copy a cell of a canvas onto another one. -/
def copyCell (canvas grown : Canvas) (position : Nat × Nat) : Canvas :=
  grown.put position.1 position.2 ((canvas.get? position.1 position.2).getD blank)

theorem foldl_copyCell (canvas grown : Canvas) :
    canvas.positions.foldl canvas.copyCell grown = grown.draw canvas.copies := by
  rw [draw, copies, List.foldl_map]
  rfl

/-- A cell that is copied is there on both canvases. -/
theorem copyCell_of_asLarge (even : canvas.Even) (nonnegX : 0 ≤ x) {grown : Canvas}
    (large : canvas.AsLarge x y grown) {position : Nat × Nat}
    (member : position ∈ canvas.positions) :
    (canvas.get? position.1 position.2).bind (grown.set? position.1 position.2) =
        some (canvas.copyCell grown position) ∧
      canvas.AsLarge x y (canvas.copyCell grown position) := by
  obtain ⟨inWidth, inHeight⟩ := mem_positions.mp member
  obtain ⟨content, contentEq⟩ := exists_get? even inWidth inHeight
  have cornerEq := corner_of_pos canvas (by omega)
  have columnInside : position.1 < grown.width := by
    rw [large.width, width_larger, cornerEq]
    omega
  have rowInside : position.2 < grown.height := by
    rw [large.height, height_larger canvas nonnegX, cornerEq]
    omega
  have roomyEq : grown.roomy position.1 position.2 = grown :=
    roomy_of_inside grown (by omega) (by omega)
  refine ⟨?_, even_put large.even _ _ _, ?_, ?_⟩
  · rw [contentEq, Option.bind_some, set?_eq large.even columnInside rowInside, copyCell,
      contentEq, Option.getD_some]
  · rw [copyCell, width_put (by omega) (by omega), roomyEq, large.width]
  · rw [copyCell, height_put (by omega) (by omega), roomyEq, large.height]

theorem draw_copies_eq_grow (even : canvas.Even) (nonnegX : 0 ≤ x)
    (large : canvas.AsLarge x y ((canvas.larger x y).draw canvas.copies)) :
    (canvas.larger x y).draw canvas.copies = canvas.grow x y := by
  have evenLarger := even_larger canvas x y
  have widthEq := large.width
  have heightEq := large.height
  rw [width_larger] at widthEq
  rw [height_larger canvas nonnegX] at heightEq
  have nonempty : 0 < (canvas.grow x y).width := by
    rw [width_grow]
    omega
  apply eq_of_get? (by rw [widthEq, width_grow])
  intro column row
  by_cases inside :
      column < (max x canvas.corner.1 + 1).toNat ∧ row < (max y canvas.corner.2 + 1).toNat
  · rw [get?_grow canvas x y inside.1 inside.2]
    by_cases touched : ∃ mark ∈ canvas.copies, mark.At column row
    · obtain ⟨before, mark, after, copiesEq, inCell, last⟩ := Mark.exists_last_at touched
      have member : mark ∈ canvas.copies := by simp [copiesEq]
      rw [copiesEq, get?_draw_of_last evenLarger inCell last]
      rw [copies, List.mem_map] at member
      obtain ⟨position, -, rfl⟩ := member
      obtain ⟨columnEq, rowEq⟩ := inCell
      rw [Int.ofNat_inj.mp columnEq, Int.ofNat_inj.mp rowEq]
    · have outside : canvas.get? column row = none := by
        apply get?_eq_none_of_outside even
        by_contra within
        have member : (column, row) ∈ canvas.positions := mem_positions.mpr (by omega)
        exact touched ⟨_, List.mem_map_of_mem member, rfl, rfl⟩
      rw [outside, Option.getD_none]
      exact get?_draw_of_untouched evenLarger (get?_larger inside.1 inside.2)
        fun mark member inCell => touched ⟨mark, member, inCell⟩
  · rw [get?_eq_none_of_outside large.even (by omega),
      get?_eq_none_of_outside (even_grow canvas x y)]
    rw [width_grow, height_grow canvas x y nonempty]
    omega

theorem grow?_eq (even : canvas.Even) (nonnegX : 0 ≤ x) (y : Int) :
    canvas.grow? x y = some (canvas.grow x y) := by
  obtain ⟨copied, large⟩ :=
    foldlM_eq_some (canvas.AsLarge x y)
      (fun _ large _ member => copyCell_of_asLarge even nonnegX large member)
      (asLarge_larger canvas x y)
  rw [foldl_copyCell] at copied large
  rw [grow?, copied, draw_copies_eq_grow even nonnegX large]

theorem height?_of_pos (nonempty : 0 < canvas.width) :
    canvas.height? = some canvas.height := by
  rw [height?, height, Array.getD_eq_getD_getElem?, Array.getElem?_eq_getElem nonempty]
  rfl

theorem put?_eq (even : canvas.Even) (x y : Int) (content : String) :
    canvas.put? x y content = some (canvas.put x y content) := by
  by_cases negative : x < 0 ∨ y < 0
  · rw [put?, if_pos (by simpa using negative), put_of_neg negative]
  have nonnegX : 0 ≤ x := by omega
  have nonnegY : 0 ≤ y := by omega
  have grown := grow?_eq even nonnegX y
  have roomyEq :
      (if (canvas.width : Int) ≤ x then canvas.grow? x y
        else
          canvas.height?.bind fun height =>
            if (height : Int) ≤ y then canvas.grow? x y else some canvas) =
        some (canvas.roomy x y) := by
    rw [roomy]
    by_cases wide : (canvas.width : Int) ≤ x
    · simp [wide, grown]
    · rw [if_neg wide, height?_of_pos (by omega), Option.bind_some]
      by_cases high : (canvas.height : Int) ≤ y <;> simp [wide, high, grown]
  obtain ⟨inWidth, inHeight⟩ := inside_roomy canvas nonnegX nonnegY
  rw [put?, if_neg (by simpa using negative), roomyEq, Option.bind_some,
    set?, put_eq nonnegX nonnegY]
  obtain ⟨old, oldEq⟩ := exists_get? (even_roomy even x y)
    (show x.toNat < _ by omega) (show y.toNat < _ by omega)
  rw [oldEq]
  rfl

theorem draw?_eq (even : canvas.Even) (marks : List (Mark String)) :
    canvas.draw? marks = some (canvas.draw marks) :=
  (foldlM_eq_some Even
    (fun _ evenDrawn mark _ =>
      ⟨put?_eq evenDrawn mark.x mark.y mark.ink, even_put evenDrawn _ _ _⟩)
    even).1

theorem row?_eq (even : canvas.Even) {y : Nat} (inHeight : y < canvas.height) :
    canvas.row? y = some (canvas.row y) := by
  have cellEq : ∀ x ∈ List.range canvas.width,
      canvas.get? x y = some ((canvas.columns.getD x #[]).getD y "") := by
    intro x member
    have inWidth := List.mem_range.mp member
    obtain ⟨content, contentEq⟩ := exists_get? even inWidth inHeight
    rw [contentEq]
    rw [get?, Option.bind_eq_some_iff] at contentEq
    obtain ⟨column, columnEq, contentEq⟩ := contentEq
    simp only [Array.getD_eq_getD_getElem?, columnEq, contentEq, Option.getD_some]
  have columnsEq : (List.range canvas.width).map (canvas.columns.getD · #[]) =
      canvas.columns.toList := by
    apply List.ext_getElem
    · simp [width]
    · intro x inFirst inSecond
      simp only [List.length_map, List.length_range] at inFirst
      have inWidth : x < canvas.columns.size := inFirst
      simp [Array.getD, inWidth]
  rw [row?, mapM_eq_some cellEq, Option.map_some, row, ← columnsEq, List.flatMap_map,
    List.flatMap_map]

theorem text?_eq (even : canvas.Even) : canvas.text? = some canvas.text := by
  by_cases nonempty : 0 < canvas.width
  · have rowsEq : (List.range canvas.height).mapM canvas.row? =
        some ((List.range canvas.height).map canvas.row) :=
      mapM_eq_some fun y member => row?_eq even (List.mem_range.mp member)
    rw [text?, if_neg (by omega), height?_of_pos nonempty, Option.bind_some, rowsEq,
      Option.map_some, List.map_map, text, chars]
    rfl
  · have widthEq : canvas.width = 0 := by omega
    have columnsEq : canvas.columns = #[] := Array.size_eq_zero_iff.mp widthEq
    rw [text?, if_pos widthEq, text, chars, height, columnsEq]
    rfl

end Canvas

namespace Diagram

variable {α : Type} [Scalar α]

theorem even_startCanvas (extent : Extent α) : (startCanvas extent).Even :=
  Canvas.even_ofSize _ _

theorem markable_of_allComplete {diagram : Diagram α}
    (complete : Event.AllComplete diagram.events) : diagram.markable = true := by
  refine Event.allPlacedPass_mono (fun signal place whole => ?_) (fun _ _ _ => rfl)
    diagram.events complete
  rw [SignalPlace.complete] at whole
  rw [Signal.markable]
  simp_all

/-- A diagram as text, unless something that is placed cannot be drawn or a cell is missing
that is read or written. -/
def drawnText? (style : Style) (extent : Extent α) (diagram : Diagram α) : Option String :=
  if diagram.actors.isEmpty && diagram.events.isEmpty then some ""
  else if diagram.markable then
    ((startCanvas extent).draw? (diagram.marks.map (Mark.map (Ink.text style)))).bind
      Canvas.text?
  else none

theorem drawnText?_eq (style : Style) (extent : Extent α) {diagram : Diagram α}
    (markable : diagram.markable = true) :
    diagram.drawnText? style extent = some (diagram.textArt style extent) := by
  have even := even_startCanvas extent
  rw [drawnText?, textArt, if_pos markable]
  split
  · rfl
  · rw [Canvas.draw?_eq even, Option.bind_some,
      Canvas.text?_eq (Canvas.even_draw even _)]
    rfl

end Diagram

end Lifeline
