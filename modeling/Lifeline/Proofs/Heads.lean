import Lifeline.Proofs.Lanes
import Lifeline.Proofs.Marks
import Mathlib.Tactic.Linarith
import Mathlib.Tactic.NormNum
import Mathlib.Tactic.Ring

/-!
# Heads side by side

In a drawing in cells the heads of the lifelines stand side by side in the rows
above all events.  Each gap between two lanes holds half of either head and a blank
column for each, and gaps only grow, so heads keep apart however many lanes there
are between them.

A stick figure is five cells wide, whatever its caption.  Above captions without
any characters two figures may meet: the right hand of one and the left hand of the
other are then in one cell, but hands look alike.
-/

namespace Lifeline

namespace Actor

/-- An actor with a head that was measured in cells around its lane. -/
structure Headed (actor : Actor Rat) : Prop where
  width : actor.width =
    ((Measurer.longest (Text.captionLines actor.caption.toList) + 2 : Nat) : Rat)
  height : actor.height =
    (((Text.captionLines actor.caption.toList).length + 2 +
      (if actor.kind = .actor then 1 else 0) : Nat) : Rat)
  x : actor.x = actor.laneX - actor.width / 2
  topY : actor.topY = 1

variable {actor : Actor Rat} {mark : Mark Ink}

namespace Headed

theorem two_le_width (headed : actor.Headed) : 2 ≤ actor.width := by
  rw [headed.width]
  push_cast
  have := Nat.cast_nonneg (α := Rat)
    (Measurer.longest (Text.captionLines actor.caption.toList))
  linarith

theorem floor_topY (headed : actor.Headed) : floor actor.topY = 1 := by
  rw [headed.topY]
  rfl

theorem floor_width (headed : actor.Headed) :
    floor actor.width =
      (Measurer.longest (Text.captionLines actor.caption.toList) + 2 : Nat) := by
  rw [headed.width, floor_natCast]

theorem floor_height (headed : actor.Headed) :
    floor actor.height =
      ((Text.captionLines actor.caption.toList).length + 2 +
        (if actor.kind = .actor then 1 else 0) : Nat) := by
  rw [headed.height, floor_natCast]

end Headed

theorem headMarks_of_actor (figure : actor.kind = .actor) :
    actor.headMarks =
      figureMarks (floor actor.laneX) (floor actor.topY) ++
        written (floor actor.x + 1) (floor actor.topY + 3) actor.caption := by
  rw [headMarks, figure]

theorem headMarks_of_box (box : actor.kind ≠ .actor) :
    actor.headMarks =
      Mark.ofBox (Ink.heavyBox .boxTopRight) (floor actor.x) (floor actor.topY)
          (floor actor.width) (floor actor.height) ++
        [⟨floor actor.laneX, floor actor.topY + floor actor.height - 1, .glyph .tee⟩] ++
        written (floor actor.x + 1) (floor actor.topY + 1) actor.caption := by
  rw [headMarks]
  cases kindEq : actor.kind with
  | actor => exact absurd kindEq box
  | participant | other => rfl

theorem bounds_of_mem_figureMarks {lane y : Int} (member : mark ∈ figureMarks lane y) :
    (y ≤ mark.y ∧ mark.y ≤ y + 2) ∧ (lane - 2 ≤ mark.x ∧ mark.x ≤ lane + 2) ∧
      (mark.x = lane - 2 ∨ mark.x = lane + 2 → mark.ink = .letter '.') := by
  simp only [figureMarks, Mark.ofLine, List.zipIdx_cons, List.zipIdx_nil, List.map_cons,
    List.map_nil, List.cons_append, List.nil_append, List.mem_cons, List.not_mem_nil,
    or_false] at member
  rcases member with rfl | rfl | rfl | rfl | rfl | rfl | rfl | rfl <;> simp <;> omega

/-- A head begins in row one and ends in the row that its height counts up to. -/
theorem Headed.y_of_mem_headMarks (headed : actor.Headed)
    (member : mark ∈ actor.headMarks) : 1 ≤ mark.y ∧ mark.y ≤ floor actor.height := by
  have top := headed.floor_topY
  have height := headed.floor_height
  by_cases figure : actor.kind = .actor
  · rw [if_pos figure] at height
    rw [headMarks_of_actor figure, List.mem_append] at member
    rcases member with inFigure | inCaption
    · have bounds := (bounds_of_mem_figureMarks inFigure).1
      have positive := Text.length_captionLines_pos actor.caption.toList
      omega
    · have bounds := (Mark.bounds_of_mem_ofCaption inCaption).1
      omega
  · rw [if_neg figure] at height
    rw [headMarks_of_box figure, List.mem_append, List.mem_append, List.mem_singleton]
      at member
    rcases member with (inBox | rfl) | inCaption
    · have bounds := Mark.y_of_mem_ofBox (by omega) inBox
      omega
    · simp only
      omega
    · have bounds := (Mark.bounds_of_mem_ofCaption inCaption).1
      omega

theorem Headed.bounds_of_inside (headed : actor.Headed) {column : Int}
    (lower : floor actor.x ≤ column) (upper : column < floor actor.x + floor actor.width) :
    actor.laneX - actor.width / 2 - 1 < column ∧
      (column : Rat) ≤ actor.laneX + actor.width / 2 - 1 := by
  have left : actor.x < ((column + 1 : Int) : Rat) := floor_lt_iff.mp (by omega)
  have right : ((column + 1 : Int) : Rat) ≤ (floor actor.x : Rat) + floor actor.width := by
    exact_mod_cast (by omega : column + 1 ≤ floor actor.x + floor actor.width)
  have corner : (floor actor.x : Rat) ≤ actor.x := le_floor_iff.mp (le_refl _)
  have width : (floor actor.width : Rat) ≤ actor.width := le_floor_iff.mp (le_refl _)
  have xEq := headed.x
  push_cast at left right
  constructor <;> linarith

theorem Headed.bounds_of_lane (headed : actor.Headed) :
    actor.laneX - actor.width / 2 - 1 < floor actor.laneX ∧
      (floor actor.laneX : Rat) ≤ actor.laneX + actor.width / 2 - 1 := by
  have left : actor.laneX < ((floor actor.laneX + 1 : Int) : Rat) :=
    floor_lt_iff.mp (by omega)
  have right : (floor actor.laneX : Rat) ≤ actor.laneX := le_floor_iff.mp (le_refl _)
  have width := headed.two_le_width
  push_cast at left
  constructor <;> linarith

/-- Whether a mark is in the columns of a head: those of a box around the lane, or those
of a figure, with a hand at either side. -/
def Covers (actor : Actor Rat) (mark : Mark Ink) : Prop :=
  (actor.laneX - actor.width / 2 - 1 < mark.x ∧
      (mark.x : Rat) ≤ actor.laneX + actor.width / 2 - 1) ∨
    ((floor actor.laneX - 2 ≤ mark.x ∧ mark.x ≤ floor actor.laneX + 2) ∧
      (mark.x = floor actor.laneX - 2 ∨ mark.x = floor actor.laneX + 2 →
        mark.ink = .letter '.'))

theorem Headed.covers_of_mem_headMarks (headed : actor.Headed)
    (member : mark ∈ actor.headMarks) : actor.Covers mark := by
  have width := headed.floor_width
  by_cases figure : actor.kind = .actor
  · rw [headMarks_of_actor figure, List.mem_append] at member
    rcases member with inFigure | inCaption
    · exact Or.inr (bounds_of_mem_figureMarks inFigure).2
    · have bounds := (Mark.bounds_of_mem_ofCaption inCaption).2
      exact Or.inl (headed.bounds_of_inside (by omega) (by omega))
  · rw [headMarks_of_box figure, List.mem_append, List.mem_append, List.mem_singleton]
      at member
    left
    rcases member with (inBox | rfl) | inCaption
    · have bounds := Mark.x_of_mem_ofBox (by omega) inBox
      exact headed.bounds_of_inside bounds.1 bounds.2
    · exact headed.bounds_of_lane
    · have bounds := (Mark.bounds_of_mem_ofCaption inCaption).2
      exact headed.bounds_of_inside (by omega) (by omega)

/-- A lifeline keeps to the column of its lane, which is one of its head's. -/
theorem Headed.covers_of_mem_marks (headed : actor.Headed) (member : mark ∈ actor.marks) :
    actor.Covers mark := by
  rw [marks, List.mem_append] at member
  rcases member with inHead | inLifeline
  · exact headed.covers_of_mem_headMarks inHead
  · rw [lifelineMarks, List.mem_map] at inLifeline
    obtain ⟨row, -, rfl⟩ := inLifeline
    exact Or.inl headed.bounds_of_lane

/-- Whether the heads of two actors, of which one stands further to the right, leave
room for each other. -/
def Apart (actor other : Actor Rat) : Prop :=
  actor.laneX + actor.width / 2 + other.width / 2 + 2 ≤ other.laneX

/-- What is drawn for an actor further to the right changes no head. -/
theorem Headed.harmless_of_apart {other : Actor Rat} (headed : actor.Headed)
    (otherHeaded : other.Headed) (apart : actor.Apart other)
    (member : mark ∈ actor.headMarks) {later : Mark Ink} (inOther : later ∈ other.marks)
    (same : mark.x = later.x) : mark.ink = later.ink := by
  have width := headed.two_le_width
  have otherWidth := otherHeaded.two_le_width
  have between : actor.laneX + actor.width / 2 + other.width / 2 + 2 ≤ other.laneX := apart
  have lanes : floor actor.laneX + 4 ≤ floor other.laneX := by
    rw [le_floor_iff]
    have lane : (floor actor.laneX : Rat) ≤ actor.laneX := le_floor_iff.mp (le_refl _)
    push_cast
    linarith
  have sameRat : (mark.x : Rat) = later.x := by rw [same]
  -- Boxes are a column apart from boxes and from figures, and figures may only touch.
  rcases headed.covers_of_mem_headMarks member with ⟨-, right⟩ | ⟨⟨-, right⟩, hand⟩
  · rcases otherHeaded.covers_of_mem_marks inOther with ⟨left, -⟩ | ⟨⟨left, -⟩, -⟩
    · linarith
    · have lane : other.laneX < ((later.x + 3 : Int) : Rat) := floor_lt_iff.mp (by omega)
      push_cast at lane
      linarith
  · rcases otherHeaded.covers_of_mem_marks inOther with ⟨left, -⟩ | ⟨⟨left, -⟩, otherHand⟩
    · have lane : ((mark.x - 2 : Int) : Rat) ≤ actor.laneX := le_floor_iff.mp (by omega)
      push_cast at lane
      linarith
    · -- Only hands can meet.
      rw [hand (by omega), otherHand (by omega)]

end Actor

namespace Diagram

variable {diagram : Diagram Rat}

theorem width_measured (actor : Actor Rat) :
    (actor.measured Measurer.cells Sizes.cells).width =
      ((Measurer.longest (Text.captionLines actor.caption.toList) + 2 : Nat) : Rat) := by
  rw [Nat.cast_add]
  simp [Actor.measured, Measurer.cells, Sizes.cells]

theorem height_measured (actor : Actor Rat) :
    (actor.measured Measurer.cells Sizes.cells).height =
      (((Text.captionLines actor.caption.toList).length + 2 +
        (if actor.kind = .actor then 1 else 0) : Nat) : Rat) := by
  rw [Nat.cast_add, Nat.cast_add]
  cases kindEq : actor.kind <;> simp [Actor.measured, Measurer.cells, Sizes.cells, kindEq]

theorem headed_of_mem_layout {actor : Actor Rat}
    (member : actor ∈ (diagram.layout Measurer.cells Sizes.cells).1.actors) :
    actor.Headed := by
  obtain ⟨lane, actorEq⟩ := List.mem_iff_getElem?.mp member
  rw [getElem?_layout, heads, List.getElem?_map, Option.map_map, Option.map_eq_some_iff]
    at actorEq
  obtain ⟨unmeasured, -, rfl⟩ := actorEq
  exact ⟨width_measured unmeasured, height_measured unmeasured, rfl, rfl⟩

theorem pairwise_apart_layout :
    (diagram.layout Measurer.cells Sizes.cells).1.actors.Pairwise Actor.Apart := by
  rw [List.pairwise_iff_getElem]
  intro first second firstInside secondInside ordered
  have firstEq := List.getElem?_eq_getElem firstInside
  have secondEq := List.getElem?_eq_getElem secondInside
  rw [getElem?_layout, Option.map_eq_some_iff] at firstEq secondEq
  obtain ⟨firstHead, firstHeadEq, firstEq⟩ := firstEq
  obtain ⟨secondHead, secondHeadEq, secondEq⟩ := secondEq
  have boxes := boxes_le_position_sub diagram Sizes.padding_cells_pos.le
    Measurer.width_cells_nonneg ordered
  rw [getD_share firstHeadEq, getD_share secondHeadEq, Sizes.padding_cells] at boxes
  rw [← firstEq, ← secondEq, Actor.Apart]
  simp only
  linarith

theorem foldl_larger {actors : List (Actor Rat)}
    (whole : ∀ actor ∈ actors, ∃ height : Nat, actor.height = height) (start : Nat) :
    ∃ highest : Nat,
      actors.foldl (fun height actor => larger height actor.height) (start : Rat) = highest ∧
        start ≤ highest ∧ ∀ actor ∈ actors, actor.height ≤ highest := by
  induction actors generalizing start with
  | nil => exact ⟨start, rfl, le_refl _, by simp⟩
  | cons actor rest ih =>
      obtain ⟨height, heightEq⟩ := whole actor List.mem_cons_self
      obtain ⟨highest, foldEq, fromStart, fromRest⟩ :=
        ih (fun other member => whole other (List.mem_cons_of_mem _ member)) (max start height)
      refine ⟨highest, ?_, by omega, fun other member => ?_⟩
      · rw [List.foldl_cons, larger_fraction, heightEq, ← Nat.cast_max, foldEq]
      · rcases List.mem_cons.mp member with rfl | member
        · rw [heightEq]
          exact_mod_cast le_trans (le_max_right start height) fromStart
        · exact fromRest other member

/-- The first events of a layout stand three rows below the highest head. -/
theorem exists_top (diagram : Diagram Rat) :
    ∃ highest : Int, diagram.top Measurer.cells Sizes.cells = ((highest + 3 : Int) : Rat) ∧
      ∀ actor ∈ (diagram.layout Measurer.cells Sizes.cells).1.actors,
        floor actor.height ≤ highest := by
  have whole : ∀ head ∈ diagram.heads Measurer.cells Sizes.cells,
      ∃ height : Nat, head.height = height := by
    intro head member
    rw [heads, List.mem_map] at member
    obtain ⟨actor, -, rfl⟩ := member
    exact ⟨_, height_measured actor⟩
  obtain ⟨highest, foldEq, -, upper⟩ := foldl_larger whole 0
  refine ⟨highest, ?_, fun actor member => ?_⟩
  · have highestEq : Actor.highest (diagram.heads Measurer.cells Sizes.cells) = highest :=
      foldEq
    rw [top, highestEq]
    push_cast
    simp [Sizes.cells]
    ring
  · obtain ⟨lane, actorEq⟩ := List.mem_iff_getElem?.mp member
    rw [getElem?_layout, Option.map_eq_some_iff] at actorEq
    obtain ⟨head, headEq, rfl⟩ := actorEq
    have bound := upper head (List.mem_of_getElem? headEq)
    have floorLe : (floor head.height : Rat) ≤ head.height := le_floor_iff.mp (le_refl _)
    exact_mod_cast floorLe.trans bound

end Diagram

end Lifeline
