import Lifeline.Proofs.Neighbours

/-!
# Boxes side by side

The gaps of a diagram first hold the boxes of its actors with padding on either side, and
they only grow.  So however much room the events ask for, the boxes of a layout stand side
by side inside the drawing, in the order of the actors and without touching.

With padding every box has some width, so no two lanes fall together.  That is what makes
positions as good as lanes: a signal ends where it starts exactly if both its names mean
actors of one lane.
-/

namespace Lifeline

namespace Actor

/-- Whether the boxes of actors stand side by side, from left to right, inside a drawing of
some width: each box around its lane, and padding on either side of it that no other box
and no edge of the drawing comes into. -/
structure SideBySide (padding total : Rat) (actors : List (Actor Rat)) : Prop where
  topY : ∀ actor ∈ actors, actor.topY = padding
  x : ∀ actor ∈ actors, actor.x = actor.laneX - actor.width / 2
  left : ∀ actor ∈ actors, padding ≤ actor.x
  right : ∀ actor ∈ actors, actor.x + actor.width + padding ≤ total
  apart : actors.Pairwise fun actor next => actor.x + actor.width + 2 * padding ≤ next.x
  ordered : actors.Pairwise fun actor next => actor.laneX < next.laneX

end Actor

namespace Diagram

variable {measure : Measurer Rat} {sizes : Sizes Rat} {diagram : Diagram Rat}

/-- An actor of a layout has the box that was measured for it, around its lane. -/
theorem exists_head_of_layout {lane : Nat} {actor : Actor Rat}
    (actorEq : (diagram.layout measure sizes).1.actors[lane]? = some actor) :
    ∃ head, (diagram.heads measure sizes)[lane]? = some head ∧ actor.width = head.width ∧
      actor.laneX = Gaps.position (diagram.gaps measure sizes) lane ∧
      actor.x = actor.laneX - actor.width / 2 ∧ actor.topY = sizes.padding := by
  rw [getElem?_layout, Option.map_eq_some_iff] at actorEq
  obtain ⟨head, headEq, rfl⟩ := actorEq
  exact ⟨head, headEq, rfl, rfl, rfl, rfl⟩

theorem map_caption_layout (measure : Measurer Rat) (sizes : Sizes Rat)
    (diagram : Diagram Rat) :
    (diagram.layout measure sizes).1.actors.map Actor.caption =
      diagram.actors.map Actor.caption := by
  rw [layout_actors, List.map_map]
  exact map_spread measure sizes diagram fun _ _ _ _ _ _ => rfl

theorem pairwise_boxes_layout (padding : 0 ≤ sizes.padding)
    (widths : ∀ caption, 0 ≤ (measure caption).width) :
    (diagram.layout measure sizes).1.actors.Pairwise fun actor next =>
      actor.x + actor.width + 2 * sizes.padding ≤ next.x := by
  rw [List.pairwise_iff_getElem]
  intro first second firstInside secondInside ordered
  obtain ⟨head, headEq, width, laneX, x, -⟩ :=
    exists_head_of_layout (List.getElem?_eq_getElem firstInside)
  obtain ⟨nextHead, nextEq, nextWidth, nextLaneX, nextX, -⟩ :=
    exists_head_of_layout (List.getElem?_eq_getElem secondInside)
  have boxes := boxes_le_position_sub diagram padding widths ordered
  rw [getD_share headEq, getD_share nextEq] at boxes
  rw [x, nextX, laneX, nextLaneX, width, nextWidth]
  linarith

theorem sideBySide (padding : 0 < sizes.padding)
    (widths : ∀ caption, 0 ≤ (measure caption).width) :
    Actor.SideBySide sizes.padding (diagram.layout measure sizes).2.width
      (diagram.layout measure sizes).1.actors := by
  have apart : (diagram.layout measure sizes).1.actors.Pairwise _ :=
    pairwise_boxes_layout padding.le widths
  have centred : ∀ actor ∈ (diagram.layout measure sizes).1.actors,
      actor.x = actor.laneX - actor.width / 2 ∧ 0 ≤ actor.width := by
    intro actor member
    obtain ⟨lane, actorEq⟩ := List.mem_iff_getElem?.mp member
    obtain ⟨head, headEq, width, -, x, -⟩ := exists_head_of_layout actorEq
    have wide := padding_le_width_of_head widths headEq
    exact ⟨x, by linarith⟩
  constructor
  · intro actor member
    obtain ⟨lane, actorEq⟩ := List.mem_iff_getElem?.mp member
    obtain ⟨head, -, -, -, -, topY⟩ := exists_head_of_layout actorEq
    exact topY
  · exact fun actor member => (centred actor member).1
  · intro actor member
    obtain ⟨lane, actorEq⟩ := List.mem_iff_getElem?.mp member
    obtain ⟨head, headEq, width, laneX, x, -⟩ := exists_head_of_layout actorEq
    have room := box_le_position padding.le widths headEq
    rw [x, laneX, width]
    linarith
  · intro actor member
    obtain ⟨lane, actorEq⟩ := List.mem_iff_getElem?.mp member
    obtain ⟨head, headEq, width, laneX, x, -⟩ := exists_head_of_layout actorEq
    have room := position_add_box_le padding.le widths headEq
    rw [x, laneX, width, width_layout]
    linarith
  · exact apart
  · -- Each lane stands within its box, so boxes that do not touch keep their lanes in order.
    refine apart.imp_of_mem fun {actor next} inside nextInside between => ?_
    obtain ⟨x, width⟩ := centred actor inside
    obtain ⟨nextX, nextWidth⟩ := centred next nextInside
    rw [x, nextX] at between
    linarith

/-- Lanes further to the right stand further to the right. -/
theorem position_lt_position (padding : 0 < sizes.padding)
    (widths : ∀ caption, 0 ≤ (measure caption).width) {first second : Nat}
    (ordered : first < second) (inside : second < diagram.actors.length) :
    Gaps.position (diagram.gaps measure sizes) first <
      Gaps.position (diagram.gaps measure sizes) second := by
  have inRow (lane : Nat) (inside : lane < diagram.actors.length) :
      ∃ actor, (diagram.layout measure sizes).1.actors[lane]? = some actor ∧
        actor.laneX = Gaps.position (diagram.gaps measure sizes) lane :=
    Option.map_eq_some_iff.mp (laneX?_layout inside)
  obtain ⟨actor, actorEq, laneX⟩ := inRow first (ordered.trans inside)
  obtain ⟨next, nextEq, nextLaneX⟩ := inRow second inside
  obtain ⟨firstInside, rfl⟩ := List.getElem?_eq_some_iff.mp actorEq
  obtain ⟨secondInside, rfl⟩ := List.getElem?_eq_some_iff.mp nextEq
  have lanes : Actor.SideBySide sizes.padding _ (diagram.layout measure sizes).1.actors :=
    sideBySide padding widths
  rw [← laneX, ← nextLaneX]
  exact List.pairwise_iff_getElem.mp lanes.ordered first second firstInside secondInside ordered

theorem position_eq_position_iff (padding : 0 < sizes.padding)
    (widths : ∀ caption, 0 ≤ (measure caption).width) {first second : Nat}
    (firstInside : first < diagram.actors.length)
    (secondInside : second < diagram.actors.length) :
    Gaps.position (diagram.gaps measure sizes) first =
        Gaps.position (diagram.gaps measure sizes) second ↔
      first = second := by
  refine ⟨fun same => ?_, fun same => same ▸ rfl⟩
  rcases lt_trichotomy first second with before | equal | behind
  · exact absurd same (position_lt_position padding widths before secondInside).ne
  · exact equal
  · exact absurd same (position_lt_position padding widths behind firstInside).ne'

/-- Whether a placed signal comes back to where it starts exactly if its names mean actors
of one lane. -/
def ReturnsByLane (measure : Measurer Rat) (sizes : Sizes Rat) (diagram : Diagram Rat) : Prop :=
  ∀ signal place,
    .signal signal place ∈ Event.flattenAll (diagram.layout measure sizes).1.events →
    place.placed = true →
    ∃ source destination,
      (diagram.directory.ends? signal.source signal.destination).map
          (Prod.map Entry.lane Entry.lane) = some (source, destination) ∧
        (signal.isSelf place = true ↔ source = destination)

theorem returnsByLane (padding : 0 < sizes.padding)
    (widths : ∀ caption, 0 ≤ (measure caption).width)
    (unplaced : Event.NonePlaced diagram.events) : diagram.ReturnsByLane measure sizes := by
  intro signal place member placed
  obtain ⟨source, destination, sourceInside, destinationInside, joins, -⟩ :=
    joins_of_placed unplaced member placed
  refine ⟨source, destination, joins.ends, ?_⟩
  rw [Signal.isSelf_of_places joins.startX joins.endX, decide_eq_true_iff]
  exact position_eq_position_iff padding widths sourceInside destinationInside

/-- The boxes of a layout stand side by side, one for each actor in order, and positions
tell signals that come back to their lane from all others. -/
theorem layout_sideBySide (padding : 0 < sizes.padding)
    (widths : ∀ caption, 0 ≤ (measure caption).width)
    (unplaced : Event.NonePlaced diagram.events) :
    (diagram.layout measure sizes).1.actors.map Actor.caption =
        diagram.actors.map Actor.caption ∧
      Actor.SideBySide sizes.padding (diagram.layout measure sizes).2.width
        (diagram.layout measure sizes).1.actors ∧
      diagram.ReturnsByLane measure sizes := by
  exact ⟨map_caption_layout measure sizes diagram, sideBySide padding widths,
    returnsByLane padding widths unplaced⟩

/-- Two actors of one caption, a nickname that two actors share, and signals between
neighbours, over a lane and from a lane to itself. -/
def namesakes : String :=
  "participant Alice as A\nactor Alice\nparticipant Bob as A\nA->Bob: by either name\n" ++
    "Carol->Alice: a caption that is much longer than the boxes\nopt now\nBob->Carol: on\nend"

theorem layout_sideBySide_namesakes :
    (0 : Rat) < (Sizes.cells : Sizes Rat).padding ∧
      (∀ caption, 0 ≤ (Measurer.cells caption : Extent Rat).width) ∧
      Event.NonePlaced (Script.read namesakes : Diagram Rat).events ∧
      Actor.SideBySide (Sizes.cells : Sizes Rat).padding
        ((Script.read namesakes : Diagram Rat).layout Measurer.cells Sizes.cells).2.width
        ((Script.read namesakes).layout Measurer.cells Sizes.cells).1.actors ∧
      (Script.read namesakes).ReturnsByLane Measurer.cells (Sizes.cells : Sizes Rat) := by
  have unplaced := Script.nonePlaced_read (α := Rat) namesakes
  exact ⟨Sizes.padding_cells_pos, Measurer.width_cells_nonneg, unplaced,
    (layout_sideBySide Sizes.padding_cells_pos Measurer.width_cells_nonneg unplaced).2⟩

end Diagram

end Lifeline
