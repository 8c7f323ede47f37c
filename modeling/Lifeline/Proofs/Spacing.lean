import Lifeline.Measure
import Lifeline.Proofs.Placement
import Mathlib.Data.List.Permutation

/-!
# Captions across several lanes

The caption of a signal that passes over lanes is meant to fit between the lanes
of its ends.  Whether it does depends on the gap before the first of them: that gap
is counted as room for the caption, although it lies outside, and the gap before
the last lane, which lies between the two, is not counted.

So a caption fits exactly if the room that was counted without being there is made
up for by something else.  Where the first of three lanes has a wide head and the
last one a narrow head, nothing makes up for it.
-/

namespace Lifeline

namespace Gaps

theorem abs_position_sub {gaps : List Rat} (nonneg : ∀ index, 0 ≤ gap gaps index)
    (first second : Nat) :
    |position gaps second - position gaps first| =
      distance gaps (min first second) (max first second) := by
  rcases le_total first second with ordered | ordered
  · rw [min_eq_left ordered, max_eq_right ordered, position_sub_position gaps ordered]
    exact abs_of_nonneg (Finset.sum_nonneg fun index _ => nonneg index)
  · rw [min_eq_right ordered, max_eq_left ordered, abs_sub_comm,
      position_sub_position gaps ordered]
    exact abs_of_nonneg (Finset.sum_nonneg fun index _ => nonneg index)

end Gaps

namespace Diagram

variable {measure : Measurer Rat} {sizes : Sizes Rat} {diagram : Diagram Rat}

/-- Where a layout puts a signal: nowhere if one of its names means nothing, and
otherwise between the positions of its lanes. -/
theorem signal_of_layout (unplaced : Event.NonePlaced diagram.events) {signal : Signal}
    {place : SignalPlace Rat}
    (member :
      .signal signal place ∈ Event.flattenAll (diagram.layout measure sizes).1.events) :
    (diagram.directory.ends? signal.source signal.destination = none ∧
        place.placed = false) ∨
      ∃ source destination y,
        diagram.directory.ends? signal.source signal.destination =
            some (source, destination) ∧
          source.lane < diagram.actors.length ∧
          destination.lane < diagram.actors.length ∧
          place =
            { startX := some (Gaps.position (diagram.gaps measure sizes) source.lane)
              endX := some (Gaps.position (diagram.gaps measure sizes) destination.lane)
              startY := some y
              endY := some y
              width := some (measure signal.caption).width
              height := some (measure signal.caption).height } := by
  have same := (diagram.alike_laneDirectory measure sizes).map_ends? signal.source
    signal.destination
  obtain ⟨bottom, -, stand, -⟩ := stand_placement measure sizes unplaced
  have drawn : (Event.signal signal place).Drawn := trivial
  obtain ⟨above, below, stands⟩ := Event.stands_of_mem_all _ stand drawn member
  rw [Event.Stands] at stands
  unfold Signal.Stands at stands
  cases foundEq : (diagram.laneDirectory measure sizes).ends? signal.source
      signal.destination with
  | none =>
      rw [foundEq] at stands
      rw [foundEq, Option.map_none, Option.map_eq_none_iff] at same
      exact Or.inl ⟨same, stands.1⟩
  | some found =>
      obtain ⟨first, second⟩ := found
      rw [foundEq] at stands
      rw [foundEq, Option.map_some, Option.map_eq_some_iff] at same
      obtain ⟨⟨source, destination⟩, endsEq, lanesEq⟩ := same
      obtain ⟨sourceEq, destinationEq⟩ := Prod.mk.inj lanesEq
      obtain ⟨firstFound, secondFound⟩ := Directory.ends?_eq_some_iff.mp foundEq
      obtain ⟨firstX, firstLane⟩ := diagram.laneX_of_find? measure sizes firstFound
      obtain ⟨secondX, secondLane⟩ := diagram.laneX_of_find? measure sizes secondFound
      refine Or.inr ⟨source, destination, above, endsEq, ?_, ?_, ?_⟩
      · rwa [sourceEq]
      · rwa [destinationEq]
      · rw [stands.1, Signal.standing, firstX, secondX, sourceEq, destinationEq]

theorem exists_signal_of_wide (unplaced : Event.NonePlaced diagram.events)
    {need : Clearance Rat} (member : need ∈ diagram.clearances measure sizes)
    (wide : need.Wide) :
    ∃ signal place source destination,
      .signal signal place ∈ Event.flattenAll (diagram.layout measure sizes).1.events ∧
        diagram.directory.ends? signal.source signal.destination =
          some (source, destination) ∧
        need =
          ⟨source.lane, destination.lane,
            (measure signal.caption).width + 2 * sizes.padding⟩ := by
  obtain ⟨bottom, -, -, clearancesEq⟩ := stand_placement measure sizes unplaced
  rw [clearancesEq, List.mem_flatMap] at member
  obtain ⟨event, inRow, own⟩ := member
  cases event with
  | signal signal place =>
      rw [Event.ownClearances, Event.clearances] at own
      cases endsEq : diagram.directory.ends? signal.source signal.destination with
      | none => simp [endsEq] at own
      | some ends =>
          rw [endsEq, List.mem_singleton] at own
          exact ⟨signal, place, ends.1, ends.2, inRow, endsEq, own⟩
  | note note place =>
      rw [Event.ownClearances, Event.clearances] at own
      cases anchorEq : diagram.directory.anchor? note.location with
      | none => simp [anchorEq] at own
      | some entry =>
          rw [anchorEq, List.mem_singleton] at own
          have narrow : need.high ≤ need.low + 1 := by simp [own, Clearance.high, Clearance.low]
          exact absurd wide (by rw [Clearance.Wide]; omega)
  | conditional | synchrony | lifetime | numbering => cases own

theorem mem_clearances_of_signal (unplaced : Event.NonePlaced diagram.events)
    {signal : Signal} {place : SignalPlace Rat} {source destination : Entry Rat}
    (member :
      .signal signal place ∈ Event.flattenAll (diagram.layout measure sizes).1.events)
    (ends :
      diagram.directory.ends? signal.source signal.destination = some (source, destination)) :
    ⟨source.lane, destination.lane, (measure signal.caption).width + 2 * sizes.padding⟩ ∈
      diagram.clearances measure sizes := by
  obtain ⟨bottom, -, -, clearancesEq⟩ := stand_placement measure sizes unplaced
  rw [clearancesEq, List.mem_flatMap]
  refine ⟨_, member, ?_⟩
  rw [Event.ownClearances, Event.clearances, ends, List.mem_singleton]
  rfl

theorem high_lt_of_wide (unplaced : Event.NonePlaced diagram.events)
    {need : Clearance Rat} (member : need ∈ diagram.clearances measure sizes)
    (wide : need.Wide) : need.high < diagram.actors.length := by
  obtain ⟨signal, place, source, destination, -, ends, rfl⟩ :=
    exists_signal_of_wide unplaced member wide
  obtain ⟨sourceFound, destinationFound⟩ := Directory.ends?_eq_some_iff.mp ends
  exact max_lt (Directory.lane_lt_of_find? sourceFound)
    (Directory.lane_lt_of_find? destinationFound)

/-- Whether the caption of every placed signal that passes over lanes fits between
its lanes, with padding on either side. -/
def SpacesSignals (measure : Measurer Rat) (sizes : Sizes Rat) (diagram : Diagram Rat) :
    Prop :=
  ∀ signal place,
    .signal signal place ∈ Event.flattenAll (diagram.layout measure sizes).1.events →
    place.placed = true →
    ∃ source destination startX endX width,
      diagram.directory.ends? signal.source signal.destination =
          some (source, destination) ∧
        place.startX = some startX ∧ place.endX = some endX ∧ place.width = some width ∧
        (source.lane + 2 ≤ destination.lane ∨ destination.lane + 2 ≤ source.lane →
          width + 2 * sizes.padding ≤ |endX - startX|)

/-- Captions fit between their lanes exactly if every need across several lanes ends up
with its room. -/
theorem spacesSignals_iff_room_le (unplaced : Event.NonePlaced diagram.events)
    (nonneg : ∀ index, 0 ≤ Gaps.gap (diagram.gaps measure sizes) index) :
    diagram.SpacesSignals measure sizes ↔
      ∀ need ∈ diagram.clearances measure sizes, need.Wide →
        need.room ≤ Gaps.distance (diagram.gaps measure sizes) need.low need.high := by
  have between := Gaps.abs_position_sub nonneg
  constructor
  · intro spaced need member wide
    obtain ⟨signal, place, source, destination, inRow, ends, rfl⟩ :=
      exists_signal_of_wide unplaced member wide
    rcases signal_of_layout unplaced inRow with
      ⟨lost, -⟩ | ⟨first, second, y, sameEnds, -, -, rfl⟩
    · rw [ends] at lost
      cases lost
    · obtain ⟨_, _, startX, endX, width, otherEnds, startEq, endEq, widthEq, fits⟩ :=
        spaced signal _ inRow rfl
      rw [ends] at sameEnds otherEnds
      cases sameEnds
      cases otherEnds
      cases startEq
      cases endEq
      cases widthEq
      rw [between] at fits
      apply fits
      simp only [Clearance.Wide, Clearance.low, Clearance.high] at wide
      omega
  · intro met signal place member placed
    rcases signal_of_layout unplaced member with
      ⟨-, notPlaced⟩ | ⟨source, destination, y, ends, -, -, rfl⟩
    · rw [placed] at notPlaced
      cases notPlaced
    · refine ⟨source, destination, _, _, _, ends, rfl, rfl, rfl, fun apart => ?_⟩
      rw [between]
      apply met _ (mem_clearances_of_signal unplaced member ends)
      simp only [Clearance.Wide, Clearance.low, Clearance.high]
      omega

/-- Captions fit between their lanes exactly if every need across several lanes
makes up for the gap before its first lane. -/
theorem spacesSignals_iff (unplaced : Event.NonePlaced diagram.events)
    (padding : 0 ≤ sizes.padding) (widths : ∀ caption, 0 ≤ (measure caption).width) :
    diagram.SpacesSignals measure sizes ↔
      Gaps.EvensOut (diagram.besideGaps measure sizes)
        (diagram.clearances measure sizes) := by
  have inside : ∀ need ∈ diagram.clearances measure sizes, need.Wide →
      need.high < (diagram.besideGaps measure sizes).length := by
    intro need member wide
    have lane := high_lt_of_wide unplaced member wide
    rw [length_besideGaps]
    omega
  rw [Gaps.evensOut_iff inside]
  exact spacesSignals_iff_room_le unplaced (gap_nonneg padding widths)

/-- A signal from the first of three lanes over the second to the last. -/
def overSecond (first caption : String) : Diagram Rat where
  actors :=
    [Actor.declare .participant first, Actor.declare .participant "B",
      Actor.declare .participant "C"]
  events := [.signal { caption, source := first, destination := "C" } {}]

/-- Three heads of one width leave a caption its room. -/
theorem spacesSignals_overSecond :
    (overSecond "A" "over the lane of B").SpacesSignals Measurer.cells Sizes.cells := by
  have needsEq : (overSecond "A" "over the lane of B").clearances Measurer.cells Sizes.cells =
      [⟨0, 2, 20⟩] := by decide +kernel
  have gapsEq : (overSecond "A" "over the lane of B").besideGaps Measurer.cells Sizes.cells =
      [5 / 2, 5, 5, 5 / 2] := by decide +kernel
  have unplaced : Event.NonePlaced (overSecond "A" "over the lane of B").events := rfl
  refine (spacesSignals_iff unplaced (by decide) Measurer.width_cells_nonneg).mpr ?_
  rw [needsEq, gapsEq]
  intro before need after split wide
  cases before with
  | nil =>
      cases split
      have surplus := le_max_left 0 (Gaps.counted [5 / 2, 5, 5, 5 / 2] 0 2 - 20)
      norm_num [Gaps.gap, Gaps.totalGain, Clearance.low, Clearance.high]
      linarith only [surplus]
  | cons first rest => simp at split

def wideHead : String :=
  "participant AuthenticationService\nparticipant B\nparticipant C\n" ++
    "AuthenticationService->C: session token granted"

/-- The caption of twenty-one cells and its padding do not fit between lanes that
are twenty cells apart. -/
theorem not_spacesSignals_wideHead :
    Event.NonePlaced (Script.read wideHead : Diagram Rat).events ∧
      ¬ (Script.read wideHead).SpacesSignals Measurer.cells Sizes.cells := by
  have readEq : Script.read wideHead =
      overSecond "AuthenticationService" "session token granted" := by
    cbv
  rw [readEq]
  refine ⟨rfl, ?_⟩
  generalize diagramEq :
    overSecond "AuthenticationService" "session token granted" = diagram
  have unplaced : Event.NonePlaced diagram.events := by
    rw [← diagramEq]
    rfl
  have needed : ⟨0, 2, 23⟩ ∈ diagram.clearances Measurer.cells Sizes.cells := by
    rw [← diagramEq]
    decide +kernel
  have gapsEq : diagram.gaps Measurer.cells Sizes.cells = [25 / 2, 15, 5, 5 / 2] := by
    rw [← diagramEq]
    decide +kernel
  intro spaced
  rw [spacesSignals_iff_room_le unplaced
    (gap_nonneg (by decide) Measurer.width_cells_nonneg)] at spaced
  have enough := spaced _ needed (by decide)
  rw [gapsEq] at enough
  norm_num [Gaps.distance, Clearance.low, Clearance.high, Finset.sum_Ioc_succ_top, Gaps.gap]
    at enough

end Diagram

end Lifeline
