import Lifeline.Proofs.Boxes
import Lifeline.Proofs.Overprinting

/-!
# Nothing is clipped

A mark at a negative position is not made on a canvas.  In a drawing in text of a script
there are no such marks, so everything is drawn whole, unless the script has no actors and
the drawing no width.

All that might reach over the left edge are captions.  A caption over several lanes may be
wider than the distance of its lanes, and it is centred between them.  But what was missing
when its turn came was added in front of the further lane, so that lane stands at least as
far from the edge as the caption is wide.  Half of this is as far as the caption reaches to
the left of the middle.
-/

namespace Lifeline

namespace Gaps

theorem Grown.position_le {gaps wider : List Rat} (grown : Grown gaps wider) (lane : Nat) :
    position gaps lane ≤ position wider lane :=
  Finset.sum_le_sum fun index _ => grown.gap_le index

/-- Right after the turn of a need across several lanes there is room for it in front of
the further lane.  The gap before the first lane was counted for it and may be all there
is of that room, but it also stands in front of the further lane. -/
theorem room_le_position_widenAcross {gaps : List Rat} (nonneg : ∀ index, 0 ≤ gap gaps index)
    {need : Clearance Rat} (wide : need.Wide) (inside : need.high < gaps.length) :
    need.room ≤ position (widenAcross gaps need) need.high := by
  have ends := distance_add_gap gaps need.low_le_high
  have between := position_sub_position (widenAcross gaps need) need.low_le_high
  rw [distance_widenAcross gaps need inside, gain_self gaps wide] at between
  have front : gap gaps need.low ≤ position (widenAcross gaps need) need.low :=
    (gap_le_position nonneg need.low).trans ((grown_widenAcross gaps need).position_le need.low)
  have missing := le_max_right 0 (need.room - counted gaps need.low need.high)
  have last := nonneg need.high
  linarith

/-- Whatever lanes a need is for, in the end there is room for it in front of the further
one. -/
theorem room_le_position_settle {gaps : List Rat} (nonneg : ∀ index, 0 ≤ gap gaps index)
    {needs : List (Clearance Rat)} {need : Clearance Rat} (member : need ∈ needs)
    (inside : need.high < gaps.length) :
    need.room ≤ position (settle gaps needs) need.high := by
  have grown := grown_settle gaps needs
  by_cases wide : need.Wide
  · rw [settle]
    have beside : Grown gaps (needs.foldl widenBeside gaps) :=
      Grown.foldl grown_widenBeside needs gaps
    generalize needs.foldl widenBeside gaps = widened at beside
    obtain ⟨before, after, rfl⟩ := List.append_of_mem member
    have earlier : Grown widened (before.foldl widenAcross widened) :=
      Grown.foldl grown_widenAcross before widened
    have found := beside.trans earlier
    have met : need.room ≤
        position (widenAcross (before.foldl widenAcross widened) need) need.high :=
      room_le_position_widenAcross (fun index => (nonneg index).trans (found.gap_le index)) wide
        (by rwa [found.length])
    rw [List.foldl_append, List.foldl_cons]
    exact met.trans ((Grown.foldl grown_widenAcross after _).position_le need.high)
  · have met : need.room ≤ gap (settle gaps needs) need.high :=
      room_le_gap_settle member wide inside
    exact met.trans (gap_le_position (fun index => (nonneg index).trans (grown.gap_le index)) _)

end Gaps

theorem floor_nonneg {value : Rat} (nonneg : 0 ≤ value) : 0 ≤ floor value :=
  le_floor_iff.mpr (by exact_mod_cast nonneg)

namespace Signal

variable {signal : Signal} {place : SignalPlace Rat} {mark : Mark Ink} {startX endX : Rat}

theorem x_nonneg_of_mem_lineMarks (start : place.startX = some startX)
    (finish : place.endX = some endX) (startNonneg : 0 ≤ startX) (endNonneg : 0 ≤ endX)
    (member : mark ∈ signal.lineMarks place) : 0 ≤ mark.x := by
  have startCell := floor_nonneg startNonneg
  have endCell := floor_nonneg endNonneg
  simp only [lineMarks, start, finish, cell, Option.map_some, Option.getD_some] at member
  split at member
  · simp only [hookMarks, List.mem_cons, List.not_mem_nil, or_false] at member
    rcases member with rfl | rfl | rfl | rfl | rfl | rfl <;> simp only <;> omega
  · rw [arrowMarks, List.mem_append, List.mem_map, List.mem_singleton] at member
    rcases member with ⟨x, inRange, rfl⟩ | rfl
    · have bounds := Mark.mem_range.mp inRange
      simp only
      omega
    · split <;> simp only <;> omega

/-- A caption that fits in front of the further of its lanes begins on the canvas. -/
theorem captionX_nonneg (start : place.startX = some startX)
    (finish : place.endX = some endX) (width : place.width = some (signal.captionWidth : Rat))
    (startNonneg : 0 ≤ startX) (endNonneg : 0 ≤ endX)
    (room : (signal.captionWidth : Rat) ≤ max startX endX) :
    0 ≤ signal.captionX place := by
  by_cases self : startX = endX
  · subst self
    rw [max_self] at room
    have cells : (signal.captionWidth : Int) ≤ floor startX :=
      le_floor_iff.mpr (by exact_mod_cast room)
    rw [captionX_of_self start finish width]
    omega
  · -- The caption is centred, and both lanes together are at least as far as the one behind.
    have further : max startX endX ≤ startX + endX := max_le (by linarith) (by linarith)
    have halved : (floor ((signal.captionWidth : Rat) / 2) : Rat) ≤
        (signal.captionWidth : Rat) / 2 := le_floor_iff.mp (le_refl _)
    have middle : floor ((signal.captionWidth : Rat) / 2) ≤ floor ((startX + endX) / 2) := by
      rw [le_floor_iff]
      linarith
    rw [captionX_of_ne start finish width self]
    omega

theorem x_nonneg_of_mem_marks (start : place.startX = some startX)
    (finish : place.endX = some endX) (width : place.width = some (signal.captionWidth : Rat))
    (startNonneg : 0 ≤ startX) (endNonneg : 0 ≤ endX)
    (room : (signal.captionWidth : Rat) ≤ max startX endX)
    (member : mark ∈ signal.marks place) : 0 ≤ mark.x := by
  rw [marks_eq_append, List.mem_append] at member
  rcases member with inLine | inCaption
  · exact x_nonneg_of_mem_lineMarks start finish startNonneg endNonneg inLine
  · have begins := captionX_nonneg start finish width startNonneg endNonneg room
    exact begins.trans (x_of_mem_captionMarks inCaption).1

end Signal

theorem Note.x_nonneg_of_mem_marks {note : Note} {place : NotePlace Rat} {mark : Mark Ink}
    (corner : 0 ≤ cell place.x) (wide : 1 ≤ cell place.width)
    (margin : 0 ≤ floor place.textMarginX) (member : mark ∈ note.marks place) : 0 ≤ mark.x := by
  rw [Note.marks, List.mem_append] at member
  rcases member with inBox | inCaption
  · have bounds := Mark.x_of_mem_ofBox wide inBox
    omega
  · have bounds := (Mark.bounds_of_mem_ofCaption inCaption).2
    omega

theorem x_le_of_mem_bracketed {x y : Int} {caption : String} {mark : Mark Ink}
    (member : mark ∈ bracketed x y caption) : x ≤ mark.x := by
  rw [bracketed] at member
  split at member
  · cases member
  · exact (Mark.bounds_of_mem_ofCaption member).2.1

theorem Frame.x_nonneg_of_mem_marks {kind : ConditionalKind} {frame : Frame Rat}
    {mark : Mark Ink} (corner : 0 ≤ floor frame.x) (wide : 1 ≤ floor frame.width)
    (member : mark ∈ frame.marks kind) : 0 ≤ mark.x := by
  simp only [Frame.marks, List.mem_append, List.mem_map, List.mem_cons, List.not_mem_nil,
    or_false] at member
  rcases member with
    (((inBox | rfl | rfl | rfl) | ⟨step, inRange, rfl⟩) | rfl) | inKind
  · have bounds := Mark.x_of_mem_ofBox wide inBox
    omega
  · simp only
    omega
  · simp only
    omega
  · exact corner
  · have bounds := Mark.mem_range.mp inRange
    simp only
    omega
  · simp only
    omega
  · have bounds := (Mark.bounds_of_mem_ofCaption inKind).2
    omega

theorem Frame.x_nonneg_of_mem_headingMarks {frame : Frame Rat} {first : Bool} {y : Rat}
    {caption : String} {mark : Mark Ink} (corner : 0 ≤ floor frame.x)
    (member : mark ∈ frame.headingMarks first y caption) : 0 ≤ mark.x := by
  rw [Frame.headingMarks] at member
  cases first with
  | true =>
      have bound := x_le_of_mem_bracketed member
      omega
  | false =>
      simp only [Bool.false_eq_true, if_false, List.mem_append, List.mem_map] at member
      rcases member with ⟨step, inRange, rfl⟩ | inCaption
      · have bounds := Mark.mem_range.mp inRange
        simp only
        omega
      · have bound := x_le_of_mem_bracketed inCaption
        omega

section Trees

variable {lanes : Directory Rat} {measure : Measurer Rat} {sizes : Sizes Rat} {total : Rat}

mutual

/-- An event that stands in a drawing of some width is drawn on the canvas if the signals
and annotations in it are: its frames begin at the left edge. -/
theorem Event.x_nonneg_of_stands (event : Event Rat) {y bottom : Rat}
    (stands : event.Stands lanes measure sizes total y bottom) (wide : 1 ≤ floor total)
    (leaves : ∀ leaf ∈ event.flatten, leaf.Drawn → ∀ mark ∈ leaf.marks, 0 ≤ mark.x) :
    ∀ mark ∈ event.marks, 0 ≤ mark.x := by
  cases event with
  | signal | note => exact leaves _ (List.mem_singleton_self _) trivial
  | conditional kind frame cases =>
      rw [Event.Stands] at stands
      obtain ⟨frameEq, inner, stand, -⟩ := stands
      have corner : 0 ≤ floor frame.x := by
        rw [frameEq]
        exact floor_nonneg (le_refl 0)
      intro mark member
      rw [Event.marks_conditional, List.mem_append] at member
      rcases member with inFrame | inCases
      · exact Frame.x_nonneg_of_mem_marks corner (by rw [frameEq]; exact wide) inFrame
      · refine Case.x_nonneg_of_allStand cases frame true stand corner wide ?_ mark inCases
        exact fun leaf inside => leaves leaf (List.mem_cons_of_mem _ inside)
  | synchrony kind events =>
      rw [Event.Stands] at stands
      exact Event.x_nonneg_of_allStand events stands wide
        fun leaf inside => leaves leaf (List.mem_cons_of_mem _ inside)
  | lifetime | numbering => exact List.forall_mem_nil _
termination_by structural event

theorem Event.x_nonneg_of_allStand (events : List (Event Rat)) {y bottom : Rat}
    (stand : Event.AllStand lanes measure sizes total y bottom events) (wide : 1 ≤ floor total)
    (leaves : ∀ leaf ∈ Event.flattenAll events, leaf.Drawn → ∀ mark ∈ leaf.marks, 0 ≤ mark.x) :
    ∀ mark ∈ Event.allMarks events, 0 ≤ mark.x := by
  cases events with
  | nil => exact List.forall_mem_nil _
  | cons event rest =>
      rw [Event.AllStand] at stand
      obtain ⟨next, stands, others⟩ := stand
      rw [Event.flattenAll] at leaves
      rw [Event.allMarks_cons, List.forall_mem_append]
      exact ⟨Event.x_nonneg_of_stands event stands wide
          fun leaf inside => leaves leaf (List.mem_append_left _ inside),
        Event.x_nonneg_of_allStand rest others wide
          fun leaf inside => leaves leaf (List.mem_append_right _ inside)⟩
termination_by structural events

theorem Case.x_nonneg_of_allStand (cases : List (Case Rat (Event Rat))) (frame : Frame Rat)
    (first : Bool) {y bottom : Rat}
    (stand : Case.AllStand lanes measure sizes total y bottom cases)
    (corner : 0 ≤ floor frame.x) (wide : 1 ≤ floor total)
    (leaves : ∀ leaf ∈ Case.flatten cases, leaf.Drawn → ∀ mark ∈ leaf.marks, 0 ≤ mark.x) :
    ∀ mark ∈ Case.marks frame first cases, 0 ≤ mark.x := by
  cases cases with
  | nil => exact List.forall_mem_nil _
  | cons headed rest =>
      obtain ⟨caption, top, height, events⟩ := headed
      rw [Case.AllStand] at stand
      obtain ⟨next, -, inside, others⟩ := stand
      rw [Case.flatten] at leaves
      rw [Case.marks_cons, List.forall_mem_append, List.forall_mem_append]
      exact ⟨⟨fun mark => Frame.x_nonneg_of_mem_headingMarks corner,
          Event.x_nonneg_of_allStand events inside wide
            fun leaf inCase => leaves leaf (List.mem_append_left _ inCase)⟩,
        Case.x_nonneg_of_allStand rest frame false others corner wide
          fun leaf inRest => leaves leaf (List.mem_append_right _ inRest)⟩
termination_by structural cases

end

end Trees

namespace Diagram

variable {diagram : Diagram Rat}

/-- In front of one of its two lanes there is all the room that an event asked for. -/
theorem room_le_position {measure : Measurer Rat} {sizes : Sizes Rat}
    (padding : 0 ≤ sizes.padding) (widths : ∀ caption, 0 ≤ (measure caption).width)
    {first second : Nat} {room : Rat}
    (needed : ⟨first, second, room⟩ ∈ diagram.clearances measure sizes)
    (firstInside : first < diagram.actors.length)
    (secondInside : second < diagram.actors.length) :
    room ≤ max (Gaps.position (diagram.gaps measure sizes) first)
      (Gaps.position (diagram.gaps measure sizes) second) := by
  have front : room ≤ Gaps.position (diagram.gaps measure sizes) (max first second) := by
    have nonneg := Gaps.gap_ofWidths_nonneg (share_nonneg diagram padding widths)
    have inside : Clearance.high ⟨first, second, room⟩ <
        (Gaps.ofWidths sizes ((diagram.heads measure sizes).map Actor.width)).length := by
      rw [length_headGaps, Clearance.high]
      exact Nat.lt_succ_of_lt (max_lt firstInside secondInside)
    have enough := Gaps.room_le_position_settle nonneg needed inside
    rw [← gaps_eq_settle] at enough
    exact enough
  rcases max_choice first second with further | further
  · rw [further] at front
    exact front.trans (le_max_left _ _)
  · rw [further] at front
    exact front.trans (le_max_right _ _)

section Cells

theorem position_nonneg (lane : Nat) :
    0 ≤ Gaps.position (diagram.gaps Measurer.cells Sizes.cells) lane :=
  Finset.sum_nonneg fun index _ =>
    gap_nonneg Sizes.padding_cells_pos.le Measurer.width_cells_nonneg index

variable (diagram) in
theorem sideBySide_cells :
    Actor.SideBySide 1 (diagram.layout Measurer.cells Sizes.cells).2.width
      (diagram.layout Measurer.cells Sizes.cells).1.actors :=
  sideBySide Sizes.padding_cells_pos Measurer.width_cells_nonneg

variable (unplaced : Event.NonePlaced diagram.events)

include unplaced

theorem x_nonneg_of_placed_signal {signal : Signal} {place : SignalPlace Rat}
    (inside : .signal signal place ∈
      Event.flattenAll (diagram.layout Measurer.cells Sizes.cells).1.events)
    (placed : place.placed = true) {mark : Mark Ink} (member : mark ∈ signal.marks place) :
    0 ≤ mark.x := by
  obtain ⟨source, destination, sourceInside, destinationInside, joins, needed⟩ :=
    joins_of_placed unplaced inside placed
  have room := room_le_position Sizes.padding_cells_pos.le Measurer.width_cells_nonneg needed
    sourceInside destinationInside
  have fits : (signal.captionWidth : Rat) ≤ (Measurer.cells signal.caption : Extent Rat).width +
      2 * Sizes.cells.padding :=
    le_add_of_nonneg_right (mul_nonneg zero_le_two Sizes.padding_cells_pos.le)
  exact Signal.x_nonneg_of_mem_marks joins.startX joins.endX joins.width
    (position_nonneg source) (position_nonneg destination) (fits.trans room) member

theorem x_nonneg_of_placed_note {note : Note} {place : NotePlace Rat}
    (inside : .note note place ∈
      Event.flattenAll (diagram.layout Measurer.cells Sizes.cells).1.events)
    (placed : place.placed = true) {mark : Mark Ink} (member : mark ∈ note.marks place) :
    0 ≤ mark.x := by
  obtain ⟨entry, found, y, -, -, laneX, rfl⟩ := note_of_layout unplaced inside placed
  have margin : 0 ≤ floor (Sizes.cells : Sizes Rat).noteTextMarginX := by decide
  refine Note.x_nonneg_of_mem_marks ?_ ?_ margin member
  · have corner : 0 ≤ found.actor.laneX + Sizes.cells.noteMarginX := by
      rw [laneX]
      exact add_nonneg (position_nonneg entry.lane) (by decide)
    exact floor_nonneg corner
  · rw [Note.standing, Note.extent_cells, cell, Option.map_some, Option.getD_some,
      floor_natCast]
    omega

/-- Whatever is drawn for the events of a drawing with actors is drawn in columns and
rows of the canvas. -/
theorem nonneg_of_mem_events {actor : Actor Rat}
    (someone : actor ∈ (diagram.layout Measurer.cells Sizes.cells).1.actors) {mark : Mark Ink}
    (member : mark ∈ Event.allMarks (diagram.layout Measurer.cells Sizes.cells).1.events) :
    0 ≤ mark.x ∧ 0 ≤ mark.y := by
  have headed := headed_of_mem_layout someone
  constructor
  · obtain ⟨bottom, -, stand, -⟩ := stand_placement Measurer.cells Sizes.cells unplaced
    have wide : 1 ≤ floor (diagram.spread Measurer.cells Sizes.cells).2 := by
      have left := (sideBySide_cells diagram).left actor someone
      have right := (sideBySide_cells diagram).right actor someone
      have width := headed.two_le_width
      have total : (1 : Rat) ≤ (diagram.layout Measurer.cells Sizes.cells).2.width := by linarith
      exact le_floor_iff.mpr total
    refine Event.x_nonneg_of_allStand _ stand wide ?_ mark member
    intro leaf inside drawn mark member
    cases leaf with
    | signal signal place =>
        rw [Event.marks_signal] at member
        split at member
        case isTrue placed => exact x_nonneg_of_placed_signal unplaced inside placed member
        case isFalse => cases member
    | note note place =>
        rw [Event.marks_note] at member
        split at member
        case isTrue placed => exact x_nonneg_of_placed_note unplaced inside placed member
        case isFalse => cases member
    | conditional | synchrony | lifetime | numbering => exact drawn.elim
  · obtain ⟨highest, last, upper, rows⟩ := exists_rows unplaced
    have above := upper actor someone
    have height := headed.floor_height
    have below := rows.lower mark member
    omega

end Cells

/-- Nothing of an actor is drawn outside of the canvas. -/
theorem nonneg_of_mem_actor {actor : Actor Rat}
    (inside : actor ∈ (diagram.layout Measurer.cells Sizes.cells).1.actors) {mark : Mark Ink}
    (member : mark ∈ actor.marks) : 0 ≤ mark.x ∧ 0 ≤ mark.y := by
  have headed := headed_of_mem_layout inside
  constructor
  · have left := (sideBySide_cells diagram).left actor inside
    have width := headed.two_le_width
    have x := headed.x
    rcases headed.covers_of_mem_marks member with ⟨inBox, -⟩ | ⟨⟨inFigure, -⟩, -⟩
    · have positive : ((-1 : Int) : Rat) < mark.x := by
        push_cast
        linarith
      have cells : -1 < mark.x := by exact_mod_cast positive
      omega
    · have lane : 2 ≤ floor actor.laneX := by
        rw [le_floor_iff]
        push_cast
        linarith
      omega
  · rw [Actor.marks, List.mem_append] at member
    rcases member with inHead | inLifeline
    · have below := (headed.y_of_mem_headMarks inHead).1
      omega
    · rw [Actor.lifelineMarks, List.mem_map] at inLifeline
      obtain ⟨row, inRange, rfl⟩ := inLifeline
      have below := (Mark.mem_range.mp inRange).1
      have top := headed.floor_topY
      have height := headed.floor_height
      simp only
      omega

theorem actors_layout_ne_nil (someone : diagram.actors ≠ []) :
    (diagram.layout Measurer.cells Sizes.cells).1.actors ≠ [] := by
  intro none
  have captions := map_caption_layout Measurer.cells Sizes.cells diagram
  rw [none, List.map_nil, eq_comm, List.map_eq_nil_iff] at captions
  exact someone captions

theorem nonneg_of_mem_marks (unplaced : Event.NonePlaced diagram.events)
    (someone : diagram.actors ≠ []) {mark : Mark Ink}
    (member : mark ∈ (diagram.layout Measurer.cells Sizes.cells).1.marks) :
    0 ≤ mark.x ∧ 0 ≤ mark.y := by
  rw [marks, List.mem_append, List.mem_flatMap] at member
  rcases member with ⟨actor, inside, ofActor⟩ | ofEvents
  · exact nonneg_of_mem_actor inside ofActor
  · obtain ⟨actor, inside⟩ := List.exists_mem_of_ne_nil _ (actors_layout_ne_nil someone)
    exact nonneg_of_mem_events unplaced inside ofEvents

/-- The last mark in a cell of the canvas is the one that is seen. -/
theorem get?_canvas_of_last (style : Style) (extent : Extent Rat) {before after : List (Mark Ink)}
    {mark : Mark Ink} (marksEq : diagram.marks = before ++ mark :: after) {column row : Nat}
    (inCell : mark.At column row) (last : ∀ later ∈ after, ¬ later.At column row) :
    (diagram.canvas style extent).get? column row = some (mark.ink.text style) := by
  rw [canvas, marksEq, List.map_append, List.map_cons]
  have drawnInCell : (mark.map (Ink.text style)).At column row := inCell
  refine Canvas.get?_draw_of_last (Canvas.even_ofSize _ _) drawnInCell fun later member => ?_
  obtain ⟨inked, inAfter, rfl⟩ := List.mem_map.mp member
  exact last inked inAfter

/-- Whether a drawing is whole on a canvas: all its marks are made in cells, each such cell
holds one of them in the end, and every character of the caption of a signal is seen. -/
structure WholeOn (canvas : Canvas) (style : Style) (diagram : Diagram Rat) : Prop where
  inCells : ∀ mark ∈ diagram.marks, ∃ column row, mark.At column row
  held : ∀ mark ∈ diagram.marks, ∀ column row, mark.At column row →
    ∃ seen ∈ diagram.marks, seen.At column row ∧
      canvas.get? column row = some (seen.ink.text style)
  captions : ∀ signal place, .signal signal place ∈ Event.flattenAll diagram.events →
    place.placed = true → ∀ mark ∈ signal.captionMarks place, ∀ column row,
      mark.At column row → canvas.get? column row = some (mark.ink.text style)

/-- The caption of a signal is the last that is drawn in its cells. -/
theorem get?_canvas_of_caption (unplaced : Event.NonePlaced diagram.events) (style : Style)
    (extent : Extent Rat) {signal : Signal} {place : SignalPlace Rat}
    (inside : .signal signal place ∈
      Event.flattenAll (diagram.layout Measurer.cells Sizes.cells).1.events)
    (placed : place.placed = true) {mark : Mark Ink} (member : mark ∈ signal.captionMarks place)
    {column row : Nat} (inCell : mark.At column row) :
    ((diagram.layout Measurer.cells Sizes.cells).1.canvas style extent).get? column row =
      some (mark.ink.text style) := by
  obtain ⟨before, after, marksEq, lower⟩ := clearIn_marks_layout unplaced inside trivial
  rw [Event.marks_signal, if_pos placed, signal.marks_eq_append] at marksEq lower
  have apart := Mark.pairwise_ofCaption Ink.letter (signal.captionX place)
    (cell place.startY) signal.caption
  obtain ⟨front, back, captionEq⟩ := List.append_of_mem member
  have split : (diagram.layout Measurer.cells Sizes.cells).1.marks =
      (before ++ (signal.lineMarks place ++ front)) ++ mark :: (back ++ after) := by
    rw [marksEq, captionEq]
    simp only [List.append_assoc, List.cons_append]
  refine get?_canvas_of_last style extent split inCell fun later inRest laterInCell => ?_
  have sameX : mark.x = later.x := inCell.1.trans laterInCell.1.symm
  have sameY : mark.y = later.y := inCell.2.trans laterInCell.2.symm
  rcases List.mem_append.mp inRest with inBack | inAfter
  · rw [← written, ← Signal.captionMarks, captionEq, List.pairwise_append,
      List.pairwise_cons] at apart
    exact apart.2.1.1 later inBack sameX sameY
  · have below := lower mark (List.mem_append_right _ member) later inAfter
    omega

theorem whole_layout (unplaced : Event.NonePlaced diagram.events) (someone : diagram.actors ≠ [])
    (style : Style) (extent : Extent Rat) :
    (diagram.layout Measurer.cells Sizes.cells).1.WholeOn
      ((diagram.layout Measurer.cells Sizes.cells).1.canvas style extent) style := by
  constructor
  · intro mark member
    obtain ⟨x, y⟩ := nonneg_of_mem_marks unplaced someone member
    exact ⟨mark.x.toNat, mark.y.toNat, by omega, by omega⟩
  · intro mark member column row inCell
    obtain ⟨before, seen, after, marksEq, seenInCell, last⟩ :=
      Mark.exists_last_at ⟨mark, member, inCell⟩
    refine ⟨seen, ?_, seenInCell, get?_canvas_of_last style extent marksEq seenInCell last⟩
    rw [marksEq]
    exact List.mem_append_right _ List.mem_cons_self
  · intro signal place inside placed mark member column row inCell
    exact get?_canvas_of_caption unplaced style extent inside placed member inCell

end Diagram

namespace Script

/-- The drawing in text of a script with actors is read from a canvas on which it is
whole. -/
theorem textArt_unclipped (style : Style) (text : String)
    (someone : (Script.read text : Diagram Rat).actors ≠ []) :
    textArt (α := Rat) style text = (canvas style text).text ∧
      (inCells text).1.WholeOn (canvas style text) style := by
  constructor
  · have drawn := Diagram.actors_layout_ne_nil someone
    rw [textArt_eq_text_canvas, inCells, List.isEmpty_eq_false_iff.mpr drawn]
    rfl
  · exact Diagram.whole_layout (Script.nonePlaced_read text) someone style (inCells text).2

/-- Captions wider than all lanes together, in both directions and from a lane to itself,
a figure wider than its name, and a frame of two cases with an annotation. -/
def wideCaptions : String :=
  "actor I\nparticipant B\nI->C: a caption that is far wider than all its lanes\n" ++
    "C-->I: and back\nI->I: from the first lane to itself\nalt one way\n" ++
    "state over C: here\nelse\nB->C: another\nend"

theorem textArt_unclipped_wideCaptions :
    (Script.read wideCaptions : Diagram Rat).actors ≠ [] ∧
      textArt (α := Rat) .ascii wideCaptions = (canvas .ascii wideCaptions).text ∧
      (inCells wideCaptions).1.WholeOn (canvas .ascii wideCaptions) .ascii := by
  have someone : (Script.read wideCaptions : Diagram Rat).actors ≠ [] := by
    decide +kernel
  exact ⟨someone, textArt_unclipped .ascii wideCaptions someone⟩

end Script

end Lifeline
