import Lifeline.Proofs.Marks
import Lifeline.Proofs.Outline
import Lifeline.Proofs.Spacing
import Mathlib.Tactic.Linarith

/-!
# Room between neighbouring lanes

What is drawn between two neighbouring lanes needs one gap, and so does a signal from
a lane to itself, which is written to the left of its lane.  Such a need is met when
its turn comes, and no gap is made narrower afterwards.  So unlike a caption across
several lanes, a caption beside one lane always fits.

In a drawing in cells the lanes may stand between two columns, and captions are
centred.  Still no character of a caption is written on a lifeline: the padding on
either side of the caption is enough for both roundings.
-/

namespace Lifeline

namespace Gaps

/-- A need of one gap raises the gap before the further one of its lanes. -/
theorem widenBeside_of_narrow {gaps : List Rat} {need : Clearance Rat}
    (narrow : ¬ need.Wide) : widenBeside gaps need = raise gaps need.high need.room := by
  have ordered := need.low_le_high
  have close : ¬ need.low + 1 < need.high := narrow
  change (if need.high = need.low + 1 then raise gaps need.high need.room
    else if need.high = need.low then raise gaps need.low need.room else gaps) = _
  split
  · rfl
  · rw [if_pos (by omega), show need.low = need.high by omega]

/-- Once its turn is over, a need of one gap is met for good. -/
theorem room_le_gap_settle {gaps : List Rat} {needs : List (Clearance Rat)}
    {need : Clearance Rat} (member : need ∈ needs) (narrow : ¬ need.Wide)
    (inside : need.high < gaps.length) :
    need.room ≤ gap (settle gaps needs) need.high := by
  obtain ⟨before, after, split⟩ := List.append_of_mem member
  have earlier : Grown gaps (before.foldl widenBeside gaps) :=
    Grown.foldl grown_widenBeside before gaps
  have met : need.room ≤
      gap (widenBeside (before.foldl widenBeside gaps) need) need.high := by
    rw [widenBeside_of_narrow narrow, gap_raise, if_pos ⟨rfl, by rwa [earlier.length]⟩]
    exact le_max_right _ _
  have later : Grown (widenBeside (before.foldl widenBeside gaps) need)
      (settle gaps needs) := by
    rw [settle, split, List.foldl_append (f := widenBeside), List.foldl_cons (f := widenBeside)]
    exact (Grown.foldl grown_widenBeside after _).trans (Grown.foldl grown_widenAcross _ _)
  exact met.trans (later.gap_le need.high)

theorem position_succ (gaps : List Rat) (lane : Nat) :
    position gaps (lane + 1) = position gaps lane + gap gaps (lane + 1) :=
  Finset.sum_range_succ _ _

end Gaps

theorem Actor.spread_snd (sizes : Sizes Rat) (position : Rat) (actors : List (Actor Rat))
    (gaps : List Rat) :
    (Actor.spread sizes position actors gaps).2 =
      position + ∑ index ∈ Finset.range actors.length, Gaps.gap gaps index := by
  induction actors generalizing position gaps with
  | nil => simp [Actor.spread]
  | cons actor rest ih =>
      rw [Actor.spread, List.length_cons, Gaps.sum_gap_succ, ← add_assoc]
      exact ih _ _

namespace Diagram

def laneX? (diagram : Diagram Rat) (lane : Nat) : Option Rat :=
  diagram.actors[lane]?.map Actor.laneX

/-- Where the lane to the left of a lane stands; zero to the left of the first. -/
def leftOf (diagram : Diagram Rat) : Nat → Rat
  | 0 => 0
  | lane + 1 => (diagram.laneX? lane).getD 0

def rightOf (diagram : Diagram Rat) (extent : Extent Rat) (lane : Nat) : Rat :=
  (diagram.laneX? (lane + 1)).getD extent.width

/-- The column of the lifeline to the left of a lane; column minus one to the left of
the first. -/
def columnLeftOf (diagram : Diagram Rat) : Nat → Int
  | 0 => -1
  | lane + 1 => ((diagram.laneX? lane).map floor).getD (-1)

variable {measure : Measurer Rat} {sizes : Sizes Rat} {diagram : Diagram Rat} {lane : Nat}

theorem laneX?_layout (inside : lane < diagram.actors.length) :
    (diagram.layout measure sizes).1.laneX? lane =
      some (Gaps.position (diagram.gaps measure sizes) lane) := by
  rw [laneX?, getElem?_layout, heads, List.getElem?_map, List.getElem?_eq_getElem inside]
  rfl

theorem leftOf_layout (inside : lane < diagram.actors.length) :
    (diagram.layout measure sizes).1.leftOf lane +
        Gaps.gap (diagram.gaps measure sizes) lane =
      Gaps.position (diagram.gaps measure sizes) lane := by
  cases lane with
  | zero => simp [leftOf, Gaps.position]
  | succ lane =>
      rw [leftOf, laneX?_layout (by omega), Option.getD_some, Gaps.position_succ]

theorem columnLeftOf_layout (inside : lane < diagram.actors.length) :
    (diagram.layout measure sizes).1.columnLeftOf lane ≤
      floor ((diagram.layout measure sizes).1.leftOf lane) := by
  cases lane with
  | zero =>
      change (-1 : Int) ≤ floor (0 : Rat)
      decide
  | succ lane =>
      rw [columnLeftOf, leftOf, laneX?_layout (by omega)]
      exact le_refl _

theorem width_layout :
    (diagram.layout measure sizes).2.width =
      Gaps.position (diagram.gaps measure sizes) diagram.actors.length := by
  change (diagram.spread measure sizes).2 = _
  rw [spread, Actor.spread_snd, ← Gaps.sum_gap_succ, heads, List.length_map, Gaps.position]

theorem rightOf_layout (inside : lane < diagram.actors.length) :
    (diagram.layout measure sizes).1.rightOf (diagram.layout measure sizes).2 lane =
      Gaps.position (diagram.gaps measure sizes) lane +
        Gaps.gap (diagram.gaps measure sizes) (lane + 1) := by
  rw [← Gaps.position_succ, rightOf]
  rcases Nat.lt_or_ge (lane + 1) diagram.actors.length with next | last
  · rw [laneX?_layout next, Option.getD_some]
  · have lastEq : lane + 1 = diagram.actors.length := by omega
    have none : (diagram.layout measure sizes).1.laneX? (lane + 1) = none := by
      rw [laneX?, getElem?_layout, heads, List.getElem?_map, List.getElem?_eq_none last]
      rfl
    rw [none, Option.getD_none, width_layout, lastEq]

/-- A signal between two lanes of a diagram that was laid out: where its ends are, and
how wide its caption is. -/
structure Joins (directory : Directory Rat) (laid : Diagram Rat) (signal : Signal)
    (place : SignalPlace Rat) (source destination : Nat) (startX endX width : Rat) :
    Prop where
  ends : (directory.ends? signal.source signal.destination).map
    (Prod.map Entry.lane Entry.lane) = some (source, destination)
  sourceX : laid.laneX? source = some startX
  destinationX : laid.laneX? destination = some endX
  startX : place.startX = some startX
  endX : place.endX = some endX
  width : place.width = some width

/-- An annotation beside a lane of a diagram that was laid out: where the lane and the
annotation are, and how wide its box is. -/
structure Accompanies (directory : Directory Rat) (laid : Diagram Rat) (note : Note)
    (place : NotePlace Rat) (lane : Nat) (laneX x width : Rat) : Prop where
  anchor : (directory.anchor? note.location).map Entry.lane = some lane
  laneX : laid.laneX? lane = some laneX
  x : place.x = some x
  width : place.width = some width

def Neighbouring (first second : Nat) : Prop :=
  second = first + 1 ∨ first = second + 1

/-- Whether whatever is placed beside one lane has its room in the layout of a diagram,
with padding on either side. -/
structure SpacesNeighbours (measure : Measurer Rat) (sizes : Sizes Rat)
    (diagram : Diagram Rat) : Prop where
  signal : ∀ signal place,
    .signal signal place ∈ Event.flattenAll (diagram.layout measure sizes).1.events →
    place.placed = true →
    ∃ source destination startX endX width,
      Joins diagram.directory (diagram.layout measure sizes).1 signal place source destination
          startX endX width ∧
        (Neighbouring source destination → width + 2 * sizes.padding ≤ |endX - startX|) ∧
        (source = destination →
          (diagram.layout measure sizes).1.leftOf source + (width + 2 * sizes.padding) ≤
            startX)
  note : ∀ note place,
    .note note place ∈ Event.flattenAll (diagram.layout measure sizes).1.events →
    place.placed = true →
    ∃ lane laneX x width,
      Accompanies diagram.directory (diagram.layout measure sizes).1 note place lane laneX x
          width ∧
        laneX + (width + 2 * sizes.padding) ≤
          (diagram.layout measure sizes).1.rightOf (diagram.layout measure sizes).2 lane ∧
        (0 ≤ sizes.noteMarginX → sizes.noteMarginX ≤ 2 * sizes.padding →
          laneX ≤ x ∧
            x + width ≤
              (diagram.layout measure sizes).1.rightOf (diagram.layout measure sizes).2 lane)

theorem room_le_gap {first second high : Nat} {room : Rat}
    (needed : ⟨first, second, room⟩ ∈ diagram.clearances measure sizes)
    (highEq : max first second = high) (close : high ≤ min first second + 1)
    (inside : high ≤ diagram.actors.length) :
    room ≤ Gaps.gap (diagram.gaps measure sizes) high := by
  subst highEq
  rw [gaps_eq_settle]
  apply Gaps.room_le_gap_settle needed close.not_gt
  rw [length_headGaps]
  exact Nat.lt_succ_of_le inside

/-- A signal between neighbouring lanes has its room in the gap between them. -/
theorem room_le_of_neighbouring {first second : Nat} {room : Rat}
    (needed : ⟨first, second, room⟩ ∈ diagram.clearances measure sizes)
    (firstInside : first < diagram.actors.length)
    (secondInside : second < diagram.actors.length)
    (neighbouring : Neighbouring first second) :
    room ≤ |Gaps.position (diagram.gaps measure sizes) second -
      Gaps.position (diagram.gaps measure sizes) first| := by
  rcases neighbouring with rfl | rfl
  · have met : room ≤ Gaps.gap (diagram.gaps measure sizes) (first + 1) :=
      room_le_gap needed (by omega) (by omega) secondInside.le
    rw [Gaps.position_succ, add_sub_cancel_left]
    exact met.trans (le_abs_self _)
  · have met : room ≤ Gaps.gap (diagram.gaps measure sizes) (second + 1) :=
      room_le_gap needed (by omega) (by omega) firstInside.le
    rw [abs_sub_comm, Gaps.position_succ, add_sub_cancel_left]
    exact met.trans (le_abs_self _)

theorem leftOf_add_room_le {lane : Nat} {room : Rat}
    (needed : ⟨lane, lane, room⟩ ∈ diagram.clearances measure sizes)
    (inside : lane < diagram.actors.length) :
    (diagram.layout measure sizes).1.leftOf lane + room ≤
      Gaps.position (diagram.gaps measure sizes) lane := by
  have met : room ≤ Gaps.gap (diagram.gaps measure sizes) lane :=
    room_le_gap needed (max_self lane) (by omega) inside.le
  rw [← leftOf_layout inside]
  linarith

theorem add_room_le_rightOf {lane : Nat} {room : Rat}
    (needed : ⟨lane, lane + 1, room⟩ ∈ diagram.clearances measure sizes)
    (inside : lane < diagram.actors.length) :
    Gaps.position (diagram.gaps measure sizes) lane + room ≤
      (diagram.layout measure sizes).1.rightOf (diagram.layout measure sizes).2 lane := by
  have met : room ≤ Gaps.gap (diagram.gaps measure sizes) (lane + 1) :=
    room_le_gap needed (by omega) (by omega) inside
  rw [rightOf_layout inside]
  linarith

theorem joins_of_placed (unplaced : Event.NonePlaced diagram.events) {signal : Signal}
    {place : SignalPlace Rat}
    (member :
      .signal signal place ∈ Event.flattenAll (diagram.layout measure sizes).1.events)
    (placed : place.placed = true) :
    ∃ source destination,
      source < diagram.actors.length ∧ destination < diagram.actors.length ∧
        Joins diagram.directory (diagram.layout measure sizes).1 signal place source destination
          (Gaps.position (diagram.gaps measure sizes) source)
          (Gaps.position (diagram.gaps measure sizes) destination)
          (measure signal.caption).width ∧
        ⟨source, destination, (measure signal.caption).width + 2 * sizes.padding⟩ ∈
          diagram.clearances measure sizes := by
  rcases signal_of_layout unplaced member with
    ⟨-, notPlaced⟩ | ⟨source, destination, y, ends, sourceInside, destinationInside, placeEq⟩
  · rw [placed] at notPlaced
    cases notPlaced
  · refine ⟨source.lane, destination.lane, sourceInside, destinationInside, ?_,
      mem_clearances_of_signal unplaced member ends⟩
    rw [placeEq]
    exact
      { ends := by rw [ends]; rfl
        sourceX := laneX?_layout sourceInside
        destinationX := laneX?_layout destinationInside
        startX := rfl
        endX := rfl
        width := rfl }

/-- A layout puts a placed annotation beside the lane that it is anchored to. -/
theorem note_of_layout (unplaced : Event.NonePlaced diagram.events) {note : Note}
    {place : NotePlace Rat}
    (member : .note note place ∈ Event.flattenAll (diagram.layout measure sizes).1.events)
    (placed : place.placed = true) :
    ∃ entry found y, diagram.directory.anchor? note.location = some entry ∧
      entry.lane < diagram.actors.length ∧
      found.actor.laneX = Gaps.position (diagram.gaps measure sizes) entry.lane ∧
      place = note.standing measure sizes found y := by
  have same := (diagram.alike_laneDirectory measure sizes).map_anchor? note.location
  obtain ⟨bottom, -, stand, -⟩ := stand_placement measure sizes unplaced
  have drawn : (Event.note note place).Drawn := trivial
  obtain ⟨above, below, stands⟩ := Event.stands_of_mem_all _ stand drawn member
  rw [Event.Stands] at stands
  unfold Note.Stands at stands
  cases foundEq : (diagram.laneDirectory measure sizes).anchor? note.location with
  | none =>
      rw [foundEq] at stands
      rw [stands.1] at placed
      cases placed
  | some found =>
      rw [foundEq] at stands
      rw [foundEq, Option.map_some, Option.map_eq_some_iff] at same
      obtain ⟨entry, anchorEq, laneEq⟩ := same
      obtain ⟨name, nameEq⟩ := Directory.exists_find?_of_anchor? foundEq
      obtain ⟨laneX, inside⟩ := diagram.laneX_of_find? measure sizes nameEq
      exact ⟨entry, found, above, anchorEq, by rwa [laneEq], by rwa [laneEq], stands.1⟩

theorem accompanies_of_placed (unplaced : Event.NonePlaced diagram.events) {note : Note}
    {place : NotePlace Rat}
    (member : .note note place ∈ Event.flattenAll (diagram.layout measure sizes).1.events)
    (placed : place.placed = true) :
    ∃ lane < diagram.actors.length,
      Accompanies diagram.directory (diagram.layout measure sizes).1 note place lane
          (Gaps.position (diagram.gaps measure sizes) lane)
          (Gaps.position (diagram.gaps measure sizes) lane + sizes.noteMarginX)
          (note.extent measure sizes).width ∧
        ⟨lane, lane + 1, (note.extent measure sizes).width + 2 * sizes.padding⟩ ∈
          diagram.clearances measure sizes := by
  obtain ⟨bottom, -, -, clearancesEq⟩ := stand_placement measure sizes unplaced
  obtain ⟨entry, found, y, anchorEq, inside, laneX, placeEq⟩ :=
    note_of_layout unplaced member placed
  refine ⟨entry.lane, inside, ?_, ?_⟩
  · rw [placeEq]
    exact
      { anchor := by rw [anchorEq]; rfl
        laneX := laneX?_layout inside
        x := by rw [← laneX]; rfl
        width := rfl }
  · rw [clearancesEq, List.mem_flatMap]
    refine ⟨_, member, ?_⟩
    rw [Event.ownClearances, Event.clearances, anchorEq, List.mem_singleton]
    rfl

theorem spacesNeighbours (measure : Measurer Rat) (sizes : Sizes Rat)
    (unplaced : Event.NonePlaced diagram.events) :
    diagram.SpacesNeighbours measure sizes := by
  constructor
  · intro signal place member placed
    obtain ⟨source, destination, sourceInside, destinationInside, joins, needed⟩ :=
      joins_of_placed unplaced member placed
    refine ⟨source, destination, _, _, _, joins, ?_, ?_⟩
    · exact room_le_of_neighbouring needed sourceInside destinationInside
    · rintro rfl
      exact leftOf_add_room_le needed sourceInside
  · intro note place member placed
    obtain ⟨lane, inside, accompanies, needed⟩ :=
      accompanies_of_placed unplaced member placed
    have room := add_room_le_rightOf needed inside
    refine ⟨lane, _, _, _, accompanies, room, fun margin bounded => ⟨?_, ?_⟩⟩
    · linarith
    · linarith

end Diagram

theorem floor_half_natCast (count : Nat) :
    floor ((count : Rat) / 2) = (count / 2 : Nat) := by
  have lower : 2 * (count / 2) ≤ count := by omega
  have upper : count < 2 * (count / 2) + 2 := by omega
  generalize count / 2 = whole at *
  have lowerRat : 2 * (whole : Rat) ≤ count := by exact_mod_cast lower
  have upperRat : (count : Rat) < 2 * whole + 2 := by exact_mod_cast upper
  apply le_antisymm
  · rw [← Int.lt_add_one_iff, floor_lt_iff]
    push_cast
    linarith
  · rw [le_floor_iff]
    push_cast
    linarith

/-- A text that is centred between two positions keeps off the columns of both, if
they have a cell on either side of it to spare. -/
theorem centred_between {left right : Rat} {width : Nat}
    (room : (width : Rat) + 2 ≤ right - left) :
    floor left < floor ((left + right) / 2) - floor ((width : Rat) / 2) ∧
      floor ((left + right) / 2) - floor ((width : Rat) / 2) + width ≤ floor right := by
  have leftCell : (floor left : Rat) ≤ left := le_floor_iff.mp (le_refl _)
  have rightCell : right < ((floor right + 1 : Int) : Rat) := floor_lt_iff.mp (by omega)
  have halfLower : 2 * (width / 2) ≤ width := by omega
  have halfUpper : width ≤ 2 * (width / 2) + 1 := by omega
  rw [floor_half_natCast]
  generalize width / 2 = halved at *
  have lowerRat : 2 * (halved : Rat) ≤ width := by exact_mod_cast halfLower
  have upperRat : (width : Rat) ≤ 2 * halved + 1 := by exact_mod_cast halfUpper
  have lower : floor left + 1 + halved ≤ floor ((left + right) / 2) := by
    rw [le_floor_iff]
    push_cast
    linarith
  have upper : floor ((left + right) / 2) < floor right + 1 - width + halved := by
    rw [floor_lt_iff]
    push_cast at rightCell ⊢
    linarith
  omega

namespace Signal

variable {signal : Signal} {place : SignalPlace Rat} {mark : Mark Ink}

def lineMarks (signal : Signal) (place : SignalPlace Rat) : List (Mark Ink) :=
  let y := cell place.startY + max (cell place.height) 1
  if signal.isSelf place then signal.hookMarks (cell place.startX) y
  else signal.arrowMarks (cell place.startX) (cell place.endX) y

/-- The cell that the caption of a signal begins in: so far to the left of its lane that
it ends there, or such that it is centred between two lanes. -/
def captionX (signal : Signal) (place : SignalPlace Rat) : Int :=
  if signal.isSelf place then cell place.startX - cellCeil place.width
  else
    floor (half (place.startX.getD zero + place.endX.getD zero)) -
      floor (half (place.width.getD zero))

def captionMarks (signal : Signal) (place : SignalPlace Rat) : List (Mark Ink) :=
  written (signal.captionX place) (cell place.startY) signal.caption

theorem marks_eq_append (signal : Signal) (place : SignalPlace Rat) :
    signal.marks place = signal.lineMarks place ++ signal.captionMarks place := by
  rw [marks, lineMarks, captionMarks, captionX]
  split <;> rfl

theorem isSelf_of_places {startX endX : Rat} (start : place.startX = some startX)
    (finish : place.endX = some endX) : signal.isSelf place = decide (startX = endX) := by
  rw [isSelf, start, finish]
  exact Bool.eq_iff_iff.mpr (by simp [BEq.beq])

def captionWidth (signal : Signal) : Nat :=
  Measurer.longest (Text.captionLines signal.caption.toList)

theorem x_of_mem_captionMarks (member : mark ∈ signal.captionMarks place) :
    signal.captionX place ≤ mark.x ∧
      mark.x < signal.captionX place + signal.captionWidth :=
  (Mark.bounds_of_mem_ofCaption member).2

theorem captionX_of_self {laneX : Rat} (start : place.startX = some laneX)
    (finish : place.endX = some laneX)
    (width : place.width = some (signal.captionWidth : Rat)) :
    signal.captionX place = floor laneX - signal.captionWidth := by
  have self : signal.isSelf place = true := by
    rw [isSelf_of_places start finish]
    exact decide_eq_true rfl
  have whole : ceil (signal.captionWidth : Rat) = signal.captionWidth :=
    Rat.ceil_intCast signal.captionWidth
  rw [captionX, self, if_pos rfl, start, width, cell, cellCeil, Option.map_some,
    Option.map_some, Option.getD_some, Option.getD_some, whole]

theorem captionX_of_ne {startX endX : Rat} (start : place.startX = some startX)
    (finish : place.endX = some endX)
    (width : place.width = some (signal.captionWidth : Rat)) (apart : startX ≠ endX) :
    signal.captionX place =
      floor ((startX + endX) / 2) - floor ((signal.captionWidth : Rat) / 2) := by
  have notSelf : signal.isSelf place = false := by
    rw [isSelf_of_places start finish]
    exact decide_eq_false apart
  rw [captionX, notSelf, start, finish, width]
  rfl

/-- Between two lanes with room for it a caption keeps off both columns. -/
theorem captionMarks_between {startX endX : Rat} (start : place.startX = some startX)
    (finish : place.endX = some endX) (width : place.width = some (signal.captionWidth : Rat))
    (room : (signal.captionWidth : Rat) + 2 ≤ |endX - startX|)
    (member : mark ∈ signal.captionMarks place) :
    min (floor startX) (floor endX) < mark.x ∧ mark.x < max (floor startX) (floor endX) := by
  have positive : (0 : Rat) ≤ signal.captionWidth := Nat.cast_nonneg _
  have apart : startX ≠ endX := by
    rintro rfl
    rw [sub_self, abs_zero] at room
    linarith
  have bounds := x_of_mem_captionMarks member
  rw [captionX_of_ne start finish width apart] at bounds
  rcases le_total startX endX with ordered | ordered
  · rw [abs_of_nonneg (by linarith)] at room
    have between := centred_between room
    omega
  · rw [abs_of_nonpos (by linarith)] at room
    have between := centred_between (show _ ≤ startX - endX by linarith)
    rw [add_comm endX startX] at between
    omega

/-- To the left of a lane with room for it a caption keeps off the column of the lane
and off that of any position in front of the room. -/
theorem captionMarks_left {laneX left : Rat} (start : place.startX = some laneX)
    (finish : place.endX = some laneX)
    (width : place.width = some (signal.captionWidth : Rat))
    (room : left + ((signal.captionWidth : Rat) + 2) ≤ laneX)
    (member : mark ∈ signal.captionMarks place) :
    floor left < mark.x ∧ mark.x < floor laneX := by
  have bounds := x_of_mem_captionMarks member
  have leftCell : floor left + (signal.captionWidth + 2 : Nat) ≤ floor laneX := by
    have cell : (floor left : Rat) ≤ left := le_floor_iff.mp (le_refl _)
    rw [le_floor_iff]
    push_cast
    linarith
  rw [captionX_of_self start finish width] at bounds
  push_cast at leftCell
  omega

end Signal

namespace Diagram

variable {diagram : Diagram Rat}

/-- Whether every placed signal is drawn as its line and its caption, and no character of
the caption stands on a lifeline beside it, when a diagram is laid out in cells. -/
def SeparatesCaptions (diagram : Diagram Rat) : Prop :=
  ∀ signal place,
    .signal signal place ∈
      Event.flattenAll (diagram.layout Measurer.cells Sizes.cells).1.events →
    place.placed = true →
    ∃ source destination startX endX width,
      Joins diagram.directory (diagram.layout Measurer.cells Sizes.cells).1 signal place source
          destination startX endX width ∧
        signal.marks place = signal.lineMarks place ++ signal.captionMarks place ∧
        (Neighbouring source destination → ∀ mark ∈ signal.captionMarks place,
          min (floor startX) (floor endX) < mark.x ∧
            mark.x < max (floor startX) (floor endX)) ∧
        (source = destination → ∀ mark ∈ signal.captionMarks place,
          (diagram.layout Measurer.cells Sizes.cells).1.columnLeftOf source < mark.x ∧
            mark.x < floor startX)

theorem separatesCaptions (unplaced : Event.NonePlaced diagram.events) :
    diagram.SeparatesCaptions := by
  intro signal place member placed
  obtain ⟨source, destination, sourceInside, destinationInside, joins, needed⟩ :=
    joins_of_placed unplaced member placed
  have roomEq : (Measurer.cells signal.caption : Extent Rat).width +
      2 * Sizes.cells.padding = (signal.captionWidth : Rat) + 2 := by
    simp [Measurer.cells, Sizes.cells, Signal.captionWidth]
  rw [roomEq] at needed
  refine ⟨source, destination, _, _, _, joins, signal.marks_eq_append place, ?_, ?_⟩
  · intro neighbouring mark inCaption
    exact Signal.captionMarks_between joins.startX joins.endX joins.width
      (room_le_of_neighbouring needed sourceInside destinationInside neighbouring) inCaption
  · rintro rfl mark inCaption
    have between := Signal.captionMarks_left joins.startX joins.endX joins.width
      (leftOf_add_room_le needed sourceInside) inCaption
    exact ⟨(columnLeftOf_layout sourceInside).trans_lt between.1, between.2⟩

/-- A layout leaves whatever is placed beside one lane its room, and in cells no caption
beside one lane is written on a lifeline. -/
theorem layout_spaces_neighbours (unplaced : Event.NonePlaced diagram.events) :
    (∀ measure sizes, diagram.SpacesNeighbours measure sizes) ∧ diagram.SeparatesCaptions :=
  ⟨fun measure sizes => spacesNeighbours measure sizes unplaced, separatesCaptions unplaced⟩

/-- Signals between neighbours and across lanes, from a lane to itself and notes at the
first and at the last lane, of which one is nested. -/
def besideLanes : String :=
  "participant A\nA->A: to itself\nA->B: a request of some length\nA->C: across\n" ++
    "C-->B: back\nopt maybe\nnote over C: at the end\nend\nnote left of A: first"

theorem layout_spaces_besideLanes :
    Event.NonePlaced (Script.read besideLanes : Diagram Rat).events ∧
      ((∀ measure sizes, (Script.read besideLanes).SpacesNeighbours measure sizes) ∧
        (Script.read besideLanes).SeparatesCaptions) :=
  ⟨Script.nonePlaced_read besideLanes,
    layout_spaces_neighbours (Script.nonePlaced_read besideLanes)⟩

end Diagram

end Lifeline
