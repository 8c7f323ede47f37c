import Lifeline.Proofs.Flattening
import Lifeline.Proofs.Lanes
import Mathlib.Tactic.Ring

/-!
# Where events stand

Placing measured events moves a cursor down past them.  What this comes to is
said here once, as a relation between the positions above and below events: a
signal or an annotation whose names resolve has its whole place, a conditional has
its frame and its cases one below the other, and whatever does not resolve is not
drawn.

The relation is stated of the events as they are after the layout, so nothing that
is proved from it mentions how they were placed.
-/

namespace Lifeline

variable {α : Type} [Scalar α]

section Standing

variable (directory : Directory α) (measure : Measurer α) (sizes : Sizes α) (total : α)

def Signal.standing (signal : Signal) (source destination : Entry α) (y : α) :
    SignalPlace α where
  startX := some source.actor.laneX
  endX := some destination.actor.laneX
  startY := some y
  endY := some y
  width := some (measure signal.caption).width
  height := some (measure signal.caption).height

def Note.standing (note : Note) (entry : Entry α) (y : α) : NotePlace α where
  x := some (entry.actor.laneX + sizes.noteMarginX)
  y := some y
  width := some (note.extent measure sizes).width
  height := some (note.extent measure sizes).height
  textMarginX := sizes.noteTextMarginX
  textMarginY := sizes.noteTextMarginY

/-- A signal between two positions. -/
def Signal.Stands (signal : Signal) (place : SignalPlace α) (y bottom : α) : Prop :=
  match directory.ends? signal.source signal.destination with
  | some (source, destination) =>
      place = signal.standing measure source destination y ∧
        bottom = y + (sizes.signalMargin + (measure signal.caption).height)
  | none => place.placed = false ∧ bottom = y

def Note.Stands (note : Note) (place : NotePlace α) (y bottom : α) : Prop :=
  match directory.anchor? note.location with
  | some entry =>
      place = note.standing measure sizes entry y ∧
        bottom = y + (sizes.noteMarginY + (note.extent measure sizes).height)
  | none => place.placed = false ∧ bottom = y

mutual

/-- An event between two positions. -/
def Event.Stands (y bottom : α) : Event α → Prop
  | .signal signal place => signal.Stands directory measure sizes place y bottom
  | .note note place => note.Stands directory measure sizes place y bottom
  | .conditional _ frame cases =>
      frame =
          { x := zero, y, width := total, height := Frame.heightAround sizes cases } ∧
        ∃ inner, Case.AllStand (y + sizes.frameMarginItems) inner cases ∧
          bottom = inner + sizes.frameMarginBottom
  | .synchrony _ events => Event.AllStand y bottom events
  | .lifetime _ _ | .numbering _ => bottom = y
termination_by structural event => event

def Event.AllStand (y bottom : α) : List (Event α) → Prop
  | [] => bottom = y
  | event :: rest => ∃ next, event.Stands y next ∧ Event.AllStand next bottom rest
termination_by structural events => events

def Case.AllStand (y bottom : α) : List (Case α (Event α)) → Prop
  | [] => bottom = y
  | ⟨_, top, height, events⟩ :: rest =>
      ∃ next, (top = y ∧ height = next - y) ∧ Event.AllStand y next events ∧
        Case.AllStand next bottom rest
termination_by structural cases => cases

end

end Standing

section Placing

variable {directory lanes : Directory α} (measure : Measurer α) (sizes : Sizes α)
  (total : α)

theorem Signal.stands_place (alike : directory.Alike lanes) (signal : Signal)
    {place : SignalPlace α} (unplaced : place.placed = false) (y : α) :
    ∃ placed bottom,
      Event.place lanes sizes total y
          (Event.measured directory measure sizes (.signal signal place)) =
        (.signal signal placed, some bottom) ∧
      signal.Stands lanes measure sizes placed y bottom := by
  have same := alike.map_ends? signal.source signal.destination
  cases endsEq : directory.ends? signal.source signal.destination with
  | none =>
      have lost : lanes.ends? signal.source signal.destination = none := by
        rwa [endsEq, Option.map_none, eq_comm, Option.map_eq_none_iff] at same
      refine ⟨place, y, ?_, ?_⟩
      · simp only [Event.measured, endsEq, Event.place, lost]
      · simp only [Signal.Stands, lost]
        exact ⟨unplaced, trivial⟩
  | some ends =>
      -- A name that meant an actor before the layout means one after it.
      cases foundEq : lanes.ends? signal.source signal.destination with
      | none => simp [endsEq, foundEq] at same
      | some found =>
          refine ⟨signal.standing measure found.1 found.2 y,
            y + (sizes.signalMargin + (measure signal.caption).height), ?_, ?_⟩
          · simp only [Event.measured, endsEq, Event.place, foundEq]
            rfl
          · simp only [Signal.Stands, foundEq, and_self]

theorem Note.stands_place (alike : directory.Alike lanes) (note : Note) {place : NotePlace α}
    (unplaced : place.placed = false) (y : α) :
    ∃ placed bottom,
      Event.place lanes sizes total y
          (Event.measured directory measure sizes (.note note place)) =
        (.note note placed, some bottom) ∧
      note.Stands lanes measure sizes placed y bottom := by
  have same := alike.map_anchor? note.location
  cases anchorEq : directory.anchor? note.location with
  | none =>
      have lost : lanes.anchor? note.location = none := by
        rwa [anchorEq, Option.map_none, eq_comm, Option.map_eq_none_iff] at same
      refine ⟨place, y, ?_, ?_⟩
      · simp only [Event.measured, anchorEq, Event.place, lost]
      · simp only [Note.Stands, lost]
        exact ⟨unplaced, trivial⟩
  | some anchor =>
      cases foundEq : lanes.anchor? note.location with
      | none => simp [anchorEq, foundEq] at same
      | some found =>
          refine ⟨note.standing measure sizes found y,
            y + (sizes.noteMarginY + (note.extent measure sizes).height), ?_, ?_⟩
          · simp only [Event.measured, anchorEq, Event.place, foundEq]
            rfl
          · simp only [Note.Stands, foundEq, and_self]

mutual

/-- An event that was measured and placed stands between the position that it was
placed at and the one that is returned, and needs what it needed before. -/
theorem Event.stands_place (alike : directory.Alike lanes) (event : Event α)
    (unplaced : event.placedPass (fun _ _ => false) (fun _ _ => false) = true) (y : α) :
    ∃ placed bottom,
      Event.place lanes sizes total y (Event.measured directory measure sizes event) =
        (placed, some bottom) ∧
      placed.Stands lanes measure sizes total y bottom ∧
      placed.clearances directory measure sizes =
        event.clearances directory measure sizes := by
  cases event with
  | signal signal place =>
      rw [Event.placedPass, Bool.or_false, Bool.not_eq_true'] at unplaced
      obtain ⟨placed, bottom, placeEq, stands⟩ :=
        Signal.stands_place measure sizes total alike signal unplaced y
      refine ⟨_, bottom, placeEq, ?_, ?_⟩
      · rwa [Event.Stands]
      · rw [Event.clearances, Event.clearances]
  | note note place =>
      rw [Event.placedPass, Bool.or_false, Bool.not_eq_true'] at unplaced
      obtain ⟨placed, bottom, placeEq, stands⟩ :=
        Note.stands_place measure sizes total alike note unplaced y
      refine ⟨_, bottom, placeEq, ?_, ?_⟩
      · rwa [Event.Stands]
      · rw [Event.clearances, Event.clearances]
  | conditional kind frame cases =>
      rw [Event.placedPass] at unplaced
      obtain ⟨placed, inner, placeEq, stand, clearancesEq⟩ :=
        Case.stand_place alike cases unplaced (y + sizes.frameMarginItems)
      rw [Event.measured, Event.place, placeEq]
      refine ⟨_, _, rfl, ?_, ?_⟩
      · rw [Event.Stands]
        exact ⟨rfl, inner, stand, rfl⟩
      · rwa [Event.clearances, Event.clearances]
  | synchrony kind events =>
      rw [Event.placedPass] at unplaced
      obtain ⟨placed, bottom, placeEq, stand, clearancesEq⟩ :=
        Event.stand_placeAll alike events unplaced y
      rw [Event.measured, Event.place, placeEq]
      refine ⟨_, _, rfl, ?_, ?_⟩
      · rwa [Event.Stands]
      · rwa [Event.clearances, Event.clearances]
  | lifetime kind target =>
      rw [Event.measured, Event.place]
      refine ⟨_, _, rfl, ?_, rfl⟩
      rw [Event.Stands]
  | numbering start =>
      rw [Event.measured, Event.place]
      refine ⟨_, _, rfl, ?_, rfl⟩
      rw [Event.Stands]
termination_by structural event

theorem Event.stand_placeAll (alike : directory.Alike lanes) (events : List (Event α))
    (unplaced : Event.NonePlaced events) (y : α) :
    ∃ placed bottom,
      Event.placeAll lanes sizes total y
          (Event.allMeasured directory measure sizes events) =
        (placed, some bottom) ∧
      Event.AllStand lanes measure sizes total y bottom placed ∧
      Event.allClearances directory measure sizes placed =
        Event.allClearances directory measure sizes events := by
  cases events with
  | nil =>
      rw [Event.allMeasured, Event.placeAll]
      refine ⟨_, _, rfl, ?_, rfl⟩
      rw [Event.AllStand]
  | cons event rest =>
      rw [Event.NonePlaced, Event.allPlacedPass, Bool.and_eq_true] at unplaced
      obtain ⟨placed, next, placeEq, stands, clearancesEq⟩ :=
        Event.stands_place alike event unplaced.1 y
      obtain ⟨others, bottom, othersEq, stand, restEq⟩ :=
        Event.stand_placeAll alike rest unplaced.2 next
      rw [Event.allMeasured, Event.placeAll, placeEq]
      simp only [othersEq]
      refine ⟨_, _, rfl, ?_, ?_⟩
      · rw [Event.AllStand]
        exact ⟨next, stands, stand⟩
      · rw [Event.allClearances, Event.allClearances, clearancesEq, restEq]
termination_by structural events

theorem Case.stand_place (alike : directory.Alike lanes) (cases : List (Case α (Event α)))
    (unplaced : Case.placedPass (fun _ _ => false) (fun _ _ => false) cases = true)
    (y : α) :
    ∃ placed bottom,
      Case.place lanes sizes total y (Case.measured directory measure sizes cases) =
        (placed, some bottom) ∧
      Case.AllStand lanes measure sizes total y bottom placed ∧
      Case.clearances directory measure sizes placed =
        Case.clearances directory measure sizes cases := by
  cases cases with
  | nil =>
      rw [Case.measured, Case.place]
      refine ⟨_, _, rfl, ?_, rfl⟩
      rw [Case.AllStand]
  | cons headed rest =>
      obtain ⟨caption, top, height, events⟩ := headed
      rw [Case.placedPass, Bool.and_eq_true] at unplaced
      obtain ⟨placed, next, placeEq, stands, clearancesEq⟩ :=
        Event.stand_placeAll alike events unplaced.1 y
      obtain ⟨others, bottom, othersEq, stand, restEq⟩ :=
        Case.stand_place alike rest unplaced.2 next
      rw [Case.measured, Case.place, placeEq]
      simp only [othersEq]
      refine ⟨_, _, rfl, ?_, ?_⟩
      · rw [Case.AllStand]
        exact ⟨next, ⟨rfl, rfl⟩, stands, stand⟩
      · rw [Case.clearances, Case.clearances, clearancesEq, restEq]
termination_by structural cases

end

end Placing

section Members

variable {directory : Directory α} {measure : Measurer α} {sizes : Sizes α} {total : α}
  {member : Event α}

mutual

/-- A signal or an annotation anywhere inside an event that stands has a position of its
own. -/
theorem Event.stands_of_mem (event : Event α) {y bottom : α}
    (stands : event.Stands directory measure sizes total y bottom) (drawn : member.Drawn)
    (inside : member ∈ event.flatten) :
    ∃ above below, member.Stands directory measure sizes total above below := by
  cases event with
  | signal | note | lifetime | numbering =>
      rw [Event.flatten, List.mem_singleton] at inside
      rw [inside]
      exact ⟨y, bottom, stands⟩
  | conditional kind frame cases =>
      rw [Event.Stands] at stands
      obtain ⟨-, inner, stand, -⟩ := stands
      rw [Event.flatten, List.mem_cons] at inside
      rcases inside with rfl | inCases
      · cases drawn
      · exact Case.stands_of_mem cases stand drawn inCases
  | synchrony kind events =>
      rw [Event.Stands] at stands
      rw [Event.flatten, List.mem_cons] at inside
      rcases inside with rfl | inEvents
      · cases drawn
      · exact Event.stands_of_mem_all events stands drawn inEvents
termination_by structural event

theorem Event.stands_of_mem_all (events : List (Event α)) {y bottom : α}
    (stand : Event.AllStand directory measure sizes total y bottom events)
    (drawn : member.Drawn) (inside : member ∈ Event.flattenAll events) :
    ∃ above below, member.Stands directory measure sizes total above below := by
  cases events with
  | nil =>
      rw [Event.flattenAll] at inside
      cases inside
  | cons event rest =>
      rw [Event.AllStand] at stand
      obtain ⟨next, first, others⟩ := stand
      rw [Event.flattenAll, List.mem_append] at inside
      rcases inside with inFirst | inRest
      · exact Event.stands_of_mem event first drawn inFirst
      · exact Event.stands_of_mem_all rest others drawn inRest
termination_by structural events

theorem Case.stands_of_mem (cases : List (Case α (Event α))) {y bottom : α}
    (stand : Case.AllStand directory measure sizes total y bottom cases)
    (drawn : member.Drawn) (inside : member ∈ Case.flatten cases) :
    ∃ above below, member.Stands directory measure sizes total above below := by
  cases cases with
  | nil =>
      rw [Case.flatten] at inside
      cases inside
  | cons headed rest =>
      obtain ⟨caption, top, height, events⟩ := headed
      rw [Case.AllStand] at stand
      obtain ⟨next, -, first, others⟩ := stand
      rw [Case.flatten, List.mem_append] at inside
      rcases inside with inFirst | inRest
      · exact Event.stands_of_mem_all events first drawn inFirst
      · exact Case.stands_of_mem rest others drawn inRest
termination_by structural cases

end

end Members

/-- Only the heights of the cases make the height of the frame around them. -/
theorem Frame.heightAround_congr (sizes : Sizes α) {ε : Type} {cases others : List (Case α ε)}
    (heights : cases.map Case.height = others.map Case.height) :
    heightAround sizes cases = heightAround sizes others := by
  rw [heightAround, heightAround, ← List.foldl_map (f := Case.height), heights,
    List.foldl_map]

/-- The cases of a conditional are together as high as the distance that they take the
cursor down. -/
theorem Case.foldl_height {directory : Directory Rat} {measure : Measurer Rat}
    {sizes : Sizes Rat} {total : Rat} {cases : List (Case Rat (Event Rat))} {y bottom : Rat}
    (stand : Case.AllStand directory measure sizes total y bottom cases) (start : Rat) :
    cases.foldl (fun total placed => total + placed.height) start =
      start + (bottom - y) := by
  induction cases generalizing y start with
  | nil =>
      rw [Case.AllStand] at stand
      rw [List.foldl_nil, stand]
      ring
  | cons headed rest ih =>
      obtain ⟨caption, top, height, events⟩ := headed
      rw [Case.AllStand] at stand
      obtain ⟨next, ⟨-, heightEq⟩, -, others⟩ := stand
      rw [List.foldl_cons, ih others, heightEq]
      ring

section Needs

variable (directory : Directory α) (measure : Measurer α) (sizes : Sizes α)

/-- What one event needs apart from those inside it. -/
def Event.ownClearances (event : Event α) : List (Clearance α) :=
  match event with
  | .signal _ _ | .note _ _ => event.clearances directory measure sizes
  | _ => []

mutual

/-- What an event needs is what it and those inside it need, one after the other. -/
theorem Event.clearances_eq_flatMap (event : Event α) :
    event.clearances directory measure sizes =
      event.flatten.flatMap (Event.ownClearances directory measure sizes) := by
  cases event with
  | signal | note =>
      rw [Event.flatten, List.flatMap_singleton, Event.ownClearances]
  | lifetime | numbering =>
      rw [Event.flatten, List.flatMap_singleton]
      rfl
  | conditional kind frame cases =>
      rw [Event.flatten, List.flatMap_cons, Event.clearances]
      exact Case.clearances_eq_flatMap cases
  | synchrony kind events =>
      rw [Event.flatten, List.flatMap_cons, Event.clearances]
      exact Event.allClearances_eq_flatMap events
termination_by structural event

theorem Event.allClearances_eq_flatMap (events : List (Event α)) :
    Event.allClearances directory measure sizes events =
      (Event.flattenAll events).flatMap (Event.ownClearances directory measure sizes) := by
  cases events with
  | nil => rfl
  | cons event rest =>
      rw [Event.allClearances, Event.flattenAll, List.flatMap_append,
        Event.clearances_eq_flatMap event, Event.allClearances_eq_flatMap rest]
termination_by structural events

theorem Case.clearances_eq_flatMap (cases : List (Case α (Event α))) :
    Case.clearances directory measure sizes cases =
      (Case.flatten cases).flatMap (Event.ownClearances directory measure sizes) := by
  cases cases with
  | nil => rfl
  | cons headed rest =>
      obtain ⟨caption, top, height, events⟩ := headed
      rw [Case.clearances, Case.flatten, List.flatMap_append,
        Event.allClearances_eq_flatMap events, Case.clearances_eq_flatMap rest]
termination_by structural cases

end

end Needs

namespace Diagram

variable (measure : Measurer Rat) (sizes : Sizes Rat) {diagram : Diagram Rat}

/-- The events of a layout stand one below the other down to the last position of the
cursor, and need what they needed before. -/
theorem stand_placement (unplaced : Event.NonePlaced diagram.events) :
    ∃ bottom,
      (diagram.placement measure sizes).2 = some bottom ∧
        Event.AllStand (diagram.laneDirectory measure sizes) measure sizes
          (diagram.spread measure sizes).2 (diagram.top measure sizes) bottom
          (diagram.layout measure sizes).1.events ∧
        diagram.clearances measure sizes =
          (Event.flattenAll (diagram.layout measure sizes).1.events).flatMap
            (Event.ownClearances diagram.directory measure sizes) := by
  obtain ⟨placed, bottom, placeEq, stand, clearancesEq⟩ :=
    Event.stand_placeAll measure sizes (diagram.spread measure sizes).2
      (diagram.alike_laneDirectory measure sizes) diagram.events unplaced
      (diagram.top measure sizes)
  rw [layout_events, placement, placeEq]
  refine ⟨bottom, rfl, stand, ?_⟩
  rw [clearances, ← clearancesEq, Event.allClearances_eq_flatMap]

end Diagram

end Lifeline
