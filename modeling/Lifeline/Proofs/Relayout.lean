import Lifeline.Proofs.Placement

/-!
# Laying out again

A diagram that was laid out before carries places that its actors may no longer
explain.  A layout reads none of them: it is decided by the names of the diagram, so
it can be found from a copy without any geometry.  In the layout of such a copy every
signal and every annotation is either whole, with each of its positions and sizes, or
has nothing at all.  The layout of the diagram itself takes over what is whole and
leaves everything else as it was.

So a height that an earlier layout measured is never read, and a diagram in which
everything that is placed is whole stays one.
-/

namespace Lifeline

variable {α : Type}

/-- Whether a signal has each of its positions and sizes. -/
def SignalPlace.complete (place : SignalPlace α) : Bool :=
  place.startX.isSome && place.endX.isSome && place.startY.isSome && place.endY.isSome &&
    place.width.isSome && place.height.isSome

/-- Whether an annotation has each of its positions and sizes. -/
def NotePlace.complete (place : NotePlace α) : Bool :=
  place.x.isSome && place.y.isSome && place.width.isSome && place.height.isSome

section Complete

/-- Whether what is placed of an event and those inside it is whole. -/
def Event.Complete (event : Event α) : Prop :=
  event.placedPass (fun _ place => place.complete) (fun _ place => place.complete) = true

def Event.AllComplete (events : List (Event α)) : Prop :=
  Event.allPlacedPass (fun _ place => place.complete) (fun _ place => place.complete)
    events = true

def Case.AllComplete (cases : List (Case α (Event α))) : Prop :=
  Case.placedPass (fun _ place => place.complete) (fun _ place => place.complete) cases = true

theorem Event.allComplete_cons {event : Event α} {rest : List (Event α)} :
    Event.AllComplete (event :: rest) ↔ event.Complete ∧ Event.AllComplete rest := by
  rw [AllComplete, allPlacedPass, Bool.and_eq_true]
  rfl

theorem Case.allComplete_cons {caption : String} {y height : α} {events : List (Event α)}
    {rest : List (Case α (Event α))} :
    Case.AllComplete (⟨caption, y, height, events⟩ :: rest) ↔
      Event.AllComplete events ∧ Case.AllComplete rest := by
  rw [AllComplete, placedPass, Bool.and_eq_true]
  rfl

end Complete

section Blank

variable [Scalar α]

mutual

/-- An event with all geometry taken away. -/
def Event.blank : Event α → Event α
  | .signal signal _ => .signal signal {}
  | .note note _ => .note note NotePlace.unset
  | .conditional kind _ cases => .conditional kind Frame.unset (Case.allBlank cases)
  | .synchrony kind events => .synchrony kind (Event.allBlank events)
  | .lifetime kind target => .lifetime kind target
  | .numbering start => .numbering start
termination_by structural event => event

def Event.allBlank : List (Event α) → List (Event α)
  | [] => []
  | event :: rest => event.blank :: Event.allBlank rest
termination_by structural events => events

def Case.allBlank : List (Case α (Event α)) → List (Case α (Event α))
  | [] => []
  | ⟨caption, _, _, events⟩ :: rest =>
      Case.unset caption (Event.allBlank events) :: Case.allBlank rest
termination_by structural cases => cases

end

/-- Whether what is drawn by itself is whole or has no geometry. -/
def Event.WholeOrBlank : Event α → Prop
  | .signal _ place => place.complete = true ∨ place = {}
  | .note _ place => place.complete = true ∨ place = NotePlace.unset
  | _ => True

end Blank

section Over

mutual

/-- An event with the geometry of another of the same form, except where that places
nothing. -/
def Event.over : Event α → Event α → Event α
  | .signal signal place, .signal _ fresh =>
      .signal signal (if fresh.placed then fresh else place)
  | .note note place, .note _ fresh => .note note (if fresh.placed then fresh else place)
  | .conditional kind _ cases, .conditional _ frame fresh =>
      .conditional kind frame (Case.allOver cases fresh)
  | .synchrony kind events, .synchrony _ fresh =>
      .synchrony kind (Event.allOver events fresh)
  | event, _ => event
termination_by structural event => event

def Event.allOver : List (Event α) → List (Event α) → List (Event α)
  | event :: rest, fresh :: others => event.over fresh :: Event.allOver rest others
  | events, _ => events
termination_by structural events => events

def Case.allOver :
    List (Case α (Event α)) → List (Case α (Event α)) → List (Case α (Event α))
  | ⟨caption, _, _, events⟩ :: rest, ⟨_, y, height, fresh⟩ :: others =>
      ⟨caption, y, height, Event.allOver events fresh⟩ :: Case.allOver rest others
  | cases, _ => cases
termination_by structural cases => cases

end

end Over

section Placing

variable [Scalar α] {directory lanes : Directory α} (measure : Measurer α)
  (sizes : Sizes α) (total : α)

/-- A signal is given its whole place or is left alone, whatever place it had. -/
theorem Signal.place_over (alike : directory.Alike lanes) (signal : Signal)
    (place : SignalPlace α) (y : α) :
    ∃ fresh bottom,
      Event.place lanes sizes total y
          (Event.measured directory measure sizes (.signal signal {})) =
        (.signal signal fresh, some bottom) ∧
      Event.place lanes sizes total y
          (Event.measured directory measure sizes (.signal signal place)) =
        (.signal signal (if fresh.placed then fresh else place), some bottom) ∧
      (fresh.complete = true ∨ fresh = {}) := by
  have same := alike.map_ends? signal.source signal.destination
  cases endsEq : directory.ends? signal.source signal.destination with
  | none =>
      have lost : lanes.ends? signal.source signal.destination = none := by
        rwa [endsEq, Option.map_none, eq_comm, Option.map_eq_none_iff] at same
      refine ⟨{}, y, ?_, ?_, Or.inr rfl⟩ <;>
        simp only [Event.measured, endsEq, Event.place, lost]
      rfl
  | some ends =>
      cases foundEq : lanes.ends? signal.source signal.destination with
      | none => simp [endsEq, foundEq] at same
      | some found =>
          refine ⟨signal.standing measure found.1 found.2 y,
            y + (sizes.signalMargin + (measure signal.caption).height), ?_, ?_, Or.inl rfl⟩ <;>
            simp only [Event.measured, endsEq, Event.place, foundEq] <;> rfl

theorem Note.place_over (alike : directory.Alike lanes) (note : Note) (place : NotePlace α)
    (y : α) :
    ∃ fresh bottom,
      Event.place lanes sizes total y
          (Event.measured directory measure sizes (.note note NotePlace.unset)) =
        (.note note fresh, some bottom) ∧
      Event.place lanes sizes total y
          (Event.measured directory measure sizes (.note note place)) =
        (.note note (if fresh.placed then fresh else place), some bottom) ∧
      (fresh.complete = true ∨ fresh = NotePlace.unset) := by
  have same := alike.map_anchor? note.location
  cases anchorEq : directory.anchor? note.location with
  | none =>
      have lost : lanes.anchor? note.location = none := by
        rwa [anchorEq, Option.map_none, eq_comm, Option.map_eq_none_iff] at same
      refine ⟨NotePlace.unset, y, ?_, ?_, Or.inr rfl⟩ <;>
        simp only [Event.measured, anchorEq, Event.place, lost]
      rfl
  | some anchor =>
      cases foundEq : lanes.anchor? note.location with
      | none => simp [anchorEq, foundEq] at same
      | some found =>
          refine ⟨note.standing measure sizes found y,
            y + (sizes.noteMarginY + (note.extent measure sizes).height), ?_, ?_,
            Or.inl rfl⟩ <;>
            simp only [Event.measured, anchorEq, Event.place, foundEq] <;> rfl

omit [Scalar α] in
/-- What is placed anew is whole, so whatever is placed after it is whole if it was before. -/
theorem Signal.complete_over {signal : Signal} {place fresh : SignalPlace α}
    (whole : fresh.complete = true ∨ fresh = {})
    (complete : Event.Complete (.signal signal place)) :
    Event.Complete (.signal signal (if fresh.placed then fresh else place)) := by
  rcases whole with whole | rfl
  · split
    · rw [Event.Complete, Event.placedPass, whole, Bool.or_true]
    · exact complete
  · exact complete

theorem Note.complete_over {note : Note} {place fresh : NotePlace α}
    (whole : fresh.complete = true ∨ fresh = NotePlace.unset)
    (complete : Event.Complete (.note note place)) :
    Event.Complete (.note note (if fresh.placed then fresh else place)) := by
  rcases whole with whole | rfl
  · split
    · rw [Event.Complete, Event.placedPass, whole, Bool.or_true]
    · exact complete
  · exact complete

mutual

/-- A measured event is placed as its copy without geometry is: the cursor goes as far,
and what the copy is given is what the event is given. -/
theorem Event.place_over (alike : directory.Alike lanes) (event : Event α) (y : α) :
    ∃ fresh bottom,
      Event.place lanes sizes total y (Event.measured directory measure sizes event.blank) =
        (fresh, some bottom) ∧
      Event.place lanes sizes total y (Event.measured directory measure sizes event) =
        (event.over fresh, some bottom) ∧
      (∀ row ∈ fresh.flatten, row.WholeOrBlank) ∧
      (event.Complete → (event.over fresh).Complete) := by
  cases event with
  | signal signal place =>
      obtain ⟨fresh, bottom, freshEq, placeEq, whole⟩ :=
        Signal.place_over measure sizes total alike signal place y
      rw [Event.blank]
      refine ⟨_, bottom, freshEq, placeEq, ?_, ?_⟩
      · rw [Event.flatten]
        rintro row member
        rw [List.mem_singleton.mp member]
        exact whole
      · rw [Event.over]
        exact Signal.complete_over whole
  | note note place =>
      obtain ⟨fresh, bottom, freshEq, placeEq, whole⟩ :=
        Note.place_over measure sizes total alike note place y
      rw [Event.blank]
      refine ⟨_, bottom, freshEq, placeEq, ?_, ?_⟩
      · rw [Event.flatten]
        rintro row member
        rw [List.mem_singleton.mp member]
        exact whole
      · rw [Event.over]
        exact Note.complete_over whole
  | conditional kind frame cases =>
      obtain ⟨fresh, inner, freshEq, placeEq, heightsEq, whole, complete⟩ :=
        Case.place_over alike cases (y + sizes.frameMarginItems)
      have aroundEq : Frame.heightAround sizes (Case.allOver cases fresh) =
          Frame.heightAround sizes fresh :=
        Frame.heightAround_congr sizes heightsEq
      rw [Event.blank, Event.measured, Event.place, freshEq, Event.measured, Event.place,
        placeEq]
      refine ⟨_, _, rfl, ?_, ?_, ?_⟩
      · simp only [Event.over, aroundEq]
      · rw [Event.flatten]
        exact List.forall_mem_cons.mpr ⟨trivial, whole⟩
      · rw [Event.over]
        exact complete
  | synchrony kind events =>
      obtain ⟨fresh, bottom, freshEq, placeEq, whole, complete⟩ :=
        Event.placeAll_over alike events y
      rw [Event.blank, Event.measured, Event.place, freshEq, Event.measured, Event.place,
        placeEq]
      refine ⟨_, _, rfl, rfl, ?_, ?_⟩
      · rw [Event.flatten]
        exact List.forall_mem_cons.mpr ⟨trivial, whole⟩
      · rw [Event.over]
        exact complete
  | lifetime kind target =>
      rw [Event.blank, Event.measured, Event.place]
      refine ⟨_, _, rfl, rfl, ?_, id⟩
      rw [Event.flatten]
      simp [Event.WholeOrBlank]
  | numbering start =>
      rw [Event.blank, Event.measured, Event.place]
      refine ⟨_, _, rfl, rfl, ?_, id⟩
      rw [Event.flatten]
      simp [Event.WholeOrBlank]
termination_by structural event

theorem Event.placeAll_over (alike : directory.Alike lanes) (events : List (Event α)) (y : α) :
    ∃ fresh bottom,
      Event.placeAll lanes sizes total y
          (Event.allMeasured directory measure sizes (Event.allBlank events)) =
        (fresh, some bottom) ∧
      Event.placeAll lanes sizes total y (Event.allMeasured directory measure sizes events) =
        (Event.allOver events fresh, some bottom) ∧
      (∀ row ∈ Event.flattenAll fresh, row.WholeOrBlank) ∧
      (Event.AllComplete events → Event.AllComplete (Event.allOver events fresh)) := by
  cases events with
  | nil =>
      rw [Event.allBlank, Event.allMeasured, Event.placeAll]
      refine ⟨_, _, rfl, rfl, ?_, id⟩
      rw [Event.flattenAll]
      simp
  | cons event rest =>
      obtain ⟨fresh, next, freshEq, placeEq, whole, complete⟩ :=
        Event.place_over alike event y
      obtain ⟨others, bottom, othersEq, restEq, othersWhole, othersComplete⟩ :=
        Event.placeAll_over alike rest next
      rw [Event.allBlank, Event.allMeasured, Event.placeAll, freshEq, Event.allMeasured,
        Event.placeAll, placeEq]
      simp only [othersEq, restEq]
      refine ⟨_, _, rfl, rfl, ?_, ?_⟩
      · rw [Event.flattenAll]
        exact List.forall_mem_append.mpr ⟨whole, othersWhole⟩
      · rw [Event.allOver, Event.allComplete_cons, Event.allComplete_cons]
        exact And.imp complete othersComplete
termination_by structural events

theorem Case.place_over (alike : directory.Alike lanes) (cases : List (Case α (Event α)))
    (y : α) :
    ∃ fresh bottom,
      Case.place lanes sizes total y
          (Case.measured directory measure sizes (Case.allBlank cases)) =
        (fresh, some bottom) ∧
      Case.place lanes sizes total y (Case.measured directory measure sizes cases) =
        (Case.allOver cases fresh, some bottom) ∧
      (Case.allOver cases fresh).map Case.height = fresh.map Case.height ∧
      (∀ row ∈ Case.flatten fresh, row.WholeOrBlank) ∧
      (Case.AllComplete cases → Case.AllComplete (Case.allOver cases fresh)) := by
  cases cases with
  | nil =>
      rw [Case.allBlank, Case.measured, Case.place]
      refine ⟨_, _, rfl, rfl, rfl, ?_, id⟩
      rw [Case.flatten]
      simp
  | cons headed rest =>
      obtain ⟨caption, top, height, events⟩ := headed
      obtain ⟨fresh, next, freshEq, placeEq, whole, complete⟩ :=
        Event.placeAll_over alike events y
      obtain ⟨others, bottom, othersEq, restEq, heightsEq, othersWhole, othersComplete⟩ :=
        Case.place_over alike rest next
      rw [Case.allBlank, Case.unset, Case.measured, Case.place, freshEq, Case.measured,
        Case.place, placeEq]
      simp only [othersEq, restEq]
      refine ⟨_, _, rfl, rfl, ?_, ?_, ?_⟩
      · rw [Case.allOver, List.map_cons, List.map_cons, heightsEq]
      · rw [Case.flatten]
        exact List.forall_mem_append.mpr ⟨whole, othersWhole⟩
      · rw [Case.allOver, Case.allComplete_cons, Case.allComplete_cons]
        exact And.imp complete othersComplete
termination_by structural cases

end

end Placing

namespace Diagram

variable [Scalar α] (measure : Measurer α) (sizes : Sizes α) (diagram : Diagram α)

/-- What the events of a diagram are given by a layout that finds no geometry, and the
position below them. -/
def freshPlacement : List (Event α) × Option α :=
  Event.placeAll (diagram.laneDirectory measure sizes) sizes
    (diagram.spread measure sizes).2 (diagram.top measure sizes)
    (Event.allMeasured diagram.directory measure sizes (Event.allBlank diagram.events))

theorem placement_over :
    ∃ bottom,
      (diagram.freshPlacement measure sizes).2 = some bottom ∧
        diagram.placement measure sizes =
          (Event.allOver diagram.events (diagram.freshPlacement measure sizes).1,
            some bottom) ∧
        (∀ row ∈ Event.flattenAll (diagram.freshPlacement measure sizes).1,
          row.WholeOrBlank) ∧
        (Event.AllComplete diagram.events →
          Event.AllComplete (diagram.layout measure sizes).1.events) := by
  obtain ⟨fresh, bottom, freshEq, placeEq, whole, complete⟩ :=
    Event.placeAll_over measure sizes (diagram.spread measure sizes).2
      (diagram.alike_laneDirectory measure sizes) diagram.events
      (diagram.top measure sizes)
  rw [layout_events, placement, freshPlacement, freshEq, placeEq]
  exact ⟨bottom, rfl, rfl, whole, complete⟩

end Diagram

end Lifeline
