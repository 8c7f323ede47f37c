import Lifeline.Proofs.CheckedLayout

/-!
# What a layout makes of a tree

Placing measured events can lose its cursor, and what it reads are the lanes of a
directory whose actors carry geometry of their own.  Here the same is said without
either: a signal that finds both its ends and an annotation that finds its anchor are
given a whole new place, every frame and every case is drawn anew, and the cursor always
comes through.  A layout comes to nothing else.

Said in this way, a layout needs of its actors only where the names of an event lead to.
-/

namespace Lifeline

variable {α : Type}

/-- Where the names of events lead to: the positions of the lanes. -/
@[ext]
structure Bearings (α : Type) where
  ends? : Signal → Option (α × α)
  anchor? : Note → Option α

def Directory.bearings (directory : Directory α) : Bearings α where
  ends? signal :=
    (directory.ends? signal.source signal.destination).map
      (Prod.map (fun entry => entry.actor.laneX) (fun entry => entry.actor.laneX))
  anchor? note := (directory.anchor? note.location).map fun entry => entry.actor.laneX

namespace Directory

theorem ends?_bearings (directory : Directory α) (signal : Signal) :
    directory.bearings.ends? signal =
      (directory.ends? signal.source signal.destination).map
        (Prod.map (fun entry => entry.actor.laneX) fun entry => entry.actor.laneX) :=
  rfl

theorem anchor?_bearings (directory : Directory α) (note : Note) :
    directory.bearings.anchor? note =
      (directory.anchor? note.location).map fun entry => entry.actor.laneX :=
  rfl

theorem map_laneX_under (name : Actor α → String) (actors : List (Actor α)) :
    (under name actors).map (fun entry => (entry.name, entry.actor.laneX)) =
      (actors.map fun actor => (name actor, actor.laneX)).reverse := by
  rw [under, List.map_reverse, List.map_map]
  congr 1
  apply List.ext_getElem?
  intro lane
  simp [List.getElem?_map, List.getElem?_zipIdx, Function.comp_def]

/-- Only the names and the lanes of actors tell where names lead to. -/
theorem bearings_ofActors {actors others : List (Actor α)}
    (captions : actors.map (fun actor => (actor.caption, actor.laneX)) =
      others.map fun actor => (actor.caption, actor.laneX))
    (nicknames : actors.map (fun actor => (actor.nickname, actor.laneX)) =
      others.map fun actor => (actor.nickname, actor.laneX)) :
    (ofActors actors).bearings = (ofActors others).bearings := by
  have same (name : String) :
      ((ofActors actors).find? name).map (fun entry => entry.actor.laneX) =
        ((ofActors others).find? name).map fun entry => entry.actor.laneX := by
    rw [map_find?, map_find?, ofActors, ofActors, List.map_append, List.map_append,
      map_laneX_under, map_laneX_under, map_laneX_under, map_laneX_under, captions, nicknames]
  apply Bearings.ext
  · funext signal
    rw [ends?_bearings, ends?_bearings, map_ends?_eq_bind, map_ends?_eq_bind, same, same]
  · funext note
    rw [anchor?_bearings, anchor?_bearings]
    cases note.location with
    | none => rfl
    | some location =>
        rw [anchor?, anchor?]
        split
        · rfl
        · exact same location

end Directory

section Relaid

variable [Scalar α] (bearings : Bearings α) (measure : Measurer α) (sizes : Sizes α)
  (total : α)

/-- The place of a signal between two positions. -/
def Signal.between (signal : Signal) (startX endX y : α) : SignalPlace α where
  startX := some startX
  endX := some endX
  startY := some y
  endY := some y
  width := some (measure signal.caption).width
  height := some (measure signal.caption).height

/-- The place of an annotation beside a lane. -/
def Note.beside (note : Note) (laneX y : α) : NotePlace α where
  x := some (laneX + sizes.noteMarginX)
  y := some y
  width := some (note.extent measure sizes).width
  height := some (note.extent measure sizes).height
  textMarginX := sizes.noteTextMarginX
  textMarginY := sizes.noteTextMarginY

mutual

/-- An event as a layout leaves it, with the position below it. -/
def Event.relaid (y : α) : Event α → Event α × α
  | .signal signal place =>
      match bearings.ends? signal with
      | some (startX, endX) =>
          (.signal signal (signal.between measure startX endX y),
            y + (sizes.signalMargin + (measure signal.caption).height))
      | none => (.signal signal place, y)
  | .note note place =>
      match bearings.anchor? note with
      | some laneX =>
          (.note note (note.beside measure sizes laneX y),
            y + (sizes.noteMarginY + (note.extent measure sizes).height))
      | none => (.note note place, y)
  | .conditional kind _ cases =>
      let (inside, bottom) := Case.relaid (y + sizes.frameMarginItems) cases
      (.conditional kind
          { x := zero, y, width := total, height := Frame.heightAround sizes inside } inside,
        bottom + sizes.frameMarginBottom)
  | .synchrony kind events =>
      let (inside, bottom) := Event.allRelaid y events
      (.synchrony kind inside, bottom)
  | .lifetime kind target => (.lifetime kind target, y)
  | .numbering start => (.numbering start, y)
termination_by structural event => event

def Event.allRelaid (y : α) : List (Event α) → List (Event α) × α
  | [] => ([], y)
  | event :: rest =>
      let (first, next) := event.relaid y
      let (others, bottom) := Event.allRelaid next rest
      (first :: others, bottom)
termination_by structural events => events

def Case.relaid (y : α) : List (Case α (Event α)) → List (Case α (Event α)) × α
  | [] => ([], y)
  | ⟨caption, _, _, events⟩ :: rest =>
      let (inside, next) := Event.allRelaid y events
      let (others, bottom) := Case.relaid next rest
      (⟨caption, y, next - y, inside⟩ :: others, bottom)
termination_by structural cases => cases

end

end Relaid

section Placing

variable [Scalar α] {directory lanes : Directory α} (measure : Measurer α)
  (sizes : Sizes α) (total : α)

mutual

/-- Measuring an event and placing it is laying it out again. -/
theorem Event.place_measured (alike : directory.Alike lanes) (event : Event α) (y : α) :
    Event.place lanes sizes total y (Event.measured directory measure sizes event) =
      ((event.relaid lanes.bearings measure sizes total y).1,
        some (event.relaid lanes.bearings measure sizes total y).2) := by
  cases event with
  | signal signal place =>
      have same := alike.map_ends? signal.source signal.destination
      cases endsEq : directory.ends? signal.source signal.destination with
      | none =>
          rw [endsEq, Option.map_none, eq_comm, Option.map_eq_none_iff] at same
          simp [Event.measured, Event.place, Event.relaid, Directory.bearings, endsEq, same]
      | some ends =>
          rw [endsEq, Option.map_some, eq_comm, Option.map_eq_some_iff] at same
          obtain ⟨found, foundEq, -⟩ := same
          simp [Event.measured, Event.place, Event.relaid, Directory.bearings, endsEq, foundEq,
            Signal.between]
  | note note place =>
      have same := alike.map_anchor? note.location
      cases anchorEq : directory.anchor? note.location with
      | none =>
          rw [anchorEq, Option.map_none, eq_comm, Option.map_eq_none_iff] at same
          simp [Event.measured, Event.place, Event.relaid, Directory.bearings, anchorEq, same]
      | some anchor =>
          rw [anchorEq, Option.map_some, eq_comm, Option.map_eq_some_iff] at same
          obtain ⟨found, foundEq, -⟩ := same
          simp [Event.measured, Event.place, Event.relaid, Directory.bearings, anchorEq,
            foundEq, Note.beside]
  | conditional kind frame cases =>
      rw [Event.measured, Event.place, Case.place_measured alike cases, Event.relaid]
  | synchrony kind events =>
      rw [Event.measured, Event.place, Event.placeAll_measured alike events, Event.relaid]
  | lifetime | numbering => rw [Event.measured, Event.place, Event.relaid]
termination_by structural event

theorem Event.placeAll_measured (alike : directory.Alike lanes) (events : List (Event α))
    (y : α) :
    Event.placeAll lanes sizes total y (Event.allMeasured directory measure sizes events) =
      ((Event.allRelaid lanes.bearings measure sizes total y events).1,
        some (Event.allRelaid lanes.bearings measure sizes total y events).2) := by
  cases events with
  | nil => rw [Event.allMeasured, Event.placeAll, Event.allRelaid]
  | cons event rest =>
      rw [Event.allMeasured, Event.placeAll, Event.place_measured alike event, Event.allRelaid]
      simp only [Event.placeAll_measured alike rest]
termination_by structural events

theorem Case.place_measured (alike : directory.Alike lanes)
    (cases : List (Case α (Event α))) (y : α) :
    Case.place lanes sizes total y (Case.measured directory measure sizes cases) =
      ((Case.relaid lanes.bearings measure sizes total y cases).1,
        some (Case.relaid lanes.bearings measure sizes total y cases).2) := by
  cases cases with
  | nil => rw [Case.measured, Case.place, Case.relaid]
  | cons headed rest =>
      obtain ⟨caption, top, height, events⟩ := headed
      rw [Case.measured, Case.place, Event.placeAll_measured alike events, Case.relaid]
      simp only [Case.place_measured alike rest]
termination_by structural cases

end

end Placing

section Rests

variable [Scalar α] (bearings : Bearings α) (measure : Measurer α) (sizes : Sizes α)
  (total : α)

/-- What a layout makes of one row of a tree.  Where a frame is drawn depends on what it
holds, which is not in its row. -/
inductive Event.Rests : Event α → Event α → Prop
  | signal {signal : Signal} (place : SignalPlace α) {startX endX : α} (y : α)
      (endsEq : bearings.ends? signal = some (startX, endX)) :
      Rests (.signal signal place)
        (.signal signal (signal.between measure startX endX y))
  | lostSignal {signal : Signal} (place : SignalPlace α)
      (endsEq : bearings.ends? signal = none) :
      Rests (.signal signal place) (.signal signal place)
  | note {note : Note} (place : NotePlace α) {laneX : α} (y : α)
      (anchorEq : bearings.anchor? note = some laneX) :
      Rests (.note note place) (.note note (note.beside measure sizes laneX y))
  | lostNote {note : Note} (place : NotePlace α)
      (anchorEq : bearings.anchor? note = none) :
      Rests (.note note place) (.note note place)
  | conditional (kind : ConditionalKind) (before after : Frame α) :
      Rests (.conditional kind before []) (.conditional kind after [])
  | synchrony (kind : SynchronyKind) : Rests (.synchrony kind []) (.synchrony kind [])
  | lifetime (kind : LifetimeKind) (target : String) :
      Rests (.lifetime kind target) (.lifetime kind target)
  | numbering (start : String) : Rests (.numbering start) (.numbering start)

mutual

theorem Event.rests_relaid (event : Event α) (y : α) :
    List.Forall₂ (Event.Rests bearings measure sizes) event.flatten
      (event.relaid bearings measure sizes total y).1.flatten := by
  cases event with
  | signal signal place =>
      rw [Event.relaid]
      cases endsEq : bearings.ends? signal with
      | none => exact .cons (.lostSignal place endsEq) .nil
      | some ends => exact .cons (.signal place y endsEq) .nil
  | note note place =>
      rw [Event.relaid]
      cases anchorEq : bearings.anchor? note with
      | none => exact .cons (.lostNote place anchorEq) .nil
      | some laneX => exact .cons (.note place y anchorEq) .nil
  | conditional kind frame cases =>
      rw [Event.relaid, Event.flatten, Event.flatten]
      exact .cons (.conditional kind _ _) (Case.rests_relaid cases _)
  | synchrony kind events =>
      rw [Event.relaid, Event.flatten, Event.flatten]
      exact .cons (.synchrony kind) (Event.rests_allRelaid events _)
  | lifetime kind target => exact .cons (.lifetime kind target) .nil
  | numbering start => exact .cons (.numbering start) .nil
termination_by structural event

theorem Event.rests_allRelaid (events : List (Event α)) (y : α) :
    List.Forall₂ (Event.Rests bearings measure sizes) (Event.flattenAll events)
      (Event.flattenAll (Event.allRelaid bearings measure sizes total y events).1) := by
  cases events with
  | nil => exact .nil
  | cons event rest =>
      rw [Event.allRelaid, Event.flattenAll, Event.flattenAll]
      exact List.rel_append (Event.rests_relaid event y) (Event.rests_allRelaid rest _)
termination_by structural events

theorem Case.rests_relaid (cases : List (Case α (Event α))) (y : α) :
    List.Forall₂ (Event.Rests bearings measure sizes) (Case.flatten cases)
      (Case.flatten (Case.relaid bearings measure sizes total y cases).1) := by
  cases cases with
  | nil => exact .nil
  | cons headed rest =>
      obtain ⟨caption, top, height, events⟩ := headed
      rw [Case.relaid, Case.flatten, Case.flatten]
      exact List.rel_append (Event.rests_allRelaid events y) (Case.rests_relaid rest _)
termination_by structural cases

end

end Rests

namespace Diagram

variable [Scalar α] (measure : Measurer α) (sizes : Sizes α) (diagram : Diagram α)

/-- Where the names of a diagram lead to once its lanes are spread. -/
def bearings : Bearings α :=
  (diagram.laneDirectory measure sizes).bearings

/-- The events of a diagram as a layout leaves them, with the position below them. -/
def relaid : List (Event α) × α :=
  Event.allRelaid (diagram.bearings measure sizes) measure sizes
    (diagram.spread measure sizes).2 (diagram.top measure sizes) diagram.events

theorem layout_eq_relaid :
    diagram.layout measure sizes =
      finish sizes (diagram.spread measure sizes) (diagram.relaid measure sizes).1
        (diagram.relaid measure sizes).2 := by
  have placementEq : diagram.placement measure sizes =
      ((diagram.relaid measure sizes).1, some (diagram.relaid measure sizes).2) :=
    Event.placeAll_measured measure sizes _ (diagram.alike_laneDirectory measure sizes) _ _
  rw [layout_eq_finish, placementEq, Option.getD_some]

end Diagram

end Lifeline
