import Lifeline.Proofs.CheckedLayout
import Lifeline.Proofs.Relaid
import Lifeline.Proofs.Resolving

/-!
# A layout forgets what was laid out before

A diagram may carry geometry from a layout of other actors, with another measurer or
other sizes, or from nowhere in particular.  A layout reads none of it.  It gives the
drawing, the actors, the frames and cases and every event whose names resolve what it
would have given them without any geometry, and it leaves alone whatever an event has
whose names do not resolve.

Neither content nor the form of the tree is touched.  So laying out what was just laid
out changes nothing.
-/

namespace Lifeline

variable {α : Type}

/-- Which geometry is taken away from a tree: that of some signals, of some annotations,
and perhaps that of every frame and case. -/
structure Erasure where
  signals : Signal → Bool
  notes : Note → Bool
  frames : Bool

namespace Erasure

def all : Erasure where
  signals _ := true
  notes _ := true
  frames := true

/-- Take away what a layout decides. -/
def resolved (directory : Directory α) : Erasure where
  signals := Signal.resolves directory
  notes := Note.resolves directory
  frames := true

/-- Take away what a layout leaves alone. -/
def unresolved (directory : Directory α) : Erasure where
  signals signal := !signal.resolves directory
  notes note := !note.resolves directory
  frames := false

end Erasure

section Erase

variable [Scalar α] (erasure : Erasure)

mutual

/-- An event with some of its geometry taken away. -/
def Event.erase : Event α → Event α
  | .signal signal place => .signal signal (if erasure.signals signal then {} else place)
  | .note note place =>
      .note note (if erasure.notes note then NotePlace.unset else place)
  | .conditional kind frame cases =>
      .conditional kind (if erasure.frames then Frame.unset else frame) (Case.erase cases)
  | .synchrony kind events => .synchrony kind (Event.allErase events)
  | .lifetime kind target => .lifetime kind target
  | .numbering start => .numbering start
termination_by structural event => event

def Event.allErase : List (Event α) → List (Event α)
  | [] => []
  | event :: rest => event.erase :: Event.allErase rest
termination_by structural events => events

def Case.erase : List (Case α (Event α)) → List (Case α (Event α))
  | [] => []
  | ⟨caption, y, height, events⟩ :: rest =>
      (if erasure.frames then Case.unset caption (Event.allErase events)
        else ⟨caption, y, height, Event.allErase events⟩) :: Case.erase rest
termination_by structural cases => cases

end

mutual

/-- Taking everything away leaves a copy without geometry. -/
theorem Event.erase_all (event : Event α) : event.erase .all = event.blank := by
  cases event with
  | signal | note | lifetime | numbering => rfl
  | conditional kind frame cases =>
      rw [Event.erase, Case.erase_all cases, Event.blank]
      rfl
  | synchrony kind events => rw [Event.erase, Event.allErase_all events, Event.blank]
termination_by structural event

theorem Event.allErase_all (events : List (Event α)) :
    Event.allErase .all events = Event.allBlank events := by
  cases events with
  | nil => rfl
  | cons event rest =>
      rw [Event.allErase, Event.erase_all event, Event.allErase_all rest, Event.allBlank]
termination_by structural events

theorem Case.erase_all (cases : List (Case α (Event α))) :
    Case.erase .all cases = Case.allBlank cases := by
  cases cases with
  | nil => rfl
  | cons headed rest =>
      obtain ⟨caption, y, height, events⟩ := headed
      rw [Case.erase, Event.allErase_all events, Case.erase_all rest, Case.allBlank]
      rfl
termination_by structural cases

end

mutual

/-- Geometry is taken away from one event after the other. -/
theorem Event.flatten_erase (event : Event α) :
    (event.erase erasure).flatten = event.flatten.map (Event.erase erasure) := by
  cases event with
  | signal | note | lifetime | numbering => rfl
  | conditional kind frame cases =>
      rw [Event.erase, Event.flatten, Case.flatten_erase cases, Event.flatten, List.map_cons,
        Event.erase, Case.erase]
  | synchrony kind events =>
      rw [Event.erase, Event.flatten, Event.flattenAll_allErase events, Event.flatten,
        List.map_cons, Event.erase, Event.allErase]
termination_by structural event

theorem Event.flattenAll_allErase (events : List (Event α)) :
    Event.flattenAll (Event.allErase erasure events) =
      (Event.flattenAll events).map (Event.erase erasure) := by
  cases events with
  | nil => rfl
  | cons event rest =>
      rw [Event.allErase, Event.flattenAll, Event.flatten_erase event,
        Event.flattenAll_allErase rest, Event.flattenAll, List.map_append]
termination_by structural events

theorem Case.flatten_erase (cases : List (Case α (Event α))) :
    Case.flatten (Case.erase erasure cases) =
      (Case.flatten cases).map (Event.erase erasure) := by
  cases cases with
  | nil => rfl
  | cons headed rest =>
      obtain ⟨caption, y, height, events⟩ := headed
      have firstEq := Event.flattenAll_allErase events
      have restEq := Case.flatten_erase rest
      rw [Case.erase]
      split <;> simp only [Case.unset, Case.flatten, List.map_append, firstEq, restEq]
termination_by structural cases

end

theorem Case.heightAround_erase {erasure : Erasure} (frames : erasure.frames = false)
    (sizes : Sizes α) (cases : List (Case α (Event α))) :
    Frame.heightAround sizes (Case.erase erasure cases) = Frame.heightAround sizes cases := by
  have heightsEq : (Case.erase erasure cases).map Case.height = cases.map Case.height := by
    induction cases with
    | nil => rfl
    | cons headed rest ih =>
        obtain ⟨caption, y, height, events⟩ := headed
        rw [Case.erase, frames, List.map_cons, List.map_cons, ih]
        rfl
  exact Frame.heightAround_congr sizes heightsEq

end Erase

section Relaid

variable [Scalar α] {erasure : Erasure} {bearings : Bearings α} (measure : Measurer α)
  (sizes : Sizes α) (total : α)

/-- Whether everything is taken away that a layout decides. -/
structure Erasure.Covers (erasure : Erasure) (bearings : Bearings α) : Prop where
  signals : ∀ signal, (bearings.ends? signal).isSome → erasure.signals signal = true
  notes : ∀ note, (bearings.anchor? note).isSome → erasure.notes note = true
  frames : erasure.frames = true

/-- Whether exactly what a layout decides is kept. -/
structure Erasure.Keeps (erasure : Erasure) (bearings : Bearings α) : Prop where
  signals : ∀ signal, erasure.signals signal = (bearings.ends? signal).isNone
  notes : ∀ note, erasure.notes note = (bearings.anchor? note).isNone
  frames : erasure.frames = false

mutual

/-- Without what a layout decides, an event is after a layout what it was before. -/
theorem Event.erase_relaid (covers : erasure.Covers bearings) (event : Event α) (y : α) :
    (event.relaid bearings measure sizes total y).1.erase erasure = event.erase erasure := by
  cases event with
  | signal signal place =>
      rw [Event.relaid]
      cases endsEq : bearings.ends? signal with
      | none => rfl
      | some ends =>
          have taken := covers.signals signal (by rw [endsEq]; rfl)
          simp only [Event.erase, taken, if_true]
  | note note place =>
      rw [Event.relaid]
      cases anchorEq : bearings.anchor? note with
      | none => rfl
      | some laneX =>
          have taken := covers.notes note (by rw [anchorEq]; rfl)
          simp only [Event.erase, taken, if_true]
  | conditional kind frame cases =>
      rw [Event.relaid, Event.erase, Event.erase, covers.frames, if_pos rfl, if_pos rfl,
        Case.erase_relaid covers cases]
  | synchrony kind events =>
      rw [Event.relaid, Event.erase, Event.erase, Event.allErase_allRelaid covers events]
  | lifetime | numbering => rw [Event.relaid]
termination_by structural event

theorem Event.allErase_allRelaid (covers : erasure.Covers bearings) (events : List (Event α))
    (y : α) :
    Event.allErase erasure (Event.allRelaid bearings measure sizes total y events).1 =
      Event.allErase erasure events := by
  cases events with
  | nil => rfl
  | cons event rest =>
      rw [Event.allRelaid, Event.allErase, Event.allErase, Event.erase_relaid covers event,
        Event.allErase_allRelaid covers rest]
termination_by structural events

theorem Case.erase_relaid (covers : erasure.Covers bearings)
    (cases : List (Case α (Event α))) (y : α) :
    Case.erase erasure (Case.relaid bearings measure sizes total y cases).1 =
      Case.erase erasure cases := by
  cases cases with
  | nil => rfl
  | cons headed rest =>
      obtain ⟨caption, top, height, events⟩ := headed
      rw [Case.relaid, Case.erase, Case.erase, covers.frames, if_pos rfl, if_pos rfl,
        Event.allErase_allRelaid covers events, Case.erase_relaid covers rest]
termination_by structural cases

end

mutual

/-- What a layout decides is the same without any geometry before. -/
theorem Event.relaid_blank (keeps : erasure.Keeps bearings) (event : Event α) (y : α) :
    event.blank.relaid bearings measure sizes total y =
      ((event.relaid bearings measure sizes total y).1.erase erasure,
        (event.relaid bearings measure sizes total y).2) := by
  cases event with
  | signal signal place =>
      rw [Event.blank, Event.relaid, Event.relaid]
      have taken := keeps.signals signal
      cases endsEq : bearings.ends? signal <;>
        simp_all [Event.erase]
  | note note place =>
      rw [Event.blank, Event.relaid, Event.relaid]
      have taken := keeps.notes note
      cases anchorEq : bearings.anchor? note <;>
        simp_all [Event.erase]
  | conditional kind frame cases =>
      rw [Event.blank, Event.relaid, Event.relaid, Case.relaid_allBlank keeps cases]
      simp [Event.erase, keeps.frames, Case.heightAround_erase keeps.frames]
  | synchrony kind events =>
      rw [Event.blank, Event.relaid, Event.relaid, Event.allRelaid_allBlank keeps events,
        Event.erase]
  | lifetime | numbering => rw [Event.blank, Event.relaid, Event.erase]
termination_by structural event

theorem Event.allRelaid_allBlank (keeps : erasure.Keeps bearings) (events : List (Event α))
    (y : α) :
    Event.allRelaid bearings measure sizes total y (Event.allBlank events) =
      (Event.allErase erasure (Event.allRelaid bearings measure sizes total y events).1,
        (Event.allRelaid bearings measure sizes total y events).2) := by
  cases events with
  | nil => rfl
  | cons event rest =>
      rw [Event.allBlank, Event.allRelaid, Event.allRelaid, Event.relaid_blank keeps event]
      simp only [Event.allRelaid_allBlank keeps rest, Event.allErase]
termination_by structural events

theorem Case.relaid_allBlank (keeps : erasure.Keeps bearings)
    (cases : List (Case α (Event α))) (y : α) :
    Case.relaid bearings measure sizes total y (Case.allBlank cases) =
      (Case.erase erasure (Case.relaid bearings measure sizes total y cases).1,
        (Case.relaid bearings measure sizes total y cases).2) := by
  cases cases with
  | nil => rfl
  | cons headed rest =>
      obtain ⟨caption, top, height, events⟩ := headed
      rw [Case.allBlank, Case.unset, Case.relaid, Case.relaid,
        Event.allRelaid_allBlank keeps events]
      simp [Case.relaid_allBlank keeps rest, Case.erase, keeps.frames]
termination_by structural cases

end

mutual

theorem Event.relaid_relaid (event : Event α) (y : α) :
    (event.relaid bearings measure sizes total y).1.relaid bearings measure sizes total y =
      event.relaid bearings measure sizes total y := by
  cases event with
  | signal signal place =>
      rw [Event.relaid]
      cases endsEq : bearings.ends? signal <;> simp only [Event.relaid, endsEq]
  | note note place =>
      rw [Event.relaid]
      cases anchorEq : bearings.anchor? note <;> simp only [Event.relaid, anchorEq]
  | conditional kind frame cases =>
      rw [Event.relaid, Event.relaid, Case.relaid_relaid cases]
  | synchrony kind events =>
      rw [Event.relaid, Event.relaid, Event.allRelaid_allRelaid events]
  | lifetime | numbering => rw [Event.relaid, Event.relaid]
termination_by structural event

theorem Event.allRelaid_allRelaid (events : List (Event α)) (y : α) :
    Event.allRelaid bearings measure sizes total y
        (Event.allRelaid bearings measure sizes total y events).1 =
      Event.allRelaid bearings measure sizes total y events := by
  cases events with
  | nil => rfl
  | cons event rest =>
      rw [Event.allRelaid, Event.allRelaid, Event.relaid_relaid event]
      simp only [Event.allRelaid_allRelaid rest]
termination_by structural events

theorem Case.relaid_relaid (cases : List (Case α (Event α))) (y : α) :
    Case.relaid bearings measure sizes total y
        (Case.relaid bearings measure sizes total y cases).1 =
      Case.relaid bearings measure sizes total y cases := by
  cases cases with
  | nil => rfl
  | cons headed rest =>
      obtain ⟨caption, top, height, events⟩ := headed
      rw [Case.relaid, Case.relaid, Event.allRelaid_allRelaid events]
      simp only [Case.relaid_relaid rest]
termination_by structural cases

end

end Relaid

section Needs

variable [Scalar α] {directory other : Directory α} (measure : Measurer α) (sizes : Sizes α)

/-- What a signal needs depends on the lanes that its names mean. -/
theorem Signal.clearances_of_alike (alike : directory.Alike other) (signal : Signal)
    (place fresh : SignalPlace α) :
    (Event.signal signal place).clearances directory measure sizes =
      (Event.signal signal fresh).clearances other measure sizes := by
  have same := alike.map_ends? signal.source signal.destination
  rw [Event.clearances, Event.clearances]
  cases endsEq : other.ends? signal.source signal.destination with
  | none =>
      rw [endsEq, Option.map_none, Option.map_eq_none_iff] at same
      rw [same]
  | some ends =>
      rw [endsEq, Option.map_some, Option.map_eq_some_iff] at same
      obtain ⟨found, foundEq, lanesEq⟩ := same
      obtain ⟨sourceEq, destinationEq⟩ := Prod.mk.inj lanesEq
      simp only [foundEq, sourceEq, destinationEq]

theorem Note.clearances_of_alike (alike : directory.Alike other) (note : Note)
    (place fresh : NotePlace α) :
    (Event.note note place).clearances directory measure sizes =
      (Event.note note fresh).clearances other measure sizes := by
  have same := alike.map_anchor? note.location
  rw [Event.clearances, Event.clearances]
  cases anchorEq : other.anchor? note.location with
  | none =>
      rw [anchorEq, Option.map_none, Option.map_eq_none_iff] at same
      rw [same]
  | some anchor =>
      rw [anchorEq, Option.map_some, Option.map_eq_some_iff] at same
      obtain ⟨found, foundEq, laneEq⟩ := same
      simp only [foundEq, laneEq]

end Needs

namespace Actor

variable [Scalar α]

/-- An actor that stands nowhere, with the size of its head. -/
def unplaced (actor : Actor α) : Actor α :=
  { actor with laneX := zero, x := zero, topY := zero, bottomY := zero }

/-- An actor with all geometry taken away. -/
def blank (actor : Actor α) : Actor α :=
  { actor.unplaced with width := zero, height := zero }

/-- Lanes are spread without regard to where they were before. -/
theorem spread_unplaced (sizes : Sizes α) (position bottom : α) (actors : List (Actor α))
    (gaps : List α) :
    (spread sizes position (actors.map unplaced) gaps).1.map
          (fun actor => { actor with bottomY := bottom }) =
        (spread sizes position actors gaps).1.map
          (fun actor => { actor with bottomY := bottom }) ∧
      (spread sizes position (actors.map unplaced) gaps).2 =
        (spread sizes position actors gaps).2 := by
  induction actors generalizing position gaps with
  | nil => exact ⟨rfl, rfl⟩
  | cons actor rest ih =>
      obtain ⟨othersEq, widthEq⟩ := ih (position + gaps.headD zero) gaps.tail
      rw [List.map_cons, spread, spread]
      refine ⟨?_, widthEq⟩
      rw [List.map_cons, List.map_cons, othersEq]
      rfl

end Actor

namespace Diagram

variable [Scalar α] (measure : Measurer α) (sizes : Sizes α) (diagram : Diagram α)

/-- A diagram with all geometry taken away. -/
def blank : Diagram α where
  actors := diagram.actors.map Actor.blank
  events := Event.allBlank diagram.events

theorem alike_blank : diagram.blank.directory.Alike diagram.directory := by
  apply Directory.alike_ofActors <;> rw [blank, List.map_map] <;> rfl

theorem heads_blank :
    diagram.blank.heads measure sizes = (diagram.heads measure sizes).map Actor.unplaced := by
  rw [heads, heads, blank, List.map_map, List.map_map]
  rfl

theorem clearances_blank :
    diagram.blank.clearances measure sizes = diagram.clearances measure sizes := by
  rw [clearances, clearances, Event.allClearances_eq_flatMap, Event.allClearances_eq_flatMap,
    blank, ← Event.allErase_all, Event.flattenAll_allErase, List.flatMap_map]
  apply List.flatMap_congr
  intro row _
  cases row with
  | signal signal place =>
      exact Signal.clearances_of_alike measure sizes diagram.alike_blank signal {} place
  | note note place =>
      exact Note.clearances_of_alike measure sizes diagram.alike_blank note NotePlace.unset
        place
  | conditional | synchrony | lifetime | numbering => rfl

theorem gaps_blank : diagram.blank.gaps measure sizes = diagram.gaps measure sizes := by
  rw [gaps_eq_settle, gaps_eq_settle, clearances_blank, heads_blank, List.map_map]
  rfl

theorem spread_blank (bottom : α) :
    (diagram.blank.spread measure sizes).1.map (fun actor => { actor with bottomY := bottom }) =
        (diagram.spread measure sizes).1.map (fun actor => { actor with bottomY := bottom }) ∧
      (diagram.blank.spread measure sizes).2 = (diagram.spread measure sizes).2 := by
  rw [spread, spread, gaps_blank, heads_blank]
  exact Actor.spread_unplaced sizes _ bottom _ _

theorem top_blank : diagram.blank.top measure sizes = diagram.top measure sizes := by
  rw [top, top, heads_blank, Actor.highest, Actor.highest, List.foldl_map]
  rfl

theorem bearings_blank :
    diagram.blank.bearings measure sizes = diagram.bearings measure sizes := by
  have lowered := (diagram.spread_blank measure sizes zero).1
  rw [bearings, bearings, laneDirectory, laneDirectory]
  apply Directory.bearings_ofActors
  · simpa only [List.map_map, Function.comp_def] using
      congrArg (List.map fun actor => (actor.caption, actor.laneX)) lowered
  · simpa only [List.map_map, Function.comp_def] using
      congrArg (List.map fun actor => (actor.nickname, actor.laneX)) lowered

/-- A name means an actor before a layout if it leads to a lane in it. -/
theorem isSome_ends?_bearings (signal : Signal) :
    ((diagram.bearings measure sizes).ends? signal).isSome =
      signal.resolves diagram.directory := by
  have same := (diagram.alike_laneDirectory measure sizes).map_ends? signal.source
    signal.destination
  rw [bearings, Directory.ends?_bearings, Signal.resolves, Option.isSome_map,
    ← Option.isSome_map (f := Prod.map Entry.lane Entry.lane), ← same, Option.isSome_map]

theorem isSome_anchor?_bearings (note : Note) :
    ((diagram.bearings measure sizes).anchor? note).isSome =
      note.resolves diagram.directory := by
  have same := (diagram.alike_laneDirectory measure sizes).map_anchor? note.location
  rw [bearings, Directory.anchor?_bearings, Note.resolves, Option.isSome_map,
    ← Option.isSome_map (f := Entry.lane), ← same, Option.isSome_map]

theorem covers_resolved :
    (Erasure.resolved diagram.directory).Covers (diagram.bearings measure sizes) where
  signals signal found := by rwa [isSome_ends?_bearings] at found
  notes note found := by rwa [isSome_anchor?_bearings] at found
  frames := rfl

theorem keeps_unresolved :
    (Erasure.unresolved diagram.directory).Keeps (diagram.bearings measure sizes) where
  signals signal := by
    rw [← Option.not_isSome, isSome_ends?_bearings]
    rfl
  notes note := by
    rw [← Option.not_isSome, isSome_anchor?_bearings]
    rfl
  frames := rfl

theorem relaid_blank :
    diagram.blank.relaid measure sizes =
      (Event.allErase (.unresolved diagram.directory) (diagram.relaid measure sizes).1,
        (diagram.relaid measure sizes).2) := by
  rw [relaid, bearings_blank, (diagram.spread_blank measure sizes zero).2, top_blank]
  exact Event.allRelaid_allBlank measure sizes _ (diagram.keeps_unresolved measure sizes) _ _

theorem finish_blank (placed : List (Event α)) (bottom : α) :
    finish sizes (diagram.blank.spread measure sizes) placed bottom =
      finish sizes (diagram.spread measure sizes) placed bottom := by
  obtain ⟨actorsEq, widthEq⟩ := diagram.spread_blank measure sizes bottom
  rw [finish, finish, actorsEq, widthEq]

theorem blank_layout : (diagram.layout measure sizes).1.blank = diagram.blank := by
  have actorsEq : (diagram.spread measure sizes).1.map Actor.blank =
      diagram.actors.map Actor.blank :=
    map_spread measure sizes diagram fun _ _ _ _ _ _ => rfl
  rw [layout_eq_relaid, finish, blank, blank, ← actorsEq, List.map_map, relaid,
    ← Event.allErase_all, ← Event.allErase_all,
    Event.allErase_allRelaid measure sizes _ ⟨fun _ _ => rfl, fun _ _ => rfl, rfl⟩]
  rfl

theorem alike_layout : (diagram.layout measure sizes).1.directory.Alike diagram.directory := by
  intro name
  have laid := (diagram.layout measure sizes).1.alike_blank name
  rw [blank_layout] at laid
  exact laid.symm.trans (diagram.alike_blank name)

theorem rests_layout :
    List.Forall₂ (Event.Rests (diagram.bearings measure sizes) measure sizes)
      (Event.flattenAll diagram.events)
      (Event.flattenAll (diagram.layout measure sizes).1.events) := by
  rw [layout_eq_relaid, finish, relaid]
  exact Event.rests_allRelaid _ measure sizes _ _ _

/-- After a layout the names of a diagram lead to where it has placed their actors. -/
theorem bearings_layout :
    (diagram.layout measure sizes).1.directory.bearings = diagram.bearings measure sizes := by
  rw [bearings, laneDirectory, directory, layout_actors]
  apply Directory.bearings_ofActors <;> rw [List.map_map] <;> rfl

/-- What a layout has made of a row it makes of it again. -/
theorem rests_of_mem_layout {row : Event α}
    (member : row ∈ Event.flattenAll (diagram.layout measure sizes).1.events) :
    Event.Rests (diagram.bearings measure sizes) measure sizes row row := by
  have again := Event.rests_allRelaid (diagram.bearings measure sizes) measure sizes
    (diagram.spread measure sizes).2 (diagram.relaid measure sizes).1
    (diagram.top measure sizes)
  rw [relaid, Event.allRelaid_allRelaid] at again
  rw [layout_eq_relaid, finish, relaid] at member
  exact List.forall₂_same.mp again row member

/-- Without any geometry a diagram is laid out in the same way, except that nothing is left
of what was placed before. -/
theorem layout_blank :
    diagram.blank.layout measure sizes =
      finish sizes (diagram.spread measure sizes)
        (Event.allErase (.unresolved diagram.directory) (diagram.relaid measure sizes).1)
        (diagram.relaid measure sizes).2 := by
  rw [layout_eq_relaid, relaid_blank, finish_blank]

theorem relaid_layout :
    (diagram.layout measure sizes).1.relaid measure sizes = diagram.relaid measure sizes := by
  have blankEq := diagram.blank_layout measure sizes
  have eventsEq : (diagram.layout measure sizes).1.events = (diagram.relaid measure sizes).1 := by
    rw [layout_eq_relaid, finish]
  rw [relaid, ← bearings_blank, ← (spread_blank measure sizes _ zero).2, ← top_blank, blankEq,
    bearings_blank, (diagram.spread_blank measure sizes zero).2, top_blank, eventsEq]
  exact Event.allRelaid_allRelaid measure sizes _ _ _

theorem layout_layout :
    (diagram.layout measure sizes).1.layout measure sizes = diagram.layout measure sizes := by
  rw [layout_eq_relaid measure sizes (diagram.layout measure sizes).1, relaid_layout,
    ← finish_blank, blank_layout, finish_blank, ← layout_eq_relaid]

/-- A layout depends on the content of a diagram, and on its geometry only where names do
not resolve. -/
theorem layout_forgets :
    (diagram.layout measure sizes).1.blank = diagram.blank ∧
      ((diagram.layout measure sizes).2 = (diagram.blank.layout measure sizes).2 ∧
        (diagram.layout measure sizes).1.actors =
          (diagram.blank.layout measure sizes).1.actors ∧
        Event.allErase (.unresolved diagram.directory)
            (diagram.layout measure sizes).1.events =
          (diagram.blank.layout measure sizes).1.events) ∧
      Event.allErase (.resolved diagram.directory) (diagram.layout measure sizes).1.events =
        Event.allErase (.resolved diagram.directory) diagram.events ∧
      (diagram.layout measure sizes).1.layout measure sizes =
        diagram.layout measure sizes := by
  refine ⟨diagram.blank_layout measure sizes, ?_, ?_, diagram.layout_layout measure sizes⟩
  · rw [layout_blank, layout_eq_relaid]
    exact ⟨rfl, rfl, rfl⟩
  · rw [layout_eq_relaid, finish, relaid]
    exact Event.allErase_allRelaid measure sizes _ (diagram.covers_resolved measure sizes) _ _

end Diagram

end Lifeline
