import Lifeline.Script

/-!
# Events in one row

The events of a diagram form a tree.  Flattening puts them in one row in the
order in which a reader meets them: a conditional or a synchrony block comes
before the events inside it, and the cases of a conditional follow each other
with the boundaries between them forgotten.

A row shows what a tree holds and in which order, whatever closes the blocks.
-/

namespace Lifeline

variable {α : Type}

mutual

/-- One event and those inside it in one row. -/
def Event.flatten : Event α → List (Event α)
  | .signal signal place => [.signal signal place]
  | .note note place => [.note note place]
  | .conditional kind frame cases =>
      .conditional kind frame [] :: Case.flatten cases
  | .synchrony kind events => .synchrony kind [] :: Event.flattenAll events
  | .lifetime kind target => [.lifetime kind target]
  | .numbering start => [.numbering start]
termination_by structural event => event

def Event.flattenAll : List (Event α) → List (Event α)
  | [] => []
  | event :: rest => event.flatten ++ Event.flattenAll rest
termination_by structural events => events

def Case.flatten : List (Case α (Event α)) → List (Event α)
  | [] => []
  | ⟨_, _, _, events⟩ :: rest => Event.flattenAll events ++ Case.flatten rest
termination_by structural cases => cases

end

/-- Whether an event is drawn by itself: a signal or an annotation. -/
def Event.Drawn : Event α → Prop
  | .signal _ _ | .note _ _ => True
  | _ => False

@[simp]
theorem Event.flattenAll_append (first second : List (Event α)) :
    Event.flattenAll (first ++ second) =
      Event.flattenAll first ++ Event.flattenAll second := by
  induction first with
  | nil => rfl
  | cons event rest ih =>
      simp only [List.cons_append, Event.flattenAll, ih, List.append_assoc]

@[simp]
theorem Case.flatten_append (first second : List (Case α (Event α))) :
    Case.flatten (first ++ second) = Case.flatten first ++ Case.flatten second := by
  induction first with
  | nil => rfl
  | cons headed rest ih =>
      simp only [List.cons_append, Case.flatten, ih, List.append_assoc]

mutual

/-- A row of a tree holds nothing but itself. -/
theorem Event.flatten_of_mem_flatten (event : Event α) {row : Event α}
    (member : row ∈ event.flatten) : row.flatten = [row] := by
  cases event with
  | signal | note | lifetime | numbering =>
      rw [Event.flatten, List.mem_singleton] at member
      rw [member, Event.flatten]
  | conditional kind frame cases =>
      rw [Event.flatten, List.mem_cons] at member
      rcases member with rfl | inside
      · rfl
      · exact Case.flatten_of_mem_flatten cases inside
  | synchrony kind events =>
      rw [Event.flatten, List.mem_cons] at member
      rcases member with rfl | inside
      · rfl
      · exact Event.flatten_of_mem_flattenAll events inside
termination_by structural event

theorem Event.flatten_of_mem_flattenAll (events : List (Event α)) {row : Event α}
    (member : row ∈ Event.flattenAll events) : row.flatten = [row] := by
  cases events with
  | nil => cases member
  | cons event rest =>
      rw [Event.flattenAll, List.mem_append] at member
      rcases member with inFirst | inRest
      · exact Event.flatten_of_mem_flatten event inFirst
      · exact Event.flatten_of_mem_flattenAll rest inRest
termination_by structural events

theorem Case.flatten_of_mem_flatten (cases : List (Case α (Event α))) {row : Event α}
    (member : row ∈ Case.flatten cases) : row.flatten = [row] := by
  cases cases with
  | nil => cases member
  | cons headed rest =>
      obtain ⟨caption, y, height, events⟩ := headed
      rw [Case.flatten, List.mem_append] at member
      rcases member with inEvents | inRest
      · exact Event.flatten_of_mem_flattenAll events inEvents
      · exact Case.flatten_of_mem_flatten rest inRest
termination_by structural cases

end

@[simp]
theorem Signal.flattenAll_events (signal : Signal) :
    Event.flattenAll (signal.events : List (Event α)) = signal.events := by
  cases activates : signal.activates <;> cases deactivates : signal.deactivates <;>
    simp [Signal.events, Signal.markers, activates, deactivates,
      Event.flattenAll, Event.flatten]

section Placed

variable (signalTest : Signal → SignalPlace α → Bool)
  (noteTest : Note → NotePlace α → Bool)

mutual

/-- Tests of what is placed look at one event after the other. -/
theorem Event.placedPass_eq_all (event : Event α) :
    event.placedPass signalTest noteTest =
      event.flatten.all (Event.placedPass signalTest noteTest) := by
  cases event with
  | signal | note | lifetime | numbering =>
      rw [Event.flatten, List.all_cons, List.all_nil, Bool.and_true]
  | conditional kind frame cases =>
      rw [Event.flatten, List.all_cons, Event.placedPass, Case.placedPass_eq_all cases]
      rfl
  | synchrony kind events =>
      rw [Event.flatten, List.all_cons, Event.placedPass, Event.allPlacedPass_eq_all events]
      rfl
termination_by structural event

theorem Event.allPlacedPass_eq_all (events : List (Event α)) :
    Event.allPlacedPass signalTest noteTest events =
      (Event.flattenAll events).all (Event.placedPass signalTest noteTest) := by
  cases events with
  | nil => rfl
  | cons event rest =>
      rw [Event.allPlacedPass, Event.flattenAll, List.all_append,
        Event.placedPass_eq_all event, Event.allPlacedPass_eq_all rest]
termination_by structural events

theorem Case.placedPass_eq_all (cases : List (Case α (Event α))) :
    Case.placedPass signalTest noteTest cases =
      (Case.flatten cases).all (Event.placedPass signalTest noteTest) := by
  cases cases with
  | nil => rfl
  | cons headed rest =>
      obtain ⟨caption, y, height, events⟩ := headed
      rw [Case.placedPass, Case.flatten, List.all_append,
        Event.allPlacedPass_eq_all events, Case.placedPass_eq_all rest]
termination_by structural cases

end

theorem Event.allPlacedPass_append (first second : List (Event α)) :
    Event.allPlacedPass signalTest noteTest (first ++ second) =
      (Event.allPlacedPass signalTest noteTest first &&
        Event.allPlacedPass signalTest noteTest second) := by
  rw [allPlacedPass_eq_all, flattenAll_append, List.all_append, ← allPlacedPass_eq_all,
    ← allPlacedPass_eq_all]

theorem Case.placedPass_append (first second : List (Case α (Event α))) :
    Case.placedPass signalTest noteTest (first ++ second) =
      (Case.placedPass signalTest noteTest first &&
        Case.placedPass signalTest noteTest second) := by
  rw [placedPass_eq_all, flatten_append, List.all_append, ← placedPass_eq_all,
    ← placedPass_eq_all]

section Weaker

variable {signalTest noteTest} {weakSignalTest : Signal → SignalPlace α → Bool}
  {weakNoteTest : Note → NotePlace α → Bool}

mutual

/-- What passes a test passes a weaker one. -/
theorem Event.placedPass_mono
    (signals : ∀ signal place, signalTest signal place = true →
      weakSignalTest signal place = true)
    (notes : ∀ note place, noteTest note place = true → weakNoteTest note place = true)
    (event : Event α)
    (pass : event.placedPass signalTest noteTest = true) :
    event.placedPass weakSignalTest weakNoteTest = true := by
  cases event with
  | signal signal place =>
      rw [Event.placedPass, Bool.or_eq_true] at pass ⊢
      exact pass.imp_right (signals signal place)
  | note note place =>
      rw [Event.placedPass, Bool.or_eq_true] at pass ⊢
      exact pass.imp_right (notes note place)
  | conditional kind frame cases =>
      rw [Event.placedPass] at pass ⊢
      exact Case.placedPass_mono signals notes cases pass
  | synchrony kind events =>
      rw [Event.placedPass] at pass ⊢
      exact Event.allPlacedPass_mono signals notes events pass
  | lifetime | numbering => rw [Event.placedPass]
termination_by structural event

theorem Event.allPlacedPass_mono
    (signals : ∀ signal place, signalTest signal place = true →
      weakSignalTest signal place = true)
    (notes : ∀ note place, noteTest note place = true → weakNoteTest note place = true)
    (events : List (Event α))
    (pass : Event.allPlacedPass signalTest noteTest events = true) :
    Event.allPlacedPass weakSignalTest weakNoteTest events = true := by
  cases events with
  | nil => rfl
  | cons event rest =>
      rw [Event.allPlacedPass, Bool.and_eq_true] at pass ⊢
      exact ⟨Event.placedPass_mono signals notes event pass.1,
        Event.allPlacedPass_mono signals notes rest pass.2⟩
termination_by structural events

theorem Case.placedPass_mono
    (signals : ∀ signal place, signalTest signal place = true →
      weakSignalTest signal place = true)
    (notes : ∀ note place, noteTest note place = true → weakNoteTest note place = true)
    (cases : List (Case α (Event α)))
    (pass : Case.placedPass signalTest noteTest cases = true) :
    Case.placedPass weakSignalTest weakNoteTest cases = true := by
  cases cases with
  | nil => rfl
  | cons headed rest =>
      obtain ⟨caption, y, height, events⟩ := headed
      rw [Case.placedPass, Bool.and_eq_true] at pass ⊢
      exact ⟨Event.allPlacedPass_mono signals notes events pass.1,
        Case.placedPass_mono signals notes rest pass.2⟩
termination_by structural cases

end

end Weaker

end Placed

def Event.NonePlaced (events : List (Event α)) : Prop :=
  Event.allPlacedPass (fun _ _ => false) (fun _ _ => false) events = true

theorem Event.nonePlaced_iff (events : List (Event α)) :
    Event.NonePlaced events ↔
      ∀ event ∈ Event.flattenAll events,
        event.placedPass (fun _ _ => false) (fun _ _ => false) = true := by
  rw [NonePlaced, allPlacedPass_eq_all, List.all_eq_true]

end Lifeline
