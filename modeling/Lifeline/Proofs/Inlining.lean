import Lifeline.Proofs.BlankCells
import Lifeline.Proofs.Forgetting
import Lifeline.Svg

/-!
# Blocks and markers leave no trace

A synchrony block says that its events belong together, and a marker that an actor lives
or that signals are numbered.  Neither is drawn.  A tree may therefore be inlined: every
synchrony block gives way to the events in it, however deep it stands, and every marker
is left out.

Nothing that can be seen changes.  What is needed between lanes is the same, a layout puts
every actor, every frame and every event that is left where it was, and both drawings are
the same.

The same holds of drawings when signals and annotations are left out that were never
placed, so trees are inlined here through a sieve that says which of them stay.
-/

namespace Lifeline

variable {α : Type}

/-- Which signals and annotations of a tree are kept. -/
structure Sieve (α : Type) where
  signals : Signal → SignalPlace α → Bool
  notes : Note → NotePlace α → Bool

namespace Sieve

def all : Sieve α where
  signals _ _ := true
  notes _ _ := true

def placed : Sieve α where
  signals _ place := place.placed
  notes _ place := place.placed

/-- Whether one row of a tree is kept. -/
def keeps (sieve : Sieve α) : Event α → Bool
  | .signal content place => sieve.signals content place
  | .note content place => sieve.notes content place
  | .conditional _ _ _ => true
  | .synchrony _ _ | .lifetime _ _ | .numbering _ => false

/-- Whether everything is kept that is placed. -/
structure Fine (sieve : Sieve α) : Prop where
  signals : ∀ content place, place.placed = true → sieve.signals content place = true
  notes : ∀ content place, place.placed = true → sieve.notes content place = true

theorem fine_all : (all : Sieve α).Fine :=
  ⟨fun _ _ _ => rfl, fun _ _ _ => rfl⟩

theorem fine_placed : (placed : Sieve α).Fine :=
  ⟨fun _ _ placed => placed, fun _ _ placed => placed⟩

end Sieve

section Sifted

variable (sieve : Sieve α)

mutual

/-- What is left of an event: of a synchrony block the events in it, of a marker nothing. -/
def Event.sifted : Event α → List (Event α)
  | .signal content place =>
      if sieve.signals content place then [.signal content place] else []
  | .note content place => if sieve.notes content place then [.note content place] else []
  | .conditional kind frame cases => [.conditional kind frame (Case.sifted cases)]
  | .synchrony _ events => Event.allSifted events
  | .lifetime _ _ => []
  | .numbering _ => []
termination_by structural event => event

def Event.allSifted : List (Event α) → List (Event α)
  | [] => []
  | event :: rest => event.sifted ++ Event.allSifted rest
termination_by structural events => events

def Case.sifted : List (Case α (Event α)) → List (Case α (Event α))
  | [] => []
  | ⟨caption, y, height, events⟩ :: rest =>
      ⟨caption, y, height, Event.allSifted events⟩ :: Case.sifted rest
termination_by structural cases => cases

end

mutual

/-- Sifting a tree is sifting its rows. -/
theorem Event.flattenAll_sifted (event : Event α) :
    Event.flattenAll (event.sifted sieve) = event.flatten.filter sieve.keeps := by
  cases event with
  | signal content place =>
      rw [Event.sifted, Event.flatten]
      cases kept : sieve.signals content place <;> simp [Sieve.keeps, kept, Event.flattenAll,
        Event.flatten]
  | note content place =>
      rw [Event.sifted, Event.flatten]
      cases kept : sieve.notes content place <;> simp [Sieve.keeps, kept, Event.flattenAll,
        Event.flatten]
  | conditional kind frame cases =>
      rw [Event.sifted, Event.flattenAll, Event.flattenAll, List.append_nil, Event.flatten,
        Event.flatten, Case.flatten_sifted cases, List.filter_cons_of_pos (by rfl)]
  | synchrony kind events =>
      rw [Event.sifted, Event.flatten, Event.flattenAll_allSifted events,
        List.filter_cons_of_neg (by simp [Sieve.keeps])]
  | lifetime | numbering => rfl
termination_by structural event

theorem Event.flattenAll_allSifted (events : List (Event α)) :
    Event.flattenAll (Event.allSifted sieve events) =
      (Event.flattenAll events).filter sieve.keeps := by
  cases events with
  | nil => rfl
  | cons event rest =>
      rw [Event.allSifted, Event.flattenAll_append, Event.flattenAll_sifted event,
        Event.flattenAll_allSifted rest, Event.flattenAll, List.filter_append]
termination_by structural events

theorem Case.flatten_sifted (cases : List (Case α (Event α))) :
    Case.flatten (Case.sifted sieve cases) = (Case.flatten cases).filter sieve.keeps := by
  cases cases with
  | nil => rfl
  | cons headed rest =>
      obtain ⟨caption, y, height, events⟩ := headed
      rw [Case.sifted, Case.flatten, Event.flattenAll_allSifted events,
        Case.flatten_sifted rest, Case.flatten, List.filter_append]
termination_by structural cases

end

end Sifted

section Drawn

variable {sieve : Sieve α}

/-- What is placed passes its tests in a sifted tree if it does in the whole tree. -/
theorem Event.allPlacedPass_allSifted (fine : sieve.Fine)
    (signalTest : Signal → SignalPlace α → Bool) (noteTest : Note → NotePlace α → Bool)
    (events : List (Event α)) :
    Event.allPlacedPass signalTest noteTest (Event.allSifted sieve events) =
      Event.allPlacedPass signalTest noteTest events := by
  rw [Event.allPlacedPass_eq_all, Event.allPlacedPass_eq_all, Event.flattenAll_allSifted,
    List.all_filter, Bool.eq_iff_iff, List.all_eq_true, List.all_eq_true]
  -- A row that is left out has nothing to pass.
  have vacuous (row : Event α) (inside : row ∈ Event.flattenAll events)
      (lost : sieve.keeps row = false) : row.placedPass signalTest noteTest = true := by
    cases row with
    | signal content place =>
        rw [Event.placedPass, Bool.eq_false_iff.mpr fun placed =>
          Bool.eq_false_iff.mp lost (fine.signals content place placed)]
        rfl
    | note content place =>
        rw [Event.placedPass, Bool.eq_false_iff.mpr fun placed =>
          Bool.eq_false_iff.mp lost (fine.notes content place placed)]
        rfl
    | conditional => cases lost
    | synchrony kind held =>
        have alone := Event.flatten_of_mem_flattenAll events inside
        rw [Event.flatten, List.cons.injEq, Event.synchrony.injEq] at alone
        rw [← alone.1.2]
        rfl
    | lifetime | numbering => rfl
  refine forall₂_congr fun row inside => ?_
  cases kept : sieve.keeps row with
  | true => rw [Bool.not_true, Bool.false_or]
  | false => simp [vacuous row inside kept]

section Pen

variable {δ : Type} (pen : Pen α δ)

theorem Event.drawAll_append (first second : List (Event α)) :
    Event.drawAll pen (first ++ second) = Event.drawAll pen first ++ Event.drawAll pen second := by
  induction first with
  | nil => rfl
  | cons event rest ih =>
      rw [List.cons_append, Event.drawAll, ih, Event.drawAll, List.append_assoc]

/-- What is drawn of a leaf is drawn of what is left of it. -/
theorem drawn_of_kept {δ : Type} {kept placed : Bool} (draw : List (Event α) → List δ)
    (nothing : draw [] = []) (event : Event α) (drawn : List δ)
    (single : draw [event] = if placed then drawn else [])
    (fine : placed = true → kept = true) :
    draw (if kept then [event] else []) = if placed then drawn else [] := by
  cases kept with
  | true => exact single
  | false =>
      cases placed with
      | true => exact absurd (fine rfl) Bool.false_ne_true
      | false => exact nothing

mutual

/-- What is drawn of an event is drawn of what is left of it. -/
theorem Event.drawAll_sifted (fine : sieve.Fine) (event : Event α) :
    Event.drawAll pen (event.sifted sieve) = event.draw pen := by
  cases event with
  | signal content place =>
      rw [Event.sifted, Event.draw]
      exact drawn_of_kept (Event.drawAll pen) rfl _ _ (List.append_nil _)
        (fine.signals content place)
  | note content place =>
      rw [Event.sifted, Event.draw]
      exact drawn_of_kept (Event.drawAll pen) rfl _ _ (List.append_nil _)
        (fine.notes content place)
  | conditional kind frame cases =>
      rw [Event.sifted, Event.drawAll, Event.drawAll, List.append_nil, Event.draw, Event.draw,
        Case.drawAll_sifted fine frame true cases]
  | synchrony kind events => rw [Event.sifted, Event.draw, Event.drawAll_allSifted fine events]
  | lifetime | numbering => rfl
termination_by structural event

theorem Event.drawAll_allSifted (fine : sieve.Fine) (events : List (Event α)) :
    Event.drawAll pen (Event.allSifted sieve events) = Event.drawAll pen events := by
  cases events with
  | nil => rfl
  | cons event rest =>
      rw [Event.allSifted, Event.drawAll_append, Event.drawAll_sifted fine event,
        Event.drawAll_allSifted fine rest, Event.drawAll]
termination_by structural events

theorem Case.drawAll_sifted (fine : sieve.Fine) (frame : Frame α) (first : Bool)
    (cases : List (Case α (Event α))) :
    Case.drawAll pen frame first (Case.sifted sieve cases) =
      Case.drawAll pen frame first cases := by
  cases cases with
  | nil => rfl
  | cons headed rest =>
      obtain ⟨caption, y, height, events⟩ := headed
      rw [Case.sifted, Case.drawAll, Event.drawAll_allSifted fine events,
        Case.drawAll_sifted fine frame false rest, Case.drawAll]
termination_by structural cases

end

end Pen

end Drawn

namespace Diagram

/-- A diagram with what is left of its events in a sieve. -/
def sifted (sieve : Sieve α) (diagram : Diagram α) : Diagram α :=
  { diagram with events := Event.allSifted sieve diagram.events }

variable [Scalar α] {sieve : Sieve α} (diagram : Diagram α)

theorem svg_sifted (fine : sieve.Fine) (theme : Svg.Theme) (sizes : Sizes α)
    (extent : Extent α) :
    (diagram.sifted sieve).svg theme sizes extent = diagram.svg theme sizes extent := by
  have elementsEq : Svg.eventList theme sizes (Event.allSifted sieve diagram.events) =
      Svg.eventList theme sizes diagram.events :=
    Event.drawAll_allSifted (Svg.pen theme sizes) fine diagram.events
  rw [svg, svg, sifted, elementsEq]

theorem svg?_sifted (fine : sieve.Fine) (theme : Svg.Theme) (sizes : Sizes α)
    (extent : Extent α) :
    (diagram.sifted sieve).svg? theme sizes extent = diagram.svg? theme sizes extent := by
  have drawableEq : (diagram.sifted sieve).drawable = diagram.drawable :=
    Event.allPlacedPass_allSifted fine _ _ diagram.events
  rw [svg?, svg?, drawableEq, svg_sifted diagram fine]

theorem text_startCanvas (extent : Extent α) : (startCanvas extent).text = "" := by
  have alike : (startCanvas extent).SeenAlike Canvas.empty := fun column row => by
    rw [startCanvas, Canvas.seen_ofCorner]
    rfl
  exact alike.text_eq (even_startCanvas extent) Canvas.even_empty

/-- A diagram in which there is nothing to draw has the text of a blank canvas, so it need
not be told from others. -/
theorem textArt_eq_text (style : Style) (extent : Extent α) :
    diagram.textArt style extent = (diagram.canvas style extent).text := by
  rw [textArt]
  split
  next empty =>
    rw [Bool.and_eq_true, List.isEmpty_iff, List.isEmpty_iff] at empty
    rw [canvas, marks, empty.1, empty.2]
    exact (text_startCanvas extent).symm
  next => rfl

theorem textArt?_sifted (fine : sieve.Fine) (style : Style) (extent : Extent α) :
    (diagram.sifted sieve).textArt? style extent = diagram.textArt? style extent := by
  have markableEq : (diagram.sifted sieve).markable = diagram.markable :=
    Event.allPlacedPass_allSifted fine _ _ diagram.events
  have eventsEq : Event.allMarks (Event.allSifted sieve diagram.events) =
      Event.allMarks diagram.events :=
    Event.drawAll_allSifted Mark.pen fine diagram.events
  have marksEq : (diagram.sifted sieve).marks = diagram.marks := by
    rw [marks, marks, sifted, eventsEq]
  rw [textArt?, textArt?, markableEq, textArt_eq_text, textArt_eq_text, canvas, canvas, marksEq]

end Diagram

section Relaid

variable [Scalar α] (bearings : Bearings α) (measure : Measurer α) (sizes : Sizes α)
  (total : α)

theorem Event.allRelaid_append (first second : List (Event α)) (y : α) :
    Event.allRelaid bearings measure sizes total y (first ++ second) =
      ((Event.allRelaid bearings measure sizes total y first).1 ++
          (Event.allRelaid bearings measure sizes total
            (Event.allRelaid bearings measure sizes total y first).2 second).1,
        (Event.allRelaid bearings measure sizes total
          (Event.allRelaid bearings measure sizes total y first).2 second).2) := by
  induction first generalizing y with
  | nil => rfl
  | cons event rest ih => simp only [List.cons_append, Event.allRelaid, ih]

theorem Case.heightAround_sifted (sieve : Sieve α) (cases : List (Case α (Event α))) :
    Frame.heightAround sizes (Case.sifted sieve cases) = Frame.heightAround sizes cases := by
  have heightsEq : (Case.sifted sieve cases).map Case.height = cases.map Case.height := by
    induction cases with
    | nil => rfl
    | cons headed rest ih => rw [Case.sifted, List.map_cons, List.map_cons, ih]
  exact Frame.heightAround_congr sizes heightsEq

mutual

/-- An inlined event is laid out as it is in its block. -/
theorem Event.allRelaid_sifted (event : Event α) (y : α) :
    Event.allRelaid bearings measure sizes total y (event.sifted .all) =
      ((event.relaid bearings measure sizes total y).1.sifted .all,
        (event.relaid bearings measure sizes total y).2) := by
  cases event with
  | signal content place =>
      rw [Event.relaid]
      cases endsEq : bearings.ends? content <;>
        simp [Event.sifted, Sieve.all, Event.allRelaid, Event.relaid, endsEq]
  | note content place =>
      rw [Event.relaid]
      cases anchorEq : bearings.anchor? content <;>
        simp [Event.sifted, Sieve.all, Event.allRelaid, Event.relaid, anchorEq]
  | conditional kind frame cases =>
      simp only [Event.sifted, Event.allRelaid, Event.relaid, Case.relaid_sifted cases,
        Case.heightAround_sifted]
  | synchrony kind events =>
      rw [Event.sifted, Event.relaid, Event.sifted, Event.allRelaid_allSifted events]
  | lifetime | numbering => rfl
termination_by structural event

theorem Event.allRelaid_allSifted (events : List (Event α)) (y : α) :
    Event.allRelaid bearings measure sizes total y (Event.allSifted .all events) =
      (Event.allSifted .all (Event.allRelaid bearings measure sizes total y events).1,
        (Event.allRelaid bearings measure sizes total y events).2) := by
  cases events with
  | nil => rfl
  | cons event rest =>
      simp only [Event.allSifted, Event.allRelaid_append, Event.allRelaid_sifted event,
        Event.allRelaid_allSifted rest, Event.allRelaid]
termination_by structural events

theorem Case.relaid_sifted (cases : List (Case α (Event α))) (y : α) :
    Case.relaid bearings measure sizes total y (Case.sifted .all cases) =
      (Case.sifted .all (Case.relaid bearings measure sizes total y cases).1,
        (Case.relaid bearings measure sizes total y cases).2) := by
  cases cases with
  | nil => rfl
  | cons headed rest =>
      obtain ⟨caption, top, height, events⟩ := headed
      simp only [Case.sifted, Case.relaid, Event.allRelaid_allSifted events,
        Case.relaid_sifted rest]
termination_by structural cases

end

theorem Event.allClearances_allSifted (directory : Directory α) (events : List (Event α)) :
    Event.allClearances directory measure sizes (Event.allSifted .all events) =
      Event.allClearances directory measure sizes events := by
  rw [Event.allClearances_eq_flatMap, Event.allClearances_eq_flatMap,
    Event.flattenAll_allSifted]
  -- What is left out of the rows needs no room.
  induction Event.flattenAll events with
  | nil => rfl
  | cons row rest ih =>
      cases row with
      | signal | note | conditional =>
          rw [List.filter_cons_of_pos (by rfl), List.flatMap_cons, List.flatMap_cons, ih]
      | synchrony | lifetime | numbering =>
          rw [List.filter_cons_of_neg (by simp [Sieve.keeps]), List.flatMap_cons, ih]
          rfl

end Relaid

namespace Diagram

/-- A diagram with every synchrony block replaced by what it holds, and without markers. -/
def inlined (diagram : Diagram α) : Diagram α :=
  diagram.sifted .all

variable [Scalar α] (measure : Measurer α) (sizes : Sizes α) (diagram : Diagram α)

theorem layout_inlined :
    diagram.inlined.layout measure sizes =
      ((diagram.layout measure sizes).1.inlined, (diagram.layout measure sizes).2) := by
  have gapsEq : diagram.inlined.gaps measure sizes = diagram.gaps measure sizes :=
    congrArg (Gaps.settle _)
      (Event.allClearances_allSifted measure sizes diagram.directory diagram.events)
  have spreadEq : diagram.inlined.spread measure sizes = diagram.spread measure sizes := by
    rw [spread, spread, gapsEq]
    rfl
  have bearingsEq : diagram.inlined.bearings measure sizes = diagram.bearings measure sizes := by
    rw [bearings, bearings, laneDirectory, laneDirectory, spreadEq]
  have relaidEq : diagram.inlined.relaid measure sizes =
      (Event.allSifted .all (diagram.relaid measure sizes).1,
        (diagram.relaid measure sizes).2) := by
    rw [relaid, relaid, bearingsEq, spreadEq]
    exact Event.allRelaid_allSifted _ measure sizes _ diagram.events _
  rw [layout_eq_relaid, layout_eq_relaid, relaidEq, spreadEq]
  rfl

/-- Synchrony blocks and markers leave no trace.  With every block replaced by what it holds
and every marker left out, a diagram needs the same room, is laid out in the same way, and
has the same drawings. -/
theorem inlined_unseen :
    Event.flattenAll diagram.inlined.events =
        (Event.flattenAll diagram.events).filter Sieve.all.keeps ∧
      (∀ (directory : Directory α) (measure : Measurer α) (sizes : Sizes α),
        Event.allClearances directory measure sizes diagram.inlined.events =
          Event.allClearances directory measure sizes diagram.events) ∧
      (∀ (measure : Measurer α) (sizes : Sizes α),
        diagram.inlined.layout measure sizes =
          ((diagram.layout measure sizes).1.inlined, (diagram.layout measure sizes).2)) ∧
      (∀ (theme : Svg.Theme) (sizes : Sizes α) (extent : Extent α),
        diagram.inlined.svg? theme sizes extent = diagram.svg? theme sizes extent) ∧
      ∀ (style : Style) (extent : Extent α),
        diagram.inlined.textArt? style extent = diagram.textArt? style extent := by
  refine ⟨Event.flattenAll_allSifted .all diagram.events, fun directory measure sizes => ?_,
    fun measure sizes => diagram.layout_inlined measure sizes, ?_, ?_⟩
  · exact Event.allClearances_allSifted measure sizes directory diagram.events
  · exact diagram.svg?_sifted Sieve.fine_all
  · exact diagram.textArt?_sifted Sieve.fine_all

end Diagram

end Lifeline
