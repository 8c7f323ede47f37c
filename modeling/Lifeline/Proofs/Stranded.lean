import Lifeline.Proofs.Forgetting
import Lifeline.Proofs.Runs

/-!
# Events whose actors have gone

An event that is placed keeps its place when the actor that it names is dropped.  A
layout does not take the place away: whatever it cannot resolve it leaves alone.  So
after a layout an event is placed if its names resolve or if it was placed before.

That is to say that what is placed is what resolves exactly if nothing was stranded,
which is for something placed to name an actor that is no longer there.  Only dropping
actors strands anything, and only if something placed needs them.
-/

namespace Lifeline

variable {α : Type}

def Event.isPlaced : Event α → Bool
  | .signal _ place => place.placed
  | .note _ place => place.placed
  | .conditional _ _ _ | .synchrony _ _ | .lifetime _ _ | .numbering _ => false

def Event.resolves (directory : Directory α) : Event α → Bool
  | .signal content _ => content.resolves directory
  | .note content _ => content.resolves directory
  | .conditional _ _ _ | .synchrony _ _ | .lifetime _ _ | .numbering _ => false

/-- Whether everything that is placed means actors that are there. -/
def Event.NoneStranded (directory : Directory α) (events : List (Event α)) : Prop :=
  ∀ row ∈ Event.flattenAll events, row.isPlaced = true → row.resolves directory = true

instance (directory : Directory α) (events : List (Event α)) :
    Decidable (Event.NoneStranded directory events) :=
  inferInstanceAs (Decidable (∀ row ∈ Event.flattenAll events, _ → _))

section Rows

variable {directory other : Directory α} {added before after events : List (Event α)}

theorem Event.noneStranded_iff_allPlacedPass :
    Event.NoneStranded directory events ↔
      Event.allPlacedPass (fun content _ => content.resolves directory)
        (fun content _ => content.resolves directory) events = true := by
  rw [NoneStranded, allPlacedPass_eq_all, List.all_eq_true]
  refine forall₂_congr fun row member => ?_
  have alone := flatten_of_mem_flattenAll events member
  cases row with
  | signal content place | note content place =>
      rw [placedPass, isPlaced, resolves, Bool.or_eq_true, Bool.not_eq_true', ← Bool.not_eq_true,
        Classical.or_iff_not_imp_left, not_not]
  | conditional kind frame cases =>
      rw [flatten, List.cons.injEq, conditional.injEq] at alone
      obtain ⟨⟨-, -, rfl⟩, -⟩ := alone
      exact iff_of_true (fun impossible => absurd impossible Bool.false_ne_true) rfl
  | synchrony kind inside =>
      rw [flatten, List.cons.injEq, synchrony.injEq] at alone
      obtain ⟨⟨-, rfl⟩, -⟩ := alone
      exact iff_of_true (fun impossible => absurd impossible Bool.false_ne_true) rfl
  | lifetime | numbering =>
      exact iff_of_true (fun impossible => absurd impossible Bool.false_ne_true) rfl

theorem Event.noneStranded_of_within (within : directory.Within other)
    (none : Event.NoneStranded directory events) : Event.NoneStranded other events := by
  rw [noneStranded_iff_allPlacedPass] at none ⊢
  exact allPlacedPass_mono (fun _ _ => Signal.resolves_of_within within)
    (fun _ _ => Note.resolves_of_within within) events none

theorem Event.noneStranded_of_nonePlaced (unplaced : Event.NonePlaced events) :
    Event.NoneStranded directory events := by
  rw [noneStranded_iff_allPlacedPass]
  exact allPlacedPass_mono (fun _ _ impossible => absurd impossible Bool.false_ne_true)
    (fun _ _ impossible => absurd impossible Bool.false_ne_true) events unplaced

theorem Event.noneStranded_of_inserted (inserted : Event.Inserted added before after)
    (unplaced : Event.NonePlaced added) (none : Event.NoneStranded directory before) :
    Event.NoneStranded directory after := by
  have addedNone : NoneStranded directory added := noneStranded_of_nonePlaced unplaced
  rw [noneStranded_iff_allPlacedPass] at none addedNone ⊢
  rw [allPlacedPass_of_inserted inserted, none, addedNone, Bool.true_and]

/-- Two lists pass their tests together if their members do, each with the one in its
place. -/
theorem forall_mem_iff_of_forall₂ {β γ : Type} {related : β → γ → Prop} {first : β → Prop}
    {second : γ → Prop} (same : ∀ one other, related one other → (first one ↔ second other))
    {ones : List β} {others : List γ} (rows : List.Forall₂ related ones others) :
    (∀ one ∈ ones, first one) ↔ ∀ other ∈ others, second other := by
  induction rows with
  | nil => simp
  | cons rests _ ih => rw [List.forall_mem_cons, List.forall_mem_cons, same _ _ rests, ih]

end Rows

namespace Diagram

def NoneStranded (diagram : Diagram α) : Prop :=
  Event.NoneStranded diagram.directory diagram.events

/-- Whether the signals and annotations that are placed are those whose names resolve. -/
def PlacesWhatResolves (diagram : Diagram α) : Prop :=
  ∀ row ∈ Event.flattenAll diagram.events, row.isPlaced = row.resolves diagram.directory

instance (diagram : Diagram α) : Decidable diagram.PlacesWhatResolves :=
  inferInstanceAs (Decidable (∀ row ∈ _, _))

theorem noneStranded_of_placesWhatResolves {diagram : Diagram α}
    (places : diagram.PlacesWhatResolves) : diagram.NoneStranded :=
  fun row member placed => (places row member).symm.trans placed

section Layout

variable [Scalar α] (measure : Measurer α) (sizes : Sizes α) (diagram : Diagram α)

/-- A row is placed after a layout if its names resolve or if it was placed before. -/
theorem row_layout {before after : Event α}
    (rests : Event.Rests (diagram.bearings measure sizes) measure sizes before after) :
    after.isPlaced = (before.resolves diagram.directory || before.isPlaced) ∧
      after.resolves (diagram.layout measure sizes).1.directory =
        before.resolves diagram.directory := by
  have alike := diagram.alike_layout measure sizes
  cases rests with
  | @signal content _ _ _ _ endsEq | @lostSignal content _ endsEq =>
      refine ⟨?_, Signal.resolves_of_alike alike content⟩
      rw [Event.resolves, ← isSome_ends?_bearings measure sizes, endsEq]
      rfl
  | @note content _ _ _ anchorEq | @lostNote content _ anchorEq =>
      refine ⟨?_, Note.resolves_of_alike alike content⟩
      rw [Event.resolves, ← isSome_anchor?_bearings measure sizes, anchorEq]
      rfl
  | conditional | synchrony | lifetime | numbering => exact ⟨rfl, rfl⟩

/-- What a layout has placed is what resolves exactly if nothing was stranded before. -/
theorem placesWhatResolves_layout_iff :
    (diagram.layout measure sizes).1.PlacesWhatResolves ↔ diagram.NoneStranded := by
  refine (forall_mem_iff_of_forall₂ (fun before after rests => ?_)
    (diagram.rests_layout measure sizes)).symm
  obtain ⟨placedEq, resolvesEq⟩ := diagram.row_layout measure sizes rests
  rw [placedEq, resolvesEq]
  cases before.isPlaced <;> cases before.resolves diagram.directory <;> simp

end Layout

end Diagram

section Drawn

variable [Scalar α] {erasure : Erasure}

omit [Scalar α] in
/-- A place that is taken away where nothing is drawn is not missed. -/
theorem drawn_of_unseen {π δ : Type} {placed : π → Bool} {blank place : π} {taken : Bool}
    (draw : π → List δ) (blankEq : placed blank = false)
    (unseen : (!placed place || !taken) = true) :
    (if placed (if taken then blank else place) then draw (if taken then blank else place)
      else []) = if placed place then draw place else [] := by
  cases taken with
  | false => rfl
  | true =>
      rw [Bool.not_true, Bool.or_false, Bool.not_eq_true'] at unseen
      rw [if_pos rfl, blankEq, unseen]
      rfl

omit [Scalar α] in
/-- Whether a signal keeps its place. -/
def Erasure.sparesSignal (erasure : Erasure) (content : Signal) (_ : SignalPlace α) : Bool :=
  !erasure.signals content

omit [Scalar α] in
def Erasure.sparesNote (erasure : Erasure) (content : Note) (_ : NotePlace α) : Bool :=
  !erasure.notes content

section Pen

variable {δ : Type} (pen : Pen α δ)

mutual

/-- An event is drawn as before without the places that nothing is drawn at. -/
theorem Event.draw_erase (frames : erasure.frames = false) (event : Event α)
    (unseen : event.placedPass erasure.sparesSignal erasure.sparesNote = true) :
    (event.erase erasure).draw pen = event.draw pen := by
  cases event with
  | signal content place =>
      rw [Event.erase, Event.draw, Event.draw]
      exact drawn_of_unseen (pen.signal content) rfl unseen
  | note content place =>
      rw [Event.erase, Event.draw, Event.draw]
      exact drawn_of_unseen (pen.note content) rfl unseen
  | conditional kind frame cases =>
      rw [Event.placedPass] at unseen
      rw [Event.erase, frames, if_neg Bool.false_ne_true, Event.draw, Event.draw,
        Case.drawAll_erase frames frame true cases unseen]
  | synchrony kind events =>
      rw [Event.placedPass] at unseen
      rw [Event.erase, Event.draw, Event.draw, Event.drawAll_erase frames events unseen]
  | lifetime | numbering => rfl
termination_by structural event

theorem Event.drawAll_erase (frames : erasure.frames = false) (events : List (Event α))
    (unseen : Event.allPlacedPass erasure.sparesSignal erasure.sparesNote events = true) :
    Event.drawAll pen (Event.allErase erasure events) = Event.drawAll pen events := by
  cases events with
  | nil => rfl
  | cons event rest =>
      rw [Event.allPlacedPass, Bool.and_eq_true] at unseen
      rw [Event.allErase, Event.drawAll, Event.drawAll, Event.draw_erase frames event unseen.1,
        Event.drawAll_erase frames rest unseen.2]
termination_by structural events

theorem Case.drawAll_erase (frames : erasure.frames = false) (frame : Frame α) (first : Bool)
    (cases : List (Case α (Event α)))
    (unseen : Case.placedPass erasure.sparesSignal erasure.sparesNote cases = true) :
    Case.drawAll pen frame first (Case.erase erasure cases) =
      Case.drawAll pen frame first cases := by
  cases cases with
  | nil => rfl
  | cons headed rest =>
      obtain ⟨caption, y, height, events⟩ := headed
      rw [Case.placedPass, Bool.and_eq_true] at unseen
      rw [Case.erase, frames, if_neg Bool.false_ne_true, Case.drawAll, Case.drawAll,
        Event.drawAll_erase frames events unseen.1,
        Case.drawAll_erase frames frame false rest unseen.2]
termination_by structural cases

end

end Pen

namespace Diagram

variable (measure : Measurer α) (sizes : Sizes α) (diagram : Diagram α)

theorem unseen_layout (none : diagram.NoneStranded) :
    Event.allPlacedPass (Erasure.unresolved diagram.directory).sparesSignal
      (Erasure.unresolved diagram.directory).sparesNote
      (diagram.layout measure sizes).1.events = true := by
  have places := (diagram.placesWhatResolves_layout_iff measure sizes).mpr none
  have laid : Event.NoneStranded diagram.directory (diagram.layout measure sizes).1.events :=
    Event.noneStranded_of_within (diagram.alike_layout measure sizes).within
      (noneStranded_of_placesWhatResolves places)
  rw [Event.noneStranded_iff_allPlacedPass] at laid
  exact Event.allPlacedPass_mono (fun _ _ found => (Bool.not_not _).trans found)
    (fun _ _ found => (Bool.not_not _).trans found) _ laid

/-- Where nothing was stranded, a layout is drawn as if nothing had been laid out before. -/
theorem drawn_layout (none : diagram.NoneStranded) :
    (∀ style extent, (diagram.layout measure sizes).1.textArt style extent =
        (diagram.blank.layout measure sizes).1.textArt style extent) ∧
      ∀ theme drawing extent, (diagram.layout measure sizes).1.svg theme drawing extent =
        (diagram.blank.layout measure sizes).1.svg theme drawing extent := by
  have actorsEq : (diagram.blank.layout measure sizes).1.actors =
      (diagram.layout measure sizes).1.actors := by
    rw [layout_blank, layout_eq_relaid]
    rfl
  have eventsEq : (diagram.blank.layout measure sizes).1.events =
      Event.allErase (.unresolved diagram.directory)
        (diagram.layout measure sizes).1.events := by
    rw [layout_blank, layout_eq_relaid]
    rfl
  have unseen := diagram.unseen_layout measure sizes none
  refine ⟨fun style extent => ?_, fun theme drawing extent => ?_⟩
  · have emptyEq : (diagram.blank.layout measure sizes).1.events.isEmpty =
        (diagram.layout measure sizes).1.events.isEmpty := by
      rw [eventsEq]
      cases (diagram.layout measure sizes).1.events <;> rfl
    have marksEq : Event.allMarks (Event.allErase (.unresolved diagram.directory)
        (diagram.layout measure sizes).1.events) =
          Event.allMarks (diagram.layout measure sizes).1.events :=
      Event.drawAll_erase Mark.pen rfl _ unseen
    rw [textArt, textArt, emptyEq, canvas, canvas, marks, marks, actorsEq, eventsEq, marksEq]
  · have elementsEq : Svg.eventList theme drawing (Event.allErase
        (.unresolved diagram.directory) (diagram.layout measure sizes).1.events) =
          Svg.eventList theme drawing (diagram.layout measure sizes).1.events :=
      Event.drawAll_erase (Svg.pen theme drawing) rfl _ unseen
    rw [svg, svg, actorsEq, eventsEq, elementsEq]

end Diagram

end Drawn

namespace Diagram

variable [Scalar α]

/-- A change of a diagram that drops no actor which something placed needs. -/
def SparingChange (before after : Diagram α) : Prop :=
  Change before after ∧
    (after.actors.Sublist before.actors →
      Event.NoneStranded after.directory before.events)

theorem noneStranded_of_sparingChange {before after : Diagram α}
    (sparing : SparingChange before after) (none : before.NoneStranded) :
    after.NoneStranded := by
  obtain ⟨change, spares⟩ := sparing
  cases change with
  | @signal line content actors inside filled contentEq inserted =>
      refine Event.noneStranded_of_inserted inserted (Signal.nonePlaced_events content)
        (Event.noneStranded_of_within (Directory.within_ofActors fun name answered => ?_) none)
      rw [Draft.any_mention, Draft.any_mention, answered, Bool.true_or, Bool.true_or]
  | addEvents unplaced inserted =>
      exact Event.noneStranded_of_inserted inserted unplaced none
  | addActor front back actor events =>
      refine Event.noneStranded_of_within
        (Directory.within_ofActors fun name answered => ?_) none
      rw [List.any_append, Bool.or_eq_true] at answered ⊢
      exact answered.imp_right fun inBack => by rw [List.any_cons, inBack, Bool.or_true]
  | dropActors sublist events => exact spares sublist
  | layout measure sizes =>
      exact noneStranded_of_placesWhatResolves
        ((placesWhatResolves_layout_iff measure sizes before).mpr none)

theorem noneStranded_of_sparingRun {before after : Diagram α}
    (run : Relation.ReflTransGen SparingChange before after) (none : before.NoneStranded) :
    after.NoneStranded := by
  induction run with
  | refl => exact none
  | tail _ sparing ih => exact noneStranded_of_sparingChange sparing ih

end Diagram

namespace Script

variable [Scalar α]

/-- In whatever diagram is made of a script, what a layout places is what resolves exactly
if nothing is stranded, and then a layout is drawn as if it were the first.  Nothing ever
is while no actor is dropped that something placed needs. -/
theorem runs_place_what_resolves (text : String) :
    (∀ diagram : Diagram α, (Script.read text).Reaches diagram → ∀ measure sizes,
        ((diagram.layout measure sizes).1.PlacesWhatResolves ↔ diagram.NoneStranded) ∧
          (diagram.NoneStranded →
            (∀ style extent, (diagram.layout measure sizes).1.textArt style extent =
                (diagram.blank.layout measure sizes).1.textArt style extent) ∧
              ∀ theme drawing extent,
                (diagram.layout measure sizes).1.svg theme drawing extent =
                  (diagram.blank.layout measure sizes).1.svg theme drawing extent)) ∧
      ∀ diagram : Diagram α,
        Relation.ReflTransGen Diagram.SparingChange (Script.read text) diagram →
          diagram.NoneStranded := by
  refine ⟨fun diagram _ measure sizes => ⟨?_, ?_⟩, fun diagram run => ?_⟩
  · exact diagram.placesWhatResolves_layout_iff measure sizes
  · exact diagram.drawn_layout measure sizes
  · exact Diagram.noneStranded_of_sparingRun run
      (Event.noneStranded_of_nonePlaced (nonePlaced_read text))

/-- A signal between two actors, and perhaps others beside them. -/
def handOver (others : List (Actor α)) : Diagram α where
  actors := [Actor.declare .participant "A", Actor.declare .participant "B"] ++ others
  events := [.signal { caption := "hi", source := "A", destination := "B" } {}]

/-- A diagram that is laid out and then loses its last actor. -/
def withoutLast (diagram : Diagram Rat) : Diagram Rat :=
  let laid := (diagram.layout Measurer.cells Sizes.cells).1
  { laid with actors := laid.actors.dropLast }

theorem reaches_withoutLast (diagram : Diagram Rat) :
    diagram.Reaches (withoutLast diagram) :=
  (Relation.ReflTransGen.single (.layout _ _ _)).tail
    (.dropActors (List.dropLast_sublist _) _)

/-- An actor that no event names may be dropped after a layout. -/
theorem runs_place_what_resolves_spareActor :
    ((withoutLast (Script.read "A->B: hi\nparticipant C")).layout Measurer.cells
      Sizes.cells).1.PlacesWhatResolves := by
  have readEq (β : Type) [Scalar β] : (Script.read "A->B: hi\nparticipant C" : Diagram β) =
      handOver [Actor.declare .participant "C"] := by cbv
  have laid : Diagram.SparingChange (handOver [Actor.declare .participant "C"] : Diagram Rat)
      ((handOver [Actor.declare .participant "C"]).layout Measurer.cells Sizes.cells).1 :=
    ⟨.layout _ _ _, fun _ => Event.noneStranded_of_nonePlaced rfl⟩
  have dropped : Diagram.SparingChange
      ((handOver [Actor.declare .participant "C"]).layout Measurer.cells Sizes.cells).1
      (withoutLast (handOver [Actor.declare .participant "C"])) :=
    ⟨.dropActors (List.dropLast_sublist _) _, fun _ => by decide +kernel⟩
  have run := (Relation.ReflTransGen.single laid).tail dropped
  rw [← readEq] at run
  have stated := runs_place_what_resolves (α := Rat) "A->B: hi\nparticipant C"
  exact (stated.1 _ (reaches_withoutLast _) Measurer.cells Sizes.cells).1.mpr
    (stated.2 _ run)

/-- A signal keeps its place when the actor at its end is dropped, and it is still drawn
after another layout. -/
theorem not_placesWhatResolves_lostEnd :
    (Script.read "A->B: hi").Reaches (withoutLast (Script.read "A->B: hi")) ∧
      ¬ ((withoutLast (Script.read "A->B: hi")).layout Measurer.cells
        Sizes.cells).1.PlacesWhatResolves ∧
      Event.allMarks ((withoutLast (Script.read "A->B: hi")).layout Measurer.cells
        Sizes.cells).1.events ≠ [] := by
  have readEq (β : Type) [Scalar β] : (Script.read "A->B: hi" : Diagram β) = handOver [] := by
    cbv
  rw [readEq]
  exact ⟨reaches_withoutLast _, by decide +kernel, by decide +kernel⟩

end Script

end Lifeline
