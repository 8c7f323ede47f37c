import Lifeline.Proofs.CheckedCanvas
import Lifeline.Proofs.OpenFrames
import Lifeline.Proofs.Outline
import Lifeline.Svg
import Mathlib.Logic.Relation

/-!
# Whole runs

A diagram is read from a script and may then be changed for as long as one likes:
signals, other events and actors are added, actors are dropped, and it is laid out in
between.  An actor that is dropped leaves behind what was placed beside its lane.

Whatever is done, everything that is placed keeps each of its positions and sizes.  So
after any run the diagram can be laid out again and drawn in either format, and nothing
is read that is not there.
-/

namespace Lifeline

variable {α : Type}

/-- Events inserted somewhere into a sequence or into a sequence inside it. -/
inductive Event.Inserted (added : List (Event α)) : List (Event α) → List (Event α) → Prop
  | here (front back : List (Event α)) : Inserted added (front ++ back) (front ++ added ++ back)
  | synchrony {before after : List (Event α)} (front back : List (Event α))
      (kind : SynchronyKind) (inner : Inserted added before after) :
      Inserted added (front ++ .synchrony kind before :: back)
        (front ++ .synchrony kind after :: back)
  | conditional {before after : List (Event α)} (front back : List (Event α))
      (kind : ConditionalKind) (frame : Frame α) (left right : List (Case α (Event α)))
      (caption : String) (y height : α) (inner : Inserted added before after) :
      Inserted added
        (front ++ .conditional kind frame (left ++ ⟨caption, y, height, before⟩ :: right) :: back)
        (front ++ .conditional kind frame (left ++ ⟨caption, y, height, after⟩ :: right) :: back)

theorem Event.allPlacedPass_of_inserted {signalTest : Signal → SignalPlace α → Bool}
    {noteTest : Note → NotePlace α → Bool} {added before after : List (Event α)}
    (inserted : Event.Inserted added before after) :
    Event.allPlacedPass signalTest noteTest after =
      (Event.allPlacedPass signalTest noteTest before &&
        Event.allPlacedPass signalTest noteTest added) := by
  induction inserted with
  | here front back =>
      simp only [allPlacedPass_append, Bool.and_assoc, Bool.and_comm]
  | synchrony front back kind inner ih =>
      simp only [allPlacedPass_append, allPlacedPass, placedPass, ih]
      ac_rfl
  | conditional front back kind frame left right caption y height inner ih =>
      simp only [allPlacedPass_append, allPlacedPass, placedPass, Case.placedPass_append,
        Case.placedPass, ih]
      ac_rfl

theorem Event.allComplete_of_nonePlaced {events : List (Event α)}
    (unplaced : Event.NonePlaced events) : Event.AllComplete events :=
  Event.allPlacedPass_mono (fun _ _ impossible => absurd impossible Bool.false_ne_true)
    (fun _ _ impossible => absurd impossible Bool.false_ne_true) events
    (by exact unplaced)

theorem Signal.nonePlaced_events (signal : Signal) :
    Event.NonePlaced (signal.events : List (Event α)) := by
  cases activates : signal.activates <;> cases deactivates : signal.deactivates <;>
    simp [Event.NonePlaced, Signal.events, Signal.markers, activates, deactivates,
      Event.allPlacedPass, Event.placedPass, SignalPlace.placed]

namespace Diagram

variable [Scalar α]

/-- What can be done to a diagram. -/
inductive Change : Diagram α → Diagram α → Prop
  /-- Read one more line as a signal, into any sequence of the diagram. -/
  | signal {line : List Char} {signal : Signal} {actors : List (Actor α)}
      {before after : List (Event α)} (signalEq : Signal.read line = .ok signal)
      (inserted : Event.Inserted signal.events before after) :
      Change ⟨actors, before⟩
        ⟨Draft.mention (Draft.mention actors signal.source) signal.destination, after⟩
  | addEvents {actors : List (Actor α)} {added before after : List (Event α)}
      (unplaced : Event.NonePlaced added) (inserted : Event.Inserted added before after) :
      Change ⟨actors, before⟩ ⟨actors, after⟩
  | addActor (front back : List (Actor α)) (actor : Actor α) (events : List (Event α)) :
      Change ⟨front ++ back, events⟩ ⟨front ++ actor :: back, events⟩
  | dropActors {actors kept : List (Actor α)} (sublist : kept.Sublist actors)
      (events : List (Event α)) : Change ⟨actors, events⟩ ⟨kept, events⟩
  | layout (measure : Measurer α) (sizes : Sizes α) (diagram : Diagram α) :
      Change diagram (diagram.layout measure sizes).1

/-- The diagrams that a run can come to. -/
def Reaches : Diagram α → Diagram α → Prop :=
  Relation.ReflTransGen Change

theorem allComplete_of_change {diagram changed : Diagram α} (change : Change diagram changed)
    (complete : Event.AllComplete diagram.events) : Event.AllComplete changed.events := by
  cases change with
  | signal signalEq inserted =>
      rw [Event.AllComplete, Event.allPlacedPass_of_inserted inserted, Bool.and_eq_true]
      exact ⟨complete, Event.allComplete_of_nonePlaced (Signal.nonePlaced_events _)⟩
  | addEvents unplaced inserted =>
      rw [Event.AllComplete, Event.allPlacedPass_of_inserted inserted, Bool.and_eq_true]
      exact ⟨complete, Event.allComplete_of_nonePlaced unplaced⟩
  | addActor | dropActors => exact complete
  | layout measure sizes =>
      obtain ⟨-, -, -, -, kept⟩ := diagram.placement_over measure sizes
      exact kept complete

theorem allComplete_of_reaches {diagram reached : Diagram α}
    (reaches : diagram.Reaches reached) (complete : Event.AllComplete diagram.events) :
    Event.AllComplete reached.events := by
  induction reaches with
  | refl => exact complete
  | tail _ change ih => exact allComplete_of_change change ih

/-- What holds of a diagram whatever it is laid out with and drawn in next. -/
structure Safe (diagram : Diagram α) : Prop where
  /-- A layout finds every gap that it changes, and every height that it reads among those
  that it measured. -/
  layout? : ∀ measure sizes,
    diagram.layout? measure sizes = some (diagram.layout measure sizes)
  /-- What a layout measures is what it places. -/
  wholeOrBlank : ∀ measure sizes,
    ∀ row ∈ Event.flattenAll (diagram.freshPlacement measure sizes).1, row.WholeOrBlank
  signals : ∀ signal place, .signal signal place ∈ Event.flattenAll diagram.events →
    place.placed = true → place.complete = true
  notes : ∀ note place, .note note place ∈ Event.flattenAll diagram.events →
    place.placed = true → place.complete = true
  /-- A vector drawing finds every position and size that it computes with. -/
  svg? : ∀ theme sizes extent,
    diagram.svg? theme sizes extent = some (diagram.svg theme sizes extent)
  /-- A drawing in text finds them as well, and every cell that it writes and reads. -/
  drawnText? : ∀ style extent,
    diagram.drawnText? style extent = some (diagram.textArt style extent)

theorem safe_of_allComplete {diagram : Diagram α}
    (complete : Event.AllComplete diagram.events) : diagram.Safe where
  layout? measure sizes := diagram.layout?_eq measure sizes
  wholeOrBlank measure sizes := by
    obtain ⟨-, -, -, whole, -⟩ := diagram.placement_over measure sizes
    exact whole
  signals signal place member placed := by
    rw [Event.AllComplete, Event.allPlacedPass_eq_all, List.all_eq_true] at complete
    have own := complete _ member
    rwa [Event.placedPass, placed] at own
  notes note place member placed := by
    rw [Event.AllComplete, Event.allPlacedPass_eq_all, List.all_eq_true] at complete
    have own := complete _ member
    rwa [Event.placedPass, placed] at own
  svg? theme sizes extent := by
    have drawable : diagram.drawable = true := by
      refine Event.allPlacedPass_mono (fun signal place whole => ?_)
        (fun note place whole => ?_) diagram.events complete
      · rw [SignalPlace.complete] at whole
        rw [Svg.signalDrawable]
        simp_all
      · rw [NotePlace.complete] at whole
        rw [Svg.noteDrawable]
        cases note.kind <;> simp_all
    rw [svg?, if_pos drawable]
  drawnText? style extent := by
    exact drawnText?_eq style extent (markable_of_allComplete complete)

end Diagram

namespace Script

variable [Scalar α]

/-- Nothing that a script says makes a run fail: not while it is read, and not in any
diagram that is made of it. -/
theorem runs_safe (text : String) :
    (∀ lines, lines <+: Text.lines text.toList →
        ∃ stack : FrameStack α, FrameStack.readLines? {} lines = some stack ∧ stack.Sound) ∧
      (∃ stack : FrameStack α,
        FrameStack.readLines? {} (Text.lines text.toList) = some stack ∧
          stack.diagram? = some (Script.read text)) ∧
      ∀ diagram : Diagram α, (Script.read text).Reaches diagram → diagram.Safe := by
  refine ⟨fun lines _ => ?_, ?_, fun diagram reaches => ?_⟩
  · obtain ⟨stack, stackEq, sound, -⟩ := FrameStack.exists_readLines? (α := α) lines
    exact ⟨stack, stackEq, sound⟩
  · obtain ⟨stack, stackEq, -, diagramEq⟩ :=
      FrameStack.exists_readLines? (α := α) (Text.lines text.toList)
    exact ⟨stack, stackEq, diagramEq⟩
  · exact Diagram.safe_of_allComplete
      (Diagram.allComplete_of_reaches reaches
        (Event.allComplete_of_nonePlaced (nonePlaced_read text)))

/-- A diagram whose first actor is dropped, to which a signal is added, and which is then
laid out. -/
def withoutFirst (signal : Signal) (diagram : Diagram Rat) : Diagram Rat :=
  let changed : Diagram Rat :=
    { actors :=
        Draft.mention (Draft.mention diagram.actors.tail signal.source) signal.destination
      events := diagram.events ++ signal.events }
  (changed.layout (Measurer.constant ⟨30, 10⟩) Sizes.pixels).1

theorem reaches_withoutFirst {line : List Char} {signal : Signal}
    (signalEq : Signal.read line = .ok signal) (diagram : Diagram Rat) :
    diagram.Reaches (withoutFirst signal diagram) := by
  have appended : Event.Inserted signal.events (diagram.events ++ [])
      (diagram.events ++ signal.events ++ []) := .here _ _
  rw [List.append_nil, List.append_nil] at appended
  exact ((Relation.ReflTransGen.single (.dropActors (List.tail_sublist _) _)).tail
    (.signal signalEq appended)).tail (.layout _ _ _)

/-- A diagram that is laid out, loses the actor that an annotation and a signal of it name,
and is laid out again. -/
theorem runs_safe_withoutFirst :
    (withoutFirst { caption := "on", source := "B", destination := "C" }
      ((Script.read "note over A: hi\nA->B: call").layout Measurer.cells Sizes.cells).1).Safe := by
  have signalEq : Signal.read ['B', '-', '>', 'C', ':', ' ', 'o', 'n'] =
      .ok { caption := "on", source := "B", destination := "C" } := by decide
  have reaches := Relation.ReflTransGen.head
    (Diagram.Change.layout Measurer.cells Sizes.cells (Script.read "note over A: hi\nA->B: call"))
    (reaches_withoutFirst signalEq _)
  exact (runs_safe "note over A: hi\nA->B: call").2.2 _ reaches

end Script

end Lifeline
