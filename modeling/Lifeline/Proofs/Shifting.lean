import Lifeline.Proofs.Placement
import Lifeline.Proofs.Resolving

/-!
# Placing events further down

The position that a tree of events is placed from has no influence on its shape.  From a
position further down, every signal and every annotation that resolves stands further down
by the same distance, and so do all frames and cases.  No size changes, nothing moves to a
side, and what does not resolve is left alone in either place.

A list of events is placed as its front is, and then its back from where the front ended.
-/

namespace Lifeline

variable {α : Type}

/-- Whether an event has a height if its names resolve. -/
def Event.heightKnown (directory : Directory α) : Event α → Bool
  | .signal content place => !content.resolves directory || place.height.isSome
  | .note content place => !content.resolves directory || place.height.isSome
  | .conditional _ _ _ | .synchrony _ _ | .lifetime _ _ | .numbering _ => true

/-- Whether an event has its positions if its names resolve. -/
def Event.positioned (directory : Directory α) : Event α → Bool
  | .signal content place =>
      !content.resolves directory ||
        (place.startX.isSome && place.endX.isSome && place.startY.isSome && place.endY.isSome)
  | .note content place => !content.resolves directory || (place.x.isSome && place.y.isSome)
  | .conditional _ _ _ | .synchrony _ _ | .lifetime _ _ | .numbering _ => true

section Lowered

variable (directory : Directory Rat) (distance : Rat)

def SignalPlace.lowered (place : SignalPlace Rat) : SignalPlace Rat :=
  { place with
    startY := place.startY.map (· + distance)
    endY := place.endY.map (· + distance) }

def NotePlace.lowered (place : NotePlace Rat) : NotePlace Rat :=
  { place with y := place.y.map (· + distance) }

mutual

/-- An event with its position moved down, and those of the events inside it, except where
names do not resolve. -/
def Event.lowered : Event Rat → Event Rat
  | .signal signal place =>
      .signal signal (if signal.resolves directory then place.lowered distance else place)
  | .note note place =>
      .note note (if note.resolves directory then place.lowered distance else place)
  | .conditional kind frame cases =>
      .conditional kind { frame with y := frame.y + distance } (Case.allLowered cases)
  | .synchrony kind events => .synchrony kind (Event.allLowered events)
  | .lifetime kind target => .lifetime kind target
  | .numbering start => .numbering start
termination_by structural event => event

def Event.allLowered : List (Event Rat) → List (Event Rat)
  | [] => []
  | event :: rest => event.lowered :: Event.allLowered rest
termination_by structural events => events

def Case.allLowered : List (Case Rat (Event Rat)) → List (Case Rat (Event Rat))
  | [] => []
  | ⟨caption, y, height, events⟩ :: rest =>
      ⟨caption, y + distance, height, Event.allLowered events⟩ :: Case.allLowered rest
termination_by structural cases => cases

end

theorem Frame.heightAround_allLowered (sizes : Sizes Rat) (cases : List (Case Rat (Event Rat))) :
    heightAround sizes (Case.allLowered directory distance cases) =
      heightAround sizes cases := by
  have heightsEq :
      (Case.allLowered directory distance cases).map Case.height = cases.map Case.height := by
    induction cases with
    | nil => rfl
    | cons headed rest ih => rw [Case.allLowered, List.map_cons, List.map_cons, ih]
  exact heightAround_congr sizes heightsEq

end Lowered

section Placing

variable {directory : Directory Rat} (sizes : Sizes Rat) (total : Rat)

theorem Signal.place_lowered {signal : Signal} {place : SignalPlace Rat}
    (known : Event.heightKnown directory (.signal signal place) = true) (y : Rat) :
    ∃ placed bottom,
      Event.place directory sizes total y (.signal signal place) = (placed, some bottom) ∧
      (∀ row ∈ placed.flatten, row.positioned directory = true) ∧
      ∀ distance,
        Event.place directory sizes total (y + distance) (.signal signal place) =
          (placed.lowered directory distance, some (bottom + distance)) := by
  cases endsEq : directory.ends? signal.source signal.destination with
  | none =>
      have lost : signal.resolves directory = false := by rw [Signal.resolves, endsEq]; rfl
      have placeEq (top : Rat) :
          Event.place directory sizes total top (.signal signal place) =
            (.signal signal place, some top) := by
        simp only [Event.place, endsEq]
      refine ⟨_, _, placeEq y, ?_, fun distance => ?_⟩
      · simp [Event.flatten, Event.positioned, lost]
      · rw [placeEq, Event.lowered, if_neg (by simp [lost])]
  | some ends =>
      have found : signal.resolves directory = true := by rw [Signal.resolves, endsEq]; rfl
      rw [Event.heightKnown, found, Bool.not_true, Bool.false_or, Option.isSome_iff_exists]
        at known
      obtain ⟨height, heightEq⟩ := known
      have placeEq (top : Rat) :
          Event.place directory sizes total top (.signal signal place) =
            (.signal signal
                { place with
                  startX := some ends.1.actor.laneX
                  endX := some ends.2.actor.laneX
                  startY := some top
                  endY := some top },
              some (top + (sizes.signalMargin + height))) := by
        simp only [Event.place, endsEq, heightEq, Option.map_some]
      refine ⟨_, _, placeEq y, ?_, fun distance => ?_⟩
      · simp [Event.flatten, Event.positioned]
      · rw [placeEq, Event.lowered, if_pos found, add_right_comm]
        rfl

theorem Note.place_lowered {note : Note} {place : NotePlace Rat}
    (known : Event.heightKnown directory (.note note place) = true) (y : Rat) :
    ∃ placed bottom,
      Event.place directory sizes total y (.note note place) = (placed, some bottom) ∧
      (∀ row ∈ placed.flatten, row.positioned directory = true) ∧
      ∀ distance,
        Event.place directory sizes total (y + distance) (.note note place) =
          (placed.lowered directory distance, some (bottom + distance)) := by
  cases anchorEq : directory.anchor? note.location with
  | none =>
      have lost : note.resolves directory = false := by rw [Note.resolves, anchorEq]; rfl
      have placeEq (top : Rat) :
          Event.place directory sizes total top (.note note place) =
            (.note note place, some top) := by
        simp only [Event.place, anchorEq]
      refine ⟨_, _, placeEq y, ?_, fun distance => ?_⟩
      · simp [Event.flatten, Event.positioned, lost]
      · rw [placeEq, Event.lowered, if_neg (by simp [lost])]
  | some anchor =>
      have found : note.resolves directory = true := by rw [Note.resolves, anchorEq]; rfl
      rw [Event.heightKnown, found, Bool.not_true, Bool.false_or, Option.isSome_iff_exists]
        at known
      obtain ⟨height, heightEq⟩ := known
      have placeEq (top : Rat) :
          Event.place directory sizes total top (.note note place) =
            (.note note
                { place with
                  x := some (anchor.actor.laneX + sizes.noteMarginX)
                  y := some top
                  textMarginX := sizes.noteTextMarginX
                  textMarginY := sizes.noteTextMarginY },
              some (top + (sizes.noteMarginY + height))) := by
        simp only [Event.place, anchorEq, heightEq, Option.map_some]
      refine ⟨_, _, placeEq y, ?_, fun distance => ?_⟩
      · simp [Event.flatten, Event.positioned]
      · rw [placeEq, Event.lowered, if_pos found, add_right_comm]
        rfl

mutual

/-- The cursor comes through an event that has its heights, and from a position further
down it leaves the same event behind, moved down. -/
theorem Event.place_lowered (event : Event Rat)
    (known : ∀ row ∈ event.flatten, row.heightKnown directory = true) (y : Rat) :
    ∃ placed bottom,
      Event.place directory sizes total y event = (placed, some bottom) ∧
      (∀ row ∈ placed.flatten, row.positioned directory = true) ∧
      ∀ distance,
        Event.place directory sizes total (y + distance) event =
          (placed.lowered directory distance, some (bottom + distance)) := by
  cases event with
  | signal signal place =>
      rw [Event.flatten, List.forall_mem_singleton] at known
      exact Signal.place_lowered sizes total known y
  | note note place =>
      rw [Event.flatten, List.forall_mem_singleton] at known
      exact Note.place_lowered sizes total known y
  | conditional kind frame cases =>
      rw [Event.flatten, List.forall_mem_cons] at known
      obtain ⟨placed, inner, placeEq, positioned, lowered⟩ :=
        Case.place_lowered cases known.2 (y + sizes.frameMarginItems)
      refine ⟨_, inner + sizes.frameMarginBottom, by rw [Event.place, placeEq], ?_,
        fun distance => ?_⟩
      · rw [Event.flatten]
        exact List.forall_mem_cons.mpr ⟨rfl, positioned⟩
      · rw [Event.place, add_right_comm, lowered]
        simp only [Event.lowered, Frame.heightAround_allLowered, add_right_comm]
  | synchrony kind events =>
      rw [Event.flatten, List.forall_mem_cons] at known
      obtain ⟨placed, bottom, placeEq, positioned, lowered⟩ :=
        Event.placeAll_lowered events known.2 y
      refine ⟨_, bottom, by rw [Event.place, placeEq], ?_, fun distance => ?_⟩
      · rw [Event.flatten]
        exact List.forall_mem_cons.mpr ⟨rfl, positioned⟩
      · rw [Event.place, lowered, Event.lowered]
  | lifetime kind target =>
      exact ⟨_, y, rfl, List.forall_mem_singleton.mpr rfl, fun distance => rfl⟩
  | numbering start =>
      exact ⟨_, y, rfl, List.forall_mem_singleton.mpr rfl, fun distance => rfl⟩
termination_by structural event

theorem Event.placeAll_lowered (events : List (Event Rat))
    (known : ∀ row ∈ Event.flattenAll events, row.heightKnown directory = true) (y : Rat) :
    ∃ placed bottom,
      Event.placeAll directory sizes total y events = (placed, some bottom) ∧
      (∀ row ∈ Event.flattenAll placed, row.positioned directory = true) ∧
      ∀ distance,
        Event.placeAll directory sizes total (y + distance) events =
          (Event.allLowered directory distance placed, some (bottom + distance)) := by
  cases events with
  | nil => exact ⟨[], y, rfl, List.forall_mem_nil _, fun distance => rfl⟩
  | cons event rest =>
      rw [Event.flattenAll, List.forall_mem_append] at known
      obtain ⟨placed, next, placeEq, positioned, lowered⟩ :=
        Event.place_lowered event known.1 y
      obtain ⟨others, bottom, othersEq, othersPositioned, othersLowered⟩ :=
        Event.placeAll_lowered rest known.2 next
      refine ⟨placed :: others, bottom, ?_, ?_, fun distance => ?_⟩
      · simp only [Event.placeAll, placeEq, othersEq]
      · rw [Event.flattenAll]
        exact List.forall_mem_append.mpr ⟨positioned, othersPositioned⟩
      · simp only [Event.placeAll, lowered, othersLowered, Event.allLowered]
termination_by structural events

theorem Case.place_lowered (cases : List (Case Rat (Event Rat)))
    (known : ∀ row ∈ Case.flatten cases, row.heightKnown directory = true) (y : Rat) :
    ∃ placed bottom,
      Case.place directory sizes total y cases = (placed, some bottom) ∧
      (∀ row ∈ Case.flatten placed, row.positioned directory = true) ∧
      ∀ distance,
        Case.place directory sizes total (y + distance) cases =
          (Case.allLowered directory distance placed, some (bottom + distance)) := by
  cases cases with
  | nil => exact ⟨[], y, rfl, List.forall_mem_nil _, fun distance => rfl⟩
  | cons headed rest =>
      obtain ⟨caption, top, height, events⟩ := headed
      rw [Case.flatten, List.forall_mem_append] at known
      obtain ⟨placed, next, placeEq, positioned, lowered⟩ :=
        Event.placeAll_lowered events known.1 y
      obtain ⟨others, bottom, othersEq, othersPositioned, othersLowered⟩ :=
        Case.place_lowered rest known.2 next
      refine ⟨⟨caption, y, next - y, placed⟩ :: others, bottom, ?_, ?_, fun distance => ?_⟩
      · simp only [Case.place, placeEq, othersEq]
      · rw [Case.flatten]
        exact List.forall_mem_append.mpr ⟨positioned, othersPositioned⟩
      · -- The height of a case is the way of the cursor, in which the distance cancels out.
        simp only [Case.place, lowered, othersLowered, Case.allLowered,
          add_sub_add_right_eq_sub]
termination_by structural cases

end

end Placing

/-- The back of a list is placed from where its front ended; where the cursor was lost in
the front, the back is left alone. -/
theorem Event.placeAll_append [Scalar α] (directory : Directory α) (sizes : Sizes α)
    (total y : α) (first second : List (Event α)) :
    Event.placeAll directory sizes total y (first ++ second) =
      match Event.placeAll directory sizes total y first with
      | (placed, none) => (placed ++ second, none)
      | (placed, some middle) =>
          Prod.map (placed ++ ·) id (Event.placeAll directory sizes total middle second) := by
  induction first generalizing y with
  | nil => rfl
  | cons event rest ih =>
      rw [List.cons_append, Event.placeAll, Event.placeAll]
      rcases Event.place directory sizes total y event with ⟨placed, _ | next⟩
      · rfl
      · simp only [ih]
        rcases Event.placeAll directory sizes total next rest with ⟨others, _ | middle⟩ <;> rfl

/-- Where a tree is placed does not matter for its shape.  Whatever resolves has a position,
from a position further down all of it stands further down by the distance and is otherwise
the same, and two lists are placed one from where the other ended. -/
theorem Event.placeAll_shifted (directory : Directory Rat) (sizes : Sizes Rat) (total : Rat) :
    (∀ events : List (Event Rat),
      (∀ row ∈ Event.flattenAll events, row.heightKnown directory = true) →
      ∀ y, ∃ placed bottom,
        Event.placeAll directory sizes total y events = (placed, some bottom) ∧
        (∀ row ∈ Event.flattenAll placed, row.positioned directory = true) ∧
        ∀ distance,
          Event.placeAll directory sizes total (y + distance) events =
            (Event.allLowered directory distance placed, some (bottom + distance))) ∧
      ∀ (first second placed : List (Event Rat)) (y : Rat),
        (∀ middle, Event.placeAll directory sizes total y first = (placed, some middle) →
          Event.placeAll directory sizes total y (first ++ second) =
            Prod.map (placed ++ ·) id
              (Event.placeAll directory sizes total middle second)) ∧
        (Event.placeAll directory sizes total y first = (placed, none) →
          Event.placeAll directory sizes total y (first ++ second) =
            (placed ++ second, none)) := by
  refine ⟨fun events known y => Event.placeAll_lowered sizes total events known y,
    fun first second placed y => ⟨fun middle placeEq => ?_, fun placeEq => ?_⟩⟩
  · rw [Event.placeAll_append, placeEq]
  · rw [Event.placeAll_append, placeEq]

/-- A conditional in a block, with an empty case, an annotation of nobody that still has a
place, and a signal in another conditional. -/
def Event.scattered : List (Event Rat) :=
  [.synchrony .parallel
      [.conditional .alt Frame.unset
        [Case.unset "first"
          [.note { kind := .note, caption := "", align := "over", location := some "C" }
              { NotePlace.unset with y := some 7 },
            .conditional .opt Frame.unset
              [Case.unset "deep"
                [.signal { caption := "x", source := "A", destination := "B" }
                  { height := some 3 }]]],
          Case.unset "second" []]],
    .note { kind := .ref, caption := "", align := "over", location := some "B" }
      { NotePlace.unset with height := some (1 / 2) }]

theorem Event.placeAll_shifted_scattered :
    let directory : Directory Rat :=
      Directory.ofActors [.declare .participant "A", .declare .actor "B"]
    (∀ row ∈ Event.flattenAll Event.scattered, row.heightKnown directory = true) ∧
      ∃ placed bottom,
        Event.placeAll directory Sizes.pixels 20 5 Event.scattered = (placed, some bottom) ∧
        (∀ row ∈ Event.flattenAll placed, row.positioned directory = true) ∧
        Event.placeAll directory Sizes.pixels 20 (5 + 3 / 2) Event.scattered =
          (Event.allLowered directory (3 / 2) placed, some (bottom + 3 / 2)) ∧
        Event.placeAll directory Sizes.pixels 20 5 (Event.scattered ++ Event.scattered) =
          Prod.map (placed ++ ·) id
            (Event.placeAll directory Sizes.pixels 20 bottom Event.scattered) := by
  intro directory
  have known : ∀ row ∈ Event.flattenAll Event.scattered,
      row.heightKnown directory = true := by
    decide +kernel
  obtain ⟨shifts, appends⟩ := Event.placeAll_shifted directory Sizes.pixels 20
  obtain ⟨placed, bottom, placeEq, positioned, lowered⟩ := shifts Event.scattered known 5
  exact ⟨known, placed, bottom, placeEq, positioned, lowered (3 / 2),
    (appends Event.scattered Event.scattered placed 5).1 bottom placeEq⟩

end Lifeline
