import Lifeline.Measure
import Lifeline.Proofs.Outline
import Lifeline.Proofs.Placement
import Mathlib.Tactic.Linarith

/-!
# Events one below the other

A layout takes a cursor down past the events.  Whatever is drawn ends above the
cursor that it leaves behind, so of two signals or annotations the earlier one ends
before the later one begins.

Frames are not measured by the cursor.  The cursor moves down at the top of a
conditional by one distance and at its bottom by another, and the height of the
frame is made of the cases and a third.  In pixels the frame even ends above the
end of its last case: it *overhangs*.  What is inside still stays inside, because
every signal, annotation and frame keeps a margin below itself that is no smaller
than the overhang.
-/

namespace Lifeline

/-- From where something is drawn down to where it ends. -/
structure Span where
  top : Rat
  bottom : Rat

def Span.ofHeight? (top height : Option Rat) : Option Span :=
  top.bind fun y => height.map fun height => ⟨y, y + height⟩

namespace Event

/-- Whether something is drawn for an event: a placed signal or annotation, or the
frame of a conditional. -/
def shown {α : Type} : Event α → Bool
  | .signal _ place => place.placed
  | .note _ place => place.placed
  | .conditional _ _ _ => true
  | .synchrony _ _ | .lifetime _ _ | .numbering _ => false

/-- What an event itself takes up, if it has a place: the caption of a signal, the
box of an annotation, the frame of a conditional. -/
def span? : Event Rat → Option Span
  | .signal _ place => Span.ofHeight? place.startY place.height
  | .note _ place => Span.ofHeight? place.y place.height
  | .conditional _ frame _ => some ⟨frame.y, frame.y + frame.height⟩
  | .synchrony _ _ | .lifetime _ _ | .numbering _ => none

/-- Whether, of two signals or annotations, the first ends before the second
begins. -/
def Above (upper lower : Event Rat) : Prop :=
  upper.Drawn → lower.Drawn →
    ∀ first ∈ upper.span?, ∀ second ∈ lower.span?, first.bottom ≤ second.top

end Event

section Conditionals

variable {α : Type}

mutual

/-- The frame and the cases of every conditional inside an event. -/
def Event.conditionals : Event α → List (Frame α × List (Case α (Event α)))
  | .conditional _ frame cases => (frame, cases) :: Case.conditionals cases
  | .synchrony _ events => Event.allConditionals events
  | .signal _ _ | .note _ _ | .lifetime _ _ | .numbering _ => []
termination_by structural event => event

def Event.allConditionals :
    List (Event α) → List (Frame α × List (Case α (Event α)))
  | [] => []
  | event :: rest => event.conditionals ++ Event.allConditionals rest
termination_by structural events => events

def Case.conditionals :
    List (Case α (Event α)) → List (Frame α × List (Case α (Event α)))
  | [] => []
  | ⟨_, _, _, events⟩ :: rest =>
      Event.allConditionals events ++ Case.conditionals rest
termination_by structural cases => cases

end

end Conditionals

namespace Sizes

/-- How far the last case of a conditional reaches below its frame. -/
def overhang (sizes : Sizes Rat) : Rat :=
  sizes.frameMarginItems - sizes.frameMinHeight

/-- Distances with which frames hold what is inside them: every margin below makes
up for the overhang of a frame around it. -/
structure Holding (sizes : Sizes Rat) : Prop where
  padding : 0 ≤ sizes.padding
  frameMinHeight : 0 ≤ sizes.frameMinHeight
  frameMarginBottom : 0 ≤ sizes.frameMarginBottom
  overhang : 0 ≤ sizes.overhang
  signalMargin : sizes.overhang ≤ sizes.signalMargin
  noteMarginY : sizes.overhang ≤ sizes.noteMarginY

theorem holding_pixels : (pixels : Sizes Rat).Holding := by
  constructor <;> decide +kernel

theorem holding_cells : (cells : Sizes Rat).Holding := by
  constructor <;> decide +kernel

end Sizes

/-- Events between two positions, with the overhang of a frame to spare below each
of them. -/
structure Column (sizes : Sizes Rat) (top bottom : Rat) (events : List (Event Rat)) :
    Prop where
  ordered : top ≤ bottom
  within : ∀ event ∈ events, ∀ span ∈ event.span?,
    top ≤ span.top ∧ span.top ≤ span.bottom ∧ span.bottom + sizes.overhang ≤ bottom
  above : events.Pairwise Event.Above
  shown : ∀ event ∈ events, event.shown = true → event.span?.isSome

namespace Column

variable {sizes : Sizes Rat} {top middle bottom : Rat} {events others : List (Event Rat)}

theorem nil (sizes : Sizes Rat) (top : Rat) : Column sizes top top [] := by
  constructor <;> simp

theorem append (holding : sizes.Holding) (upper : Column sizes top middle events)
    (lower : Column sizes middle bottom others) :
    Column sizes top bottom (events ++ others) := by
  have upperOrdered := upper.ordered
  have lowerOrdered := lower.ordered
  have overhang := holding.overhang
  constructor
  · exact upperOrdered.trans lowerOrdered
  · intro event member span spanEq
    rcases List.mem_append.mp member with inUpper | inLower
    · obtain ⟨above, ordered, below⟩ := upper.within event inUpper span spanEq
      exact ⟨above, ordered, below.trans lowerOrdered⟩
    · obtain ⟨above, ordered, below⟩ := lower.within event inLower span spanEq
      exact ⟨upperOrdered.trans above, ordered, below⟩
  · rw [List.pairwise_append]
    refine ⟨upper.above, lower.above, ?_⟩
    -- Between the two columns there is the position in the middle.
    intro event inUpper other inLower _ _ span spanEq otherSpan otherEq
    have above := (upper.within event inUpper span spanEq).2.2
    have below := (lower.within other inLower otherSpan otherEq).1
    linarith
  · intro event member
    rcases List.mem_append.mp member with inUpper | inLower
    · exact upper.shown event inUpper
    · exact lower.shown event inLower

theorem widen (column : Column sizes middle bottom events) {wider : Rat}
    (upper : top ≤ middle) (lower : bottom ≤ wider) : Column sizes top wider events := by
  refine ⟨(upper.trans column.ordered).trans lower, ?_, column.above, column.shown⟩
  intro event member span spanEq
  obtain ⟨above, ordered, below⟩ := column.within event member span spanEq
  exact ⟨upper.trans above, ordered, below.trans lower⟩

/-- Something that is drawn around the others, or for which nothing is drawn, does
not come into their way. -/
theorem cons {event : Event Rat} (notDrawn : ¬ event.Drawn)
    (column : Column sizes top bottom events)
    (within : ∀ span ∈ event.span?,
      top ≤ span.top ∧ span.top ≤ span.bottom ∧ span.bottom + sizes.overhang ≤ bottom)
    (shown : event.shown = true → event.span?.isSome) :
    Column sizes top bottom (event :: events) := by
  refine ⟨column.ordered, ?_, ?_, ?_⟩
  · exact List.forall_mem_cons.mpr ⟨within, column.within⟩
  · exact List.pairwise_cons.mpr
      ⟨fun _ _ drawn => absurd drawn notDrawn, column.above⟩
  · exact List.forall_mem_cons.mpr ⟨shown, column.shown⟩

theorem singleton {event : Event Rat} (ordered : top ≤ bottom)
    (within : ∀ span ∈ event.span?,
      top ≤ span.top ∧ span.top ≤ span.bottom ∧ span.bottom + sizes.overhang ≤ bottom)
    (shown : event.shown = true → event.span?.isSome) :
    Column sizes top bottom [event] :=
  ⟨ordered, by simpa using within, List.pairwise_singleton _ _, by simpa using shown⟩

end Column

section Standing

variable {lanes : Directory Rat} {measure : Measurer Rat} {sizes : Sizes Rat} {total : Rat}
  {y bottom : Rat}

theorem Signal.column_of_stands (holding : sizes.Holding)
    (heights : ∀ caption, 0 ≤ (measure caption).height) {signal : Signal}
    {place : SignalPlace Rat}
    (stands : signal.Stands lanes measure sizes place y bottom) :
    Column sizes y bottom [.signal signal place] := by
  have overhang := holding.overhang
  have margin := holding.signalMargin
  have height := heights signal.caption
  unfold Signal.Stands at stands
  cases endsEq : lanes.ends? signal.source signal.destination with
  | none =>
      rw [endsEq] at stands
      obtain ⟨unplaced, bottomEq⟩ := stands
      have startEq : place.startY = none := by simpa [SignalPlace.placed] using unplaced
      apply Column.singleton bottomEq.ge
      · simp [Event.span?, Span.ofHeight?, startEq]
      · simp [Event.shown, unplaced]
  | some ends =>
      rw [endsEq] at stands
      obtain ⟨placeEq, bottomEq⟩ := stands
      rw [placeEq, bottomEq]
      apply Column.singleton (by linarith)
      · simp only [Event.span?, Span.ofHeight?, Signal.standing, Option.bind_some,
          Option.map_some, Option.mem_some_iff, forall_eq']
        refine ⟨le_refl _, ?_, ?_⟩ <;> linarith
      · exact fun _ => rfl

theorem Note.column_of_stands (holding : sizes.Holding)
    (heights : ∀ caption, 0 ≤ (measure caption).height) {note : Note} {place : NotePlace Rat}
    (stands : note.Stands lanes measure sizes place y bottom) :
    Column sizes y bottom [.note note place] := by
  have overhang := holding.overhang
  have margin := holding.noteMarginY
  have height : 0 ≤ (note.extent measure sizes).height := by
    have caption := heights note.caption
    have padding := holding.padding
    simp only [Note.extent, twice_fraction]
    linarith
  unfold Note.Stands at stands
  cases anchorEq : lanes.anchor? note.location with
  | none =>
      rw [anchorEq] at stands
      obtain ⟨unplaced, bottomEq⟩ := stands
      have yEq : place.y = none := by simpa [NotePlace.placed] using unplaced
      apply Column.singleton bottomEq.ge
      · simp [Event.span?, Span.ofHeight?, yEq]
      · simp [Event.shown, unplaced]
  | some entry =>
      rw [anchorEq] at stands
      obtain ⟨placeEq, bottomEq⟩ := stands
      rw [placeEq, bottomEq]
      apply Column.singleton (by linarith)
      · simp only [Event.span?, Span.ofHeight?, Note.standing, Option.bind_some,
          Option.map_some, Option.mem_some_iff, forall_eq']
        refine ⟨le_refl _, ?_, ?_⟩ <;> linarith
      · exact fun _ => rfl

theorem Frame.height_of_allStand {cases : List (Case Rat (Event Rat))}
    (stand :
      Case.AllStand lanes measure sizes total (y + sizes.frameMarginItems) bottom cases) :
    Frame.heightAround sizes cases + sizes.overhang = bottom - y := by
  rw [Frame.heightAround, Case.foldl_height stand, Sizes.overhang]
  ring

mutual

/-- An event and those inside it form a column between the position that it was placed
at and the one below it. -/
theorem Event.column_of_stands (holding : sizes.Holding)
    (heights : ∀ caption, 0 ≤ (measure caption).height) (event : Event Rat) {y bottom : Rat}
    (stands : event.Stands lanes measure sizes total y bottom) :
    Column sizes y bottom event.flatten := by
  cases event with
  | signal signal place =>
      rw [Event.Stands] at stands
      exact Signal.column_of_stands holding heights stands
  | note note place =>
      rw [Event.Stands] at stands
      exact Note.column_of_stands holding heights stands
  | conditional kind frame cases =>
      rw [Event.Stands] at stands
      obtain ⟨frameEq, inner, stand, bottomEq⟩ := stands
      have column := Case.column_of_allStand holding heights cases stand
      have height := Frame.height_of_allStand stand
      have ordered := column.ordered
      have overhang := holding.overhang
      have least := holding.frameMinHeight
      have margin := holding.frameMarginBottom
      have overhangEq : sizes.overhang = sizes.frameMarginItems - sizes.frameMinHeight := rfl
      rw [Event.flatten, frameEq, bottomEq]
      apply (column.widen (by linarith) (by linarith)).cons
      · exact id
      · simp only [Event.span?, Option.mem_some_iff, forall_eq']
        refine ⟨le_refl _, ?_, ?_⟩ <;> linarith
      · exact fun _ => rfl
  | synchrony kind events =>
      rw [Event.Stands] at stands
      rw [Event.flatten]
      exact (Event.column_of_allStand holding heights events stands).cons id
        (by simp [Event.span?]) (by simp [Event.shown])
  | lifetime | numbering =>
      rw [Event.Stands] at stands
      rw [Event.flatten, stands]
      exact (Column.nil sizes y).cons id (by simp [Event.span?]) (by simp [Event.shown])
termination_by structural event

theorem Event.column_of_allStand (holding : sizes.Holding)
    (heights : ∀ caption, 0 ≤ (measure caption).height) (events : List (Event Rat))
    {y bottom : Rat} (stand : Event.AllStand lanes measure sizes total y bottom events) :
    Column sizes y bottom (Event.flattenAll events) := by
  cases events with
  | nil =>
      rw [Event.AllStand] at stand
      rw [Event.flattenAll, stand]
      exact Column.nil sizes y
  | cons event rest =>
      rw [Event.AllStand] at stand
      obtain ⟨next, stands, others⟩ := stand
      rw [Event.flattenAll]
      exact (Event.column_of_stands holding heights event stands).append holding
        (Event.column_of_allStand holding heights rest others)
termination_by structural events

theorem Case.column_of_allStand (holding : sizes.Holding)
    (heights : ∀ caption, 0 ≤ (measure caption).height)
    (cases : List (Case Rat (Event Rat))) {y bottom : Rat}
    (stand : Case.AllStand lanes measure sizes total y bottom cases) :
    Column sizes y bottom (Case.flatten cases) := by
  cases cases with
  | nil =>
      rw [Case.AllStand] at stand
      rw [Case.flatten, stand]
      exact Column.nil sizes y
  | cons headed rest =>
      obtain ⟨caption, top, height, events⟩ := headed
      rw [Case.AllStand] at stand
      obtain ⟨next, -, inside, others⟩ := stand
      rw [Case.flatten]
      exact (Event.column_of_allStand holding heights events inside).append holding
        (Case.column_of_allStand holding heights rest others)
termination_by structural cases

end

mutual

/-- Every conditional inside an event that stands has its cases below the upper edge of
its frame. -/
theorem Event.stand_of_mem_conditionals (event : Event Rat) {y bottom : Rat}
    (stands : event.Stands lanes measure sizes total y bottom) {frame : Frame Rat}
    {cases : List (Case Rat (Event Rat))} (member : (frame, cases) ∈ event.conditionals) :
    frame.height = Frame.heightAround sizes cases ∧
      ∃ inner, Case.AllStand lanes measure sizes total (frame.y + sizes.frameMarginItems)
        inner cases := by
  cases event with
  | signal | note | lifetime | numbering =>
      rw [Event.conditionals] at member
      cases member
  | conditional kind surround inside =>
      rw [Event.Stands] at stands
      obtain ⟨frameEq, inner, stand, -⟩ := stands
      rw [Event.conditionals, List.mem_cons] at member
      rcases member with same | deeper
      · cases same
        rw [frameEq]
        exact ⟨rfl, inner, stand⟩
      · exact Case.stand_of_mem_conditionals inside stand deeper
  | synchrony kind events =>
      rw [Event.Stands] at stands
      rw [Event.conditionals] at member
      exact Event.stand_of_mem_allConditionals events stands member
termination_by structural event

theorem Event.stand_of_mem_allConditionals (events : List (Event Rat)) {y bottom : Rat}
    (stand : Event.AllStand lanes measure sizes total y bottom events) {frame : Frame Rat}
    {cases : List (Case Rat (Event Rat))}
    (member : (frame, cases) ∈ Event.allConditionals events) :
    frame.height = Frame.heightAround sizes cases ∧
      ∃ inner, Case.AllStand lanes measure sizes total (frame.y + sizes.frameMarginItems)
        inner cases := by
  cases events with
  | nil =>
      rw [Event.allConditionals] at member
      cases member
  | cons event rest =>
      rw [Event.AllStand] at stand
      obtain ⟨next, stands, others⟩ := stand
      rw [Event.allConditionals, List.mem_append] at member
      rcases member with inFirst | inRest
      · exact Event.stand_of_mem_conditionals event stands inFirst
      · exact Event.stand_of_mem_allConditionals rest others inRest
termination_by structural events

theorem Case.stand_of_mem_conditionals (cases : List (Case Rat (Event Rat)))
    {y bottom : Rat} (stand : Case.AllStand lanes measure sizes total y bottom cases)
    {frame : Frame Rat} {others : List (Case Rat (Event Rat))}
    (member : (frame, others) ∈ Case.conditionals cases) :
    frame.height = Frame.heightAround sizes others ∧
      ∃ inner, Case.AllStand lanes measure sizes total (frame.y + sizes.frameMarginItems)
        inner others := by
  cases cases with
  | nil =>
      rw [Case.conditionals] at member
      cases member
  | cons headed rest =>
      obtain ⟨caption, top, height, events⟩ := headed
      rw [Case.AllStand] at stand
      obtain ⟨next, -, inside, below⟩ := stand
      rw [Case.conditionals, List.mem_append] at member
      rcases member with inFirst | inRest
      · exact Event.stand_of_mem_allConditionals events inside inFirst
      · exact Case.stand_of_mem_conditionals rest below inRest
termination_by structural cases

end

namespace Case

/-- Whether the first of some cases begins at a position, and each other one where the
one before it ends. -/
def Follow (y : Rat) (cases : List (Case Rat (Event Rat))) : Prop :=
  (∀ first ∈ cases.head?, first.y = y) ∧
    cases.IsChain fun headed next => next.y = headed.y + headed.height

theorem follow_of_allStand {cases : List (Case Rat (Event Rat))}
    (stand : Case.AllStand lanes measure sizes total y bottom cases) : Follow y cases := by
  induction cases generalizing y with
  | nil => exact ⟨by simp, List.isChain_nil⟩
  | cons headed rest ih =>
      obtain ⟨caption, top, height, events⟩ := headed
      rw [Case.AllStand] at stand
      obtain ⟨next, ⟨topEq, heightEq⟩, -, others⟩ := stand
      obtain ⟨first, chain⟩ := ih others
      refine ⟨by simpa using topEq, chain.cons fun second secondEq => ?_⟩
      rw [first second secondEq, topEq, heightEq]
      ring

theorem allStand_of_mem {cases : List (Case Rat (Event Rat))}
    (stand : Case.AllStand lanes measure sizes total y bottom cases)
    {headed : Case Rat (Event Rat)} (member : headed ∈ cases) :
    Event.AllStand lanes measure sizes total headed.y (headed.y + headed.height)
      headed.events := by
  induction cases generalizing y with
  | nil => cases member
  | cons first rest ih =>
      obtain ⟨caption, top, height, events⟩ := first
      rw [Case.AllStand] at stand
      obtain ⟨next, ⟨topEq, heightEq⟩, inside, others⟩ := stand
      rcases List.mem_cons.mp member with rfl | inRest
      · have nextEq : y + (next - y) = next := by ring
        rwa [topEq, heightEq, nextEq]
      · exact ih others inRest

end Case

end Standing

theorem Actor.le_foldl_height (actors : List (Actor Rat)) (start : Rat) :
    start ≤ actors.foldl (fun height actor => larger height actor.height) start ∧
      ∀ actor ∈ actors,
        actor.height ≤ actors.foldl (fun height actor => larger height actor.height) start := by
  induction actors generalizing start with
  | nil => simp
  | cons actor rest ih =>
      obtain ⟨fromStart, fromRest⟩ := ih (max start actor.height)
      rw [List.foldl_cons, larger_fraction]
      refine ⟨(le_max_left _ _).trans fromStart, fun other member => ?_⟩
      rcases List.mem_cons.mp member with rfl | inRest
      · exact (le_max_right _ _).trans fromStart
      · exact fromRest other inRest

theorem Actor.height_le_highest {actors : List (Actor Rat)} {actor : Actor Rat}
    (member : actor ∈ actors) : actor.height ≤ Actor.highest actors :=
  (le_foldl_height actors 0).2 actor member

namespace Diagram

/-- Whether the events of a diagram that was laid out stand one below the other and
inside their frames, down to a last position of the cursor. -/
structure Stacked (sizes : Sizes Rat) (laid : Diagram Rat) (extent : Extent Rat)
    (cursor : Rat) : Prop where
  /-- Whatever is drawn has a place and a height. -/
  shown : ∀ event ∈ Event.flattenAll laid.events, event.shown = true → event.span?.isSome
  above : (Event.flattenAll laid.events).Pairwise Event.Above
  below_heads : ∀ event ∈ Event.flattenAll laid.events, event.Drawn →
    ∀ span ∈ event.span?, ∀ actor ∈ laid.actors, actor.topY + actor.height < span.top
  follow : ∀ frame cases, (frame, cases) ∈ Event.allConditionals laid.events →
    Case.Follow (frame.y + sizes.frameMarginItems) cases
  inside_case : ∀ frame cases, (frame, cases) ∈ Event.allConditionals laid.events →
    ∀ headed ∈ cases, ∀ event ∈ Event.flattenAll headed.events, ∀ span ∈ event.span?,
      headed.y ≤ span.top ∧ span.top ≤ span.bottom ∧
        span.bottom ≤ headed.y + headed.height
  inside_frame : ∀ frame cases, (frame, cases) ∈ Event.allConditionals laid.events →
    ∀ event ∈ Case.flatten cases, ∀ span ∈ event.span?,
      frame.y ≤ span.top ∧ span.bottom ≤ frame.y + frame.height
  above_cursor : ∀ event ∈ Event.flattenAll laid.events, ∀ span ∈ event.span?,
    span.bottom ≤ cursor
  bottomY : ∀ actor ∈ laid.actors, actor.bottomY = cursor
  height : extent.height = cursor + sizes.padding

variable {measure : Measurer Rat} {sizes : Sizes Rat} {diagram : Diagram Rat}

/-- Heads end above the position that the first event is placed at. -/
theorem head_lt_top (padding : 0 ≤ sizes.padding) {actor : Actor Rat}
    (member : actor ∈ (diagram.layout measure sizes).1.actors) :
    actor.topY + actor.height < diagram.top measure sizes := by
  obtain ⟨lane, actorEq⟩ := List.mem_iff_getElem?.mp member
  rw [getElem?_layout, Option.map_eq_some_iff] at actorEq
  obtain ⟨head, headEq, rfl⟩ := actorEq
  have highest := Actor.height_le_highest (List.mem_of_getElem? headEq)
  simp only [top, Nat.cast_ofNat, Nat.cast_one]
  linarith

theorem stacked_of_allStand (holding : sizes.Holding)
    (heights : ∀ caption, 0 ≤ (measure caption).height) {cursor : Rat}
    (cursorEq : (diagram.placement measure sizes).2 = some cursor)
    (stand : Event.AllStand (diagram.laneDirectory measure sizes) measure sizes
      (diagram.spread measure sizes).2 (diagram.top measure sizes) cursor
      (diagram.layout measure sizes).1.events) :
    Stacked sizes (diagram.layout measure sizes).1 (diagram.layout measure sizes).2 cursor := by
  have overhang := holding.overhang
  have column := Event.column_of_allStand holding heights _ stand
  have cursorGetD :
      (diagram.placement measure sizes).2.getD (diagram.top measure sizes) = cursor := by
    rw [cursorEq, Option.getD_some]
  refine ⟨column.shown, column.above, ?_, ?_, ?_, ?_, ?_, ?_, ?_⟩
  · intro event member _ span spanEq actor actorMember
    exact (head_lt_top holding.padding actorMember).trans_le
      (column.within event member span spanEq).1
  · intro frame cases member
    obtain ⟨-, inner, cases⟩ := Event.stand_of_mem_allConditionals _ stand member
    exact Case.follow_of_allStand cases
  · intro frame cases member headed inCases event inCase span spanEq
    obtain ⟨-, inner, standing⟩ := Event.stand_of_mem_allConditionals _ stand member
    have inside := Event.column_of_allStand holding heights _
      (Case.allStand_of_mem standing inCases)
    obtain ⟨above, ordered, below⟩ := inside.within event inCase span spanEq
    exact ⟨above, ordered, by linarith⟩
  · intro frame cases member event inCases span spanEq
    obtain ⟨heightEq, inner, standing⟩ := Event.stand_of_mem_allConditionals _ stand member
    have inside := Case.column_of_allStand holding heights _ standing
    obtain ⟨above, -, below⟩ := inside.within event inCases span spanEq
    have height := Frame.height_of_allStand standing
    have least := holding.frameMinHeight
    rw [← heightEq] at height
    rw [Sizes.overhang] at *
    exact ⟨by linarith, by linarith⟩
  · intro event member span spanEq
    have below := (column.within event member span spanEq).2.2
    linarith
  · intro actor member
    obtain ⟨lane, actorEq⟩ := List.mem_iff_getElem?.mp member
    rw [getElem?_layout, Option.map_eq_some_iff] at actorEq
    obtain ⟨head, -, rfl⟩ := actorEq
    exact cursorGetD
  · exact congrArg (· + sizes.padding) cursorGetD

/-- In both presets a layout stacks events one below the other and keeps whatever is
inside a case or a frame inside it. -/
theorem layout_stacks (preset : sizes = Sizes.pixels ∨ sizes = Sizes.cells)
    (heights : ∀ caption, 0 ≤ (measure caption).height)
    (unplaced : Event.NonePlaced diagram.events) :
    ∃ cursor, (diagram.placement measure sizes).2 = some cursor ∧
      Stacked sizes (diagram.layout measure sizes).1 (diagram.layout measure sizes).2
        cursor := by
  have holding : sizes.Holding := by
    rcases preset with rfl | rfl
    · exact Sizes.holding_pixels
    · exact Sizes.holding_cells
  obtain ⟨cursor, cursorEq, stand, -⟩ := stand_placement measure sizes unplaced
  exact ⟨cursor, cursorEq, stacked_of_allStand holding heights cursorEq stand⟩

/-- Conditionals in conditionals and in a synchrony block, with an empty case. -/
def nestedBlocks : String :=
  "actor U\nU->S: go\nalt a\nopt b\nnote over S: n\nend\nelse c\nparallel\nloop\nS->U: x\n" ++
    "end\nend\nelse\nend\nS->S: y"

theorem layout_stacks_nestedBlocks :
    (∀ caption, 0 ≤ (Measurer.monospaced (8 : Rat) 20 caption).height) ∧
      Event.NonePlaced (Script.read nestedBlocks : Diagram Rat).events ∧
      (Event.allConditionals (Script.read nestedBlocks : Diagram Rat).events).length = 3 ∧
      ∃ cursor,
        ((Script.read nestedBlocks).placement (Measurer.monospaced (8 : Rat) 20)
            Sizes.pixels).2 = some cursor ∧
          Stacked Sizes.pixels
            ((Script.read nestedBlocks).layout (Measurer.monospaced (8 : Rat) 20)
              Sizes.pixels).1
            ((Script.read nestedBlocks).layout (Measurer.monospaced (8 : Rat) 20)
              Sizes.pixels).2
            cursor := by
  have heights (caption : String) :
      0 ≤ (Measurer.monospaced (8 : Rat) 20 caption).height :=
    mul_nonneg (Nat.cast_nonneg _) (by decide)
  have unplaced := Script.nonePlaced_read (α := Rat) nestedBlocks
  exact ⟨heights, unplaced, by decide +kernel, layout_stacks (Or.inl rfl) heights unplaced⟩

end Diagram

end Lifeline
