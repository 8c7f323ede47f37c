import Lifeline.Proofs.Marks
import Lifeline.Proofs.Placement
import Mathlib.Tactic.Linarith
import Mathlib.Tactic.NormNum
import Mathlib.Tactic.Ring

/-!
# Rows of events

In a drawing in cells every event has rows of its own.  A signal or an annotation
ends two rows above the position below it, and whatever is drawn after it begins
no higher than one row above that position: the heading of a case stands one row
above the case.  So of what is drawn after a signal or an annotation nothing
reaches up to it.

Frames and headings are different.  A heading may have any number of lines, and
nobody has measured it, so the events under it may be drawn over it.
-/

namespace Lifeline

/-- Whether marks are made one after the other in such a way that only lower rows
are written after some of them. -/
def Mark.ClearIn (marks own : List (Mark Ink)) : Prop :=
  ∃ before after, marks = before ++ (own ++ after) ∧
    ∀ mark ∈ own, ∀ later ∈ after, mark.y < later.y

namespace Mark.ClearIn

variable {marks own : List (Mark Ink)}

theorem refl (own : List (Mark Ink)) : ClearIn own own :=
  ⟨[], [], by simp, by simp⟩

theorem append_left (clear : ClearIn marks own) (front : List (Mark Ink)) :
    ClearIn (front ++ marks) own := by
  obtain ⟨before, after, rfl, lower⟩ := clear
  exact ⟨front ++ before, after, by simp, lower⟩

theorem append_right (clear : ClearIn marks own) {back : List (Mark Ink)}
    (below : ∀ mark ∈ own, ∀ later ∈ back, mark.y < later.y) :
    ClearIn (marks ++ back) own := by
  obtain ⟨before, after, rfl, lower⟩ := clear
  refine ⟨before, after ++ back, by simp, fun mark member later inRest => ?_⟩
  rcases List.mem_append.mp inRest with inAfter | inBack
  · exact lower mark member later inAfter
  · exact below mark member later inBack

end Mark.ClearIn

/-- The rows of events between two positions, and of the marks that are made for
them. -/
structure Rows (first last : Int) (events : List (Event Rat)) (marks : List (Mark Ink)) :
    Prop where
  ordered : first ≤ last
  lower : ∀ mark ∈ marks, first - 1 ≤ mark.y
  upper : ∀ event ∈ events, event.Drawn → ∀ mark ∈ event.marks, mark.y + 2 ≤ last
  clear : ∀ event ∈ events, event.Drawn → Mark.ClearIn marks event.marks

namespace Rows

variable {first middle last : Int} {events others : List (Event Rat)}
  {marks back : List (Mark Ink)}

theorem nil (first : Int) : Rows first first [] [] := by
  constructor <;> simp

theorem append (above : Rows first middle events marks)
    (below : Rows middle last others back) :
    Rows first last (events ++ others) (marks ++ back) := by
  have aboveOrdered := above.ordered
  have belowOrdered := below.ordered
  constructor
  · omega
  · intro mark member
    rcases List.mem_append.mp member with inMarks | inBack
    · exact above.lower mark inMarks
    · have := below.lower mark inBack
      omega
  · intro event member drawn mark inEvent
    rcases List.mem_append.mp member with inEvents | inOthers
    · have := above.upper event inEvents drawn mark inEvent
      omega
    · exact below.upper event inOthers drawn mark inEvent
  · intro event member drawn
    rcases List.mem_append.mp member with inEvents | inOthers
    · apply (above.clear event inEvents drawn).append_right
      intro mark inEvent later inBack
      have markUpper := above.upper event inEvents drawn mark inEvent
      have laterLower := below.lower later inBack
      omega
    · exact (below.clear event inOthers drawn).append_left marks

/-- Marks that are made earlier are in nobody's way. -/
theorem prepend (rows : Rows first last events back)
    (lower : ∀ mark ∈ marks, first - 1 ≤ mark.y) :
    Rows first last events (marks ++ back) := by
  refine ⟨rows.ordered, ?_, rows.upper, ?_⟩
  · intro mark member
    rcases List.mem_append.mp member with inMarks | inBack
    · exact lower mark inMarks
    · exact rows.lower mark inBack
  · intro event member drawn
    exact (rows.clear event member drawn).append_left marks

theorem widen {top bottom : Int} (rows : Rows first last events marks)
    (above : top ≤ first) (below : last ≤ bottom) : Rows top bottom events marks := by
  have ordered := rows.ordered
  refine ⟨by omega, ?_, ?_, rows.clear⟩
  · intro mark member
    have := rows.lower mark member
    omega
  · intro event member drawn mark inEvent
    have := rows.upper event member drawn mark inEvent
    omega

/-- What is not drawn by itself has no rows by itself. -/
theorem skip {event : Event Rat} (notDrawn : ¬ event.Drawn)
    (rows : Rows first last events marks) : Rows first last (event :: events) marks := by
  refine ⟨rows.ordered, rows.lower, ?_, ?_⟩
  · intro other member drawn
    rcases List.mem_cons.mp member with rfl | member
    · exact absurd drawn notDrawn
    · exact rows.upper other member drawn
  · intro other member drawn
    rcases List.mem_cons.mp member with rfl | member
    · exact absurd drawn notDrawn
    · exact rows.clear other member drawn

theorem singleton {event : Event Rat} (ordered : first ≤ last)
    (within : ∀ mark ∈ event.marks, first ≤ mark.y ∧ mark.y + 2 ≤ last) :
    Rows first last [event] event.marks := by
  refine ⟨ordered, ?_, ?_, ?_⟩
  · intro mark member
    have := within mark member
    omega
  · intro other member _ mark inEvent
    rw [List.mem_singleton.mp member] at inEvent
    exact (within mark inEvent).2
  · intro other member _
    rw [List.mem_singleton.mp member]
    exact Mark.ClearIn.refl event.marks

end Rows

def Text.lineCount (caption : String) : Nat :=
  (Text.captionLines caption.toList).length

theorem Measurer.height_cells (caption : String) :
    (Measurer.cells caption : Extent Rat).height = Text.lineCount caption :=
  rfl

theorem Signal.y_of_mem_marks {signal : Signal} {place : SignalPlace Rat}
    (heightEq : cell place.height = Text.lineCount signal.caption) {mark : Mark Ink}
    (member : mark ∈ signal.marks place) :
    cell place.startY ≤ mark.y ∧
      mark.y ≤ cell place.startY + Text.lineCount signal.caption := by
  have positive : 0 < Text.lineCount signal.caption :=
    Text.length_captionLines_pos signal.caption.toList
  have lineEq : cell place.startY + max (cell place.height) 1 =
      cell place.startY + Text.lineCount signal.caption := by
    rw [heightEq]
    omega
  simp only [Signal.marks, lineEq] at member
  split at member
  · rcases List.mem_append.mp member with inHook | inCaption
    · simp only [hookMarks, List.mem_cons, List.not_mem_nil, or_false] at inHook
      rcases inHook with rfl | rfl | rfl | rfl | rfl | rfl <;> simp only <;> omega
    · have bounds := (Mark.bounds_of_mem_ofCaption inCaption).1
      rw [← Text.lineCount] at bounds
      omega
  · rcases List.mem_append.mp member with inArrow | inCaption
    · rw [arrowMarks, List.mem_append, List.mem_map, List.mem_singleton] at inArrow
      rcases inArrow with ⟨x, -, rfl⟩ | rfl
      · simp only
        omega
      · split <;> simp only <;> omega
    · have bounds := (Mark.bounds_of_mem_ofCaption inCaption).1
      rw [← Text.lineCount] at bounds
      omega

theorem Note.y_of_mem_marks {note : Note} {place : NotePlace Rat}
    (heightEq : cell place.height = Text.lineCount note.caption + 2)
    (marginEq : floor place.textMarginY = 1) {mark : Mark Ink}
    (member : mark ∈ note.marks place) :
    cell place.y ≤ mark.y ∧ mark.y ≤ cell place.y + Text.lineCount note.caption + 1 := by
  rw [Note.marks, List.mem_append] at member
  rcases member with inBox | inCaption
  · have bounds := Mark.y_of_mem_ofBox (by omega) inBox
    omega
  · have bounds := (Mark.bounds_of_mem_ofCaption inCaption).1
    rw [← Text.lineCount] at bounds
    omega

section Standing

variable {lanes : Directory Rat} {total y bottom : Rat} {first : Int}

theorem Signal.rows_of_stands {signal : Signal} {place : SignalPlace Rat}
    (stands : signal.Stands lanes Measurer.cells Sizes.cells place y bottom)
    (yEq : y = first) :
    ∃ last : Int, bottom = last ∧
      Rows first last [.signal signal place] (Event.signal signal place).marks := by
  unfold Signal.Stands at stands
  cases endsEq : lanes.ends? signal.source signal.destination with
  | none =>
      rw [endsEq] at stands
      obtain ⟨unplaced, bottomEq⟩ := stands
      have marksEq : (Event.signal signal place).marks = [] := by
        rw [Event.marks_signal, if_neg (by simp [unplaced])]
      exact ⟨first, bottomEq.trans yEq, Rows.singleton (le_refl _) (by simp [marksEq])⟩
  | some ends =>
      rw [endsEq] at stands
      obtain ⟨placeEq, bottomEq⟩ := stands
      have placed : place.placed = true := by rw [placeEq]; rfl
      have startEq : cell place.startY = first := by
        simp [placeEq, Signal.standing, cell, yEq]
      have heightEq : cell place.height = Text.lineCount signal.caption := by
        simp [placeEq, Signal.standing, cell, Measurer.height_cells]
      refine ⟨first + 2 + Text.lineCount signal.caption, ?_, Rows.singleton ?_ ?_⟩
      · rw [bottomEq, yEq, Measurer.height_cells]
        push_cast
        simp [Sizes.cells]
        ring
      · omega
      · intro mark member
        rw [Event.marks_signal, if_pos placed] at member
        have bounds := Signal.y_of_mem_marks heightEq member
        omega

theorem Note.extent_cells (note : Note) :
    note.extent (Measurer.cells : Measurer Rat) Sizes.cells =
      { width := ((Measurer.longest (Text.captionLines note.caption.toList) + 2 : Nat) : Rat)
        height := ((Text.lineCount note.caption + 2 : Nat) : Rat) } := by
  rw [Nat.cast_add, Nat.cast_add]
  simp [Note.extent, Measurer.cells, Sizes.cells, Text.lineCount]

theorem Note.rows_of_stands {note : Note} {place : NotePlace Rat}
    (stands : note.Stands lanes Measurer.cells Sizes.cells place y bottom)
    (yEq : y = first) :
    ∃ last : Int, bottom = last ∧
      Rows first last [.note note place] (Event.note note place).marks := by
  unfold Note.Stands at stands
  cases anchorEq : lanes.anchor? note.location with
  | none =>
      rw [anchorEq] at stands
      obtain ⟨unplaced, bottomEq⟩ := stands
      have marksEq : (Event.note note place).marks = [] := by
        rw [Event.marks_note, if_neg (by simp [unplaced])]
      exact ⟨first, bottomEq.trans yEq, Rows.singleton (le_refl _) (by simp [marksEq])⟩
  | some entry =>
      rw [anchorEq] at stands
      obtain ⟨placeEq, bottomEq⟩ := stands
      rw [Note.standing, Note.extent_cells] at placeEq
      have placed : place.placed = true := by rw [placeEq]; rfl
      have yCell : cell place.y = first := by
        rw [placeEq, yEq]
        exact floor_intCast first
      have heightEq : cell place.height = Text.lineCount note.caption + 2 := by
        rw [placeEq]
        exact floor_natCast _
      have marginEq : floor place.textMarginY = 1 := by
        rw [placeEq]
        rfl
      refine ⟨first + 3 + Text.lineCount note.caption, ?_, Rows.singleton ?_ ?_⟩
      · rw [bottomEq, yEq, Note.extent_cells]
        push_cast
        simp [Sizes.cells]
        ring
      · omega
      · intro mark member
        rw [Event.marks_note, if_pos placed] at member
        have bounds := Note.y_of_mem_marks heightEq marginEq member
        omega

end Standing

theorem le_y_of_mem_bracketed {x y : Int} {caption : String} {mark : Mark Ink}
    (member : mark ∈ bracketed x y caption) : y ≤ mark.y := by
  rw [bracketed] at member
  split at member
  · cases member
  · exact (Mark.bounds_of_mem_ofCaption member).1.1

theorem Frame.le_y_of_mem_marks {kind : ConditionalKind} {frame : Frame Rat}
    (high : 1 ≤ floor frame.height) {mark : Mark Ink} (member : mark ∈ frame.marks kind) :
    floor frame.y ≤ mark.y := by
  simp only [Frame.marks, List.mem_append, List.mem_map, List.mem_cons, List.not_mem_nil,
    or_false] at member
  rcases member with
    (((inBox | rfl | rfl | rfl) | ⟨step, -, rfl⟩) | rfl) | inKind
  · exact (Mark.y_of_mem_ofBox high inBox).1
  all_goals try simp only; omega
  · have := (Mark.bounds_of_mem_ofCaption inKind).1
    omega

/-- The heading of a case begins one row above the case, or beside the tab of its
frame. -/
theorem Frame.le_y_of_mem_headingMarks {frame : Frame Rat} {first : Bool} {y : Rat}
    {caption : String} {mark : Mark Ink} (member : mark ∈ frame.headingMarks first y caption) :
    (if first then floor frame.y + 1 else floor y - 1) ≤ mark.y := by
  rw [Frame.headingMarks] at member
  cases first with
  | true => exact le_y_of_mem_bracketed member
  | false =>
      simp only [Bool.false_eq_true, if_false, List.mem_append, List.mem_map] at member ⊢
      rcases member with ⟨step, -, rfl⟩ | inCaption
      · exact le_refl _
      · exact le_y_of_mem_bracketed inCaption

section Trees

variable {lanes : Directory Rat} {total : Rat}

mutual

/-- An event has its marks in the rows between the position that it was placed at and
the one below it. -/
theorem Event.rows_of_stands (event : Event Rat) {y bottom : Rat} {first : Int}
    (stands : event.Stands lanes Measurer.cells Sizes.cells total y bottom)
    (yEq : y = first) :
    ∃ last : Int, bottom = last ∧ Rows first last event.flatten event.marks := by
  cases event with
  | signal signal place =>
      rw [Event.Stands] at stands
      exact Signal.rows_of_stands stands yEq
  | note note place =>
      rw [Event.Stands] at stands
      exact Note.rows_of_stands stands yEq
  | conditional kind frame cases =>
      rw [Event.Stands] at stands
      obtain ⟨frameEq, inner, stand, bottomEq⟩ := stands
      have frameY : floor frame.y = first := by rw [frameEq, yEq]; exact floor_intCast first
      have itemsEq : y + Sizes.cells.frameMarginItems = ((first + 3 : Int) : Rat) := by
        rw [yEq]
        push_cast
        rfl
      obtain ⟨last, innerEq, ordered, rows⟩ :=
        Case.rows_of_allStand_first cases frame stand itemsEq frameY
      have frameHeight : floor frame.height = last - first := by
        have heightEq : frame.height = ((last - first : Int) : Rat) := by
          rw [frameEq, Frame.heightAround, Case.foldl_height stand, itemsEq, innerEq]
          push_cast
          simp [Sizes.cells]
          ring
        rw [heightEq, floor_intCast]
      refine ⟨last + 1, ?_, ?_⟩
      · rw [bottomEq, innerEq]
        push_cast
        rfl
      · rw [Event.flatten, Event.marks_conditional]
        refine ((rows.widen (le_refl _) (by omega)).prepend fun mark member => ?_).skip
          (by simp [Event.Drawn])
        have lower := Frame.le_y_of_mem_marks (by omega) member
        omega
  | synchrony kind events =>
      rw [Event.Stands] at stands
      obtain ⟨last, bottomEq, rows⟩ := Event.rows_of_allStand events stands yEq
      rw [Event.flatten]
      exact ⟨last, bottomEq, rows.skip (by simp [Event.Drawn])⟩
  | lifetime | numbering =>
      rw [Event.Stands] at stands
      refine ⟨first, stands.trans yEq, ?_⟩
      rw [Event.flatten]
      exact (Rows.nil first).skip (by simp [Event.Drawn])
termination_by structural event

theorem Event.rows_of_allStand (events : List (Event Rat)) {y bottom : Rat} {first : Int}
    (stand : Event.AllStand lanes Measurer.cells Sizes.cells total y bottom events)
    (yEq : y = first) :
    ∃ last : Int, bottom = last ∧
      Rows first last (Event.flattenAll events) (Event.allMarks events) := by
  cases events with
  | nil =>
      rw [Event.AllStand] at stand
      refine ⟨first, stand.trans yEq, ?_⟩
      rw [Event.flattenAll]
      exact Rows.nil first
  | cons event rest =>
      rw [Event.AllStand] at stand
      obtain ⟨next, stands, others⟩ := stand
      obtain ⟨middle, nextEq, rows⟩ := Event.rows_of_stands event stands yEq
      obtain ⟨last, bottomEq, restRows⟩ := Event.rows_of_allStand rest others nextEq
      rw [Event.flattenAll, Event.allMarks_cons]
      exact ⟨last, bottomEq, rows.append restRows⟩
termination_by structural events

/-- The cases of a conditional, from three rows below its frame's upper edge on. -/
theorem Case.rows_of_allStand_first (cases : List (Case Rat (Event Rat)))
    (frame : Frame Rat) {y bottom : Rat} {first : Int}
    (stand : Case.AllStand lanes Measurer.cells Sizes.cells total y bottom cases)
    (yEq : y = ((first + 3 : Int) : Rat)) (frameY : floor frame.y = first) :
    ∃ last : Int, bottom = last ∧ first + 3 ≤ last ∧
      Rows first last (Case.flatten cases) (Case.marks frame true cases) := by
  cases cases with
  | nil =>
      rw [Case.AllStand] at stand
      refine ⟨first + 3, stand.trans yEq, le_refl _, ?_⟩
      rw [Case.flatten]
      exact (Rows.nil first).widen (le_refl _) (by omega)
  | cons headed rest =>
      obtain ⟨caption, top, height, events⟩ := headed
      rw [Case.AllStand] at stand
      obtain ⟨next, -, inside, others⟩ := stand
      obtain ⟨middle, nextEq, rows⟩ := Event.rows_of_allStand events inside yEq
      obtain ⟨last, bottomEq, restRows⟩ := Case.rows_of_allStand rest frame others nextEq
      have rowsOrdered := rows.ordered
      have restOrdered := restRows.ordered
      rw [Case.flatten, Case.marks_cons]
      refine ⟨last, bottomEq, by omega, ?_⟩
      -- The first heading stands beside the tab, above the rows of its events.
      refine ((rows.widen (by omega) (le_refl _)).prepend fun mark member => ?_).append
        restRows
      have lower := Frame.le_y_of_mem_headingMarks member
      rw [if_pos rfl, frameY] at lower
      omega
termination_by structural cases

/-- The cases of a conditional after its first one. -/
theorem Case.rows_of_allStand (cases : List (Case Rat (Event Rat))) (frame : Frame Rat)
    {y bottom : Rat} {first : Int}
    (stand : Case.AllStand lanes Measurer.cells Sizes.cells total y bottom cases)
    (yEq : y = first) :
    ∃ last : Int, bottom = last ∧
      Rows first last (Case.flatten cases) (Case.marks frame false cases) := by
  cases cases with
  | nil =>
      rw [Case.AllStand] at stand
      refine ⟨first, stand.trans yEq, ?_⟩
      rw [Case.flatten]
      exact Rows.nil first
  | cons headed rest =>
      obtain ⟨caption, top, height, events⟩ := headed
      rw [Case.AllStand] at stand
      obtain ⟨next, ⟨topEq, -⟩, inside, others⟩ := stand
      obtain ⟨middle, nextEq, rows⟩ := Event.rows_of_allStand events inside yEq
      obtain ⟨last, bottomEq, restRows⟩ := Case.rows_of_allStand rest frame others nextEq
      rw [Case.flatten, Case.marks_cons]
      refine ⟨last, bottomEq, (rows.prepend fun mark member => ?_).append restRows⟩
      have lower := Frame.le_y_of_mem_headingMarks member
      simpa [topEq, yEq] using lower
termination_by structural cases

end

end Trees

end Lifeline
