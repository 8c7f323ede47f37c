import Lifeline.Proofs.Canvas
import Lifeline.Proofs.Heads
import Lifeline.Proofs.Outline
import Lifeline.Proofs.Rows
import Lifeline.TextArt

/-!
# Nothing is drawn over

In a drawing in text of a script, every head, every signal and every annotation can
be read as if it had been drawn alone.  What is drawn before something does not
matter, for the later of two marks in a cell is seen.  What is drawn after it is
further to the right, if it is a head, or in lower rows.

Lifelines, frames and headings are drawn over, and are meant to be.
-/

namespace Lifeline

namespace Diagram

variable {diagram : Diagram Rat}

/-- A canvas shows a drawing in whatever style if nothing that is drawn later puts
another ink where the two meet. -/
theorem shows_canvas {before own after : List (Mark Ink)}
    (marksEq : diagram.marks = before ++ (own ++ after))
    (harmless : ∀ mark ∈ own, ∀ later ∈ after,
      mark.x = later.x → mark.y = later.y → mark.ink = later.ink)
    (style : Style) (extent : Extent Rat) :
    (diagram.canvas style extent).Shows (own.map (Mark.map (Ink.text style))) := by
  rw [canvas, marksEq, List.map_append, List.map_append]
  apply Canvas.shows_draw (Canvas.even_ofSize _ _)
  intro mark member later laterMember sameX sameY
  rw [List.mem_map] at member laterMember
  obtain ⟨inked, inOwn, rfl⟩ := member
  obtain ⟨laterInked, inAfter, rfl⟩ := laterMember
  exact congrArg (Ink.text style) (harmless inked inOwn laterInked inAfter sameX sameY)

theorem marks_around_head {before after : List (Actor Rat)} {actor : Actor Rat}
    (actorsEq : diagram.actors = before ++ actor :: after) :
    diagram.marks =
      before.flatMap Actor.marks ++
        (actor.headMarks ++
          (actor.lifelineMarks ++
            (after.flatMap Actor.marks ++ Event.allMarks diagram.events))) := by
  simp [marks, actorsEq, Actor.marks]

theorem exists_rows (unplaced : Event.NonePlaced diagram.events) :
    ∃ highest last : Int,
      (∀ actor ∈ (diagram.layout Measurer.cells Sizes.cells).1.actors,
        floor actor.height ≤ highest) ∧
      Rows (highest + 3) last
        (Event.flattenAll (diagram.layout Measurer.cells Sizes.cells).1.events)
        (Event.allMarks (diagram.layout Measurer.cells Sizes.cells).1.events) := by
  obtain ⟨highest, topEq, upper⟩ := diagram.exists_top
  obtain ⟨bottom, -, stand, -⟩ := stand_placement Measurer.cells Sizes.cells unplaced
  obtain ⟨last, -, rows⟩ := Event.rows_of_allStand _ stand topEq
  exact ⟨highest, last, upper, rows⟩

theorem shows_head (unplaced : Event.NonePlaced diagram.events) (style : Style)
    (extent : Extent Rat) {actor : Actor Rat}
    (member : actor ∈ (diagram.layout Measurer.cells Sizes.cells).1.actors) :
    ((diagram.layout Measurer.cells Sizes.cells).1.canvas style extent).Shows
      (actor.headMarks.map (Mark.map (Ink.text style))) := by
  obtain ⟨highest, last, upper, rows⟩ := exists_rows unplaced
  obtain ⟨before, after, actorsEq⟩ := List.append_of_mem member
  have headed := headed_of_mem_layout member
  have apart : (diagram.layout Measurer.cells Sizes.cells).1.actors.Pairwise Actor.Apart :=
    pairwise_apart_layout
  rw [actorsEq, List.pairwise_append, List.pairwise_cons] at apart
  apply shows_canvas (marks_around_head actorsEq)
  intro mark inHead later inRest sameX sameY
  have above := headed.y_of_mem_headMarks inHead
  rw [List.mem_append, List.mem_append, List.mem_flatMap] at inRest
  rcases inRest with inLifeline | ⟨other, inAfter, inOther⟩ | inEvents
  · -- The lifeline begins below its head.
    rw [Actor.lifelineMarks, List.mem_map] at inLifeline
    obtain ⟨row, inRange, rfl⟩ := inLifeline
    have below := (Mark.mem_range.mp inRange).1
    have top := headed.floor_topY
    simp only at sameY
    omega
  · have otherMember : other ∈ (diagram.layout Measurer.cells Sizes.cells).1.actors := by
      simp [actorsEq, inAfter]
    exact headed.harmless_of_apart (headed_of_mem_layout otherMember)
      (apart.2.1.1 other inAfter) inHead inOther sameX
  · have below := rows.lower later inEvents
    have within := upper actor member
    omega

/-- What is drawn after a signal or an annotation is drawn in lower rows. -/
theorem clearIn_marks_layout (unplaced : Event.NonePlaced diagram.events) {event : Event Rat}
    (member :
      event ∈ Event.flattenAll (diagram.layout Measurer.cells Sizes.cells).1.events)
    (drawn : event.Drawn) :
    Mark.ClearIn (diagram.layout Measurer.cells Sizes.cells).1.marks event.marks := by
  obtain ⟨highest, last, -, rows⟩ := exists_rows unplaced
  exact (rows.clear event member drawn).append_left _

theorem shows_event (unplaced : Event.NonePlaced diagram.events) (style : Style)
    (extent : Extent Rat) {event : Event Rat}
    (member :
      event ∈ Event.flattenAll (diagram.layout Measurer.cells Sizes.cells).1.events)
    (drawn : event.Drawn) :
    ((diagram.layout Measurer.cells Sizes.cells).1.canvas style extent).Shows
      (event.marks.map (Mark.map (Ink.text style))) := by
  obtain ⟨before, after, marksEq, lower⟩ := clearIn_marks_layout unplaced member drawn
  apply shows_canvas marksEq
  intro mark inOwn later inAfter _ sameY
  have below := lower mark inOwn later inAfter
  omega

end Diagram

namespace Script

/-- A script laid out in cells, with the size of its drawing. -/
def inCells (text : String) : Diagram Rat × Extent Rat :=
  (Script.read text : Diagram Rat).layout Measurer.cells Sizes.cells

/-- The canvas that the drawing of a script in text is read from. -/
def canvas (style : Style) (text : String) : Canvas :=
  (inCells text).1.canvas style (inCells text).2

theorem textArt_eq_text_canvas (style : Style) (text : String) :
    textArt (α := Rat) style text =
      if (inCells text).1.actors.isEmpty && (inCells text).1.events.isEmpty then ""
      else (canvas style text).text :=
  rfl

/-- The drawing of a script in text shows every head, every placed signal and every
placed annotation as it is drawn alone. -/
theorem canvas_shows (style : Style) (text : String) :
    (∀ actor ∈ (inCells text).1.actors,
      (canvas style text).Shows (actor.headMarks.map (Mark.map (Ink.text style)))) ∧
    (∀ signal place, .signal signal place ∈ Event.flattenAll (inCells text).1.events →
      place.placed = true →
      (canvas style text).Shows ((signal.marks place).map (Mark.map (Ink.text style)))) ∧
    (∀ note place, .note note place ∈ Event.flattenAll (inCells text).1.events →
      place.placed = true →
      (canvas style text).Shows ((note.marks place).map (Mark.map (Ink.text style)))) := by
  have unplaced := Script.nonePlaced_read (α := Rat) text
  refine ⟨?_, ?_, ?_⟩
  · intro actor member
    exact Diagram.shows_head unplaced style (inCells text).2 member
  · intro signal place member placed
    have shown := Diagram.shows_event unplaced style (inCells text).2 member trivial
    rw [Event.marks_signal, if_pos placed] at shown
    exact shown
  · intro note place member placed
    have shown := Diagram.shows_event unplaced style (inCells text).2 member trivial
    rw [Event.marks_note, if_pos placed] at shown
    exact shown

end Script

end Lifeline
