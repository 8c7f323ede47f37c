import Lifeline.Proofs.Inlining
import Lifeline.Proofs.Runs

/-!
# A drawing in document order

The elements of a drawing stand in the order in which a document lists them, each before
its children.  In this order a drawing has the arrowheads, the lifelines and then the parts
of the event tree: every signal and every annotation that is placed, and for a conditional
its frame and, case by case, the heading of the case and what is in it.

What can be read in a drawing are the texts of its spans, and what points somewhere are the
elements that end in an arrowhead.  Both are found once for each part that has them, in the
order of the parts.
-/

namespace Lifeline

variable {α : Type}

namespace Svg

namespace Element

theorem allInOrder_append (first second : List Element) :
    allInOrder (first ++ second) = allInOrder first ++ allInOrder second := by
  induction first with
  | nil => rfl
  | cons element rest ih =>
      rw [List.cons_append, allInOrder, allInOrder, ih, List.append_assoc]

theorem allInOrder_eq_flatMap (elements : List Element) :
    allInOrder elements = elements.flatMap inOrder := by
  induction elements with
  | nil => rfl
  | cons element rest ih => rw [allInOrder, ih, List.flatMap_cons]

/-- The value of an attribute. -/
def attribute? (element : Element) (name : String) : Option String :=
  element.attributes.lookup name

def spanText? (element : Element) : Option String :=
  if element.tag = "tspan" then some element.text else none

/-- The texts of the spans of a tree. -/
def spans (element : Element) : List String :=
  element.inOrder.filterMap spanText?

/-- How an element that ends in an arrowhead is drawn. -/
structure Arrow where
  tag : String
  head : String
  dashes : Option String
  deriving DecidableEq

def arrow? (element : Element) : Option Arrow :=
  (element.attribute? "marker-end").map fun head =>
    ⟨element.tag, head, element.attribute? "stroke-dasharray"⟩

/-- The elements of a tree that end in an arrowhead. -/
def arrows (element : Element) : List Arrow :=
  element.inOrder.filterMap arrow?

section View

variable {β : Type} (view : Element → Option β)

theorem filterMap_allInOrder (elements : List Element) :
    (allInOrder elements).filterMap view =
      elements.flatMap fun element => element.inOrder.filterMap view := by
  rw [allInOrder_eq_flatMap, List.filterMap_flatMap]

theorem filterMap_inOrder (element : Element) :
    element.inOrder.filterMap view =
      (view { element with children := [] }).toList ++
        element.children.flatMap fun child => child.inOrder.filterMap view := by
  obtain ⟨tag, attributes, text, children⟩ := element
  rw [inOrder, List.filterMap_cons, filterMap_allInOrder]
  cases view ⟨tag, attributes, text, []⟩ <;> rfl

end View

theorem spans_eq (element : Element) :
    element.spans = element.spanText?.toList ++ element.children.flatMap spans :=
  filterMap_inOrder spanText? element

theorem arrows_eq (element : Element) :
    element.arrows = element.arrow?.toList ++ element.children.flatMap arrows :=
  filterMap_inOrder arrow? element

end Element

/-- A part of a diagram that is drawn on its own: something placed, the frame of a
conditional with its kind, or the heading of a case. -/
inductive Part (α : Type) where
  | signal (content : Signal) (place : SignalPlace α)
  | note (content : Note) (place : NotePlace α)
  | frame (kind : ConditionalKind) (surround : Frame α)
  | heading (surround : Frame α) (first : Bool) (y : α) (caption : String)

end Svg

/-- The pen that takes parts down as they are. -/
def Svg.Part.pen : Pen α (Svg.Part α) where
  signal content place := [.signal content place]
  note content place := [.note content place]
  frame kind surround := [.frame kind surround]
  heading surround first y caption := [.heading surround first y caption]

/-- The parts of events in order.  What is not placed has none. -/
def Event.allParts (events : List (Event α)) : List (Svg.Part α) :=
  Event.drawAll Svg.Part.pen events

section Shown

variable {δ ε : Type} {pen : Pen α δ} {read : List δ → List ε} {shown : Svg.Part α → List ε}

/-- Whether what a pen draws can be read part by part. -/
structure Pen.Shows (pen : Pen α δ) (read : List δ → List ε) (shown : Svg.Part α → List ε) :
    Prop where
  nil : read [] = []
  append : ∀ first second, read (first ++ second) = read first ++ read second
  signal : ∀ content place, read (pen.signal content place) = shown (.signal content place)
  note : ∀ content place, read (pen.note content place) = shown (.note content place)
  frame : ∀ kind surround inside, read (pen.enclose (pen.frame kind surround ++ inside)) =
    shown (.frame kind surround) ++ read inside
  heading : ∀ surround first y caption, read (pen.heading surround first y caption) =
    shown (.heading surround first y caption)

mutual

theorem Event.read_draw (shows : pen.Shows read shown) (event : Event α) :
    read (event.draw pen) = (event.draw Svg.Part.pen).flatMap shown := by
  cases event with
  | signal content place =>
      rw [Event.draw, Event.draw]
      cases place.placed with
      | true => exact (shows.signal content place).trans (List.flatMap_singleton ..).symm
      | false => exact shows.nil
  | note content place =>
      rw [Event.draw, Event.draw]
      cases place.placed with
      | true => exact (shows.note content place).trans (List.flatMap_singleton ..).symm
      | false => exact shows.nil
  | conditional kind surround cases =>
      rw [Event.draw, shows.frame, Case.read_drawAll shows surround true cases]
      rfl
  | synchrony kind events => exact Event.read_drawAll shows events
  | lifetime | numbering => exact shows.nil
termination_by structural event

/-- What a pen draws of events is read as their parts, in order. -/
theorem Event.read_drawAll (shows : pen.Shows read shown) (events : List (Event α)) :
    read (Event.drawAll pen events) = (Event.allParts events).flatMap shown := by
  cases events with
  | nil => exact shows.nil
  | cons first rest =>
      rw [Event.drawAll, shows.append, Event.read_draw shows first,
        Event.read_drawAll shows rest, ← List.flatMap_append]
      rfl
termination_by structural events

theorem Case.read_drawAll (shows : pen.Shows read shown) (surround : Frame α) (first : Bool)
    (cases : List (Case α (Event α))) :
    read (Case.drawAll pen surround first cases) =
      (Case.drawAll Svg.Part.pen surround first cases).flatMap shown := by
  cases cases with
  | nil => exact shows.nil
  | cons headed rest =>
      obtain ⟨caption, y, height, events⟩ := headed
      have headingEq : (Svg.Part.pen.heading surround first y caption).flatMap shown =
          shown (.heading surround first y caption) := List.flatMap_singleton ..
      rw [Case.drawAll, shows.append, shows.append, shows.heading,
        Event.read_drawAll shows events, Case.read_drawAll shows surround false rest,
        Case.drawAll, List.flatMap_append, List.flatMap_append, headingEq]
      rfl
termination_by structural cases

end

end Shown

namespace Svg

/-- What is written at a part.  A case without a caption has nothing written at it. -/
def Part.captions : Part α → List String
  | .signal content _ => [content.caption]
  | .note content _ => [content.caption]
  | .frame kind _ => [kind.name]
  | .heading _ _ _ caption => if caption = "" then [] else ["[" ++ caption ++ "]"]

variable [Scalar α]

/-- How the arrow of a part is drawn, if it is a signal. -/
def Part.arrow? : Part α → Option Element.Arrow
  | .signal content place =>
      some
        { tag := if content.isSelf place then "path" else "line"
          head := if content.openHead then "url(#arrowOpenRight)" else "url(#arrowClosedRight)"
          dashes := if content.dotted then some "4, 2" else none }
  | .note _ _ | .frame _ _ | .heading _ _ _ _ => none

/-- The elements of a part in document order.  The group that begins with a frame holds the
cases as well. -/
def Part.elements (theme : Theme) (sizes : Sizes α) : Part α → List Element
  | .signal content place => (Svg.signal theme content place).inOrder
  | .note content place => (Svg.note theme content place).inOrder
  | .frame kind surround => (group [] (Svg.frame theme sizes kind surround)).inOrder
  | .heading surround first y caption =>
      Element.allInOrder (Svg.heading theme sizes surround first y caption)

theorem pen_shows (theme : Theme) (sizes : Sizes α) :
    (pen theme sizes).Shows Element.allInOrder (Part.elements theme sizes) where
  nil := rfl
  append := Element.allInOrder_append
  signal _ _ := List.append_nil _
  note _ _ := List.append_nil _
  frame kind surround inside := by
    simp only [pen, Element.allInOrder, group, Element.inOrder, Element.allInOrder_append,
      Part.elements, List.append_nil, List.cons_append]
  heading _ _ _ _ := rfl

theorem allInOrder_eventList (theme : Theme) (sizes : Sizes α) (events : List (Event α)) :
    Element.allInOrder (eventList theme sizes events) =
      (Event.allParts events).flatMap (Part.elements theme sizes) :=
  Event.read_drawAll (pen_shows theme sizes) events

@[simp] theorem spans_shape {tag : String} (attributes : List (String × String))
    (other : tag ≠ "tspan") : (shape tag attributes).spans = [] := by
  rw [Element.spans_eq, Element.spanText?, shape, if_neg other]
  rfl

@[simp] theorem spans_group (attributes : List (String × String)) (children : List Element) :
    (group attributes children).spans = children.flatMap Element.spans :=
  Element.spans_eq _

@[simp] theorem spans_caption (theme : Theme) (x y : α) (content anchor : String) :
    (caption theme x y content anchor).spans = Text.captionStrings content := by
  calc (caption theme x y content anchor).spans
      = (Text.captionStrings content).zipIdx.flatMap fun line => [line.1] := by
        rw [Element.spans_eq, caption, List.flatMap_map]
        rfl
    _ = Text.captionStrings content := by
        rw [← List.map_eq_flatMap, List.zipIdx_map_fst]

theorem arrow?_mk (tag : String) (attributes : List (String × String)) (text : String)
    (children : List Element) :
    (Element.mk tag attributes text children).arrow? =
      (attributes.lookup "marker-end").map fun head =>
        ⟨tag, head, attributes.lookup "stroke-dasharray"⟩ :=
  rfl

@[simp] theorem arrows_shape (tag : String) (attributes : List (String × String)) :
    (shape tag attributes).arrows = (Element.mk tag attributes "" []).arrow?.toList := by
  rw [Element.arrows_eq, shape, List.flatMap_nil, List.append_nil]

@[simp] theorem arrows_group (attributes : List (String × String)) (children : List Element) :
    (group attributes children).arrows =
      (Element.mk "g" attributes "" []).arrow?.toList ++ children.flatMap Element.arrows :=
  Element.arrows_eq _

@[simp] theorem arrows_caption (theme : Theme) (x y : α) (content anchor : String) :
    (caption theme x y content anchor).arrows = [] := by
  rw [Element.arrows_eq, caption, List.flatMap_map, List.append_eq_nil_iff,
    List.flatMap_eq_nil_iff]
  exact ⟨rfl, fun _ _ => rfl⟩

section Parts

variable (theme : Theme) (sizes : Sizes α)

theorem spans_lifeline (actor : Actor α) :
    (lifeline theme sizes actor).spans = Text.captionStrings actor.caption := by
  rw [lifeline]
  cases actor.kind <;> simp [figure, headBox, line]

theorem arrows_lifeline (actor : Actor α) : (lifeline theme sizes actor).arrows = [] := by
  rw [lifeline]
  cases actor.kind <;>
    simp [figure, headBox, line, number, outline, arrow?_mk, List.lookup_cons]

theorem spans_signal (content : Signal) (place : SignalPlace α) :
    (signal theme content place).spans = Text.captionStrings content.caption := by
  rw [signal]
  split <;> simp [line]

theorem arrows_signal (content : Signal) (place : SignalPlace α) :
    (signal theme content place).arrows = (Part.signal content place).arrow?.toList := by
  rw [signal, Part.arrow?]
  cases dottedEq : content.dotted <;> cases headEq : content.openHead <;> split <;>
    simp_all [line, number, outline, signalOutline, dashes, arrow?_mk, List.lookup_cons]

theorem spans_note (content : Note) (place : NotePlace α) :
    (note theme content place).spans = Text.captionStrings content.caption := by
  rw [note]
  cases content.kind <;> simp [noteOutline, sheet]

theorem arrows_note (content : Note) (place : NotePlace α) :
    (note theme content place).arrows = [] := by
  rw [note]
  cases content.kind <;>
    simp [noteOutline, sheet, number, numberOrNone, outline, arrow?_mk, List.lookup_cons]

theorem spans_frame (kind : ConditionalKind) (surround : Frame α) :
    (group [] (frame theme sizes kind surround)).spans = Text.captionStrings kind.name := by
  simp [frame]

theorem arrows_frame (kind : ConditionalKind) (surround : Frame α) :
    (group [] (frame theme sizes kind surround)).arrows = [] := by
  simp [frame, number, outline, arrow?_mk, List.lookup_cons]

theorem spans_heading (surround : Frame α) (first : Bool) (y : α) (content : String) :
    (heading theme sizes surround first y content).flatMap Element.spans =
      (Part.heading surround first y content).captions.flatMap Text.captionStrings := by
  rw [heading, Part.captions]
  by_cases unlabelled : content = "" <;> cases first <;> simp [unlabelled, label, line]

theorem arrows_heading (surround : Frame α) (first : Bool) (y : α) (content : String) :
    (heading theme sizes surround first y content).flatMap Element.arrows = [] := by
  rw [heading]
  by_cases unlabelled : content = "" <;> cases first <;>
    simp [unlabelled, label, line, number, outline, arrow?_mk, List.lookup_cons]

theorem spans_elements (part : Part α) :
    (part.elements theme sizes).filterMap Element.spanText? =
      part.captions.flatMap Text.captionStrings := by
  cases part with
  | signal content place =>
      exact (spans_signal theme content place).trans (List.flatMap_singleton ..).symm
  | note content place =>
      exact (spans_note theme content place).trans (List.flatMap_singleton ..).symm
  | frame kind surround =>
      exact (spans_frame theme sizes kind surround).trans (List.flatMap_singleton ..).symm
  | heading surround first y content =>
      rw [Part.elements, Element.filterMap_allInOrder]
      exact spans_heading theme sizes surround first y content

theorem arrows_elements (part : Part α) :
    (part.elements theme sizes).filterMap Element.arrow? = part.arrow?.toList := by
  cases part with
  | signal content place => exact arrows_signal theme content place
  | note content place => exact arrows_note theme content place
  | frame kind surround => exact arrows_frame theme sizes kind surround
  | heading surround first y content =>
      rw [Part.elements, Element.filterMap_allInOrder]
      exact arrows_heading theme sizes surround first y content

theorem spans_eventList (events : List (Event α)) :
    (eventList theme sizes events).flatMap Element.spans =
      ((Event.allParts events).flatMap Part.captions).flatMap Text.captionStrings := by
  have spansEq := Element.filterMap_allInOrder Element.spanText? (eventList theme sizes events)
  rw [allInOrder_eventList, List.filterMap_flatMap] at spansEq
  simp only [spans_elements] at spansEq
  rw [List.flatMap_assoc]
  exact spansEq.symm

theorem arrows_eventList (events : List (Event α)) :
    (eventList theme sizes events).flatMap Element.arrows =
      (Event.allParts events).filterMap Part.arrow? := by
  have arrowsEq := Element.filterMap_allInOrder Element.arrow? (eventList theme sizes events)
  rw [allInOrder_eventList, List.filterMap_flatMap] at arrowsEq
  simp only [arrows_elements] at arrowsEq
  rw [List.filterMap_eq_flatMap_toList]
  exact arrowsEq.symm

end Parts

theorem spans_arrowheads (theme : Theme) : (arrowheads theme).spans = [] := rfl

end Svg

namespace Diagram

/-- Everything that is written in a drawing, in order. -/
def captions (diagram : Diagram α) : List String :=
  diagram.actors.map Actor.caption ++
    (Event.allParts diagram.events).flatMap Svg.Part.captions

variable [Scalar α] (theme : Svg.Theme) (sizes : Sizes α) (extent : Extent α)
  (diagram : Diagram α)

theorem spans_svg :
    (diagram.svg theme sizes extent).spans = diagram.captions.flatMap Text.captionStrings := by
  rw [Svg.Element.spans_eq, svg, List.flatMap_cons, List.flatMap_append, List.flatMap_map,
    Svg.spans_eventList, captions, List.flatMap_append, List.flatMap_map]
  simp only [Svg.spans_lifeline, Svg.spans_arrowheads]
  rfl

theorem arrows_svg :
    (diagram.svg theme sizes extent).arrows =
      (Event.allParts diagram.events).filterMap Svg.Part.arrow? := by
  rw [Svg.Element.arrows_eq, svg, List.flatMap_cons, List.flatMap_append, List.flatMap_map,
    Svg.arrows_eventList, List.flatMap_eq_nil_iff.mpr fun actor _ => Svg.arrows_lifeline ..]
  rfl

/-- A drawing shows everything once and in order: its spans are the lines of all captions,
its arrows are those of the placed signals, and without what is not placed it would be the
same. -/
theorem shown_in_order (complete : Event.AllComplete diagram.events) :
    ∃ drawing, diagram.svg? theme sizes extent = some drawing ∧
      drawing.spans = diagram.captions.flatMap Text.captionStrings ∧
      drawing.arrows = (Event.allParts diagram.events).filterMap Svg.Part.arrow? ∧
      (diagram.sifted .placed).svg? theme sizes extent = some drawing := by
  refine ⟨diagram.svg theme sizes extent, (safe_of_allComplete complete).svg? ..,
    diagram.spans_svg theme sizes extent, diagram.arrows_svg theme sizes extent, ?_⟩
  rw [diagram.svg?_sifted Sieve.fine_placed]
  exact (safe_of_allComplete complete).svg? ..

/-- A diagram with a frame in the second case of another.  One signal comes back to its lane
under another name, and one is not placed. -/
def nested : Diagram Rat where
  actors := [Actor.declare .actor "A\\nB"]
  events :=
    [.conditional .alt ⟨0, 0, 90, 60⟩
      [⟨"yes", 10, 0,
        [.signal { caption := "lost", source := "A", destination := "B" } {},
          .signal { caption := "back", source := "A", destination := "B", dotted := true }
            { startX := some 5, endX := some 5, startY := some 12, endY := some 30,
              width := some 8, height := some 9 }]⟩,
        ⟨"", 30, 0,
          [.synchrony .serial
            [.conditional .loop ⟨1, 31, 80, 20⟩
              [⟨"ever", 35, 0,
                [.note { kind := .ref, caption := "n", align := "over", location := none }
                  { x := some 2, y := some 36, width := some 3, height := some 4,
                    textMarginX := 0, textMarginY := 0 }]⟩]]]⟩],
      .signal { caption := "on", source := "A", destination := "B", openHead := true }
        { startX := some 5, endX := some 40, startY := some 62, endY := some 70,
          width := some 8, height := some 9 }]

theorem shown_in_order_nested :
    Event.AllComplete nested.events ∧
      ∃ drawing, nested.svg? {} .pixels ⟨100, 100⟩ = some drawing ∧
        drawing.spans = ["A", "B", "alt", "[yes]", "back", "loop", "[ever]", "n", "on"] ∧
        drawing.arrows =
          [⟨"path", "url(#arrowClosedRight)", some "4, 2"⟩,
            ⟨"line", "url(#arrowOpenRight)", none⟩] := by
  have complete : Event.AllComplete nested.events := rfl
  obtain ⟨drawing, drawn, spansEq, arrowsEq, -⟩ :=
    nested.shown_in_order {} .pixels ⟨100, 100⟩ complete
  refine ⟨complete, drawing, drawn, spansEq.trans ?_, arrowsEq.trans ?_⟩
  · decide +kernel
  · decide +kernel

end Diagram

end Lifeline
