import Lifeline.Proofs.Xml.RoundTrip

/-!
# Where the colours of a theme are

The foreground of a theme is in every drawing, for the arrowheads are.  The background is
around captions and nowhere else.  So two themes that differ in their colours alone give
the same drawing exactly if their foregrounds are the same and, where there is a caption,
their backgrounds.  Heads, signals, annotations and frames all have a caption, so a drawing
without one has nothing but the arrowheads.

Drawings that are not the same need not be written differently, unless each of their values
is as long as the one in its place.  Then what is written of two of them can be compared
character by character.
-/

namespace Lifeline

section Seen

variable {α δ γ : Type} {see : δ → γ} {pen other : Pen α δ}

/-- Whether two pens draw the same, as far as it is looked at. -/
structure Pen.SeenAlike (see : δ → γ) (pen other : Pen α δ) : Prop where
  signal : ∀ content place,
    (pen.signal content place).map see = (other.signal content place).map see
  note : ∀ content place, (pen.note content place).map see = (other.note content place).map see
  frame : ∀ kind surround, (pen.frame kind surround).map see = (other.frame kind surround).map see
  heading : ∀ surround first y caption,
    (pen.heading surround first y caption).map see =
      (other.heading surround first y caption).map see
  enclose : ∀ inside within, inside.map see = within.map see →
    (pen.enclose inside).map see = (other.enclose within).map see

mutual

theorem Event.map_draw_eq (alike : pen.SeenAlike see other) (event : Event α) :
    (event.draw pen).map see = (event.draw other).map see := by
  cases event with
  | signal content place =>
      rw [Event.draw, Event.draw]
      cases place.placed with
      | true => exact alike.signal content place
      | false => rfl
  | note content place =>
      rw [Event.draw, Event.draw]
      cases place.placed with
      | true => exact alike.note content place
      | false => rfl
  | conditional kind surround cases =>
      refine alike.enclose _ _ ?_
      rw [List.map_append, List.map_append, alike.frame,
        Case.map_drawAll_eq alike surround true cases]
  | synchrony kind events => exact Event.map_drawAll_eq alike events
  | lifetime | numbering => rfl
termination_by structural event

theorem Event.map_drawAll_eq (alike : pen.SeenAlike see other) (events : List (Event α)) :
    (Event.drawAll pen events).map see = (Event.drawAll other events).map see := by
  cases events with
  | nil => rfl
  | cons event rest =>
      rw [Event.drawAll, Event.drawAll, List.map_append, List.map_append,
        Event.map_draw_eq alike event, Event.map_drawAll_eq alike rest]
termination_by structural events

theorem Case.map_drawAll_eq (alike : pen.SeenAlike see other) (surround : Frame α)
    (first : Bool) (cases : List (Case α (Event α))) :
    (Case.drawAll pen surround first cases).map see =
      (Case.drawAll other surround first cases).map see := by
  cases cases with
  | nil => rfl
  | cons headed rest =>
      obtain ⟨caption, y, height, events⟩ := headed
      simp only [Case.drawAll, List.map_append, alike.heading, Event.map_drawAll_eq alike events,
        Case.map_drawAll_eq alike surround false rest]
termination_by structural cases

end

end Seen

namespace Svg

variable {α : Type}

namespace Element

theorem captioned_mk (tag : String) (attributes : List (String × String)) (text : String)
    (children : List Element) :
    (Element.mk tag attributes text children).captioned =
      (tag == "text" || children.any captioned) := by
  rw [captioned, inOrder, List.any_cons, allInOrder_eq_flatMap, List.any_flatMap]
  rfl

mutual

/-- A tree with the values of all attributes changed. -/
def mapValues (change : String → String) : Element → Element
  | ⟨tag, attributes, text, children⟩ =>
      ⟨tag, attributes.map (Prod.map id change), text, mapAllValues change children⟩
termination_by structural element => element

def mapAllValues (change : String → String) : List Element → List Element
  | [] => []
  | element :: rest => element.mapValues change :: mapAllValues change rest
termination_by structural elements => elements

end

theorem mapAllValues_eq_map (change : String → String) (elements : List Element) :
    mapAllValues change elements = elements.map (mapValues change) := by
  induction elements with
  | nil => rfl
  | cons element rest ih => rw [mapAllValues, ih, List.map_cons]

/-- As much of a value as can be told by how long it is where it is written. -/
def mask (value : String) : String :=
  String.ofList ((value.toList.flatMap escapeValue).map fun _ => ' ')

theorem length_eq_of_mask_eq {first second : String} (alike : mask first = mask second) :
    (first.toList.flatMap escapeValue).length = (second.toList.flatMap escapeValue).length := by
  have lengths := congrArg (fun masked => masked.toList.length) alike
  simpa only [mask, String.toList_ofList, List.length_map] using lengths

theorem mask_append (first second : String) :
    mask (first ++ second) = mask first ++ mask second := by
  rw [mask, String.toList_append, List.flatMap_append, List.map_append, String.ofList_append]
  rfl

theorem eq_of_escapeValue_eq {first second : List Char}
    (same : first.flatMap escapeValue = second.flatMap escapeValue) : first = second := by
  have resolved := resolve?_flatMap resolve?_escapeValue first
  rw [same, resolve?_flatMap resolve?_escapeValue] at resolved
  exact (Option.some.inj resolved).symm

theorem attributes_eq_of_written_eq {first second : List (String × String)}
    (alike : first.map (Prod.map id mask) = second.map (Prod.map id mask))
    {behind beyond : List Char}
    (same : first.flatMap attributeChars ++ behind = second.flatMap attributeChars ++ beyond) :
    first = second ∧ behind = beyond := by
  induction first generalizing second with
  | nil =>
      obtain rfl := List.map_eq_nil_iff.mp alike.symm
      exact ⟨rfl, same⟩
  | cons pair rest ih =>
      cases second with
      | nil => cases alike
      | cons other others =>
          obtain ⟨name, value⟩ := pair
          obtain ⟨otherName, otherValue⟩ := other
          simp only [List.map_cons, List.cons.injEq, Prod.map_apply, id_eq, Prod.mk.injEq] at alike
          obtain ⟨⟨rfl, masked⟩, alike⟩ := alike
          simp only [List.flatMap_cons, attributeChars, List.append_assoc,
            List.append_cancel_left_eq] at same
          obtain ⟨written, same⟩ := List.append_inj same (length_eq_of_mask_eq masked)
          obtain ⟨rfl, behindEq⟩ := ih alike (List.append_cancel_left same)
          rw [String.toList_inj.mp (eq_of_escapeValue_eq written)]
          exact ⟨rfl, behindEq⟩

mutual

/-- Trees of which nothing differs but their values, and these not in length, are not
written in the same way. -/
theorem eq_of_chars_eq (first second : Element)
    (alike : first.mapValues mask = second.mapValues mask) {behind beyond : List Char}
    (same : first.chars ++ behind = second.chars ++ beyond) :
    first = second ∧ behind = beyond := by
  obtain ⟨tag, attributes, text, children⟩ := first
  obtain ⟨otherTag, otherAttributes, otherText, otherChildren⟩ := second
  rw [mapValues, mapValues, mk.injEq] at alike
  obtain ⟨rfl, attributesAlike, rfl, childrenAlike⟩ := alike
  have emptyIff : children.isEmpty = otherChildren.isEmpty := by
    cases children <;> cases otherChildren <;> first | rfl | cases childrenAlike
  rw [chars, chars, emptyIff] at same
  simp only [tagChars] at same
  split at same
  next empty =>
    obtain ⟨-, otherEmpty⟩ := (Bool.and_eq_true _ _).mp empty
    simp only [List.append_assoc, List.append_cancel_left_eq] at same
    obtain ⟨attributesEq, closed⟩ := attributes_eq_of_written_eq attributesAlike same
    rw [attributesEq, List.isEmpty_iff.mp otherEmpty,
      List.isEmpty_iff.mp (emptyIff.trans otherEmpty)]
    exact ⟨rfl, List.append_cancel_left closed⟩
  next =>
    simp only [List.append_assoc, List.append_cancel_left_eq] at same
    obtain ⟨attributesEq, opened⟩ := attributes_eq_of_written_eq attributesAlike same
    simp only [List.append_cancel_left_eq] at opened
    obtain ⟨childrenEq, closed⟩ :=
      allEq_of_allChars_eq children otherChildren childrenAlike opened
    rw [attributesEq, childrenEq]
    exact ⟨rfl, by simpa using closed⟩
termination_by structural first

theorem allEq_of_allChars_eq (first second : List Element)
    (alike : mapAllValues mask first = mapAllValues mask second) {behind beyond : List Char}
    (same : allChars first ++ behind = allChars second ++ beyond) :
    first = second ∧ behind = beyond := by
  cases first with
  | nil =>
      cases second with
      | nil => exact ⟨rfl, same⟩
      | cons other others => cases alike
  | cons element rest =>
      cases second with
      | nil => cases alike
      | cons other others =>
          rw [mapAllValues, mapAllValues, List.cons.injEq] at alike
          rw [allChars, allChars, List.append_assoc, List.append_assoc] at same
          obtain ⟨elementEq, restWritten⟩ := eq_of_chars_eq element other alike.1 same
          obtain ⟨restEq, behindEq⟩ := allEq_of_allChars_eq rest others alike.2 restWritten
          exact ⟨congrArg₂ List.cons elementEq restEq, behindEq⟩
termination_by structural first

end

/-- Whether every caption in a drawing has the style of a theme. -/
def Styled (theme : Theme) (drawing : Element) : Prop :=
  ∀ element ∈ drawing.inOrder, element.tag = "text" →
    element.attribute? "style" = some (captionStyle theme)

end Element

section Themed

variable (theme : Theme)

theorem Element.styled_mk (tag : String) (attributes : List (String × String)) (text : String)
    (children : List Element) :
    (Element.mk tag attributes text children).Styled theme ↔
      (tag = "text" → attributes.lookup "style" = some (captionStyle theme)) ∧
        ∀ child ∈ children, child.Styled theme := by
  rw [Styled, inOrder, List.forall_mem_cons, allInOrder_eq_flatMap, List.forall_mem_flatMap]
  rfl

theorem styled_shape {tag : String} (attributes : List (String × String))
    (plain : tag ≠ "text") : (shape tag attributes).Styled theme := by
  simp [shape, Element.styled_mk, plain]

theorem styled_group (attributes : List (String × String)) (children : List Element) :
    (group attributes children).Styled theme ↔ ∀ child ∈ children, child.Styled theme := by
  simp [group, Element.styled_mk]

variable [Scalar α]

theorem styled_caption (x y : α) (content anchor : String) :
    (caption theme x y content anchor).Styled theme := by
  rw [caption, Element.styled_mk]
  refine ⟨fun _ => rfl, List.forall_mem_map.mpr fun line _ => ?_⟩
  exact (Element.styled_mk theme ..).mpr
    ⟨fun same => absurd same (by decide), fun _ member => absurd member List.not_mem_nil⟩

theorem styled_arrowheads : (arrowheads theme).Styled theme := by
  simp [arrowheads, arrowhead, Element.styled_mk, styled_shape]

theorem styled_lifeline (sizes : Sizes α) (actor : Actor α) :
    (lifeline theme sizes actor).Styled theme := by
  rw [lifeline]
  cases actor.kind <;>
    simp [figure, headBox, line, styled_group, styled_shape, styled_caption]

theorem styled_signal (content : Signal) (place : SignalPlace α) :
    (signal theme content place).Styled theme := by
  rw [signal]
  split <;> simp [line, styled_group, styled_shape, styled_caption]

theorem styled_note (content : Note) (place : NotePlace α) :
    (note theme content place).Styled theme := by
  rw [note]
  cases content.kind <;>
    simp [noteOutline, sheet, styled_group, styled_shape, styled_caption]

theorem styled_frame (sizes : Sizes α) (kind : ConditionalKind) (surround : Frame α) :
    (group [] (frame theme sizes kind surround)).Styled theme := by
  simp [frame, styled_group, styled_shape, styled_caption]

theorem styled_heading (sizes : Sizes α) (surround : Frame α) (first : Bool) (y : α)
    (content : String) :
    ∀ element ∈ heading theme sizes surround first y content, element.Styled theme := by
  rw [heading]
  by_cases unlabelled : content = "" <;> cases first <;>
    simp [unlabelled, label, line, styled_shape, styled_caption]

/-- What is written in a diagram is written in the style of the theme. -/
theorem styled_svg (sizes : Sizes α) (extent : Extent α) (diagram : Diagram α) :
    (diagram.svg theme sizes extent).Styled theme := by
  have events : ∀ element ∈ eventList theme sizes diagram.events, element.Styled theme := by
    have parts : ∀ element ∈ Element.allInOrder (eventList theme sizes diagram.events),
        element.tag = "text" → element.attribute? "style" = some (captionStyle theme) := by
      rw [allInOrder_eventList, List.forall_mem_flatMap]
      intro part _
      cases part with
      | signal content place => exact styled_signal theme content place
      | note content place => exact styled_note theme content place
      | frame kind surround => exact styled_frame theme sizes kind surround
      | heading surround first y content =>
          rw [Part.elements, Element.allInOrder_eq_flatMap, List.forall_mem_flatMap]
          exact styled_heading theme sizes surround first y content
    rwa [Element.allInOrder_eq_flatMap, List.forall_mem_flatMap] at parts
  rw [Diagram.svg, Element.styled_mk, List.forall_mem_cons, List.forall_mem_append,
    List.forall_mem_map]
  exact ⟨fun same => absurd same (by decide), styled_arrowheads theme,
    fun actor _ => styled_lifeline theme sizes actor, events⟩

theorem captioned_caption (x y : α) (content anchor : String) :
    (caption theme x y content anchor).captioned = true := by
  rw [caption, Element.captioned_mk]
  rfl

theorem captioned_group (attributes : List (String × String)) (children : List Element) :
    (group attributes children).captioned = children.any Element.captioned := by
  rw [group, Element.captioned_mk]
  rfl

theorem captioned_lifeline (sizes : Sizes α) (actor : Actor α) :
    (lifeline theme sizes actor).captioned = true := by
  simp [lifeline, captioned_group, captioned_caption]

theorem captioned_signal (content : Signal) (place : SignalPlace α) :
    (signal theme content place).captioned = true := by
  rw [signal]
  split <;> simp [captioned_group, captioned_caption]

theorem captioned_note (content : Note) (place : NotePlace α) :
    (note theme content place).captioned = true := by
  simp [note, captioned_group, captioned_caption]

theorem captioned_framed (sizes : Sizes α) (kind : ConditionalKind) (surround : Frame α)
    (inside : List Element) :
    (group [] (frame theme sizes kind surround ++ inside)).captioned = true := by
  simp [frame, captioned_group, captioned_caption]

mutual

theorem captioned_draw (sizes : Sizes α) (event : Event α) :
    event.draw (pen theme sizes) = [] ∨
      (event.draw (pen theme sizes)).any Element.captioned = true := by
  cases event with
  | signal content place =>
      rw [Event.draw]
      cases place.placed with
      | true => exact Or.inr (by simp [pen, captioned_signal])
      | false => exact Or.inl rfl
  | note content place =>
      rw [Event.draw]
      cases place.placed with
      | true => exact Or.inr (by simp [pen, captioned_note])
      | false => exact Or.inl rfl
  | conditional kind surround cases =>
      exact Or.inr (by simp [Event.draw, pen, captioned_framed])
  | synchrony kind events => exact captioned_drawAll sizes events
  | lifetime | numbering => exact Or.inl rfl
termination_by structural event

/-- Where anything is drawn of events, something is written. -/
theorem captioned_drawAll (sizes : Sizes α) (events : List (Event α)) :
    Event.drawAll (pen theme sizes) events = [] ∨
      (Event.drawAll (pen theme sizes) events).any Element.captioned = true := by
  cases events with
  | nil => exact Or.inl rfl
  | cons event rest =>
      rw [Event.drawAll, List.any_append, Bool.or_eq_true, List.append_eq_nil_iff]
      rcases captioned_draw sizes event with nothing | written
      · rcases captioned_drawAll sizes rest with nothingMore | written
        · exact Or.inl ⟨nothing, nothingMore⟩
        · exact Or.inr (Or.inr written)
      · exact Or.inr (Or.inl written)
termination_by structural events

end

/-- A drawing without captions is of nothing but the arrowheads. -/
theorem children_of_not_captioned {sizes : Sizes α} {extent : Extent α} {diagram : Diagram α}
    (unwritten : (diagram.svg theme sizes extent).captioned = false) :
    diagram.actors = [] ∧ eventList theme sizes diagram.events = [] := by
  rw [Diagram.svg, Element.captioned_mk, Bool.or_eq_false_iff, List.any_cons,
    Bool.or_eq_false_iff, List.any_append, Bool.or_eq_false_iff] at unwritten
  obtain ⟨-, -, heads, events⟩ := unwritten
  constructor
  · cases actorsEq : diagram.actors with
    | nil => rfl
    | cons actor rest => simp [actorsEq, captioned_lifeline] at heads
  · rcases captioned_drawAll theme sizes diagram.events with nothing | written
    · exact nothing
    · rw [eventList, written] at events
      cases events

end Themed

section Compared

variable [Scalar α] {theme other : Theme}

theorem foreground_of_arrowheads_eq (same : arrowheads theme = arrowheads other) :
    theme.foreground = other.foreground := by
  simp only [arrowheads, arrowhead, shape, Element.mk.injEq, List.cons.injEq, Prod.mk.injEq,
    true_and, and_true] at same
  exact same.1.1

theorem background_of_captionStyle_eq (family : theme.fontFamily = other.fontFamily)
    (size : theme.fontSize = other.fontSize) (foreground : theme.foreground = other.foreground)
    (same : captionStyle theme = captionStyle other) : theme.background = other.background := by
  have cancel (before behind first second : String)
      (appended : before ++ first ++ behind = before ++ second ++ behind) : first = second :=
    (String.append_right_inj before).mp ((String.append_left_inj behind).mp appended)
  unfold captionStyle at same
  rw [family, size, foreground] at same
  exact cancel _ _ _ _ same

theorem mask_captionStyle_eq (family : theme.fontFamily = other.fontFamily)
    (size : theme.fontSize = other.fontSize)
    (foreground : Element.mask theme.foreground = Element.mask other.foreground)
    (background : Element.mask theme.background = Element.mask other.background) :
    Element.mask (captionStyle theme) = Element.mask (captionStyle other) := by
  unfold captionStyle
  simp only [Element.mask_append, family, size, foreground, background]

variable {change : String → String} (sizes : Sizes α)
  (foreground : change theme.foreground = change other.foreground)
  (style : change (captionStyle theme) = change (captionStyle other))

theorem mapValues_shape (tag : String) (attributes : List (String × String)) :
    (shape tag attributes).mapValues change =
      shape tag (attributes.map (Prod.map id change)) :=
  rfl

theorem mapValues_group (attributes : List (String × String)) (children : List Element) :
    (group attributes children).mapValues change =
      group (attributes.map (Prod.map id change)) (children.map (Element.mapValues change)) := by
  rw [group, Element.mapValues, Element.mapAllValues_eq_map]
  rfl

include style in
theorem mapValues_caption (x y : α) (content anchor : String) :
    (caption theme x y content anchor).mapValues change =
      (caption other x y content anchor).mapValues change := by
  simp only [caption, Element.mapValues, List.map_cons, Prod.map_apply, style]

include foreground in
theorem mapValues_arrowheads :
    (arrowheads theme).mapValues change = (arrowheads other).mapValues change := by
  simp only [arrowheads, arrowhead, Element.mapValues, Element.mapAllValues, shape, List.map_cons,
    Prod.map_apply, foreground]

include foreground style in
theorem mapValues_lifeline (actor : Actor α) :
    (lifeline theme sizes actor).mapValues change =
      (lifeline other sizes actor).mapValues change := by
  rw [lifeline, lifeline]
  cases actor.kind <;>
    simp [figure, headBox, line, outline, mapValues_group, mapValues_shape, foreground,
      mapValues_caption style]

include foreground style in
theorem pen_seenAlike :
    (pen theme sizes).SeenAlike (Element.mapValues change) (pen other sizes) where
  signal content place := by
    simp only [pen, signal]
    split <;>
      simp [line, signalOutline, outline, mapValues_group, mapValues_shape, foreground,
        mapValues_caption style]
  note content place := by
    cases kind : content.kind <;>
      simp [pen, note, noteOutline, sheet, kind, outline, mapValues_group, mapValues_shape,
        foreground, mapValues_caption style]
  frame kind surround := by
    simp [pen, frame, outline, mapValues_group, mapValues_shape, foreground,
      mapValues_caption style]
  heading surround first y content := by
    by_cases unlabelled : content = "" <;> cases first <;>
      simp [pen, heading, label, unlabelled, line, outline, mapValues_shape, foreground,
        mapValues_caption style]
  enclose inside within alike := by
    simp [pen, mapValues_group, alike]

/-- Whether anything is drawn of events is the same in all themes. -/
theorem eventList_eq_nil {events : List (Event α)} (nothing : eventList theme sizes events = []) :
    eventList other sizes events = [] := by
  have blanked : (pen theme sizes).SeenAlike (Element.mapValues fun _ => "") (pen other sizes) :=
    pen_seenAlike sizes rfl rfl
  have mapEq : (eventList theme sizes events).map (Element.mapValues fun _ => "") =
      (eventList other sizes events).map (Element.mapValues fun _ => "") :=
    Event.map_drawAll_eq blanked events
  rw [nothing] at mapEq
  exact List.map_eq_nil_iff.mp mapEq.symm

end Compared

end Svg

namespace Diagram

variable {α : Type} [Scalar α] {theme other : Svg.Theme}

/-- Themes with colours of their own draw the same just if nothing shows the difference. -/
theorem svg_eq_svg_iff (family : theme.fontFamily = other.fontFamily)
    (size : theme.fontSize = other.fontSize) (sizes : Sizes α) (extent : Extent α)
    (diagram : Diagram α) :
    diagram.svg theme sizes extent = diagram.svg other sizes extent ↔
      theme.foreground = other.foreground ∧
        ((diagram.svg theme sizes extent).captioned = true →
          theme.background = other.background) := by
  constructor
  · intro same
    have foreground : theme.foreground = other.foreground := by
      rw [svg, svg, Svg.Element.mk.injEq] at same
      exact Svg.foreground_of_arrowheads_eq (List.cons.inj same.2.2.2).1
    refine ⟨foreground, fun captioned => ?_⟩
    obtain ⟨element, member, tagEq⟩ := List.any_eq_true.mp captioned
    rw [beq_iff_eq] at tagEq
    have styled := Svg.styled_svg theme sizes extent diagram element member tagEq
    have styledOther := Svg.styled_svg other sizes extent diagram element (same ▸ member) tagEq
    rw [styled, Option.some.injEq] at styledOther
    exact Svg.background_of_captionStyle_eq family size foreground styledOther
  · rintro ⟨foreground, background⟩
    cases captioned : (diagram.svg theme sizes extent).captioned with
    | true =>
        have themeEq : theme = other := by
          cases theme
          cases other
          simp_all
        rw [themeEq]
    | false =>
        obtain ⟨actorsEq, eventsEq⟩ := Svg.children_of_not_captioned theme captioned
        have arrowheadsEq : Svg.arrowheads theme = Svg.arrowheads other := by
          simp only [Svg.arrowheads, Svg.arrowhead, foreground]
        have otherEventsEq : Svg.eventList other sizes diagram.events = [] :=
          Svg.eventList_eq_nil sizes eventsEq
        rw [svg, svg, actorsEq, eventsEq, otherEventsEq, arrowheadsEq]
        rfl

/-- Drawings that are written in the same way are the same, if their colours are of one
length. -/
theorem svg_eq_of_render_eq (family : theme.fontFamily = other.fontFamily)
    (size : theme.fontSize = other.fontSize)
    (foreground : Svg.Element.mask theme.foreground = Svg.Element.mask other.foreground)
    (background : Svg.Element.mask theme.background = Svg.Element.mask other.background)
    {sizes : Sizes α} {extent : Extent α} {diagram : Diagram α}
    (same : (diagram.svg theme sizes extent).render = (diagram.svg other sizes extent).render) :
    diagram.svg theme sizes extent = diagram.svg other sizes extent := by
  have style := Svg.mask_captionStyle_eq family size foreground background
  have charsEq : (diagram.svg theme sizes extent).chars ++ [] =
      (diagram.svg other sizes extent).chars ++ [] := by
    rw [Svg.Element.render, Svg.Element.render, String.ofList_inj] at same
    rw [same]
  refine (Svg.Element.eq_of_chars_eq _ _ ?_ charsEq).1
  have eventsAlike :
      (Svg.eventList theme sizes diagram.events).map (Svg.Element.mapValues Svg.Element.mask) =
        (Svg.eventList other sizes diagram.events).map (Svg.Element.mapValues Svg.Element.mask) :=
    Event.map_drawAll_eq (Svg.pen_seenAlike sizes foreground style) diagram.events
  simp only [svg, Svg.Element.mapValues, Svg.Element.mapAllValues_eq_map, List.map_cons,
    List.map_append, List.map_map, Svg.mapValues_arrowheads foreground, eventsAlike,
    Function.comp_def, Svg.mapValues_lifeline sizes foreground style]

end Diagram

end Lifeline
