import Lifeline.Proofs.Marks
import Lifeline.Proofs.Text.Numeral
import Lifeline.Proofs.Xml.RoundTrip

/-!
# Drawings as documents

The drawing of a diagram is a document from which the drawing can be read.  What is written
in it may be anything that can stand in a document: markup in a caption stays text, and a
quote in the name of a font does not end the attribute it stands in.

The names of tags and attributes are fixed, and numbers are digits with a sign and a point.
What is left are the captions and the three texts of a theme.
-/

namespace Lifeline

open Xml

theorem Xml.legal_of_isDigit {char : Char} (digit : char.isDigit = true) :
    isLegal char = true := by
  rw [Char.isDigit, Bool.and_eq_true, decide_eq_true_eq, decide_eq_true_eq] at digit
  have low : 48 ≤ char.toNat := digit.1
  have high : char.toNat ≤ 57 := digit.2
  simp only [isLegal, liesIn, List.any_cons, List.any_nil, Bool.or_false, Bool.or_eq_true,
    Bool.and_eq_true, decide_eq_true_eq]
  omega

theorem Decimal.legal_toDigits (value : Nat) : Legal (Nat.toDigits 10 value) :=
  fun _ member => legal_of_isDigit (Nat.isDigit_of_mem_toDigits (by decide) (by decide) member)

theorem Text.legal_paddedDigits (width value : Nat) : Legal (paddedDigits 10 width value) :=
  fun _ member => legal_of_isDigit (isDigit_of_mem_paddedDigits member)

theorem Decimal.legal_pointed {decimals : List Char} (legal : Legal decimals) :
    Legal (pointed decimals) := by
  have kept : Legal (dropZeros decimals) := fun char member => by
    rw [dropZeros, List.mem_reverse] at member
    exact legal char (List.mem_reverse.mp ((List.dropWhile_sublist _).mem member))
  rw [pointed]
  split
  · exact legal_nil
  · exact legal_cons.mpr ⟨by decide, kept⟩

@[simp] theorem legal_hundredths {α : Type} [Scalar α] (value : α) :
    Legal (hundredths value).toList := by
  rw [hundredths, Decimal.ofScalar, String.toList_ofList, Decimal.ofFraction, Decimal.ofUnits,
    legal_append, legal_append]
  refine ⟨⟨?_, Decimal.legal_toDigits _⟩, Decimal.legal_pointed (Text.legal_paddedDigits _ _)⟩
  split <;> decide

@[simp] theorem legal_toString (value : Int) : Legal (toString value).toList := by
  have digits (size : Nat) : Legal size.repr.toList := by
    rw [Nat.repr, String.toList_ofList]
    exact Decimal.legal_toDigits size
  cases value with
  | ofNat size => exact digits size
  | negSucc size =>
      have signed : toString (Int.negSucc size) = "-" ++ size.succ.repr := rfl
      rw [signed, String.toList_append, legal_append]
      exact ⟨by decide, digits _⟩

theorem Text.verbatim_captionStrings {caption : String} (verbatim : Verbatim caption.toList) :
    ∀ line ∈ captionStrings caption, Verbatim line.toList := by
  intro line member char inLine
  rw [captionStrings, List.mem_map] at member
  obtain ⟨chars, inCaption, rfl⟩ := member
  rw [String.toList_ofList] at inLine
  exact verbatim char (mem_of_mem_captionLines inCaption inLine)

namespace Svg

/-- Whether the texts of a theme may stand in a document. -/
structure Theme.Legal (theme : Theme) : Prop where
  foreground : Xml.Legal theme.foreground.toList
  background : Xml.Legal theme.background.toList
  fontFamily : Xml.Legal theme.fontFamily.toList

theorem sound_shape {tag : String} {attributes : List (String × String)}
    (writable : (shape tag attributes).Writable) : (shape tag attributes).Sound :=
  (Element.sound_iff _).mpr ⟨writable, fun child member => by cases member⟩

theorem sound_group {attributes : List (String × String)} {children : List Element}
    (writable : (group attributes []).Writable) (inner : ∀ child ∈ children, child.Sound) :
    (group attributes children).Sound :=
  (Element.sound_iff _).mpr ⟨writable, inner⟩

theorem sound_plainGroup {children : List Element} (inner : ∀ child ∈ children, child.Sound) :
    (group [] children).Sound :=
  sound_group (by constructor <;> simp +decide) inner

variable {α : Type} [Scalar α]

theorem sound_span (x : α) (index : Nat) {content : String} (verbatim : Verbatim content.toList) :
    (span x index content).Sound := by
  refine (Element.sound_iff _).mpr ⟨?_, fun _ impossible => by cases impossible⟩
  refine ⟨by simp +decide [span], ?_, ?_, ?_, verbatim⟩ <;>
    cases index <;> simp +decide [span, number]

theorem legal_hookPath (x y : α) : Xml.Legal (hookPath x y).toList := by
  unfold hookPath
  simp +decide [String.toList_append]

theorem sound_sheet (x y width height : α) : ∀ child ∈ sheet x y width height, child.Sound := by
  simp only [sheet, List.forall_mem_cons]
  refine ⟨?_, ?_, by simp⟩ <;> refine sound_shape ?_ <;> constructor <;>
    simp +decide [shape, String.toList_append]

theorem legal_numberOrNone (name : String) (value : Option α) :
    Xml.Legal (numberOrNone name value).2.toList := by
  cases value with
  | none => exact (by decide : Xml.Legal "None".toList)
  | some value => exact legal_hundredths value

theorem sound_noteOutline (kind : NoteKind) (x y : α) (width height : Option α) :
    ∀ child ∈ noteOutline kind x y width height, child.Sound := by
  cases kind with
  | note => exact sound_sheet _ _ _ _
  | ref | state =>
      have widthLegal := legal_numberOrNone "width" width
      have heightLegal := legal_numberOrNone "height" height
      intro child member
      rw [List.mem_singleton.mp member]
      refine sound_shape ?_
      constructor <;> simp_all +decide [shape, number, numberOrNone]

section Themed

variable {theme : Theme} (legal : theme.Legal) (sizes : Sizes α)

include legal

theorem legal_captionStyle : Xml.Legal (captionStyle theme).toList := by
  unfold captionStyle
  simp only [String.toList_append, legal_append]
  exact ⟨⟨⟨⟨⟨⟨⟨⟨by decide, legal_toString _⟩, by decide⟩, legal.fontFamily⟩, by decide⟩,
    legal.foreground⟩, by decide⟩, legal.background⟩, by decide⟩

theorem sound_caption {content : String} (verbatim : Verbatim content.toList) (x y : α)
    {anchor : String} (anchored : anchor ∈ ["start", "middle", "end"]) :
    (caption theme x y content anchor).Sound := by
  have style := legal_captionStyle legal
  have anchorLegal : Xml.Legal anchor.toList :=
    (by decide : ∀ word ∈ ["start", "middle", "end"], Xml.Legal word.toList) anchor anchored
  rw [Element.sound_iff]
  constructor
  · constructor <;> simp +decide [caption, number, style, anchorLegal]
  · intro child member
    rw [caption, List.mem_map] at member
    obtain ⟨⟨line, index⟩, member, rfl⟩ := member
    exact sound_span x index
      (Text.verbatim_captionStrings verbatim line (List.fst_mem_of_mem_zipIdx member))

theorem sound_line (x₁ y₁ x₂ y₂ : α) {width : String} (wide : width ∈ ["1px", "2px"]) :
    (line x₁ y₁ x₂ y₂ (outline theme width)).Sound := by
  have widthLegal : Xml.Legal width.toList :=
    (by decide : ∀ word ∈ ["1px", "2px"], Xml.Legal word.toList) width wide
  refine sound_shape ?_
  constructor <;> simp +decide [shape, number, outline, legal.foreground, widthLegal]

theorem sound_arrowhead {name path fill : String}
    (legalTexts : ∀ text ∈ [name, path, fill], Xml.Legal text.toList) :
    (arrowhead theme name path fill).Sound := by
  simp only [List.forall_mem_cons] at legalTexts
  refine (Element.sound_iff _).mpr ⟨?_, ?_⟩
  · constructor <;> simp +decide [arrowhead, legalTexts]
  · intro child member
    rw [List.mem_singleton.mp member]
    refine sound_shape ?_
    constructor <;> simp +decide [shape, legalTexts, legal.foreground]

theorem sound_arrowheads : (arrowheads theme).Sound := by
  refine (Element.sound_iff _).mpr ⟨by constructor <;> simp +decide [arrowheads], ?_⟩
  have foreground := legal.foreground
  simp only [arrowheads, List.forall_mem_cons]
  refine ⟨?_, ?_, ?_, ?_, by simp⟩ <;>
    exact sound_arrowhead legal (by simp +decide [foreground])

theorem sound_figure (x top : α) : (figure theme x top).Sound := by
  have limb (x₁ y₁ x₂ y₂ : α) : (line x₁ y₁ x₂ y₂).Sound := by
    refine sound_shape ?_
    constructor <;> simp +decide [shape, number]
  have head (x y radius : α) :
      (shape "circle" [number "cx" x, number "cy" y, number "r" radius]).Sound := by
    refine sound_shape ?_
    constructor <;> simp +decide [shape, number]
  refine sound_group ?_ (by simp [limb, head])
  constructor <;> simp +decide [group, outline, legal.foreground]

theorem sound_headBox (actor : Actor α) : (headBox theme actor).Sound := by
  refine sound_shape ?_
  constructor <;> simp +decide [shape, number, outline, legal.foreground]

theorem sound_lifeline {actor : Actor α} (verbatim : Verbatim actor.caption.toList) :
    (lifeline theme sizes actor).Sound := by
  have named (y : α) : (caption theme (actor.x + sizes.padding) y actor.caption).Sound :=
    sound_caption legal verbatim _ _ (by decide)
  have hanging (x₁ y₁ x₂ y₂ : α) : (line x₁ y₁ x₂ y₂ (outline theme "1px")).Sound :=
    sound_line legal x₁ y₁ x₂ y₂ (by decide)
  rw [lifeline]
  cases actor.kind <;> refine sound_plainGroup ?_ <;>
    simp [named, hanging, sound_figure legal, sound_headBox legal]

theorem sound_signal {content : Signal} (verbatim : Verbatim content.caption.toList)
    (place : SignalPlace α) : (signal theme content place).Sound := by
  have hook (x y : α) :
      (shape "path"
        (signalOutline theme content ++ [("fill", "none"), ("d", hookPath x y)])).Sound := by
    refine sound_shape ?_
    cases headEq : content.openHead <;> cases dottedEq : content.dotted <;> constructor <;>
      simp +decide [shape, signalOutline, outline, headEq, dottedEq, legal.foreground,
        legal_hookPath]
  have straight (x₁ y₁ x₂ y₂ : α) :
      (line x₁ y₁ x₂ y₂ (signalOutline theme content)).Sound := by
    refine sound_shape ?_
    cases headEq : content.openHead <;> cases dottedEq : content.dotted <;> constructor <;>
      simp +decide [shape, number, signalOutline, outline, headEq, dottedEq, legal.foreground]
  have captionSound (x y : α) {anchor : String}
      (anchored : anchor ∈ ["start", "middle", "end"]) :
      (caption theme x y content.caption anchor).Sound :=
    sound_caption legal verbatim x y anchored
  rw [signal]
  split <;> exact sound_plainGroup (by simp [captionSound, hook, straight])

theorem sound_note {content : Note} (verbatim : Verbatim content.caption.toList)
    (place : NotePlace α) : (note theme content place).Sound := by
  refine sound_group ?_ (List.forall_mem_append.mpr ⟨sound_noteOutline _ _ _ _ _, ?_⟩)
  · constructor <;> simp +decide [group, outline, legal.foreground]
  · simpa using sound_caption legal verbatim _ _ (by decide)

theorem sound_frame (kind : ConditionalKind) (surround : Frame α) :
    ∀ child ∈ frame theme sizes kind surround, child.Sound := by
  have named : Verbatim kind.name.toList := by cases kind <;> decide
  have tab (x y : α) : (shape "path"
      [("d", "M " ++ hundredths x ++ " " ++ hundredths y ++ " v 15 l -5 5 h -35")]).Sound := by
    refine sound_shape ?_
    constructor <;> simp +decide [shape, String.toList_append]
  have border (x y width height : α) : (shape "rect"
      [number "x" x, number "y" y, number "width" width, number "height" height]).Sound := by
    refine sound_shape ?_
    constructor <;> simp +decide [shape, number]
  simp only [frame, List.forall_mem_cons]
  refine ⟨sound_group ?_ (by simp [tab, border]), sound_caption legal named _ _ (by decide),
    by simp⟩
  constructor <;> simp +decide [group, outline, legal.foreground]

theorem sound_label {content : String}
    (verbatim : content ≠ "" → Verbatim ("[" ++ content ++ "]").toList) (x y : α) :
    ∀ child ∈ label theme x y content, child.Sound := by
  rw [label]
  split
  next => simp
  next labelled => simpa using sound_caption legal (verbatim labelled) x y (by decide)

theorem sound_heading {content : String}
    (verbatim : content ≠ "" → Verbatim ("[" ++ content ++ "]").toList) (surround : Frame α)
    (first : Bool) (y : α) :
    ∀ child ∈ heading theme sizes surround first y content, child.Sound := by
  have divider (x₁ y₁ x₂ y₂ : α) :
      (line x₁ y₁ x₂ y₂ (outline theme "2px" ++ [("stroke-dasharray", dashes)])).Sound := by
    refine sound_shape ?_
    constructor <;> simp +decide [shape, number, outline, legal.foreground]
  rw [heading]
  split
  next => exact sound_label legal verbatim _ _
  next => exact List.forall_mem_cons.mpr ⟨divider _ _ _ _, sound_label legal verbatim _ _⟩

/-- Whatever is written at a part, its elements can be written and read. -/
theorem writable_elements {part : Part α}
    (verbatim : ∀ caption ∈ part.captions, Verbatim caption.toList) :
    ∀ element ∈ part.elements theme sizes, element.Writable := by
  cases part with
  | signal content place => exact sound_signal legal (verbatim _ (List.mem_singleton_self _)) place
  | note content place => exact sound_note legal (verbatim _ (List.mem_singleton_self _)) place
  | frame kind surround =>
      exact sound_plainGroup (sound_frame legal sizes kind surround)
  | heading surround first y content =>
      have labelled : content ≠ "" → Verbatim ("[" ++ content ++ "]").toList := fun labelled =>
        verbatim _ (by rw [Part.captions, if_neg labelled]; exact List.mem_singleton_self _)
      rw [Part.elements, Element.allInOrder_eq_flatMap, List.forall_mem_flatMap]
      exact sound_heading legal sizes labelled surround first y

theorem sound_eventList {events : List (Event α)}
    (verbatim : ∀ caption ∈ (Event.allParts events).flatMap Part.captions,
      Verbatim caption.toList) :
    ∀ child ∈ eventList theme sizes events, child.Sound := by
  have writable : ∀ part ∈ Element.allInOrder (eventList theme sizes events), part.Writable := by
    rw [allInOrder_eventList, List.forall_mem_flatMap]
    exact fun part member => writable_elements legal sizes fun caption written =>
      verbatim caption (List.mem_flatMap.mpr ⟨part, member, written⟩)
  rwa [Element.allInOrder_eq_flatMap, List.forall_mem_flatMap] at writable

end Themed

end Svg

namespace Diagram

variable {α : Type} [Scalar α] {theme : Svg.Theme}

theorem sound_svg (legal : theme.Legal) (sizes : Sizes α) (extent : Extent α)
    {diagram : Diagram α} (verbatim : ∀ caption ∈ diagram.captions, Verbatim caption.toList) :
    (diagram.svg theme sizes extent).Sound := by
  rw [captions, List.forall_mem_append, List.forall_mem_map] at verbatim
  refine (Svg.Element.sound_iff _).mpr ⟨?_, ?_⟩
  · constructor <;> simp +decide [svg, Svg.number]
  · refine List.forall_mem_cons.mpr ⟨Svg.sound_arrowheads legal, List.forall_mem_append.mpr ⟨?_,
      Svg.sound_eventList legal sizes verbatim.2⟩⟩
    exact List.forall_mem_map.mpr fun actor member =>
      Svg.sound_lifeline legal sizes (verbatim.1 actor member)

/-- A drawing is read back from what is written of it, whatever its captions and the texts
of its theme say. -/
theorem read_back (legal : theme.Legal) (sizes : Sizes α) (extent : Extent α)
    {diagram : Diagram α} (complete : Event.AllComplete diagram.events)
    (verbatim : ∀ caption ∈ diagram.captions, Verbatim caption.toList) :
    ∃ drawing, diagram.svg? theme sizes extent = some drawing ∧
      Xml.read? drawing.render = some drawing.node :=
  ⟨diagram.svg theme sizes extent, (safe_of_allComplete complete).svg? ..,
    Svg.Element.read?_render (sound_svg legal sizes extent verbatim)⟩

/-- A theme that tries to end the attributes its texts stand in. -/
def unquoted : Svg.Theme where
  foreground := "\"/><g x='"
  background := "a\tb\r\nc &#13;"
  fontFamily := "<\"Ω\">"

/-- A diagram with markup in its captions. -/
def markedUp : Diagram Rat where
  actors := [Actor.declare .actor "</tspan><tspan>&amp;\n\\n]]>"]
  events :=
    [.conditional .opt ⟨0, 0, 90, 60⟩
      [⟨"&", 10, 0,
        [.signal { caption := "<!--\t\"é\" & '", source := "A", destination := "B" }
          { startX := some 5, endX := some (1 / 3), startY := some 12, endY := some 30,
            width := some 8, height := some 9 }]⟩]]

theorem read_back_markedUp :
    unquoted.Legal ∧ Event.AllComplete markedUp.events ∧
      (∀ caption ∈ markedUp.captions, Verbatim caption.toList) ∧
      ∃ drawing, markedUp.svg? unquoted .pixels ⟨100, 100⟩ = some drawing ∧
        Xml.read? drawing.render = some drawing.node := by
  have legal : unquoted.Legal := ⟨by decide, by decide, by decide⟩
  have complete : Event.AllComplete markedUp.events := rfl
  have verbatim : ∀ caption ∈ markedUp.captions, Verbatim caption.toList := by decide +kernel
  exact ⟨legal, complete, verbatim, read_back legal .pixels ⟨100, 100⟩ complete verbatim⟩

end Diagram

end Lifeline
