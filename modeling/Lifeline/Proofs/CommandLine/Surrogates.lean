import Lifeline.CommandLine
import Lifeline.Proofs.Colours

/-!
# Surrogates in drawings

A drawing is made with some character in the place of every surrogate.  It is text itself
if it does not matter which character that is.  With two characters that are written at the
same length, themes have colours of the same length, and what is written of the drawings
shows whether they differ.
-/

namespace Lifeline

namespace Text.Letters

variable {word : Letters} {one other : Char}

theorem filled_eq_filled_iff (differ : one ≠ other) :
    word.filled one = word.filled other ↔ word.isText = true := by
  rw [filled, filled, String.ofList_inj, isText]
  induction word with
  | nil => exact iff_of_true rfl rfl
  | cons letter rest ih =>
      rw [List.map_cons, List.map_cons, List.cons.injEq, ih, List.all_cons, Bool.and_eq_true]
      cases letter with
      | char value => simp [Letter.char?]
      | surrogate index => simp [Letter.char?, differ]

theorem mask_filled_eq (word : Letters)
    (alike : (Svg.Element.escapeValue one).length = (Svg.Element.escapeValue other).length) :
    Svg.Element.mask (word.filled one) = Svg.Element.mask (word.filled other) := by
  rw [Svg.Element.mask, Svg.Element.mask, String.ofList_inj, List.map_const', List.map_const']
  congr 1
  rw [filled, filled, String.toList_ofList, String.toList_ofList, List.length_flatMap,
    List.length_flatMap, List.map_map, List.map_map]
  congr 1
  refine List.map_congr_left fun letter _ => ?_
  cases letter with
  | char value => rfl
  | surrogate index => exact alike

end Text.Letters

namespace CommandLine

variable {settings : Settings} {size : Int} {measure : Measurer Float} {text drawing : String}

/-- Whether a drawing is text, by where the colours are in it. -/
theorem vector?_eq_ite :
    vector? settings size measure text =
      if settings.foreground.isText = true ∧
          ((Script.svgElement (settings.theme size '?') measure text).captioned = true →
            settings.background.isText = true) then
        some (Script.svg (settings.theme size '?') measure text)
      else none := by
  unfold vector?
  rw [Script.svg]
  generalize Script.svgElement (settings.theme size '?') measure text = element
  dsimp only
  cases settings.foreground.isText <;> cases settings.background.isText <;>
    cases element.captioned <;> simp

theorem svgElement_theme_eq_iff {one other : Char} (differ : one ≠ other) :
    Script.svgElement (settings.theme size one) measure text =
        Script.svgElement (settings.theme size other) measure text ↔
      settings.foreground.isText = true ∧
        ((Script.svgElement (settings.theme size one) measure text).captioned = true →
          settings.background.isText = true) := by
  have family : (settings.theme size one).fontFamily = (settings.theme size other).fontFamily :=
    rfl
  have fontSize : (settings.theme size one).fontSize = (settings.theme size other).fontSize := rfl
  rw [← Text.Letters.filled_eq_filled_iff differ, ← Text.Letters.filled_eq_filled_iff differ]
  exact Diagram.svg_eq_svg_iff family fontSize ..

theorem svgElement_theme_eq_of_svg_eq {one other : Char}
    (alike : (Svg.Element.escapeValue one).length = (Svg.Element.escapeValue other).length)
    (same : Script.svg (settings.theme size one) measure text =
      Script.svg (settings.theme size other) measure text) :
    Script.svgElement (settings.theme size one) measure text =
      Script.svgElement (settings.theme size other) measure text := by
  have family : (settings.theme size one).fontFamily = (settings.theme size other).fontFamily :=
    rfl
  have fontSize : (settings.theme size one).fontSize = (settings.theme size other).fontSize := rfl
  exact Diagram.svg_eq_of_render_eq family fontSize (settings.foreground.mask_filled_eq alike)
    (settings.background.mask_filled_eq alike) same

/-- A drawing is text just if it is the same with all characters in the place of surrogates. -/
theorem vector?_eq_some_iff :
    vector? settings size measure text = some drawing ↔
      ∀ standIn, Script.svg (settings.theme size standIn) measure text = drawing := by
  rw [vector?_eq_ite]
  constructor
  · intro drawn standIn
    split at drawn
    next isText =>
      rw [← Option.some.inj drawn]
      by_cases same : '?' = standIn
      · rw [same]
      · rw [Script.svg, Script.svg, (svgElement_theme_eq_iff same).mpr isText]
    next => cases drawn
  · intro drawn
    have elementEq : Script.svgElement (settings.theme size '?') measure text =
        Script.svgElement (settings.theme size 'a') measure text :=
      svgElement_theme_eq_of_svg_eq rfl ((drawn '?').trans (drawn 'a').symm)
    have isText := (svgElement_theme_eq_iff (by decide)).mp elementEq
    rw [if_pos isText, drawn]

end CommandLine

end Lifeline
