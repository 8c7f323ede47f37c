import Lifeline.Proofs.DocumentOrder
import Lifeline.Proofs.Marks
import Lifeline.Proofs.Plane
import Mathlib.Data.List.Forall2

/-!
# Two styles of one drawing

A drawing in text is made of the same marks in both styles, and in every cell the same
mark is the last.  So there is one page of inks that both drawings show, cell by cell: a
letter shows as itself in either of them, a glyph as a character of the style.

No glyph is blank and none is a newline.  Whatever is left out at the end of a row or of
the drawing is therefore left out of both, and the two texts break into as many lines of
the same lengths.  Captions without any character beyond ASCII make a drawing in ASCII.
-/

namespace Lifeline

/-- Whether two characters stand for the same: they are one letter, or one glyph in either
style.  They are both blanks then or neither of them is. -/
structure Restyled (rich plain : Char) : Prop where
  role : rich = plain ∨ ∃ glyph : Glyph, rich = glyph.unicode ∧ plain = glyph.ascii
  blank : rich = ' ' ↔ plain = ' '

def IsAscii (char : Char) : Prop :=
  char.toNat < 128

instance (char : Char) : Decidable (IsAscii char) :=
  inferInstanceAs (Decidable (char.toNat < 128))

namespace Glyph

/-- No glyph of either style is left out at the end of a row or of a drawing. -/
theorem solid (style : Style) (glyph : Glyph) :
    Text.isBlank (glyph.char style) = false ∧ glyph.char style ≠ '\n' := by
  cases style <;> cases glyph <;> decide

theorem isAscii_ascii (glyph : Glyph) : IsAscii glyph.ascii := by
  cases glyph <;> decide

end Glyph

theorem Ink.restyled (ink : Ink) : Restyled (ink.char .unicode) (ink.char .ascii) := by
  cases ink with
  | letter char => exact ⟨Or.inl rfl, Iff.rfl⟩
  | glyph shape =>
      refine ⟨Or.inr ⟨shape, rfl, rfl⟩, ?_⟩
      cases shape <;> decide

namespace Restyled

variable {rich plain : Char}

theorem isBlank_eq (restyled : Restyled rich plain) :
    Text.isBlank rich = Text.isBlank plain := by
  rcases restyled.role with rfl | ⟨glyph, rfl, rfl⟩
  · rfl
  · exact (glyph.solid .unicode).1.trans (glyph.solid .ascii).1.symm

theorem newline_eq (restyled : Restyled rich plain) :
    (rich == '\n') = (plain == '\n') := by
  rcases restyled.role with rfl | ⟨glyph, rfl, rfl⟩
  · rfl
  · exact (beq_eq_false_iff_ne.mpr (glyph.solid .unicode).2).trans
      (beq_eq_false_iff_ne.mpr (glyph.solid .ascii).2).symm

end Restyled

section Texts

variable {rich plain : List Char} {richLines plainLines : List (List Char)}

theorem Restyled.dropWhile {test : Char → Bool}
    (agree : ∀ richChar plainChar, Restyled richChar plainChar → test richChar = test plainChar)
    (restyled : List.Forall₂ Restyled rich plain) :
    List.Forall₂ Restyled (rich.dropWhile test) (plain.dropWhile test) := by
  induction restyled with
  | nil => exact .nil
  | @cons richChar plainChar _ _ first rest ih =>
      rw [List.dropWhile_cons, List.dropWhile_cons, agree richChar plainChar first]
      split
      · exact ih
      · exact .cons first rest

/-- What is cut off at the end is cut off in both styles. -/
theorem Restyled.dropWhileEnd {test : Char → Bool}
    (agree : ∀ richChar plainChar, Restyled richChar plainChar → test richChar = test plainChar)
    (restyled : List.Forall₂ Restyled rich plain) :
    List.Forall₂ Restyled (rich.reverse.dropWhile test).reverse
      (plain.reverse.dropWhile test).reverse :=
  List.rel_reverse (Restyled.dropWhile agree (List.rel_reverse restyled))

theorem Restyled.trimEnd (restyled : List.Forall₂ Restyled rich plain) :
    List.Forall₂ Restyled (Text.trimEnd rich) (Text.trimEnd plain) :=
  Restyled.dropWhileEnd (fun _ _ pair => pair.isBlank_eq) restyled

theorem Restyled.intercalate
    (restyled : List.Forall₂ (List.Forall₂ Restyled) richLines plainLines) :
    List.Forall₂ Restyled (['\n'].intercalate richLines) (['\n'].intercalate plainLines) := by
  have newline : List.Forall₂ Restyled ['\n'] ['\n'] := .cons ⟨Or.inl rfl, Iff.rfl⟩ .nil
  induction restyled with
  | nil => exact .nil
  | cons first rest ih =>
      cases rest with
      | nil => simpa [List.intercalate] using first
      | cons second others =>
          simp only [List.intercalate, List.intersperse_cons_cons, List.flatten_cons] at ih ⊢
          exact List.rel_append first (List.rel_append newline ih)

theorem Restyled.joinLines (restyled : List.Forall₂ (List.Forall₂ Restyled) richLines plainLines) :
    List.Forall₂ Restyled (Canvas.joinLines richLines) (Canvas.joinLines plainLines) :=
  Restyled.dropWhileEnd (fun _ _ pair => pair.newline_eq) (Restyled.intercalate restyled)

/-- The two styles of a text break into lines at the same places. -/
theorem Restyled.lines (restyled : List.Forall₂ Restyled rich plain) :
    List.Forall₂ (List.Forall₂ Restyled) (Text.lines rich) (Text.lines plain) := by
  rw [Text.lines, Text.lines, List.splitOn_eq_splitOnP, List.splitOn_eq_splitOnP]
  induction restyled with
  | nil => exact .cons .nil .nil
  | cons first rest ih =>
      rw [List.splitOnP_cons_eq_if_modifyHead, List.splitOnP_cons_eq_if_modifyHead,
        first.newline_eq]
      split
      · exact .cons .nil ih
      · generalize List.splitOnP (· == '\n') _ = richLines at ih ⊢
        generalize List.splitOnP (· == '\n') _ = plainLines at ih ⊢
        cases ih with
        | nil => exact .nil
        | cons line others => exact .cons (.cons first line) others

end Texts

namespace Canvas

/-- Whether two canvases are of one size and hold the same in every cell, each in a style
of its own. -/
structure Restyled (rich plain : Canvas) : Prop where
  width : rich.width = plain.width
  height : rich.height = plain.height
  cells : ∀ column row, column < rich.width → row < rich.height →
    ∃ richChar plainChar, rich.get? column row = some (String.singleton richChar) ∧
      plain.get? column row = some (String.singleton plainChar) ∧
      Lifeline.Restyled richChar plainChar

/-- What is seen in each cell when marks are made over a page of inks. -/
def inked (page : Nat → Nat → Ink) : List (Mark Ink) → Nat → Nat → Ink
  | [] => page
  | mark :: rest =>
      inked (fun column row => if mark.At column row then mark.ink else page column row) rest

variable {canvas : Canvas}

theorem seen_draw (even : canvas.Even) (style : Style) {page : Nat → Nat → Ink}
    (seenEq : ∀ column row, canvas.seen column row = (page column row).text style)
    (marks : List (Mark Ink)) (column row : Nat) :
    (canvas.draw (marks.map (Mark.map (Ink.text style)))).seen column row =
      (inked page marks column row).text style := by
  induction marks generalizing canvas page with
  | nil => exact seenEq column row
  | cons mark rest ih =>
      refine ih (even_put even mark.x mark.y (mark.ink.text style)) fun column row => ?_
      refine (seen_put even mark.x mark.y (mark.ink.text style) column row).trans ?_
      rw [seenEq]
      by_cases inCell : mark.At column row
      · exact (if_pos inCell).trans (congrArg (Ink.text style) (if_pos inCell).symm)
      · exact (if_neg inCell).trans (congrArg (Ink.text style) (if_neg inCell).symm)

end Canvas

namespace Diagram

variable {α : Type} [Scalar α]

/-- The page of inks that a diagram is drawn as in either style. -/
def page (diagram : Diagram α) : Nat → Nat → Ink :=
  Canvas.inked (fun _ _ => .letter ' ') diagram.marks

variable (extent : Extent α) (diagram : Diagram α)

theorem seen_canvas (style : Style) (column row : Nat) :
    (diagram.canvas style extent).seen column row = (diagram.page column row).text style := by
  have blank : ∀ column row,
      (startCanvas extent).seen column row = (Ink.letter ' ').text style :=
    Canvas.seen_ofCorner _ _
  exact Canvas.seen_draw (even_startCanvas extent) style blank diagram.marks column row

theorem even_canvas (style : Style) : (diagram.canvas style extent).Even :=
  Canvas.even_draw (even_startCanvas extent) _

theorem width_canvas (style : Style) :
    (diagram.canvas style extent).width =
      max (startCanvas extent).width (Mark.needed Mark.x diagram.marks) :=
  (Canvas.width_draw _ _).trans (congrArg (max _) (Mark.needed_map _ Mark.x diagram.marks))

theorem height_canvas (style : Style) :
    (diagram.canvas style extent).height =
      max (startCanvas extent).height (Mark.needed Mark.y diagram.marks) :=
  (Canvas.height_draw _ _).trans (congrArg (max _) (Mark.needed_map _ Mark.y diagram.marks))

theorem restyled_canvas :
    (diagram.canvas .unicode extent).Restyled (diagram.canvas .ascii extent) := by
  have width : (diagram.canvas .unicode extent).width = (diagram.canvas .ascii extent).width := by
    rw [width_canvas, width_canvas]
  have height :
      (diagram.canvas .unicode extent).height = (diagram.canvas .ascii extent).height := by
    rw [height_canvas, height_canvas]
  refine ⟨width, height, fun column row inWidth inHeight => ?_⟩
  have held (style : Style)
      (inWidth : column < (diagram.canvas style extent).width)
      (inHeight : row < (diagram.canvas style extent).height) :
      (diagram.canvas style extent).get? column row =
        some (String.singleton ((diagram.page column row).char style)) := by
    have seenEq := diagram.seen_canvas extent style column row
    obtain ⟨content, contentEq⟩ :=
      Canvas.exists_get? (diagram.even_canvas extent style) inWidth inHeight
    rw [Canvas.seen, contentEq, Option.getD_some] at seenEq
    rw [contentEq, seenEq, Ink.text]
  exact ⟨_, _, held .unicode inWidth inHeight,
    held .ascii (width ▸ inWidth) (height ▸ inHeight),
    (diagram.page column row).restyled⟩

theorem seenRow_canvas (style : Style) (width row : Nat) :
    Canvas.seenRow (diagram.canvas style extent).seen width row =
      Text.trimEnd ((List.range width).map fun column => (diagram.page column row).char style) := by
  simp only [Canvas.seenRow, seen_canvas, Ink.text, String.toList_singleton]
  exact congrArg Text.trimEnd List.map_eq_flatMap.symm

theorem restyled_chars :
    List.Forall₂ Restyled (diagram.canvas .unicode extent).chars
      (diagram.canvas .ascii extent).chars := by
  have same := diagram.restyled_canvas extent
  rw [Canvas.chars_eq_of_le (diagram.even_canvas extent .unicode) le_rfl le_rfl,
    Canvas.chars_eq_of_le (diagram.even_canvas extent .ascii) same.width.ge same.height.ge]
  refine Restyled.joinLines ?_
  rw [List.forall₂_map_left_iff, List.forall₂_map_right_iff, List.forall₂_same]
  intro row _
  rw [seenRow_canvas, seenRow_canvas]
  refine Restyled.trimEnd ?_
  rw [List.forall₂_map_left_iff, List.forall₂_map_right_iff, List.forall₂_same]
  exact fun column _ => (diagram.page column row).restyled

theorem restyled_textArt :
    List.Forall₂ Restyled (diagram.textArt .unicode extent).toList
      (diagram.textArt .ascii extent).toList := by
  rw [textArt, textArt]
  split
  · exact .nil
  · rw [Canvas.text, Canvas.text, String.toList_ofList, String.toList_ofList]
    exact diagram.restyled_chars extent

end Diagram

def Text.AllAscii (text : String) : Prop :=
  ∀ char ∈ text.toList, IsAscii char

instance (text : String) : Decidable (Text.AllAscii text) :=
  List.decidableBAll IsAscii text.toList

/-- Whether marks are made with characters of ASCII in the plain style. -/
def Mark.AllPlain (marks : List (Mark Ink)) : Prop :=
  ∀ mark ∈ marks, IsAscii (mark.ink.char .ascii)

@[simp]
theorem Ink.isAscii_glyph (glyph : Glyph) : IsAscii ((Ink.glyph glyph).char .ascii) :=
  glyph.isAscii_ascii

namespace Mark.AllPlain

@[simp]
theorem nil : AllPlain [] :=
  List.forall_mem_nil _

@[simp]
theorem cons {mark : Mark Ink} {rest : List (Mark Ink)} :
    AllPlain (mark :: rest) ↔ IsAscii (mark.ink.char .ascii) ∧ AllPlain rest :=
  List.forall_mem_cons

@[simp]
theorem append {first second : List (Mark Ink)} :
    AllPlain (first ++ second) ↔ AllPlain first ∧ AllPlain second :=
  List.forall_mem_append

@[simp]
theorem flatMap {ι : Type} {indices : List ι} {marks : ι → List (Mark Ink)} :
    AllPlain (indices.flatMap marks) ↔ ∀ index ∈ indices, AllPlain (marks index) :=
  List.forall_mem_flatMap

/-- One glyph, wherever it stands. -/
@[simp]
theorem map_glyph {ι : Type} (indices : List ι) (x y : ι → Int) (glyph : Glyph) :
    AllPlain (indices.map fun index => ⟨x index, y index, .glyph glyph⟩) :=
  List.forall_mem_map.mpr fun _ _ => glyph.isAscii_ascii

theorem written {caption : String} (ascii : Text.AllAscii caption) (x y : Int) :
    AllPlain (written x y caption) := by
  rw [Lifeline.written, ofCaption, flatMap]
  rintro ⟨line, index⟩ numbered
  refine List.forall_mem_map.mpr ?_
  rintro ⟨char, place⟩ inLine
  exact ascii char (Text.mem_of_mem_captionLines (List.fst_mem_of_mem_zipIdx numbered)
    (List.fst_mem_of_mem_zipIdx inLine))

theorem bracketed {caption : String}
    (ascii : caption ≠ "" → Text.AllAscii ("[" ++ caption ++ "]")) (x y : Int) :
    AllPlain (bracketed x y caption) := by
  rw [Lifeline.bracketed]
  split
  · exact nil
  next labelled => exact written (ascii labelled) x y

end Mark.AllPlain

open Mark

section Marks

variable {α : Type} [Scalar α]

theorem Actor.allPlain_marks {actor : Actor α} (ascii : Text.AllAscii actor.caption) :
    AllPlain actor.marks := by
  have plainCaption := AllPlain.written ascii
  rw [marks, AllPlain.append]
  refine ⟨?_, AllPlain.map_glyph _ _ _ _⟩
  rw [headMarks]
  split
  · simp +decide [figureMarks, ofLine, Ink.char, plainCaption]
  all_goals simp [ofBox, Ink.heavyBox, plainCaption]

theorem Signal.allPlain_marks {signal : Signal} (ascii : Text.AllAscii signal.caption)
    (place : SignalPlace α) : AllPlain (signal.marks place) := by
  have plainCaption := AllPlain.written ascii
  rw [marks]
  split
  · simp [hookMarks, plainCaption]
  · simp only [arrowMarks, AllPlain.append, AllPlain.map_glyph, true_and]
    refine ⟨?_, plainCaption _ _⟩
    split <;> simp

theorem Note.allPlain_marks {note : Note} (ascii : Text.AllAscii note.caption)
    (place : NotePlace α) : AllPlain (note.marks place) := by
  have plainCaption := AllPlain.written ascii
  rw [marks]
  cases note.kind <;>
    simp [ofBox, NoteKind.inks, Ink.roundBox, Ink.thinBox, Ink.heavyBox, plainCaption]

/-- The marks of a part of a diagram. -/
def Svg.Part.marks : Svg.Part α → List (Mark Ink)
  | .signal content place => content.marks place
  | .note content place => content.marks place
  | .frame kind surround => surround.marks kind
  | .heading surround first y caption => surround.headingMarks first y caption

theorem Svg.Part.allPlain_marks {part : Svg.Part α}
    (ascii : ∀ caption ∈ part.captions, Text.AllAscii caption) : AllPlain part.marks := by
  cases part with
  | signal content place => exact content.allPlain_marks (ascii _ (List.mem_singleton_self _)) place
  | note content place => exact content.allPlain_marks (ascii _ (List.mem_singleton_self _)) place
  | frame kind surround =>
      have plainKind := AllPlain.written (ascii kind.name (List.mem_singleton_self _))
      simp [Svg.Part.marks, Frame.marks, ofBox, Ink.heavyBox, plainKind]
  | heading surround first y caption =>
      have plainLabel : ∀ x y, AllPlain (bracketed x y caption) :=
        AllPlain.bracketed fun labelled => ascii _ <| by
          rw [captions, if_neg labelled]
          exact List.mem_singleton_self _
      rw [Svg.Part.marks, Frame.headingMarks]
      split <;> simp [plainLabel]

theorem Mark.pen_shows : (Mark.pen : Pen α (Mark Ink)).Shows id Svg.Part.marks where
  nil := rfl
  append _ _ := rfl
  signal _ _ := rfl
  note _ _ := rfl
  frame _ _ _ := rfl
  heading _ _ _ _ := rfl

/-- Events are drawn part by part. -/
theorem Event.allMarks_eq_flatMap (events : List (Event α)) :
    Event.allMarks events = (Event.allParts events).flatMap Svg.Part.marks :=
  Event.read_drawAll Mark.pen_shows events

theorem Diagram.allPlain_marks {diagram : Diagram α}
    (ascii : ∀ caption ∈ diagram.captions, Text.AllAscii caption) : AllPlain diagram.marks := by
  rw [captions, List.forall_mem_append, List.forall_mem_map] at ascii
  rw [marks, AllPlain.append, AllPlain.flatMap, Event.allMarks_eq_flatMap, AllPlain.flatMap]
  exact ⟨fun actor member => Actor.allPlain_marks (ascii.1 actor member),
    fun part member => Svg.Part.allPlain_marks fun caption written =>
      ascii.2 caption (List.mem_flatMap.mpr ⟨part, member, written⟩)⟩

end Marks

theorem Canvas.isAscii_inked {marks : List (Mark Ink)} (plain : AllPlain marks)
    {page : Nat → Nat → Ink} (pagePlain : ∀ column row, IsAscii ((page column row).char .ascii))
    (column row : Nat) : IsAscii ((inked page marks column row).char .ascii) := by
  induction marks generalizing page with
  | nil => exact pagePlain column row
  | cons mark rest ih =>
      refine ih (AllPlain.cons.mp plain).2 fun column row => ?_
      split
      · exact (AllPlain.cons.mp plain).1
      · exact pagePlain column row

/-- What is read of a canvas is seen in one of its cells or breaks a line. -/
theorem Canvas.mem_chars {canvas : Canvas} (even : canvas.Even) {char : Char}
    (member : char ∈ canvas.chars) :
    char = '\n' ∨ ∃ column row, char ∈ (canvas.seen column row).toList := by
  rw [chars_eq_of_le even le_rfl le_rfl, joinLines, List.mem_reverse] at member
  have inLines := List.mem_reverse.mp ((List.dropWhile_sublist _).subset member)
  refine (Text.mem_of_mem_intercalate inLines).imp List.mem_singleton.mp ?_
  rintro ⟨line, inRows, inLine⟩
  obtain ⟨row, -, rfl⟩ := List.mem_map.mp inRows
  rw [seenRow, Text.trimEnd, List.mem_reverse] at inLine
  have inRow := List.mem_reverse.mp ((List.dropWhile_sublist _).subset inLine)
  obtain ⟨column, -, inCell⟩ := List.mem_flatMap.mp inRow
  exact ⟨column, row, inCell⟩

namespace Diagram

variable {α : Type} [Scalar α] (extent : Extent α) {diagram : Diagram α}

theorem isAscii_of_mem_textArt (ascii : ∀ caption ∈ diagram.captions, Text.AllAscii caption)
    {char : Char} (member : char ∈ (diagram.textArt .ascii extent).toList) : IsAscii char := by
  rw [textArt] at member
  split at member
  · cases member
  · rw [Canvas.text, String.toList_ofList] at member
    rcases Canvas.mem_chars (diagram.even_canvas extent .ascii) member with
      rfl | ⟨column, row, inCell⟩
    · decide
    · rw [seen_canvas, Ink.text, String.toList_singleton, List.mem_singleton] at inCell
      rw [inCell]
      exact Canvas.isAscii_inked (allPlain_marks ascii) (fun _ _ => by decide) column row

/-- The style changes nothing but glyphs.  The texts in both styles have as many lines, of
the same lengths, with the same letters and blanks in the same places and the two characters
of one glyph everywhere else; so have the canvases that they are read from.  Captions in ASCII
make a drawing in ASCII. -/
theorem textArt?_restyled (complete : Event.AllComplete diagram.events) :
    ∃ rich plain, diagram.textArt? .unicode extent = some rich ∧
      diagram.textArt? .ascii extent = some plain ∧
      List.Forall₂ (List.Forall₂ Restyled) (Text.lines rich.toList) (Text.lines plain.toList) ∧
      (diagram.canvas .unicode extent).Restyled (diagram.canvas .ascii extent) ∧
      ((∀ caption ∈ diagram.captions, Text.AllAscii caption) → Text.AllAscii plain) := by
  have drawn (style : Style) :
      diagram.textArt? style extent = some (diagram.textArt style extent) := by
    rw [textArt?, if_pos (markable_of_allComplete complete)]
  exact ⟨_, _, drawn .unicode, drawn .ascii, Restyled.lines (diagram.restyled_textArt extent),
    diagram.restyled_canvas extent, fun ascii _ => isAscii_of_mem_textArt extent ascii⟩

/-- A frame that is drawn over the head of an actor, and a note over the frame. -/
def overlapping : Diagram Rat where
  actors := [{ Actor.declare .participant "A b" with width := 7, height := 3, laneX := 7 / 2 }]
  events :=
    [.conditional .opt ⟨2, -1, 9, 6⟩ [⟨"x\\ny", 4, 0, []⟩, ⟨"", 3, 0, []⟩],
      .note { kind := .note, caption := "  \n<>", align := "over", location := some "A b" }
        { x := some 1, y := some (5 / 2), width := some 4, height := some 2, textMarginX := 1
          textMarginY := 1 }]

theorem textArt?_restyled_overlapping :
    Event.AllComplete overlapping.events ∧
      ∃ rich plain, overlapping.textArt? .unicode ⟨4, 4⟩ = some rich ∧
        overlapping.textArt? .ascii ⟨4, 4⟩ = some plain ∧
        List.Forall₂ (List.Forall₂ Restyled) (Text.lines rich.toList) (Text.lines plain.toList) ∧
        Text.AllAscii plain := by
  have complete : Event.AllComplete overlapping.events := rfl
  have captionsAscii : ∀ caption ∈ overlapping.captions, Text.AllAscii caption := by
    have captionsEq : overlapping.captions = ["A b", "opt", "[x\\ny]", "  \n<>"] := by rfl
    rw [captionsEq]
    decide
  obtain ⟨rich, plain, richEq, plainEq, lines, -, ascii⟩ := textArt?_restyled ⟨4, 4⟩ complete
  exact ⟨complete, rich, plain, richEq, plainEq, lines, ascii captionsAscii⟩

end Diagram

end Lifeline
