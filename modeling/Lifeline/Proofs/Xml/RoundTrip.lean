import Lifeline.Proofs.DocumentOrder
import Lifeline.Proofs.Xml.Reader

/-!
# What is written is read

An element that is written and read again is the same, whatever its texts and the values of
its attributes are, as long as they may stand in a document at all: with the same tag, the
same attributes in the same order, the same text and the same children.

The reader is followed through the characters of an element, from any state in which an
element may come.  A text that stands before it is still being read then, so what the
lemmas say of an element begins with the `<` that ends this text.
-/

namespace Lifeline

namespace Xml

/-- Whether characters may stand in a document. -/
def Legal (chars : List Char) : Prop :=
  ∀ char ∈ chars, isLegal char = true

/-- Whether characters may stand in a document and are read as they are.  A carriage return
is read as the end of a line. -/
def Verbatim (chars : List Char) : Prop :=
  ∀ char ∈ chars, isLegal char = true ∧ char ≠ '\r'

-- There are finitely many characters, but only those in the list are to be looked at.
instance (chars : List Char) : Decidable (Legal chars) :=
  List.decidableBAll _ chars

instance (chars : List Char) : Decidable (Verbatim chars) :=
  List.decidableBAll _ chars

@[simp] theorem legal_nil : Legal [] :=
  List.forall_mem_nil _

@[simp] theorem legal_cons {char : Char} {rest : List Char} :
    Legal (char :: rest) ↔ isLegal char = true ∧ Legal rest :=
  List.forall_mem_cons

@[simp] theorem legal_append {first second : List Char} :
    Legal (first ++ second) ↔ Legal first ∧ Legal second :=
  List.forall_mem_append

@[simp] theorem verbatim_append {first second : List Char} :
    Verbatim (first ++ second) ↔ Verbatim first ∧ Verbatim second :=
  List.forall_mem_append

theorem Verbatim.legal {chars : List Char} (verbatim : Verbatim chars) : Legal chars :=
  fun char member => (verbatim char member).1

theorem Verbatim.flatMap {ι : Type} {items : List ι} {write : ι → List Char}
    (each : ∀ item ∈ items, Verbatim (write item)) : Verbatim (items.flatMap write) := by
  intro char member
  obtain ⟨item, inItems, inWritten⟩ := List.mem_flatMap.mp member
  exact each item inItems char inWritten

end Xml

open Xml

namespace Svg.Element

mutual

/-- An element as it is read.  A text that is empty is not there. -/
def node : Element → Node
  | ⟨tag, attributes, text, children⟩ =>
      .element tag attributes ((if text = "" then [] else [.text text]) ++ allNodes children)
termination_by structural element => element

def allNodes : List Element → List Node
  | [] => []
  | element :: rest => element.node :: allNodes rest
termination_by structural elements => elements

end

/-- Whether the tag of an element and its attributes can be written and read. -/
structure Writable (element : Element) : Prop where
  tag : isName element.tag.toList = true
  names : ∀ pair ∈ element.attributes, isName pair.1.toList = true
  distinct : (element.attributes.map Prod.fst).Nodup
  values : ∀ pair ∈ element.attributes, Legal pair.2.toList
  text : Verbatim element.text.toList

/-- Whether an element and all elements in it can be written and read. -/
def Sound (element : Element) : Prop :=
  ∀ part ∈ element.inOrder, part.Writable

theorem sound_iff (element : Element) :
    element.Sound ↔
      { element with children := [] }.Writable ∧ ∀ child ∈ element.children, child.Sound := by
  obtain ⟨tag, attributes, text, children⟩ := element
  rw [Sound, inOrder, List.forall_mem_cons, allInOrder_eq_flatMap, List.forall_mem_flatMap]
  rfl

theorem resolve?_escapeText (char : Char) (rest : List Char) :
    resolve? none (escapeText char ++ rest) = (resolve? none rest).map (char :: ·) := by
  by_cases ampersand : char = '&'
  · subst ampersand
    rfl
  by_cases less : char = '<'
  · subst less
    rfl
  by_cases greater : char = '>'
  · subst greater
    rfl
  rw [escapeText, if_neg ampersand, if_neg less, if_neg greater, List.singleton_append, resolve?,
    if_neg ampersand]

theorem resolve?_escapeValue (char : Char) (rest : List Char) :
    resolve? none (escapeValue char ++ rest) = (resolve? none rest).map (char :: ·) := by
  by_cases quote : char = '"'
  · subst quote
    rfl
  by_cases carriage : char = '\r'
  · subst carriage
    rfl
  by_cases newline : char = '\n'
  · subst newline
    rfl
  by_cases tab : char = '\t'
  · subst tab
    rfl
  rw [escapeValue, if_neg quote, if_neg carriage, if_neg newline, if_neg tab]
  exact resolve?_escapeText char rest

theorem resolve?_flatMap {escape : Char → List Char}
    (escapes : ∀ char rest,
      resolve? none (escape char ++ rest) = (resolve? none rest).map (char :: ·))
    (text : List Char) : resolve? none (text.flatMap escape) = some text := by
  induction text with
  | nil => rfl
  | cons char rest ih => rw [List.flatMap_cons, escapes, ih]; rfl

/-- The characters that references are written with. -/
def referenceChars : List Char :=
  ['&', ';', 'a', 'm', 'p', 'l', 't', 'g', 'q', 'u', 'o', '#', '0', '1', '3', '9']

theorem verbatim_referenceChars : Verbatim referenceChars := by
  decide

theorem plain_of_mem_referenceChars {char : Char} (member : char ∈ referenceChars) :
    isSpace char = false ∧ char ∉ ['<', '>', '"'] := by
  have allPlain : referenceChars.all
      (fun char => !isSpace char && !(['<', '>', '"'].contains char)) = true := by
    decide
  simpa using List.all_eq_true.mp allPlain char member

theorem mem_escapeText {char written : Char} (member : written ∈ escapeText char) :
    written ∈ referenceChars ∨ written = char ∧ char ∉ ['<', '>'] := by
  by_cases marked : char ∈ ['&', '<', '>']
  · left
    simp only [List.mem_cons, List.not_mem_nil, or_false] at marked
    rcases marked with rfl | rfl | rfl <;> exact (by decide : _ ⊆ referenceChars) member
  · right
    simp only [List.mem_cons, List.not_mem_nil, or_false, not_or] at marked
    rw [escapeText, if_neg marked.1, if_neg marked.2.1, if_neg marked.2.2] at member
    exact ⟨List.mem_singleton.mp member, by simp [marked]⟩

theorem mem_escapeValue {char written : Char} (member : written ∈ escapeValue char) :
    written ∈ referenceChars ∨ written = char ∧ char ∉ ['<', '>', '"', '\r', '\n', '\t'] := by
  by_cases marked : char ∈ ['"', '\r', '\n', '\t']
  · left
    simp only [List.mem_cons, List.not_mem_nil, or_false] at marked
    rcases marked with rfl | rfl | rfl | rfl <;>
      exact (by decide : _ ⊆ referenceChars) member
  · simp only [List.mem_cons, List.not_mem_nil, or_false, not_or] at marked
    obtain ⟨quote, carriage, newline, tab⟩ := marked
    rw [escapeValue, if_neg quote, if_neg carriage, if_neg newline, if_neg tab] at member
    rcases mem_escapeText member with reference | ⟨same, plain⟩
    · exact Or.inl reference
    · exact Or.inr ⟨same, by simp_all⟩

/-- No markup begins or ends in a text that is written. -/
theorem not_mem_flatMap_escapeText (text : List Char) {mark : Char} (isMark : mark ∈ ['<', '>']) :
    mark ∉ text.flatMap escapeText := by
  intro member
  obtain ⟨char, -, written⟩ := List.mem_flatMap.mp member
  rcases mem_escapeText written with reference | ⟨rfl, plain⟩
  · obtain ⟨-, plain⟩ := plain_of_mem_referenceChars reference
    rcases List.mem_pair.mp isMark with rfl | rfl <;> exact plain (by decide)
  · exact plain isMark

theorem verbatim_escapeText {char : Char} (plain : isLegal char = true ∧ char ≠ '\r') :
    Verbatim (escapeText char) := by
  intro written member
  rcases mem_escapeText member with reference | ⟨rfl, -⟩
  · exact verbatim_referenceChars written reference
  · exact plain

theorem verbatim_escapeValue {char : Char} (legal : isLegal char = true) :
    Verbatim (escapeValue char) := by
  intro written member
  rcases mem_escapeValue member with reference | ⟨rfl, plain⟩
  · exact verbatim_referenceChars written reference
  · exact ⟨legal, by simp_all⟩

end Svg.Element

namespace Xml

theorem plain_of_beginsName {char : Char} (begins : beginsName char = true) :
    isSpace char = false ∧ char ∉ ['>', '/'] := by
  have marksBeginNone :
      [' ', '\t', '\n', '\r', '>', '/'].all (!beginsName ·) = true := by
    decide
  have notMark : char ∉ [' ', '\t', '\n', '\r', '>', '/'] := fun isMark => by
    have beginsNone := List.all_eq_true.mp marksBeginNone char isMark
    rw [begins] at beginsNone
    exact Bool.false_ne_true beginsNone
  simpa [isSpace, and_assoc] using notMark

theorem legal_of_continuesName {char : Char} (continues : continuesName char = true) :
    isLegal char = true ∧ char ≠ '\r' := by
  refine ⟨?_, fun same => by subst same; revert continues; decide⟩
  simp only [continuesName, beginsName, isLegal, liesIn, List.any_cons, List.any_nil,
    Bool.or_false, Bool.or_eq_true, Bool.and_eq_true, decide_eq_true_eq] at continues ⊢
  omega

namespace Progress

theorem add_nil (progress : Progress) : progress.add [] = progress := by
  rw [add, List.append_nil]

theorem add_add (progress : Progress) (first second : List Node) :
    (progress.add first).add second = progress.add (first ++ second) := by
  rw [add, add, add, List.append_assoc]

end Progress

namespace State

variable (progress : Progress)

theorem run?_cons (state : State) (char : Char) (rest : List Char) :
    state.run? (char :: rest) = (state.step? char).bind (·.run? rest) :=
  List.foldlM_cons ..

/-- A mode that collects some characters has collected them when they are read. -/
theorem run?_collect (mode : List Char → Mode) {chars : List Char}
    (collects : ∀ seen, ∀ char ∈ chars,
      step? ⟨progress, mode seen⟩ char = some ⟨progress, mode (seen ++ [char])⟩)
    (seen rest : List Char) :
    run? ⟨progress, mode seen⟩ (chars ++ rest) = run? ⟨progress, mode (seen ++ chars)⟩ rest := by
  induction chars generalizing seen with
  | nil => rw [List.append_nil, List.nil_append]
  | cons char others ih =>
      have next := ih (fun seen other member =>
        collects seen other (List.mem_cons_of_mem _ member)) (seen ++ [char])
      rw [List.append_assoc, List.singleton_append] at next
      rw [List.cons_append, run?_cons, collects seen char List.mem_cons_self, Option.bind_some,
        next]

theorem run?_text {chars : List Char} (plain : '<' ∉ chars) (written rest : List Char) :
    run? ⟨progress, .text written⟩ (chars ++ rest) =
      run? ⟨progress, .text (written ++ chars)⟩ rest := by
  refine run?_collect progress .text (fun seen char member => ?_) written rest
  have notMarkup : char ≠ '<' := fun same => plain (same ▸ member)
  simp only [step?, if_neg notMarkup]

theorem run?_value (start : Start) (name : String) {chars : List Char}
    (plain : ∀ char ∈ chars, char ∉ ['<', '"'] ∧ (isSpace char = true → char = ' '))
    (written rest : List Char) :
    run? ⟨progress, .value start name '"' written⟩ (chars ++ rest) =
      run? ⟨progress, .value start name '"' (written ++ chars)⟩ rest := by
  refine run?_collect progress (.value start name '"') (fun seen char member => ?_) written rest
  obtain ⟨inside, space⟩ := plain char member
  have readEq : (if isSpace char then ' ' else char) = char := by
    split
    next isSpace => exact (space isSpace).symm
    next => rfl
  rw [List.mem_pair, not_or] at inside
  simp only [step?, if_neg inside.1, if_neg inside.2, readEq]

/-- A name is read in a mode that collects its characters, after one in which it begins. -/
theorem run?_name {state : State} (mode : List Char → Mode) {name : List Char}
    (named : isName name = true)
    (begins : ∀ char, beginsName char = true →
      state.step? char = some ⟨progress, mode [char]⟩)
    (continues : ∀ first seen char, continuesName char = true →
      step? ⟨progress, mode (first :: seen)⟩ char =
        some ⟨progress, mode (first :: seen ++ [char])⟩)
    (rest : List Char) : state.run? (name ++ rest) = run? ⟨progress, mode name⟩ rest := by
  cases name with
  | nil => cases named
  | cons first others =>
      rw [isName, Bool.and_eq_true, List.all_eq_true] at named
      rw [List.cons_append, run?_cons, begins first named.1, Option.bind_some]
      exact run?_collect progress (fun seen => mode (first :: seen))
        (fun seen char member => continues first seen char (named.2 char member)) [] rest

theorem run?_tag {tag : List Char} (named : isName tag = true) (rest : List Char) :
    run? ⟨progress, .markup⟩ (tag ++ rest) = run? ⟨progress, .tag tag⟩ rest := by
  refine run?_name progress .tag named (fun char begins => ?_)
    (fun first seen char continues => ?_) rest
  · obtain ⟨-, plain⟩ := plain_of_beginsName begins
    rw [List.mem_pair, not_or] at plain
    simp only [step?, if_neg plain.2, begins, if_true]
  · simp only [step?, continues, if_true]

theorem run?_endTag {tag : List Char} (named : isName tag = true) (rest : List Char) :
    run? ⟨progress, .endTag []⟩ (tag ++ rest) = run? ⟨progress, .endTag tag⟩ rest := by
  refine run?_name progress .endTag named (fun char begins => ?_)
    (fun first seen char continues => ?_) rest
  · simp only [step?, begins, if_true]
  · simp only [step?, continues, if_true]

theorem run?_attributeName (start : Start) {name : List Char} (named : isName name = true)
    (rest : List Char) :
    run? ⟨progress, .inTag start true⟩ (name ++ rest) =
      run? ⟨progress, .attribute start name⟩ rest := by
  refine run?_name progress (.attribute start) named (fun char begins => ?_)
    (fun first seen char continues => ?_) rest
  · obtain ⟨space, plain⟩ := plain_of_beginsName begins
    rw [List.mem_pair, not_or] at plain
    simp [step?, Progress.inTag?, space, plain, begins]
  · simp only [step?, continues, if_true]

theorem run?_equals (start : Start) (name : String) (rest : List Char) :
    run? ⟨progress, .attribute start name.toList⟩ ('=' :: '"' :: rest) =
      run? ⟨progress, .value start name '"' []⟩ rest := by
  have opened : run? ⟨progress, .attribute start name.toList⟩ ('=' :: '"' :: rest) =
      run? ⟨progress, .value start (String.ofList name.toList) '"' []⟩ rest := rfl
  rw [opened, String.ofList_toList]

/-- A character that is not of the name of a tag is read as behind the name. -/
theorem run?_behindTag (tag rest : List Char) {char : Char}
    (behind : continuesName char = false) :
    run? ⟨progress, .tag tag⟩ (char :: rest) =
      run? ⟨progress, .inTag ⟨String.ofList tag, []⟩ false⟩ (char :: rest) := by
  rw [run?_cons, run?_cons]
  simp only [step?, behind, Bool.false_eq_true, if_false]

end State

end Xml

namespace Svg.Element

variable (progress : Progress)

/-- An attribute is read as it was, whatever its value is. -/
theorem run?_attribute (start : Start) {pair : String × String}
    (named : isName pair.1.toList = true) (new : pair.1 ∉ start.attributes.map Prod.fst)
    (rest : List Char) :
    State.run? ⟨progress, .inTag start false⟩ (attributeChars pair ++ rest) =
      State.run? ⟨progress, .inTag ⟨start.tag, start.attributes ++ [pair]⟩ false⟩ rest := by
  obtain ⟨name, value⟩ := pair
  have plain : ∀ char ∈ value.toList.flatMap escapeValue,
      char ∉ ['<', '"'] ∧ (isSpace char = true → char = ' ') := by
    intro written member
    obtain ⟨char, -, member⟩ := List.mem_flatMap.mp member
    rcases mem_escapeValue member with reference | ⟨rfl, plain⟩
    · obtain ⟨space, plain⟩ := plain_of_mem_referenceChars reference
      simp_all
    · simp_all [isSpace]
  have valueEq : start.attribute? name (value.toList.flatMap escapeValue) =
      some ⟨start.tag, start.attributes ++ [(name, value)]⟩ := by
    rw [Start.attribute?, resolve?_flatMap resolve?_escapeValue, if_neg (by simpa using new)]
    simp
  calc State.run? ⟨progress, .inTag start false⟩ (attributeChars (name, value) ++ rest)
      = State.run? ⟨progress, .inTag start true⟩
          (name.toList ++ '=' :: '"' :: (value.toList.flatMap escapeValue ++ '"' :: rest)) := by
        rw [attributeChars]
        simp only [List.append_assoc, List.cons_append, List.nil_append]
        rfl
    _ = State.run? ⟨progress, .value start name '"' []⟩
          (value.toList.flatMap escapeValue ++ '"' :: rest) := by
        rw [State.run?_attributeName progress start named]
        exact State.run?_equals progress start name _
    _ = State.run? ⟨progress, .inTag ⟨start.tag, start.attributes ++ [(name, value)]⟩ false⟩
          rest := by
        rw [State.run?_value progress start name plain, State.run?_cons]
        simp only [State.step?, List.nil_append, if_true, valueEq, Option.map_some,
          Option.bind_some]

theorem run?_attributes {tag : String} {known attributes : List (String × String)}
    (named : ∀ pair ∈ attributes, isName pair.1.toList = true)
    (distinct : ((known ++ attributes).map Prod.fst).Nodup) (rest : List Char) :
    State.run? ⟨progress, .inTag ⟨tag, known⟩ false⟩
        (attributes.flatMap attributeChars ++ rest) =
      State.run? ⟨progress, .inTag ⟨tag, known ++ attributes⟩ false⟩ rest := by
  induction attributes generalizing known with
  | nil => rw [List.append_nil]; rfl
  | cons pair others ih =>
      rw [List.append_cons] at distinct
      have new : pair.1 ∉ known.map Prod.fst := by
        intro old
        rw [List.map_append, List.map_append] at distinct
        have apart := List.disjoint_of_nodup_append (List.nodup_append.mp distinct).1
        exact apart old (List.mem_singleton_self _)
      rw [List.flatMap_cons, List.append_assoc,
        run?_attribute progress ⟨tag, known⟩ (named pair List.mem_cons_self) new,
        ih (fun other member => named other (List.mem_cons_of_mem _ member)) distinct,
        ← List.append_cons]

/-- The beginning of an element ends the text before it. -/
theorem run?_tagChars {element : Element} (writable : element.Writable) {after : Progress}
    {written : List Char} (added : progress.addText? written = some after) {closer : Char}
    (behind : continuesName closer = false) (rest : List Char) :
    State.run? ⟨progress, .text written⟩
        (tagChars element.tag element.attributes ++ closer :: rest) =
      State.run? ⟨after, .inTag ⟨element.tag, element.attributes⟩ false⟩ (closer :: rest) := by
  have behindTag : State.run? ⟨after, .tag element.tag.toList⟩
      (element.attributes.flatMap attributeChars ++ closer :: rest) =
        State.run? ⟨after, .inTag ⟨element.tag, []⟩ false⟩
          (element.attributes.flatMap attributeChars ++ closer :: rest) := by
    nth_rewrite 2 [← @String.ofList_toList element.tag]
    cases element.attributes with
    | nil => exact State.run?_behindTag after _ _ behind
    | cons pair others => exact State.run?_behindTag after _ _ rfl
  rw [tagChars, List.append_assoc, List.append_assoc, List.singleton_append, State.run?_cons]
  simp only [State.step?, if_true, added, Option.map_some, Option.bind_some]
  have distinct : (([] ++ element.attributes).map Prod.fst).Nodup := writable.distinct
  rw [State.run?_tag after writable.tag, behindTag,
    run?_attributes after writable.names distinct, List.nil_append]

/-- The end of an element leaves it. -/
theorem run?_end {tag : String} (named : isName tag.toList = true)
    (attributes : List (String × String)) (content : List Node) (rest : List Char) :
    State.run? ⟨(progress.enter ⟨tag, attributes⟩).add content, .markup⟩
        ('/' :: (tag.toList ++ '>' :: rest)) =
      State.run? ⟨progress.add [.element tag attributes content], .text []⟩ rest := by
  set inside := (progress.enter ⟨tag, attributes⟩).add content with insideEq
  have left : inside.leave? tag = some (progress.add [.element tag attributes content]) := by
    rw [Progress.leave?]
    exact if_pos rfl
  have ended : State.step? ⟨inside, .endTag tag.toList⟩ '>' =
      some ⟨progress.add [.element tag attributes content], .text []⟩ := by
    cases tagEq : tag.toList with
    | nil => rw [tagEq] at named; cases named
    | cons first others =>
        have step : State.step? ⟨inside, .endTag (first :: others)⟩ '>' =
            (inside.leave? (String.ofList (first :: others))).map (⟨·, .text []⟩) := rfl
        rw [step, ← tagEq, String.ofList_toList, left]
        rfl
  have begun : State.run? ⟨inside, .markup⟩ ('/' :: (tag.toList ++ '>' :: rest)) =
      State.run? ⟨inside, .endTag []⟩ (tag.toList ++ '>' :: rest) := rfl
  rw [begun, State.run?_endTag inside named, State.run?_cons, ended, Option.bind_some]

/-- A text in an element is read as it was, and an empty one not at all. -/
theorem addText?_flatMap (start : Start) {text : String} :
    (progress.enter start).addText? (text.toList.flatMap escapeText) =
      some ((progress.enter start).add (if text = "" then [] else [.text text])) := by
  have noEnd : ¬ [']', ']', '>'] <:+: text.toList.flatMap escapeText := by
    intro ended
    have member : '>' ∈ text.toList.flatMap escapeText := ended.subset (by decide)
    exact not_mem_flatMap_escapeText text.toList (by decide) member
  have resolved := resolve?_flatMap resolve?_escapeText text.toList
  rw [Progress.addText?]
  by_cases blank : text = ""
  · subst blank
    rfl
  · have written : (text.toList.flatMap escapeText).isEmpty ≠ true := by
      intro isEmpty
      rw [List.isEmpty_iff.mp isEmpty, resolve?, Option.some.injEq] at resolved
      exact blank (String.toList_eq_nil_iff.mp resolved.symm)
    have isOpen : (progress.enter start).opened.isEmpty = false := rfl
    rw [if_neg blank, if_neg written, isOpen, if_neg Bool.false_ne_true, if_neg noEnd, resolved,
      Option.map_some, String.ofList_toList]

mutual

/-- A whole element is read behind a text, wherever it stands. -/
theorem run?_chars (element : Element) (sound : element.Sound)
    {progress after : Progress} {written : List Char}
    (added : progress.addText? written = some after) (rest : List Char) :
    State.run? ⟨progress, .text written⟩ (element.chars ++ rest) =
      State.run? ⟨after.add [element.node], .text []⟩ rest := by
  obtain ⟨tag, attributes, text, children⟩ := element
  rw [Sound, inOrder, List.forall_mem_cons] at sound
  obtain ⟨own, inner⟩ := sound
  rw [chars, node]
  split
  next isEmpty =>
    rw [Bool.and_eq_true, String.isEmpty_iff, List.isEmpty_iff] at isEmpty
    obtain ⟨rfl, rfl⟩ := isEmpty
    rw [List.append_assoc]
    exact run?_tagChars progress own added rfl ('/' :: '>' :: rest)
  next =>
    have noMarkup : '<' ∉ text.toList.flatMap escapeText :=
      not_mem_flatMap_escapeText text.toList (by decide)
    let start : Start := ⟨tag, attributes⟩
    let content := (if text = "" then [] else [.text text]) ++ allNodes children
    calc State.run? ⟨progress, .text written⟩
          (tagChars tag attributes ++ ['>'] ++ text.toList.flatMap escapeText ++
            allChars children ++ ['<', '/'] ++ tag.toList ++ ['>'] ++ rest)
        = State.run? ⟨progress, .text written⟩
            (tagChars tag attributes ++ '>' :: (text.toList.flatMap escapeText ++
              (allChars children ++ '<' :: '/' :: (tag.toList ++ '>' :: rest)))) := by
          simp only [List.append_assoc, List.cons_append, List.nil_append]
      _ = State.run? ⟨after.enter start, .text []⟩ (text.toList.flatMap escapeText ++
            (allChars children ++ '<' :: '/' :: (tag.toList ++ '>' :: rest))) :=
          run?_tagChars progress own added rfl _
      _ = State.run? ⟨after.enter start, .text (text.toList.flatMap escapeText)⟩
            (allChars children ++ '<' :: '/' :: (tag.toList ++ '>' :: rest)) :=
          State.run?_text (after.enter start) noMarkup [] _
      _ = State.run? ⟨(after.enter start).add content, .markup⟩
            ('/' :: (tag.toList ++ '>' :: rest)) := by
          rw [run?_allChars children inner (addText?_flatMap after start), Progress.add_add]
      _ = State.run? ⟨after.add [.element tag attributes content], .text []⟩ rest :=
          run?_end after own.tag attributes content rest
termination_by structural element

theorem run?_allChars (elements : List Element)
    (writable : ∀ part ∈ allInOrder elements, part.Writable) {progress after : Progress}
    {written : List Char} (added : progress.addText? written = some after) (rest : List Char) :
    State.run? ⟨progress, .text written⟩ (allChars elements ++ '<' :: rest) =
      State.run? ⟨after.add (allNodes elements), .markup⟩ rest := by
  cases elements with
  | nil =>
      rw [allChars, List.nil_append, State.run?_cons, allNodes, Progress.add_nil]
      simp only [State.step?, if_true, added, Option.map_some, Option.bind_some]
  | cons element others =>
      rw [allInOrder, List.forall_mem_append] at writable
      rw [allChars, List.append_assoc, run?_chars element writable.1 added,
        run?_allChars others writable.2 rfl, Progress.add_add]
      rfl
termination_by structural elements

end

theorem verbatim_of_isName {name : List Char} (named : isName name = true) :
    Verbatim name := by
  intro char member
  cases name with
  | nil => cases member
  | cons first others =>
      rw [isName, Bool.and_eq_true, List.all_eq_true] at named
      refine legal_of_continuesName ?_
      rcases List.mem_cons.mp member with rfl | later
      · rw [continuesName, named.1, Bool.true_or]
      · exact named.2 char later

theorem verbatim_tagChars {element : Element} (writable : element.Writable) :
    Verbatim (tagChars element.tag element.attributes) := by
  have each (pair : String × String) (member : pair ∈ element.attributes) :
      Verbatim (attributeChars pair) := by
    have value : Verbatim (pair.2.toList.flatMap escapeValue) :=
      .flatMap fun char inValue => verbatim_escapeValue (writable.values pair member char inValue)
    simp only [attributeChars, verbatim_append]
    exact ⟨⟨⟨⟨by decide, verbatim_of_isName (writable.names pair member)⟩, by decide⟩, value⟩,
      by decide⟩
  rw [tagChars, verbatim_append, verbatim_append]
  exact ⟨⟨by decide, verbatim_of_isName writable.tag⟩, .flatMap each⟩

mutual

/-- What is written of an element is read as it is, character by character. -/
theorem verbatim_chars (element : Element) (sound : element.Sound) :
    Verbatim element.chars := by
  obtain ⟨tag, attributes, text, children⟩ := element
  rw [Sound, inOrder, List.forall_mem_cons] at sound
  obtain ⟨own, inner⟩ := sound
  have start := verbatim_tagChars own
  have content : Verbatim (text.toList.flatMap escapeText) :=
    .flatMap fun char inText => verbatim_escapeText (own.text char inText)
  rw [chars]
  split
  · rw [verbatim_append]
    exact ⟨start, by decide⟩
  · simp only [verbatim_append]
    exact ⟨⟨⟨⟨⟨⟨start, by decide⟩, content⟩, verbatim_allChars children inner⟩, by decide⟩,
      verbatim_of_isName own.tag⟩, by decide⟩
termination_by structural element

theorem verbatim_allChars (elements : List Element)
    (writable : ∀ part ∈ allInOrder elements, part.Writable) :
    Verbatim (allChars elements) := by
  cases elements with
  | nil => exact fun char member => by cases member
  | cons element others =>
      rw [allInOrder, List.forall_mem_append] at writable
      rw [allChars, verbatim_append]
      exact ⟨verbatim_chars element writable.1, verbatim_allChars others writable.2⟩
termination_by structural elements

end

end Svg.Element

theorem Text.normalizeLines_of_not_mem {text : List Char} (noCarriage : '\r' ∉ text) :
    normalizeLines text = text := by
  fun_induction normalizeLines text <;> simp_all

/-- An element that can be written is read as it was. -/
theorem Svg.Element.read?_render {element : Element} (sound : element.Sound) :
    Xml.read? element.render = some element.node := by
  have verbatim := verbatim_chars element sound
  have normalized : Text.normalizeLines element.chars = element.chars :=
    Text.normalizeLines_of_not_mem fun member => (verbatim _ member).2 rfl
  have allLegal : element.chars.all isLegal = true := List.all_eq_true.mpr verbatim.legal
  have ran : State.run? {} (element.chars ++ []) =
      some ⟨({} : Progress).add [element.node], .text []⟩ :=
    run?_chars element sound rfl []
  rw [List.append_nil] at ran
  rw [Xml.read?, render, String.toList_ofList]
  simp only [normalized, allLegal, if_true, ran, Option.bind_some]
  obtain ⟨tag, attributes, text, children⟩ := element
  rfl

/-- What is read of `<d />` has no text, and the references are read as the characters. -/
example :
    Xml.read? "<a b=\"&lt;&#09;&quot;\">&amp;<d /></a>" =
      some (.element "a" [("b", "<\t\"")] [.text "&", .element "d" [] []]) := by
  cbv

end Lifeline
