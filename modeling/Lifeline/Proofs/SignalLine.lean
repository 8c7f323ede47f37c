import Lifeline.Proofs.Outline
import Lifeline.Proofs.Text.Blank

/-!
# The lines that are signals

Which lines are signals, and what signals they are, is said here without any scanning: a
line is written as a source, an arrow, a destination, a colon and a caption, and the names
are what is left of its ends when dash and flags are taken off.

A line is taken as a signal as a whole or not at all.  Whatever is wrong with it, it leaves
no actor and no event behind, only one remark.
-/

namespace Lifeline

namespace Signal

/-- Whether a line is written as a source, an arrow, a destination, a colon and a caption.
The colon is the first that stands behind an even number of double quotes, and the arrow is
the first of all. -/
structure Shaped (line source destination caption : List Char) : Prop where
  line : line = (source ++ (['-', '>'] ++ destination)) ++ ':' :: caption
  unquoted : Even ((source ++ (['-', '>'] ++ destination)).count '"')
  firstColon : ∀ front back, source ++ (['-', '>'] ++ destination) = front ++ ':' :: back →
    ¬ Even (front.count '"')
  firstArrow : ¬ ['-', '>'] <:+: source
  caption : caption ≠ []

/-- The arrow cannot begin in one part and end behind it, so its first occurrence is where
nothing before it holds one. -/
theorem cutAt?_arrow {source rest : List Char} (apart : ¬ ['-', '>'] <:+: source) :
    Text.cutAt? ['-', '>'] (source ++ (['-', '>'] ++ rest)) = some (source, rest) := by
  induction source with
  | nil => exact Text.cutAt?_mark (List.cons_ne_nil _ _)
  | cons char others ih =>
      have notHere : ¬ ['-', '>'] <+: char :: (others ++ (['-', '>'] ++ rest)) := by
        intro occurs
        obtain ⟨rfl, next⟩ := List.cons_prefix_cons.mp occurs
        cases others with
        | nil => simp at next
        | cons second others =>
            obtain ⟨rfl, -⟩ := List.cons_prefix_cons.mp next
            exact apart ⟨[], others, rfl⟩
      have othersApart : ¬ ['-', '>'] <:+: others := fun occurs => apart (List.infix_cons occurs)
      rw [List.cons_append, Text.cutAt?_cons notHere, ih othersApart]
      rfl

variable {line source destination caption : List Char}

theorem Shaped.read_eq (shaped : Shaped line source destination caption) :
    read line = ofEnds source destination caption := by
  have upTo : Text.UpToUnquoted ':' 0 (source ++ (['-', '>'] ++ destination)) := by
    refine ⟨?_, fun front back textEq => ?_⟩
    · rw [Nat.zero_add]
      exact shaped.unquoted
    · rw [Nat.zero_add]
      exact shaped.firstColon front back textEq
  have cutColon : Text.cutUnquoted ':' line =
      (source ++ (['-', '>'] ++ destination), caption) := by
    have found : Text.cutUnquoted? ':' false line = some (_, caption) :=
      shaped.line ▸ Text.cutUnquoted?_complete (by decide) upTo
    rw [Text.cutUnquoted, found, Option.getD_some]
  simp only [read, cutColon, cutAt?_arrow shaped.firstArrow]
  rw [if_neg (by simpa using shaped.caption)]

/-- A line that is not found fault with for its shape has one. -/
theorem exists_shaped (read_ne : read line ≠ .error .shape) :
    ∃ source destination caption, Shaped line source destination caption := by
  rw [read, Text.cutUnquoted] at read_ne
  cases colonEq : Text.cutUnquoted? ':' false line with
  | none =>
      -- Without a colon there is no caption, and that is a fault of shape with or without an arrow.
      rw [colonEq] at read_ne
      simp only [Option.getD_none, List.isEmpty_nil, if_true] at read_ne
      split at read_ne <;> exact absurd rfl read_ne
  | some halves =>
      obtain ⟨ends, caption⟩ := halves
      obtain ⟨lineEq, upTo⟩ := Text.cutUnquoted?_sound (by decide) 0 colonEq
      rw [colonEq] at read_ne
      simp only [Option.getD_some] at read_ne
      cases arrowEq : Text.cutAt? ['-', '>'] ends with
      | none =>
          rw [arrowEq] at read_ne
          exact absurd rfl read_ne
      | some halves =>
          obtain ⟨source, destination⟩ := halves
          obtain ⟨rfl, apart⟩ := Text.cutAt?_sound (List.cons_ne_nil _ _) arrowEq
          rw [arrowEq] at read_ne
          have written : caption ≠ [] := by
            rintro rfl
            exact read_ne rfl
          have unquoted := upTo.outside
          have firstColon := upTo.inside
          simp only [Nat.zero_add] at unquoted firstColon
          exact ⟨source, destination, caption, lineEq, unquoted, firstColon, apart, written⟩

/-- Whether a flag is taken off the front of a text that begins with it, or the text begins
otherwise and is left as it is. -/
def Flagged (flag : Char) (present : Bool) (text rest : List Char) : Prop :=
  if present then text = flag :: rest else text = rest ∧ text.head? ≠ some flag

/-- Whether a dash is taken off the end of a text that ends with it, or the text ends
otherwise and is left as it is. -/
def Dashed (present : Bool) (text rest : List Char) : Prop :=
  if present then text = rest ++ ['-'] else text = rest ∧ text.getLast? ≠ some '-'

theorem takeFlag_eq_iff {flag : Char} {present : Bool} {text rest : List Char} :
    takeFlag flag text = (present, rest) ↔ Flagged flag present text rest := by
  rw [Flagged]
  cases text with
  | nil => cases present <;> simp [takeFlag]
  | cons char others =>
      by_cases begins : char = flag
      · cases present <;> simp [takeFlag, begins]
      · cases present <;> simp [takeFlag, begins]

theorem takeDash_eq_iff {present : Bool} {text rest : List Char} :
    takeDash text = (present, rest) ↔ Dashed present text rest := by
  rw [takeDash, Dashed]
  by_cases ends : text.getLast? = some '-'
  · obtain ⟨others, rfl⟩ := List.getLast?_eq_some_iff.mp ends
    cases present <;> simp
  · rw [if_neg ends]
    cases present with
    | false => simp [ends]
    | true =>
        simp only [Prod.mk.injEq, Bool.false_eq_true, false_and, if_true, false_iff]
        rintro rfl
        exact ends (List.getLast?_concat ..)

/-- Whether a text writes the source of a signal, with a dash behind it if it is dotted. -/
def WritesSource (signal : Signal) (text : List Char) : Prop :=
  ∃ name, Dashed signal.dotted (Text.unquote text) name ∧
    signal.source = String.ofList (Text.trim name)

/-- Whether a text writes the destination of a signal, with its flags in front. -/
def WritesDestination (signal : Signal) (text : List Char) : Prop :=
  ∃ spawned activated deactivated name,
    Flagged '>' signal.openHead (Text.unquote text) spawned ∧
      Flagged '*' signal.spawns spawned activated ∧
      Flagged '+' signal.activates activated deactivated ∧
      Flagged '-' signal.deactivates deactivated name ∧
      signal.destination = String.ofList (Text.trim name)

structure WrittenBy (signal : Signal) (source destination caption : List Char) : Prop where
  source : signal.WritesSource source
  destination : signal.WritesDestination destination
  named : signal.source ≠ "" ∧ signal.destination ≠ ""
  caption : signal.caption = String.ofList (Text.trim caption)

def StatedBy (signal : Signal) (line : List Char) : Prop :=
  ∃ source destination caption,
    Shaped line source destination caption ∧ signal.WrittenBy source destination caption

theorem ofEnds_complete {signal : Signal}
    (written : signal.WrittenBy source destination caption) :
    ofEnds source destination caption = .ok signal := by
  obtain ⟨⟨sourceName, dash, sourceEq⟩, ⟨spawned, activated, deactivated, name, opens, spawns,
    activates, deactivates, nameEq⟩, named, captionEq⟩ := written
  rw [← takeDash_eq_iff] at dash
  rw [← takeFlag_eq_iff] at opens spawns activates deactivates
  have nonempty : ¬ ((Text.trim sourceName).isEmpty || (Text.trim name).isEmpty) = true := by
    rw [sourceEq, nameEq] at named
    simpa [List.isEmpty_iff] using named
  simp only [ofEnds, dash, opens, spawns, activates, deactivates]
  rw [if_neg nonempty, ← sourceEq, ← nameEq, ← captionEq]

theorem ofEnds_sound {signal : Signal} (read : ofEnds source destination caption = .ok signal) :
    signal.WrittenBy source destination caption := by
  simp only [ofEnds] at read
  split at read
  case isTrue => cases read
  case isFalse nonempty =>
    obtain rfl := Except.ok.inj read
    constructor
    · exact ⟨_, takeDash_eq_iff.mp rfl, rfl⟩
    · exact ⟨_, _, _, _, takeFlag_eq_iff.mp rfl, takeFlag_eq_iff.mp rfl, takeFlag_eq_iff.mp rfl,
        takeFlag_eq_iff.mp rfl, rfl⟩
    · simpa [List.isEmpty_iff] using nonempty
    · rfl

theorem ofEnds_ne_shape : ofEnds source destination caption ≠ .error .shape := by
  simp only [ofEnds]
  split <;> simp

theorem read_eq_ok_iff {signal : Signal} : read line = .ok signal ↔ signal.StatedBy line := by
  constructor
  · intro readEq
    obtain ⟨source, destination, caption, shaped⟩ := exists_shaped (by rw [readEq]; simp)
    rw [shaped.read_eq] at readEq
    exact ⟨source, destination, caption, shaped, ofEnds_sound readEq⟩
  · rintro ⟨source, destination, caption, shaped, written⟩
    rw [shaped.read_eq]
    exact ofEnds_complete written

/-- The fault of a line that states no signal is its shape, if it has not got that of a
signal. -/
theorem read_eq_error_shape_iff :
    read line = .error .shape ↔ ¬ ∃ source destination caption,
      Shaped line source destination caption := by
  constructor
  · rintro readEq ⟨source, destination, caption, shaped⟩
    rw [shaped.read_eq] at readEq
    exact ofEnds_ne_shape readEq
  · exact fun shapeless => not_not.mp fun read_ne => shapeless (exists_shaped read_ne)

theorem Flagged.subset {flag : Char} {present : Bool} {text rest : List Char}
    (flagged : Flagged flag present text rest) : rest ⊆ text := by
  rw [Flagged] at flagged
  split at flagged
  · rw [flagged]
    exact List.subset_cons_self flag rest
  · rw [flagged.1]
    exact List.Subset.refl rest

theorem Dashed.subset {present : Bool} {text rest : List Char}
    (dashed : Dashed present text rest) : rest ⊆ text := by
  rw [Dashed] at dashed
  split at dashed
  · rw [dashed]
    exact List.subset_append_left rest _
  · rw [dashed.1]
    exact List.Subset.refl rest

theorem StatedBy.of_end {signal : Signal} (stated : signal.StatedBy line) {name : String}
    (atEnd : name = signal.source ∨ name = signal.destination) :
    name ≠ "" ∧ Text.trim name.toList = name.toList ∧
      ∀ char ∈ name.toList, char ∈ line ∧ char ≠ '"' := by
  obtain ⟨source, destination, caption, shaped, ⟨sourceName, dash, sourceEq⟩, ⟨spawned, activated,
    deactivated, destinationName, opens, spawns, activates, deactivates, destinationEq⟩, named, -⟩
    := stated
  have fromSource : sourceName ⊆ Text.unquote source := dash.subset
  have fromDestination : destinationName ⊆ Text.unquote destination := fun char member =>
    opens.subset (spawns.subset (activates.subset (deactivates.subset member)))
  rcases atEnd with rfl | rfl
  · refine ⟨named.1, by rw [sourceEq, String.toList_ofList, Text.trim_trim], ?_⟩
    intro char member
    rw [sourceEq, String.toList_ofList] at member
    obtain ⟨inSource, notQuote⟩ :=
      Text.mem_of_mem_unquote (fromSource (Text.mem_of_mem_trim member))
    exact ⟨by simp [shaped.line, inSource], notQuote⟩
  · refine ⟨named.2, by rw [destinationEq, String.toList_ofList, Text.trim_trim], ?_⟩
    intro char member
    rw [destinationEq, String.toList_ofList] at member
    obtain ⟨inDestination, notQuote⟩ :=
      Text.mem_of_mem_unquote (fromDestination (Text.mem_of_mem_trim member))
    exact ⟨by simp [shaped.line, inDestination], notQuote⟩

end Signal

namespace Draft

variable {α : Type} [Scalar α]

/-- The names of a signal that are neither the caption nor the nickname of an actor, each
once. -/
def newcomers (actors : List (Actor α)) (signal : Signal) : List String :=
  [signal.source, signal.destination].eraseDups.filter fun name =>
    actors.all fun actor => actor.caption != name && actor.nickname != name

theorem mention_eq_append (actors : List (Actor α)) (name : String) :
    mention actors name =
      actors ++
        if actors.any (·.answersTo name) then [] else [Actor.declare .participant name] := by
  rw [mention]
  split
  · rw [List.append_nil]
  · rfl

/-- A signal from a new name to itself brings in one actor, not two. -/
theorem mention_mention (actors : List (Actor α)) (signal : Signal) :
    mention (mention actors signal.source) signal.destination =
      actors ++ (newcomers actors signal).map (Actor.declare .participant ·) := by
  have unknown (name : String) :
      (actors.all fun actor => actor.caption != name && actor.nickname != name) =
        !actors.any (·.answersTo name) := by
    rw [List.not_any_eq_all_not]
    simp only [Actor.answersTo, Bool.not_or, bne]
  -- The destination is looked for among the actors that the source may have joined just now.
  rw [newcomers, mention_eq_append _ signal.destination, any_mention, mention_eq_append,
    List.append_assoc]
  congr 1
  by_cases same : signal.source = signal.destination
  · have once : [signal.source, signal.destination].eraseDups = [signal.source] := by
      simp [same, List.eraseDups_cons]
    rw [once, List.filter_cons, List.filter_nil, unknown, same, BEq.rfl, Bool.or_true, if_pos rfl,
      List.append_nil]
    cases actors.any (·.answersTo signal.destination) <;> rfl
  · have both : [signal.source, signal.destination].eraseDups =
        [signal.source, signal.destination] := by
      simp [List.eraseDups_cons, Ne.symm same]
    rw [both, List.filter_cons, List.filter_cons, List.filter_nil, unknown, unknown,
      beq_eq_false_iff_ne.mpr same, Bool.or_false]
    cases actors.any (·.answersTo signal.source) <;>
      cases actors.any (·.answersTo signal.destination) <;> rfl

/-- The draft after a line that states a signal: behind the events so far stands the signal,
and behind it a marker for its destination to be activated and one for it to be deactivated,
if its flags say so; behind the actors so far stand the newcomers. -/
def sent (draft : Draft α) (signal : Signal) : Draft α :=
  { draft with
    events := draft.events ++ .signal signal {} ::
      ((if signal.activates then [.lifetime .activate signal.destination] else []) ++
        if signal.deactivates then [.lifetime .deactivate signal.destination] else [])
    actors := draft.actors ++ (newcomers draft.actors signal).map (Actor.declare .participant ·) }

theorem send_eq_sent (draft : Draft α) (signal : Signal) :
    draft.send signal = draft.sent signal := by
  rw [send, mention_mention]
  rfl

/-- Whether a line was taken as the signal that it states, or else nothing was taken of it
and there is one remark on it, unless it is empty. -/
structure TakenWhole (draft : Draft α) (line : String) (after : Draft α) : Prop where
  stated : ∀ signal : Signal, signal.StatedBy line.toList → after = draft.sent signal
  empty : line = "" → after = draft
  shapeless : line ≠ "" →
    (¬ ∃ source destination caption, Signal.Shaped line.toList source destination caption) →
    after = draft.remark (.unrecognizedLine line)
  unnamed : line ≠ "" →
    (∃ source destination caption, Signal.Shaped line.toList source destination caption) →
    (¬ ∃ signal : Signal, signal.StatedBy line.toList) → after = draft.remark (.unnamedEnd line)

/-- A line is read as a signal exactly if it states it, and is taken as a whole or not at
all. -/
theorem sendLine_takenWhole (draft : Draft α) (line : String) :
    (∀ signal, Signal.read line.toList = .ok signal ↔ signal.StatedBy line.toList) ∧
      draft.TakenWhole line (draft.sendLine line (Signal.read line.toList)) := by
  refine ⟨fun signal => Signal.read_eq_ok_iff, ?_, ?_, ?_, ?_⟩
  · intro signal stated
    rw [Signal.read_eq_ok_iff.mpr stated]
    exact draft.send_eq_sent signal
  · rintro rfl
    have fault : Signal.read "".toList = .error .shape := by decide
    rw [fault, sendLine, if_pos rfl]
  · intro nonempty shapeless
    rw [Signal.read_eq_error_shape_iff.mpr shapeless, sendLine, if_neg nonempty]
  · intro nonempty shaped unstated
    cases readEq : Signal.read line.toList with
    | ok signal => exact absurd ⟨signal, Signal.read_eq_ok_iff.mp readEq⟩ unstated
    | error fault =>
        cases fault with
        | shape => exact absurd shaped (Signal.read_eq_error_shape_iff.mp readEq)
        | unnamed => rw [sendLine, if_neg nonempty]

def quotedColon : String :=
  "\"A:\"-->>*+-B\"\" : first: second"

/-- A destination of which nothing is left when its flags are taken off. -/
def onlyFlags : String :=
  "A->+-: x"

theorem sendLine_takenWhole_quotedColon :
    (∃ signal : Signal, signal.source = "A:" ∧ signal.destination = "B" ∧ signal.dotted = true ∧
      signal.deactivates = true ∧ signal.caption = "first: second" ∧
      signal.StatedBy quotedColon.toList ∧
      (sendLine {} quotedColon (Signal.read quotedColon.toList) : Draft Rat) =
        sent {} signal) ∧
    (sendLine {} onlyFlags (Signal.read onlyFlags.toList) : Draft Rat) =
      remark {} (.unnamedEnd onlyFlags) := by
  constructor
  · have taken := sendLine_takenWhole ({} : Draft Rat) quotedColon
    have stated := (taken.1 ⟨"first: second", "A:", "B", true, true, true, true, true⟩).mp
      (by decide)
    exact ⟨_, rfl, rfl, rfl, rfl, rfl, stated, taken.2.stated _ stated⟩
  · have taken := sendLine_takenWhole ({} : Draft Rat) onlyFlags
    have unnamed : Signal.read onlyFlags.toList = .error .unnamed := by decide
    refine taken.2.unnamed (by decide) (Signal.exists_shaped (by rw [unnamed]; simp)) ?_
    rintro ⟨signal, stated⟩
    have read := (taken.1 signal).mpr stated
    rw [unnamed] at read
    cases read

end Draft

end Lifeline
