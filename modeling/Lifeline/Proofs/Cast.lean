import Lifeline.Proofs.Forgetting
import Lifeline.Proofs.OpenFrames

/-!
# The cast of a script

Actors come into a script by declarations and by signals.  A signal brings in an actor
for each of its names that no actor answers to, under that name.  A later declaration may
take the same name once more, as a caption or as a nickname, so names are not unique.

The names of a signal are looked up twice: among the actors so far when its line is read,
and among all of them when it is laid out.  No actor ever leaves a script, so a name that
was answered to when the line was read still is, and every signal is placed.
-/

namespace Lifeline

variable {α : Type}

namespace Outline

variable [Scalar α] {outline : Outline α}

/-- Whether somebody answers to both names of every signal. -/
def Answered (outline : Outline α) : Prop :=
  ∀ content place, Event.signal content place ∈ outline.events →
    outline.actors.any (·.answersTo content.source) = true ∧
      outline.actors.any (·.answersTo content.destination) = true

/-- A signal comes into the row by a line that states it. -/
theorem mem_events_carryOut {statement : Statement} {content : Signal} {place : SignalPlace α}
    (member : Event.signal content place ∈ (outline.carryOut statement).events) :
    Event.signal content place ∈ outline.events ∨ statement = .signal (.ok content) := by
  cases statement with
  | close | alternative | brace | comment => exact Or.inl member
  | declaration kind caption nickname =>
      rw [carryOut] at member
      split at member <;> exact Or.inl member
  | note note =>
      rw [carryOut] at member
      split at member
      · exact Or.inl member
      · exact Or.inl (by simpa [append] using member)
  | conditional | lifetime | synchrony | numbering =>
      exact Or.inl (by simpa [carryOut, append] using member)
  | signal result =>
      cases result with
      | error fault => exact Or.inl member
      | ok stated =>
          rcases List.mem_append.mp member with before | added
          · exact Or.inl before
          · rw [Signal.events, List.mem_cons] at added
            rcases added with same | marker
            · cases same
              exact Or.inr rfl
            · cases activates : stated.activates <;> cases deactivates : stated.deactivates <;>
                simp [Signal.markers, activates, deactivates] at marker

theorem any_carryOut (statement : Statement) {name : String}
    (answered : outline.actors.any (·.answersTo name) = true) :
    (outline.carryOut statement).actors.any (·.answersTo name) = true := by
  cases statement with
  | close | alternative | brace | comment | conditional | lifetime | synchrony | numbering =>
      exact answered
  | declaration kind caption nickname =>
      rw [carryOut]
      split
      · exact answered
      · simp only [List.any_append, answered, Bool.true_or]
  | note note =>
      rw [carryOut]
      split <;> exact answered
  | signal result =>
      cases result with
      | error fault => exact answered
      | ok stated =>
          simp only [carryOut, Draft.any_mention, answered, Bool.true_or]

theorem mem_events_of_mem_row {content : Signal} {place : SignalPlace α}
    (member : Event.signal content place ∈ outline.row) :
    Event.signal content place ∈ outline.events := by
  rw [row, List.mem_append] at member
  rcases member with inEvents | inNote
  · exact inEvents
  · rw [Option.mem_toList, Option.map_eq_some_iff] at inNote
    obtain ⟨note, -, impossible⟩ := inNote
    cases impossible

theorem Answered.carryOut (answered : outline.Answered) (statement : Statement) :
    (outline.carryOut statement).Answered := by
  intro content place member
  rcases mem_events_carryOut member with before | rfl
  · obtain ⟨source, destination⟩ := answered content place before
    exact ⟨any_carryOut statement source, any_carryOut statement destination⟩
  · simp [Outline.carryOut, Draft.any_mention]

end Outline

theorem Script.answered_read [Scalar α] (text : String) {content : Signal}
    {place : SignalPlace α}
    (member : .signal content place ∈
      Event.flattenAll (Script.read text : Diagram α).events) :
    (Script.read text : Diagram α).actors.any (·.answersTo content.source) = true ∧
      (Script.read text : Diagram α).actors.any (·.answersTo content.destination) = true := by
  have answered : (Outline.ofText text.toList : Outline α).Answered :=
    Outline.readLines_keeps (fun _ answered => answered.carryOut) (fun _ answered _ => answered)
      (fun _ answered content place member =>
        answered content place (Outline.mem_events_of_mem_row member))
      (fun _ _ impossible => by cases impossible) _
  have agrees : (Outline.ofText text.toList : Outline α).Agrees _ :=
    Outline.agrees_ofText text.toList
  rw [read, Draft.flattenAll_allEvents, ← agrees.row_eq] at member
  have found := answered content place (Outline.mem_events_of_mem_row member)
  rwa [agrees.actors] at found

def Statement.isDeclaration : Statement → Bool
  | .declaration _ _ _ => true
  | .close | .note _ | .conditional _ _ | .alternative _ | .lifetime _ _ | .synchrony _ | .brace
  | .numbering _ | .comment | .signal _ => false

/-- An actor as it comes into a script: by its declaration, or by a signal that names it. -/
structure Entrance (α : Type) where
  declared : Bool
  actor : Actor α

namespace Entrance

/-- Whether every actor that a signal has brought in goes by one name, to which no actor
before it answers. -/
structure Orderly (entrances : List (Entrance α)) : Prop where
  oneName : ∀ entrance ∈ entrances, entrance.declared = false →
    entrance.actor.nickname = entrance.actor.caption
  newName : entrances.Pairwise fun earlier later =>
    later.declared = false → earlier.actor.answersTo later.actor.caption = false

namespace Orderly

variable {known : List (Entrance α)}

theorem nil : Orderly ([] : List (Entrance α)) where
  oneName _ impossible := by cases impossible
  newName := .nil

theorem concat (orderly : Orderly known) {entrance : Entrance α}
    (enters : entrance.declared = true ∨
      entrance.actor.nickname = entrance.actor.caption ∧
        (known.map Entrance.actor).any (·.answersTo entrance.actor.caption) = false) :
    Orderly (known ++ [entrance]) where
  oneName other member signalled := by
    rcases List.mem_append.mp member with before | last
    · exact orderly.oneName other before signalled
    · obtain rfl := List.mem_singleton.mp last
      rcases enters with declared | ⟨oneName, -⟩
      · exact absurd (declared.symm.trans signalled) Bool.noConfusion
      · exact oneName
  newName := by
    refine List.pairwise_append.mpr
      ⟨orderly.newName, List.pairwise_singleton _ _, fun earlier before later last => ?_⟩
    obtain rfl := List.mem_singleton.mp last
    intro signalled
    rcases enters with declared | ⟨-, newName⟩
    · exact absurd (declared.symm.trans signalled) Bool.noConfusion
    · rw [List.any_map, List.any_eq_false] at newName
      exact Bool.eq_false_iff.mpr (newName earlier before)

theorem nodup (orderly : Orderly known)
    (signalled : ∀ entrance ∈ known, entrance.declared = false) :
    ((known.map Entrance.actor).map Actor.caption).Nodup := by
  rw [List.map_map, List.Nodup, List.pairwise_map]
  refine orderly.newName.imp_of_mem fun {earlier later} _ inside newName same => ?_
  have answers := newName (signalled later inside)
  rw [Actor.answersTo, Bool.or_eq_false_iff, beq_eq_false_iff_ne] at answers
  exact answers.1 same

variable [Scalar α]

omit [Scalar α] in
theorem nobody (orderly : Orderly known) {declares : Bool} :
    ∃ added : List (Entrance α),
      known.map Entrance.actor = (known ++ added).map Entrance.actor ∧
        (∀ entrance ∈ added, entrance.declared = declares) ∧ Orderly (known ++ added) :=
  ⟨[], by simp, by simp, by simpa using orderly⟩

theorem mention (orderly : Orderly known) (name : String) :
    ∃ added : List (Entrance α),
      Draft.mention (known.map Entrance.actor) name = (known ++ added).map Entrance.actor ∧
        (∀ entrance ∈ added, entrance.declared = false) ∧ Orderly (known ++ added) := by
  rw [Draft.mention]
  split
  next => exact orderly.nobody
  next unanswered =>
    refine ⟨[⟨false, Actor.declare .participant name⟩], by simp, by simp, ?_⟩
    exact orderly.concat (Or.inr ⟨rfl, Bool.eq_false_iff.mpr unanswered⟩)

theorem actorsAfter (orderly : Orderly known) (statement : Statement) :
    ∃ added : List (Entrance α),
      FrameStack.actorsAfter (known.map Entrance.actor) statement =
          (known ++ added).map Entrance.actor ∧
        (∀ entrance ∈ added, entrance.declared = statement.isDeclaration) ∧
        Orderly (known ++ added) := by
  cases statement with
  | declaration kind caption nickname =>
      rw [FrameStack.actorsAfter]
      split
      · exact orderly.nobody
      · refine ⟨[⟨true, Actor.declare kind caption nickname⟩], by simp, ?_,
          orderly.concat (Or.inl rfl)⟩
        intro entrance member
        rw [List.mem_singleton.mp member]
        rfl
  | signal result =>
      cases result with
      | error fault => exact orderly.nobody
      | ok stated =>
          obtain ⟨first, firstEq, firstSignalled, ordered⟩ := orderly.mention stated.source
          obtain ⟨second, secondEq, secondSignalled, bothOrdered⟩ :=
            ordered.mention stated.destination
          refine ⟨first ++ second, ?_, ?_, ?_⟩
          · rw [FrameStack.actorsAfter, firstEq, secondEq, List.append_assoc]
          · intro entrance member
            exact (List.mem_append.mp member).elim (firstSignalled entrance)
              (secondSignalled entrance)
          · rwa [← List.append_assoc]
  | close | note | conditional | alternative | lifetime | synchrony | brace | numbering
  | comment => exact orderly.nobody

end Orderly

end Entrance

namespace Draft

variable [Scalar α] (draft : Draft α)

def entrances (line : List Char) : List (Entrance α) :=
  ((draft.readLine line).actors.drop draft.actors.length).map fun actor =>
    ⟨(Statement.read (Text.trim line)).isDeclaration, actor⟩

def cast (draft : Draft α) : List (List Char) → List (Entrance α)
  | [] => []
  | line :: rest => draft.entrances line ++ (draft.readLine line).cast rest

theorem actors_readLine (line : List Char) :
    (draft.readLine line).actors =
      if draft.note.isSome then draft.actors
      else FrameStack.actorsAfter draft.actors (Statement.read (Text.trim line)) := by
  rw [readLine]
  cases noteEq : draft.note with
  | none => exact (actorsAfter_actors draft _ _).symm
  | some note =>
      cases Statement.read (Text.trim line) with
      | close => exact actors_close draft
      | declaration | note | conditional | alternative | lifetime | synchrony | brace
      | numbering | comment | signal => rfl

variable {draft}

theorem entrances_eq {line : List Char} {known added : List (Entrance α)}
    (knownEq : known.map Entrance.actor = draft.actors)
    (actorsEq : (draft.readLine line).actors = (known ++ added).map Entrance.actor)
    (declaredEq : ∀ entrance ∈ added,
      entrance.declared = (Statement.read (Text.trim line)).isDeclaration) :
    draft.entrances line = added := by
  rw [entrances, actorsEq, ← knownEq, List.map_append, List.drop_left, List.map_map]
  refine (List.map_congr_left fun entrance member => ?_).trans (List.map_id added)
  rw [Function.comp_apply, ← declaredEq entrance member, id_eq]

theorem orderly_entrances (line : List Char) {known : List (Entrance α)}
    (knownEq : known.map Entrance.actor = draft.actors)
    (orderly : Entrance.Orderly known) :
    (draft.readLine line).actors = (known ++ draft.entrances line).map Entrance.actor ∧
      Entrance.Orderly (known ++ draft.entrances line) := by
  obtain ⟨added, actorsEq, declaredEq, ordered⟩ : ∃ added : List (Entrance α),
      (draft.readLine line).actors = (known ++ added).map Entrance.actor ∧
        (∀ entrance ∈ added,
          entrance.declared = (Statement.read (Text.trim line)).isDeclaration) ∧
        Entrance.Orderly (known ++ added) := by
    rw [actors_readLine, ← knownEq]
    split
    -- A line of an annotation brings nobody in, whatever it would state elsewhere.
    · exact orderly.nobody
    · exact orderly.actorsAfter _
  rw [entrances_eq knownEq actorsEq declaredEq]
  exact ⟨actorsEq, ordered⟩

/-- Lines bring actors in one after the other, after those that are known. -/
theorem orderly_cast (draft : Draft α) (lines : List (List Char)) {known : List (Entrance α)}
    (knownEq : known.map Entrance.actor = draft.actors)
    (orderly : Entrance.Orderly known) :
    (draft.readLines lines).actors = (known ++ draft.cast lines).map Entrance.actor ∧
      Entrance.Orderly (known ++ draft.cast lines) := by
  induction lines generalizing draft known with
  | nil => exact ⟨by simp [readLines, cast, knownEq], by simpa [cast] using orderly⟩
  | cons line rest ih =>
      obtain ⟨actorsEq, ordered⟩ := orderly_entrances line knownEq orderly
      have later := ih (draft.readLine line) actorsEq.symm ordered
      rwa [List.append_assoc] at later

theorem declared_of_mem_cast {lines : List (List Char)} {entrance : Entrance α}
    (member : entrance ∈ draft.cast lines) :
    ∃ line ∈ lines,
      entrance.declared = (Statement.read (Text.trim line)).isDeclaration := by
  induction lines generalizing draft with
  | nil => cases member
  | cons line rest ih =>
      rw [cast, List.mem_append] at member
      rcases member with byLine | later
      · obtain ⟨actor, -, rfl⟩ := List.mem_map.mp byLine
        exact ⟨line, List.mem_cons_self, rfl⟩
      · obtain ⟨other, inRest, declaredEq⟩ := ih later
        exact ⟨other, List.mem_cons_of_mem _ inRest, declaredEq⟩

end Draft

theorem Diagram.exists_signal_of_mem_layout [Scalar α] {measure : Measurer α}
    {sizes : Sizes α} {diagram : Diagram α} {content : Signal} {place : SignalPlace α}
    (member : .signal content place ∈
      Event.flattenAll (diagram.layout measure sizes).1.events) :
    ∃ before, .signal content before ∈ Event.flattenAll diagram.events := by
  have blankEq : Event.allBlank (diagram.layout measure sizes).1.events =
      Event.allBlank diagram.events :=
    congrArg Diagram.events (diagram.blank_layout measure sizes)
  have rowsEq := congrArg Event.flattenAll blankEq
  rw [← Event.allErase_all, ← Event.allErase_all, Event.flattenAll_allErase,
    Event.flattenAll_allErase] at rowsEq
  have erased := List.mem_map_of_mem (f := Event.erase .all) member
  rw [rowsEq, List.mem_map] at erased
  obtain ⟨row, inRow, rowEq⟩ := erased
  cases row with
  | signal other before =>
      obtain ⟨rfl, -⟩ := Event.signal.inj rowEq
      exact ⟨before, inRow⟩
  | note | conditional | synchrony | lifetime | numbering => cases rowEq

/-- Whether there is an actor for each name of a signal. -/
def Diagram.SignalsAnswered (diagram : Diagram α) : Prop :=
  ∀ content place, .signal content place ∈ Event.flattenAll diagram.events →
    ∀ name ∈ [content.source, content.destination],
      ∃ actor ∈ diagram.actors, actor.answersTo name = true

/-- Whether every signal is placed, between the lanes of the actors that its names mean. -/
def Diagram.SignalsStand (diagram : Diagram α) : Prop :=
  ∀ content place, .signal content place ∈ Event.flattenAll diagram.events →
    place.placed = true ∧
      ∃ source destination,
        diagram.directory.ends? content.source content.destination =
            some (source, destination) ∧
          place.startX = some source.actor.laneX ∧ place.endX = some destination.actor.laneX

/-- A layout in which every signal finds its ends places it there. -/
theorem Diagram.signalsStand_layout [Scalar α] (measure : Measurer α) (sizes : Sizes α)
    (diagram : Diagram α)
    (found : ∀ content place, .signal content place ∈ Event.flattenAll diagram.events →
      content.resolves diagram.directory = true) :
    (diagram.layout measure sizes).1.SignalsStand := by
  intro content place member
  obtain ⟨before, stated⟩ := exists_signal_of_mem_layout member
  have resolves := found content before stated
  cases diagram.rests_of_mem_layout measure sizes member with
  | signal _ y endsEq =>
      rw [← bearings_layout, Directory.ends?_bearings, Option.map_eq_some_iff] at endsEq
      obtain ⟨⟨source, destination⟩, endsEq, positions⟩ := endsEq
      obtain ⟨startEq, endEq⟩ := Prod.mk.inj positions
      exact ⟨rfl, source, destination, endsEq, congrArg some startEq.symm,
        congrArg some endEq.symm⟩
  | lostSignal _ endsEq =>
      rw [← isSome_ends?_bearings measure sizes, endsEq] at resolves
      cases resolves

namespace Script

/-- No signal of a script is lost: there is an actor for each of its names, actors that
signals bring in have names of their own, and a layout places every signal between the
lanes of the actors that its names mean. -/
theorem signals_placed [Scalar α] (text : String) :
    (Script.read text : Diagram α).SignalsAnswered ∧
      ((Draft.cast {} (Text.lines text.toList)).map Entrance.actor =
          (Script.read text : Diagram α).actors ∧
        Entrance.Orderly (Draft.cast {} (Text.lines text.toList) : List (Entrance α)) ∧
        ((∀ line ∈ Text.lines text.toList,
            (Statement.read (Text.trim line)).isDeclaration = false) →
          ((Script.read text : Diagram α).actors.map Actor.caption).Nodup)) ∧
      ∀ (measure : Measurer α) (sizes : Sizes α),
        Event.allBlank ((Script.read text).layout measure sizes).1.events =
            Event.allBlank (Script.read text).events ∧
          ((Script.read text).layout measure sizes).1.SignalsStand := by
  obtain ⟨actorsEq, orderly⟩ :=
    Draft.orderly_cast ({} : Draft α) (Text.lines text.toList) rfl Entrance.Orderly.nil
  refine ⟨fun content place stated name named => ?_,
    ⟨actorsEq.symm, orderly, fun plain => ?_⟩, fun measure sizes => ⟨?_, ?_⟩⟩
  · obtain ⟨source, destination⟩ := answered_read text stated
    rw [List.any_eq_true] at source destination
    rcases List.mem_pair.mp named with rfl | rfl
    · exact source
    · exact destination
  · have distinct := orderly.nodup fun entrance member => by
      obtain ⟨line, inText, declaredEq⟩ := Draft.declared_of_mem_cast member
      exact declaredEq.trans (plain line inText)
    rwa [← actorsEq] at distinct
  · exact congrArg Diagram.events ((Script.read text).blank_layout measure sizes)
  · refine Diagram.signalsStand_layout measure sizes _ fun content place stated => ?_
    rw [Signal.resolves_eq, Diagram.directory, Directory.isSome_find?_ofActors,
      Directory.isSome_find?_ofActors, Bool.and_eq_true]
    exact answered_read text stated

/-- A script that declares an actor under two names which others before it have. -/
def namesake : String :=
  "participant Alice as A\nA->Bob: hi\nparticipant Bob as A"

/-- Both names of its signal come to mean the actor that is declared last. -/
theorem signals_placed_namesake :
    (∃ actor ∈ (Script.read namesake : Diagram Rat).actors, actor.answersTo "A" = true) ∧
      ((Script.read "A->B: x\nB->A: y" : Diagram Rat).actors.map Actor.caption).Nodup ∧
      ∃ (place : SignalPlace Rat) (source destination : Entry Rat),
        ((Script.read namesake).layout Measurer.cells Sizes.cells).1.directory.ends?
            "A" "Bob" = some (source, destination) ∧
          place.startX = some source.actor.laneX ∧
            place.endX = some destination.actor.laneX := by
  have readEq (β : Type) [Scalar β] : (Script.read namesake : Diagram β) =
      { actors :=
          [Actor.declare .participant "Alice" "A", Actor.declare .participant "Bob",
            Actor.declare .participant "Bob" "A"]
        events := [.signal { caption := "hi", source := "A", destination := "Bob" } {}] } := by
    cbv
  have stated : .signal { caption := "hi", source := "A", destination := "Bob" } {} ∈
      Event.flattenAll (Script.read namesake : Diagram Rat).events := by
    rw [readEq]
    exact List.mem_singleton_self _
  obtain ⟨place, laid⟩ : ∃ place,
      .signal { caption := "hi", source := "A", destination := "Bob" } place ∈
        Event.flattenAll
          ((Script.read namesake : Diagram Rat).layout Measurer.cells Sizes.cells).1.events := by
    rw [readEq]
    exact ⟨_, List.mem_singleton_self _⟩
  have plain : ∀ line ∈ Text.lines "A->B: x\nB->A: y".toList,
      (Statement.read (Text.trim line)).isDeclaration = false := by
    have none : (Text.lines "A->B: x\nB->A: y".toList).all
        (fun line => !(Statement.read (Text.trim line)).isDeclaration) = true := by cbv
    simpa using none
  obtain ⟨answered, -, placed⟩ := signals_placed (α := Rat) namesake
  obtain ⟨-, ⟨-, -, distinct⟩, -⟩ := signals_placed (α := Rat) "A->B: x\nB->A: y"
  obtain ⟨-, stand⟩ := placed Measurer.cells Sizes.cells
  obtain ⟨-, ends⟩ := stand _ _ laid
  exact ⟨answered _ _ stated "A" List.mem_cons_self, distinct plain, place, ends⟩

end Script

end Lifeline
