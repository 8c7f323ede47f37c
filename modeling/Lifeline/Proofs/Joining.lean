import Lifeline.Proofs.Cast
import Lifeline.Proofs.StrayBrace
import Mathlib.Data.List.Basic

/-!
# One script behind another

Two scripts can be put together, one behind the other.  If the first leaves no block open,
the second adds to it what it says alone: its events come behind those of the first, and so
do its actors, except those that only its signals bring in and to whose names an actor of
the first script answers already.

This holds whatever the second script says.  It may close blocks that were never opened or
leave blocks open, for its lines do not see the events of the first: they lie in the
outermost sequence, which nothing closes.  Which actors there are matters to signals alone,
and to nothing but whether they bring in an actor for a name.  An actor that the second
script does not need to bring in any more answered to no other name.
-/

namespace Lifeline

variable {α : Type}

/-- The lines of two texts with a newline between them. -/
theorem Text.lines_append (first second : List Char) :
    lines (first ++ '\n' :: second) = lines first ++ lines second :=
  List.splitOnP_append_cons first second (by decide)

namespace Block

/-- A block in a sequence that some events come before. -/
def behind (earlier : List (Event α)) : Block α → Block α
  | conditional before kind done caption entered =>
      conditional (earlier ++ before) kind done caption entered
  | synchrony before kind => synchrony (earlier ++ before) kind

/-- Blocks, innermost first, in an outermost sequence that some events come before. -/
def allBehind (earlier : List (Event α)) : List (Block α) → List (Block α)
  | [] => []
  | [outermost] => [outermost.behind earlier]
  | block :: next :: outer => block :: allBehind earlier (next :: outer)

/-- The sequence that is filled inside blocks: the outermost one if there are no blocks. -/
def filledBehind (earlier filled : List (Event α)) : List (Block α) → List (Event α)
  | [] => earlier ++ filled
  | _ :: _ => filled

theorem filledBehind_append (earlier filled added : List (Event α)) (blocks : List (Block α)) :
    filledBehind earlier filled blocks ++ added =
      filledBehind earlier (filled ++ added) blocks := by
  cases blocks with
  | nil => exact List.append_assoc ..
  | cons block outer => rfl

variable [Scalar α]

theorem complete_behind (earlier : List (Event α)) (block : Block α) (inner : List (Event α)) :
    (block.behind earlier).complete inner = earlier ++ block.complete inner := by
  cases block with
  | conditional | synchrony => exact List.append_assoc ..

/-- What is completed from the inside out comes behind the earlier events as a whole. -/
theorem foldl_complete_allBehind (earlier filled : List (Event α)) (blocks : List (Block α)) :
    (allBehind earlier blocks).foldl (fun inner block => block.complete inner)
        (filledBehind earlier filled blocks) =
      earlier ++ blocks.foldl (fun inner block => block.complete inner) filled := by
  induction blocks generalizing filled with
  | nil => rfl
  | cons block outer ih =>
      cases outer with
      | nil => exact complete_behind earlier block filled
      | cons next others => exact ih (block.complete filled)

end Block

namespace Draft

/-- Whether a draft holds what another does, with some events before it.  Who its actors
are and what was remarked does not matter. -/
structure Continues (earlier : List (Event α)) (alone joined : Draft α) : Prop where
  events : joined.events = Block.filledBehind earlier alone.events alone.blocks
  blocks : joined.blocks = Block.allBehind earlier alone.blocks
  note : joined.note = alone.note

namespace Continues

variable {earlier : List (Event α)} {alone joined : Draft α}

theorem append (continues : Continues earlier alone joined) (added : List (Event α)) :
    Continues earlier (alone.append added) (joined.append added) where
  events := by
    rw [Draft.append, continues.events, Block.filledBehind_append]
    rfl
  blocks := continues.blocks
  note := continues.note

theorem push (continues : Continues earlier alone joined) (block : List (Event α) → Block α)
    (behindEq : ∀ before, block (earlier ++ before) = (block before).behind earlier) :
    Continues earlier { alone with events := [], blocks := block alone.events :: alone.blocks }
      { joined with events := [], blocks := block joined.events :: joined.blocks } where
  events := rfl
  blocks := by
    simp only [continues.events, continues.blocks]
    cases alone.blocks with
    | nil => exact congrArg (List.cons · []) (behindEq alone.events)
    | cons block outer => rfl
  note := continues.note

variable [Scalar α]

theorem allEvents (continues : Continues earlier alone joined) :
    joined.allEvents = earlier ++ alone.allEvents := by
  rw [Draft.allEvents, Draft.allEvents, continues.note, continues.events, continues.blocks,
    ← Block.foldl_complete_allBehind]
  cases alone.note with
  | none => rfl
  | some note => simp only [Block.filledBehind_append]

theorem closeInnermost (continues : Continues earlier alone joined) :
    Continues earlier alone.closeInnermost joined.closeInnermost := by
  obtain ⟨actors, events, blocks, note, remarks⟩ := alone
  obtain ⟨joinedActors, joinedEvents, joinedBlocks, joinedNote, joinedRemarks⟩ := joined
  obtain ⟨eventsEq, blocksEq, noteEq⟩ := continues
  dsimp only at eventsEq blocksEq noteEq
  subst eventsEq blocksEq noteEq
  cases joinedNote with
  | some note => exact ⟨Block.filledBehind_append .., rfl, rfl⟩
  | none =>
      rcases blocks with _ | ⟨block, _ | ⟨next, outer⟩⟩
      · exact ⟨rfl, rfl, rfl⟩
      -- The sequence around the outermost block is the one that the earlier events begin.
      · cases block with
        | conditional before kind done caption entered =>
            cases entered with
            | true => exact ⟨rfl, rfl, rfl⟩
            | false =>
                exact ⟨Block.complete_behind earlier
                  (.conditional before kind done caption false) events, rfl, rfl⟩
        | synchrony before kind =>
            exact ⟨Block.complete_behind earlier (.synchrony before kind) events, rfl, rfl⟩
      · cases block with
        | conditional before kind done caption entered =>
            cases entered <;> exact ⟨rfl, rfl, rfl⟩
        | synchrony before kind => exact ⟨rfl, rfl, rfl⟩

omit [Scalar α] in
theorem exposed (continues : Continues earlier alone joined) :
    joined.exposed = alone.exposed := by
  rw [Draft.exposed, Draft.exposed, continues.note, continues.blocks]
  cases alone.note with
  | some note => rfl
  | none =>
      rcases alone.blocks with _ | ⟨block, _ | ⟨next, outer⟩⟩
      · rfl
      all_goals
        cases block with
        | conditional before kind done caption entered => cases entered <;> rfl
        | synchrony before kind => rfl

theorem close (continues : Continues earlier alone joined) :
    Continues earlier alone.close joined.close := by
  have closed := continues.closeInnermost
  rw [Draft.close, Draft.close, closed.exposed]
  split
  · exact closed.closeInnermost
  · exact closed

theorem alternative (continues : Continues earlier alone joined) (line caption : String) :
    Continues earlier (alone.alternative line caption) (joined.alternative line caption) := by
  have closed := continues.closeInnermost
  rw [Draft.alternative, Draft.alternative]
  generalize alone.closeInnermost = alone at closed
  generalize joined.closeInnermost = joined at closed
  obtain ⟨actors, events, blocks, note, remarks⟩ := alone
  obtain ⟨joinedActors, joinedEvents, joinedBlocks, joinedNote, joinedRemarks⟩ := joined
  obtain ⟨eventsEq, blocksEq, noteEq⟩ := closed
  dsimp only at eventsEq blocksEq noteEq
  subst eventsEq blocksEq noteEq
  cases joinedNote with
  | some note => exact ⟨rfl, rfl, rfl⟩
  | none =>
      rcases blocks with _ | ⟨block, _ | ⟨next, outer⟩⟩
      · exact ⟨rfl, rfl, rfl⟩
      all_goals
        cases block with
        | conditional before kind done last entered => cases entered <;> exact ⟨rfl, rfl, rfl⟩
        | synchrony before kind => exact ⟨rfl, rfl, rfl⟩

theorem carryOut (continues : Continues earlier alone joined) (line : String)
    (statement : Statement) :
    Continues earlier (alone.carryOut line statement) (joined.carryOut line statement) := by
  cases statement with
  | close => exact continues.close
  | declaration kind caption nickname =>
      rw [Draft.carryOut, Draft.carryOut, declare, declare]
      split <;> exact ⟨continues.events, continues.blocks, continues.note⟩
  | note note =>
      rw [Draft.carryOut, Draft.carryOut, annotate, annotate]
      split
      · exact ⟨continues.events, continues.blocks, rfl⟩
      · exact continues.append _
  | conditional kind caption =>
      exact continues.push (.conditional · kind [] caption true) fun _ => rfl
  | alternative caption => exact continues.alternative line caption
  | lifetime kind target => exact continues.append _
  | synchrony kind => exact continues.push (.synchrony · kind) fun _ => rfl
  | brace => exact continues.closeInnermost
  | numbering start => exact continues.append _
  | comment => exact continues
  | signal result =>
      cases result with
      | ok signal =>
          obtain ⟨events, blocks, note⟩ := continues.append signal.events
          exact ⟨events, blocks, note⟩
      | error fault =>
          rcases sendLine_error alone line fault with aloneEq | ⟨remark, aloneEq⟩ <;>
            rcases sendLine_error joined line fault with joinedEq | ⟨remark', joinedEq⟩ <;>
              rw [Draft.carryOut, Draft.carryOut, aloneEq, joinedEq] <;>
                exact ⟨continues.events, continues.blocks, continues.note⟩

theorem readLine (continues : Continues earlier alone joined) (line : List Char) :
    Continues earlier (alone.readLine line) (joined.readLine line) := by
  rw [Draft.readLine, Draft.readLine, continues.note]
  cases alone.note with
  | none => exact continues.carryOut _ _
  | some note =>
      cases Statement.read (Text.trim line) with
      | close => exact continues.close
      | declaration | conditional | alternative | lifetime | synchrony | brace | numbering
      | comment | signal | note => exact ⟨continues.events, continues.blocks, rfl⟩

theorem readLines (continues : Continues earlier alone joined) (lines : List (List Char)) :
    Continues earlier (alone.readLines lines) (joined.readLines lines) := by
  induction lines generalizing alone joined with
  | nil => exact continues
  | cons line rest ih => exact ih (continues.readLine line)

end Continues

/-- At the end of a script that leaves nothing open, another one begins as if it stood
alone. -/
theorem continues_of_closed {draft : Draft α} (closed : draft.depth = 0) :
    Continues draft.events {} draft := by
  obtain ⟨noteEq, blocksEq⟩ := depth_eq_zero_iff.mp closed
  exact ⟨(List.append_nil _).symm, blocksEq, noteEq⟩

end Draft

namespace Entrance

/-- The entrances that are made where others are there before: all declarations, and of the
actors that signals bring in those to whose names none of the others answers. -/
def beside (others : List (Actor α)) (entrances : List (Entrance α)) : List (Entrance α) :=
  entrances.filter fun entrance =>
    entrance.declared || !others.any (·.answersTo entrance.actor.caption)

/-- The actors after some entrances where others are there before. -/
def actorsBeside (others : List (Actor α)) (entrances : List (Entrance α)) :
    List (Actor α) :=
  others ++ (beside others entrances).map actor

variable {others : List (Actor α)} {known : List (Entrance α)} {name : String}

theorem actorsBeside_append (known added : List (Entrance α)) :
    actorsBeside others (known ++ added) =
      actorsBeside others known ++ (beside others added).map actor := by
  rw [actorsBeside, actorsBeside, beside, List.filter_append, List.map_append,
    List.append_assoc]
  rfl

/-- An actor that is missing beside the others is replaced by one that answers to its only
name. -/
theorem any_actorsBeside_of_any (orderly : Orderly known)
    (answered : (known.map actor).any (·.answersTo name) = true) :
    (actorsBeside others known).any (·.answersTo name) = true := by
  rw [List.any_map, List.any_eq_true] at answered
  obtain ⟨entrance, member, answers⟩ := answered
  rw [actorsBeside, List.any_append, Bool.or_eq_true]
  by_cases enters :
      (entrance.declared || !others.any (·.answersTo entrance.actor.caption)) = true
  · right
    rw [List.any_map, List.any_eq_true]
    exact ⟨entrance, List.mem_filter.mpr ⟨member, enters⟩, answers⟩
  · left
    rw [Bool.not_eq_true, Bool.or_eq_false_iff, Bool.not_eq_false'] at enters
    have oneName := orderly.oneName entrance member enters.1
    rw [Function.comp_apply, Actor.answersTo, oneName, Bool.or_self, beq_iff_eq] at answers
    rw [← answers]
    exact enters.2

theorem any_actorsBeside_of_not_any
    (unanswered : ¬ (known.map actor).any (·.answersTo name) = true) :
    (actorsBeside others known).any (·.answersTo name) = others.any (·.answersTo name) := by
  have nobody : ((beside others known).map actor).any (·.answersTo name) = false := by
    rw [List.any_map, List.any_eq_false]
    intro entrance member answers
    refine unanswered ?_
    rw [List.any_map, List.any_eq_true]
    exact ⟨entrance, List.mem_of_mem_filter member, answers⟩
  rw [actorsBeside, List.any_append, nobody, Bool.or_false]

theorem nobody_beside {declares : Bool} :
    ∃ added : List (Entrance α),
      known.map actor = (known ++ added).map actor ∧
        actorsBeside others known = actorsBeside others (known ++ added) ∧
        ∀ entrance ∈ added, entrance.declared = declares :=
  ⟨[], by simp, by simp, by simp⟩

variable [Scalar α]

/-- A name that is mentioned brings in the same actor beside others or none. -/
theorem Orderly.mention_beside (orderly : Orderly known) (others : List (Actor α))
    (name : String) :
    ∃ added : List (Entrance α),
      Draft.mention (known.map actor) name = (known ++ added).map actor ∧
        Draft.mention (actorsBeside others known) name =
          actorsBeside others (known ++ added) ∧
        (∀ entrance ∈ added, entrance.declared = false) ∧ Orderly (known ++ added) := by
  obtain ⟨added, mentionEq, signalled, ordered⟩ := orderly.mention name
  refine ⟨added, mentionEq, ?_, signalled, ordered⟩
  rw [Draft.mention] at mentionEq ⊢
  split at mentionEq
  next answered =>
    obtain rfl : added = [] := by simpa using mentionEq
    rw [if_pos (any_actorsBeside_of_any orderly answered), List.append_nil]
  next unanswered =>
    rw [List.map_append, List.append_cancel_left_eq, eq_comm, List.map_eq_singleton_iff]
      at mentionEq
    obtain ⟨⟨declared, newcomer⟩, rfl, rfl⟩ := mentionEq
    obtain rfl : declared = false := signalled _ (List.mem_singleton_self _)
    rw [any_actorsBeside_of_not_any unanswered, actorsBeside_append, beside]
    split <;> simp_all [Actor.declare]

theorem Orderly.actorsAfter_beside (orderly : Orderly known) (others : List (Actor α))
    (statement : Statement) :
    ∃ added : List (Entrance α),
      FrameStack.actorsAfter (known.map actor) statement = (known ++ added).map actor ∧
        FrameStack.actorsAfter (actorsBeside others known) statement =
          actorsBeside others (known ++ added) ∧
        ∀ entrance ∈ added, entrance.declared = statement.isDeclaration := by
  cases statement with
  | declaration kind caption nickname =>
      rw [FrameStack.actorsAfter, FrameStack.actorsAfter]
      split
      · exact nobody_beside
      · refine ⟨[⟨true, Actor.declare kind caption nickname⟩], by simp, ?_, ?_⟩
        · rw [actorsBeside_append]
          rfl
        · intro entrance member
          rw [List.mem_singleton.mp member]
          rfl
  | signal result =>
      cases result with
      | error fault => exact nobody_beside
      | ok stated =>
          obtain ⟨first, firstEq, firstBeside, firstSignalled, ordered⟩ :=
            orderly.mention_beside others stated.source
          obtain ⟨second, secondEq, secondBeside, secondSignalled, -⟩ :=
            ordered.mention_beside others stated.destination
          refine ⟨first ++ second, ?_, ?_, ?_⟩
          · rw [FrameStack.actorsAfter, firstEq, secondEq, List.append_assoc]
          · rw [FrameStack.actorsAfter, firstBeside, secondBeside, List.append_assoc]
          · intro entrance member
            exact (List.mem_append.mp member).elim (firstSignalled entrance)
              (secondSignalled entrance)
  | close | note | conditional | alternative | lifetime | synchrony | brace | numbering
  | comment => exact nobody_beside

end Entrance

namespace Draft

variable [Scalar α] {earlier : List (Event α)} {others : List (Actor α)}

theorem Continues.actors_readLine {alone joined : Draft α}
    (continues : Continues earlier alone joined) {known : List (Entrance α)}
    (knownEq : known.map Entrance.actor = alone.actors)
    (joinedEq : joined.actors = Entrance.actorsBeside others known)
    (orderly : Entrance.Orderly known) (line : List Char) :
    (joined.readLine line).actors =
      Entrance.actorsBeside others (known ++ alone.entrances line) := by
  obtain ⟨added, aloneAfter, joinedAfter, declaredEq⟩ : ∃ added : List (Entrance α),
      (alone.readLine line).actors = (known ++ added).map Entrance.actor ∧
        (joined.readLine line).actors = Entrance.actorsBeside others (known ++ added) ∧
        ∀ entrance ∈ added,
          entrance.declared = (Statement.read (Text.trim line)).isDeclaration := by
    rw [Draft.actors_readLine, Draft.actors_readLine, continues.note, joinedEq, ← knownEq]
    split
    · exact Entrance.nobody_beside
    · exact orderly.actorsAfter_beside others _
  rw [joinedAfter, entrances_eq knownEq aloneAfter declaredEq]

/-- Lines bring the same actors in behind another script, except those that only signals
name and that the other script knows. -/
theorem Continues.actors_readLines {alone joined : Draft α}
    (continues : Continues earlier alone joined) {known : List (Entrance α)}
    (knownEq : known.map Entrance.actor = alone.actors)
    (joinedEq : joined.actors = Entrance.actorsBeside others known)
    (orderly : Entrance.Orderly known) (lines : List (List Char)) :
    (joined.readLines lines).actors =
      Entrance.actorsBeside others (known ++ alone.cast lines) := by
  induction lines generalizing alone joined known with
  | nil => rw [cast, List.append_nil]; exact joinedEq
  | cons line rest ih =>
      obtain ⟨actorsEq, ordered⟩ := orderly_entrances line knownEq orderly
      rw [cast, ← List.append_assoc]
      exact ih (continues.readLine line) actorsEq.symm
        (continues.actors_readLine knownEq joinedEq orderly line) ordered

end Draft

namespace Script

/-- A script behind one that leaves nothing open adds the events that it states alone, and
of the actors that it has alone all but those that only its signals bring in and to whose
names an actor of the first script answers. -/
theorem read_joined [Scalar α] {first : String}
    (closed : (Draft.ofText first.toList : Draft α).depth = 0) (second : String) :
    (Script.read (first ++ "\n" ++ second) : Diagram α).events =
        (Script.read first).events ++ (Script.read second).events ∧
      (Script.read (first ++ "\n" ++ second) : Diagram α).actors =
        (Script.read first).actors ++
          ((Draft.cast {} (Text.lines second.toList)).filter fun entrance =>
            entrance.declared || !(Script.read first : Diagram α).actors.any
              (·.answersTo entrance.actor.caption)).map Entrance.actor ∧
      (Draft.cast {} (Text.lines second.toList)).map Entrance.actor =
        (Script.read second : Diagram α).actors := by
  have readEq : (Draft.ofText (first ++ "\n" ++ second).toList : Draft α) =
      (Draft.ofText first.toList).readLines (Text.lines second.toList) := by
    rw [String.toList_append, String.toList_append, List.append_assoc]
    exact (congrArg (Draft.readLines {}) (Text.lines_append first.toList second.toList)).trans
      List.foldl_append
  have continues := Draft.continues_of_closed closed
  refine ⟨?_, ?_, (Draft.orderly_cast {} _ rfl Entrance.Orderly.nil).1.symm⟩
  · have firstEq : (Draft.ofText first.toList : Draft α).allEvents =
        (Draft.ofText first.toList : Draft α).events := by
      obtain ⟨noteEq, blocksEq⟩ := Draft.depth_eq_zero_iff.mp closed
      rw [Draft.allEvents_of_none noteEq, blocksEq, List.foldl_nil]
    simp only [read]
    rw [readEq, firstEq]
    exact (continues.readLines _).allEvents
  · simp only [read]
    rw [readEq]
    have joinedEq : (Draft.ofText first.toList : Draft α).actors =
        Entrance.actorsBeside (Draft.ofText first.toList : Draft α).actors [] :=
      (List.append_nil _).symm
    exact continues.actors_readLines rfl joinedEq Entrance.Orderly.nil _

/-- A script that gives an actor a nickname and leaves nothing open. -/
def settled : String :=
  "participant Alice as A\nopt o\nA->Bob: x\nend"

/-- A script that closes what it has not opened and leaves an annotation open.  It mentions a
nickname of the script before and declares a namesake of an actor in it. -/
def unruly : String :=
  "end\n\x7d\nelse e\nA->Carol: y\nparticipant Bob\nnote left of A"

/-- Alone the unruly script has an actor for the nickname, and behind the settled one it has
not.  The namesake comes in all the same. -/
theorem read_joined_unruly :
    (Draft.ofText settled.toList : Draft Rat).depth = 0 ∧
      (Script.read (settled ++ "\n" ++ unruly) : Diagram Rat).events =
        (Script.read settled).events ++ (Script.read unruly).events ∧
      (Script.read unruly : Diagram Rat).actors.map Actor.caption = ["A", "Carol", "Bob"] ∧
      (Script.read (settled ++ "\n" ++ unruly) : Diagram Rat).actors.map Actor.caption =
        ["Alice", "Bob", "Carol", "Bob"] := by
  have closed : (Draft.ofText settled.toList : Draft Rat).depth = 0 := by decide +kernel
  obtain ⟨eventsEq, actorsEq, aloneEq⟩ := read_joined closed unruly
  refine ⟨closed, eventsEq, ?_, ?_⟩
  · rw [← aloneEq]
    decide +kernel
  · rw [actorsEq]
    decide +kernel

end Script

end Lifeline
