import Lifeline.Proofs.Resolving
import Lifeline.Script

/-!
# Which actor a name means

Names are entered into a directory one after the other: first the nicknames of all actors,
then their captions, each over what was entered before under the same name.  So a name means
the last actor that has it for its caption, and only where no actor has, the last one that
has it for its nickname.

A name that no actor answers to means none, and for such a name a script brings in an actor.
-/

namespace Lifeline

variable {α : Type}

namespace Actor

/-- Whether, of the actors that have a name, the last one is at some lane. -/
structure LastNamed (name : Actor α → String) (actors : List (Actor α)) (wanted : String)
    (lane : Nat) (actor : Actor α) : Prop where
  actor_eq : actors[lane]? = some actor
  named : name actor = wanted
  last : ∀ later other, lane < later → actors[later]? = some other → name other ≠ wanted

variable {name : Actor α → String} {actors : List (Actor α)} {actor other : Actor α}
  {wanted : String} {lane : Nat}

theorem getElem?_concat_eq_some_iff :
    (actors ++ [actor])[lane]? = some other ↔
      actors[lane]? = some other ∨ lane = actors.length ∧ actor = other := by
  rcases lt_trichotomy lane actors.length with inside | rfl | outside
  · simp [List.getElem?_append_left inside, inside.ne]
  · simp
  · have beyond : (actors ++ [actor]).length ≤ lane := by
      rwa [List.length_append, List.length_singleton]
    simp [List.getElem?_eq_none beyond, List.getElem?_eq_none outside.le, outside.ne']

theorem lastNamed_concat_of_eq (named : name actor = wanted) :
    LastNamed name (actors ++ [actor]) wanted lane other ↔
      lane = actors.length ∧ actor = other := by
  constructor
  · intro found
    rcases getElem?_concat_eq_some_iff.mp found.actor_eq with before | atEnd
    · have inside := (List.getElem?_eq_some_iff.mp before).1
      exact absurd named (found.last actors.length actor inside List.getElem?_concat_length)
    · exact atEnd
  · rintro ⟨rfl, rfl⟩
    refine ⟨List.getElem?_concat_length, named, fun later another behind laterEq => ?_⟩
    have inside := (List.getElem?_eq_some_iff.mp laterEq).1
    rw [List.length_append, List.length_singleton] at inside
    omega

theorem lastNamed_concat_of_ne (unnamed : name actor ≠ wanted) :
    LastNamed name (actors ++ [actor]) wanted lane other ↔
      LastNamed name actors wanted lane other := by
  constructor
  · rintro ⟨otherEq, named, last⟩
    rcases getElem?_concat_eq_some_iff.mp otherEq with before | ⟨-, rfl⟩
    · exact ⟨before, named, fun later another behind laterEq =>
        last later another behind (getElem?_concat_eq_some_iff.mpr (Or.inl laterEq))⟩
    · exact absurd named unnamed
  · rintro ⟨otherEq, named, last⟩
    refine ⟨getElem?_concat_eq_some_iff.mpr (Or.inl otherEq), named,
      fun later another behind laterEq => ?_⟩
    rcases getElem?_concat_eq_some_iff.mp laterEq with before | ⟨-, rfl⟩
    · exact last later another behind before
    · exact unnamed

end Actor

namespace Directory

variable {name : Actor α → String} {actors : List (Actor α)} {wanted : String}
  {entry : Entry α}

theorem under_concat (name : Actor α → String) (actors : List (Actor α)) (actor : Actor α) :
    under name (actors ++ [actor]) =
      ⟨name actor, actor, actors.length⟩ :: under name actors := by
  rw [under, List.zipIdx_append, List.map_append, List.reverse_append, Nat.zero_add, under]
  rfl

/-- Under one of their names actors are found from the last one on. -/
theorem find?_under_eq_some_iff :
    find? (under name actors) wanted = some entry ↔
      entry.name = wanted ∧
        Actor.LastNamed name actors wanted entry.lane entry.actor := by
  induction actors using List.reverseRecOn with
  | nil =>
      constructor
      · intro found
        cases found
      · rintro ⟨-, last⟩
        cases last.actor_eq
  | append_singleton actors actor ih =>
      rw [under_concat, find?]
      by_cases named : name actor = wanted
      · rw [List.find?_cons_of_pos (by simpa using named), Option.some_inj,
          Actor.lastNamed_concat_of_eq named]
        obtain ⟨known, found, lane⟩ := entry
        simp only [Entry.mk.injEq, named]
        tauto
      · rw [List.find?_cons_of_neg (by simpa using named), ← find?, ih,
          Actor.lastNamed_concat_of_ne named]

theorem find?_under_eq_none_iff :
    find? (under name actors) wanted = none ↔ ∀ actor ∈ actors, name actor ≠ wanted := by
  rw [← Option.isNone_iff_eq_none, ← Option.not_isSome, isSome_find?_under]
  simp

/-- Entries of actors under one of their names, the first actor first. -/
def entries (name : Actor α → String) (actors : List (Actor α)) : List (Entry α) :=
  actors.zipIdx.map fun (actor, lane) => ⟨name actor, actor, lane⟩

/-- Enter entries one after the other, each over what was known under its name. -/
def enter (known : String → Option (Entry α)) (entries : List (Entry α)) :
    String → Option (Entry α) :=
  entries.foldl (fun known entry => Function.update known entry.name (some entry)) known

/-- Of the entries of one name the last counts, and what was known only where there is
none. -/
theorem enter_eq (known : String → Option (Entry α)) (entries : List (Entry α))
    (wanted : String) :
    enter known entries wanted = (find? entries.reverse wanted).or (known wanted) := by
  induction entries generalizing known with
  | nil => rfl
  | cons entry rest ih =>
      rw [enter, List.foldl_cons, ← enter, ih, List.reverse_cons, find?, find?,
        List.find?_append, Option.or_assoc, List.find?_singleton]
      by_cases named : entry.name = wanted
      · rw [named, Function.update_self, if_pos (by simp), Option.some_or]
      · rw [Function.update_of_ne (Ne.symm named), if_neg (by simpa using named),
          Option.none_or]

theorem find?_ofActors (actors : List (Actor α)) (wanted : String) :
    (ofActors actors).find? wanted =
      (find? (under Actor.caption actors) wanted).or
        (find? (under Actor.nickname actors) wanted) := by
  rw [find?, ofActors, List.find?_append, find?, find?]

/-- A name means the last actor with this caption, else the last one with this nickname,
each at its own lane, and it means none where no actor answers to it.  That is what comes
of entering all nicknames and then all captions, and it is what decides whether a script
that mentions the name brings in an actor. -/
theorem find?_ofActors_lastNamed [Scalar α] (actors : List (Actor α)) (wanted : String) :
    (∀ entry, (ofActors actors).find? wanted = some entry ↔
        entry.name = wanted ∧
          (Actor.LastNamed Actor.caption actors wanted entry.lane entry.actor ∨
            (∀ actor ∈ actors, actor.caption ≠ wanted) ∧
              Actor.LastNamed Actor.nickname actors wanted entry.lane entry.actor)) ∧
      ((ofActors actors).find? wanted = none ↔
        ∀ actor ∈ actors, actor.caption ≠ wanted ∧ actor.nickname ≠ wanted) ∧
      (ofActors actors).find? wanted =
        enter (enter (fun _ => none) (entries Actor.nickname actors))
          (entries Actor.caption actors) wanted ∧
      ((ofActors actors).find? wanted).isSome = actors.any (·.answersTo wanted) ∧
      (Draft.mention actors wanted = actors ↔
        ((ofActors actors).find? wanted).isSome = true) := by
  refine ⟨fun entry => ?_, ?_, ?_, isSome_find?_ofActors actors wanted, ?_⟩
  · rw [find?_ofActors, Option.or_eq_some_iff, find?_under_eq_some_iff,
      find?_under_eq_none_iff, find?_under_eq_some_iff]
    tauto
  · rw [find?_ofActors, Option.or_eq_none_iff, find?_under_eq_none_iff,
      find?_under_eq_none_iff, forall₂_and]
  · rw [enter_eq, enter_eq, Option.or_none, find?_ofActors]
    rfl
  · rw [isSome_find?_ofActors, Draft.mention]
    split
    next answered => simp [answered]
    next unanswered => simp [unanswered]

/-- A caption hides the nickname of a later actor, and of two captions the later one
counts. -/
example :
    ((ofActors (α := Rat) [.declare .participant "A", .declare .actor "A" "B",
      .declare .participant "C" "A"]).find? "A").map Entry.lane = some 1 := by
  decide +kernel

end Directory

end Lifeline
