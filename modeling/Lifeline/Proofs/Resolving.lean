import Lifeline.Proofs.Lanes

/-!
# Names that resolve

A name resolves if one of the actors answers to it.  A signal resolves if both its names
do, an annotation if it has a location and that does.

Which actor is meant and on which lane does not matter for that, nor does the order of
the actors.
-/

namespace Lifeline

variable {α : Type}

/-- Whether both names of a signal mean an actor. -/
def Signal.resolves (directory : Directory α) (signal : Signal) : Bool :=
  (directory.ends? signal.source signal.destination).isSome

/-- Whether the location of an annotation is there and means an actor. -/
def Note.resolves (directory : Directory α) (note : Note) : Bool :=
  (directory.anchor? note.location).isSome

namespace Directory

theorem isSome_find?_under (name : Actor α → String) (actors : List (Actor α))
    (wanted : String) :
    ((under name actors).find? wanted).isSome =
      actors.any fun actor => name actor == wanted := by
  rw [find?, List.isSome_find?, under, List.any_reverse, List.any_map]
  conv_rhs => rw [← List.zipIdx_map_fst 0 actors, List.any_map]
  rfl

/-- A name means an actor exactly if one of the actors answers to it. -/
theorem isSome_find?_ofActors (actors : List (Actor α)) (name : String) :
    ((ofActors actors).find? name).isSome = actors.any (·.answersTo name) := by
  have captions := isSome_find?_under Actor.caption actors name
  have nicknames := isSome_find?_under Actor.nickname actors name
  rw [find?, List.isSome_find?] at captions nicknames ⊢
  rw [ofActors, List.any_append, captions, nicknames, Bool.eq_iff_iff]
  simp only [Actor.answersTo, Bool.or_eq_true, List.any_eq_true, and_or_left, exists_or]

end Directory

section Names

variable {directory other : Directory α}

theorem Signal.resolves_eq (signal : Signal) :
    signal.resolves directory =
      ((directory.find? signal.source).isSome &&
        (directory.find? signal.destination).isSome) := by
  rw [resolves, Directory.ends?]
  cases directory.find? signal.source <;> cases directory.find? signal.destination <;> rfl

theorem Signal.resolves_of_alike (alike : directory.Alike other) (signal : Signal) :
    signal.resolves directory = signal.resolves other := by
  have same := congrArg Option.isSome (alike.map_ends? signal.source signal.destination)
  rwa [Option.isSome_map, Option.isSome_map] at same

theorem Note.resolves_of_alike (alike : directory.Alike other) (note : Note) :
    note.resolves directory = note.resolves other := by
  have same := congrArg Option.isSome (alike.map_anchor? note.location)
  rwa [Option.isSome_map, Option.isSome_map] at same

/-- Whether every name that means an actor in one directory means one in another. -/
def Directory.Within (directory other : Directory α) : Prop :=
  ∀ name, (directory.find? name).isSome = true → (other.find? name).isSome = true

theorem Directory.Alike.within (alike : directory.Alike other) : directory.Within other := by
  intro name found
  have same := congrArg Option.isSome (alike name)
  rw [Option.isSome_map, Option.isSome_map] at same
  rwa [← same]

theorem Signal.resolves_of_within (within : directory.Within other) {signal : Signal}
    (found : signal.resolves directory = true) : signal.resolves other = true := by
  rw [resolves_eq, Bool.and_eq_true] at found ⊢
  exact found.imp (within _) (within _)

theorem Note.resolves_of_within (within : directory.Within other) {note : Note}
    (found : note.resolves directory = true) : note.resolves other = true := by
  rw [resolves] at found ⊢
  cases locationEq : note.location with
  | none =>
      rw [locationEq] at found
      cases found
  | some location =>
      rw [locationEq, Directory.anchor?] at found
      rw [Directory.anchor?]
      split at found
      next => cases found
      next written =>
        rw [if_neg written]
        exact within location found

/-- More names resolve among actors that answer to more. -/
theorem Directory.within_ofActors {actors others : List (Actor α)}
    (answered : ∀ name, actors.any (·.answersTo name) = true →
      others.any (·.answersTo name) = true) :
    (ofActors actors).Within (ofActors others) := by
  intro name found
  rw [isSome_find?_ofActors] at found ⊢
  exact answered name found

end Names

end Lifeline
