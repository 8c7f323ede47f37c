import Lifeline.Actor

/-!
# Directories

A directory resolves the names that events use to actors and their lanes.  An
actor is entered under its nickname and under its caption.  Captions go before
nicknames, and among entries of one kind the actor declared last goes first.

An entry that is found later in the list is hidden by an earlier one of the same
name.
-/

namespace Lifeline

/-- A name with the actor that it means and the number of the actor's lane. -/
structure Entry (α : Type) where
  name : String
  actor : Actor α
  lane : Nat

abbrev Directory (α : Type) := List (Entry α)

namespace Directory

variable {α : Type}

/-- The entries of a list of actors under one of their names, the last actor
first. -/
def under (name : Actor α → String) (actors : List (Actor α)) : Directory α :=
  (actors.zipIdx.map fun (actor, lane) => ⟨name actor, actor, lane⟩).reverse

def ofActors (actors : List (Actor α)) : Directory α :=
  under Actor.caption actors ++ under Actor.nickname actors

def find? (directory : Directory α) (name : String) : Option (Entry α) :=
  List.find? (·.name == name) directory

/-- The entry that the location of an annotation means.  An empty location means
none. -/
def anchor? (directory : Directory α) : Option String → Option (Entry α)
  | none => none
  | some location => if location = "" then none else directory.find? location

/-- The entries of the source and the destination of a signal, if both names
mean one. -/
def ends? (directory : Directory α) (source destination : String) :
    Option (Entry α × Entry α) :=
  match directory.find? source, directory.find? destination with
  | some first, some second => some (first, second)
  | _, _ => none

end Directory

end Lifeline
