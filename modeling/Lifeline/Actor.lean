import Lifeline.Scalar

/-!
# Actors

An actor is one lifeline of a diagram: a kind, a caption that is drawn at its
head, a nickname that scripts may use in its place, and the geometry that a layout
gives it.  An actor that has not been laid out has zeros for its geometry.

Scripts declare actors of two kinds.  A diagram that was put together by hand may
give an actor a kind of any other name, which is drawn as a box.
-/

namespace Lifeline

/-- What the head of a lifeline stands for.  An actor is drawn as a stick figure,
everything else as a box. -/
inductive ActorKind where
  | participant
  | actor
  | other (word : String)
  deriving DecidableEq

namespace ActorKind

def name : ActorKind → String
  | participant => "participant"
  | actor => "actor"
  | other word => word

def declared : List ActorKind := [participant, actor]

def ofName? (word : String) : Option ActorKind :=
  declared.find? (·.name == word)

end ActorKind

/-- A lifeline: its kind, its two names, and where it is drawn. -/
structure Actor (α : Type) where
  kind : ActorKind
  caption : String
  nickname : String
  width : α
  height : α
  laneX : α
  x : α
  topY : α
  bottomY : α
  deriving DecidableEq

namespace Actor

variable {α : Type} [Scalar α]

/-- An actor that has not been laid out.  Without a nickname of its own its
caption serves as one. -/
def declare (kind : ActorKind) (caption : String) (nickname : String := "") :
    Actor α where
  kind := kind
  caption := caption
  nickname := if nickname = "" then caption else nickname
  width := zero
  height := zero
  laneX := zero
  x := zero
  topY := zero
  bottomY := zero

omit [Scalar α] in
def answersTo (name : String) (actor : Actor α) : Bool :=
  actor.caption == name || actor.nickname == name

end Actor

end Lifeline
