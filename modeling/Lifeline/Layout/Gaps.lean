import Lifeline.Layout.Clearance

/-!
# Gaps between lanes

The lanes of a diagram stand in a row.  Before the first lane, between
neighbouring lanes and after the last one there is a gap: a diagram of `n` lanes
has `n + 1` gaps, and gap `i` ends at lane `i`.

A gap first holds half of each box beside it with padding.  It then grows with
what the events need.  Needs between neighbours come first, and so do those of
signals from a lane to itself, which are written to the left of the lane.  What
is needed across several lanes is then spread evenly over the gaps that lead to
them.
-/

namespace Lifeline

namespace Gaps

variable {α : Type} [Scalar α]

/-- The share that a head of some width has in the gap on either side. -/
def share (sizes : Sizes α) (width : α) : α :=
  half width + sizes.padding

/-- The gaps that the heads of the lanes take up. -/
def ofWidths (sizes : Sizes α) (widths : List α) : List α :=
  let shares := widths.map (share sizes)
  List.zipWith (· + ·) (zero :: shares) (shares ++ [zero])

def raise (gaps : List α) (index : Nat) (room : α) : List α :=
  gaps.modify index fun gap => if gap < room then room else gap

/-- Widen the one gap that a need between neighbours, or of a lane by itself,
falls into. -/
def widenBeside (gaps : List α) (need : Clearance α) : List α :=
  let low := min need.first need.second
  let high := max need.first need.second
  if high = low + 1 then raise gaps high need.room
  else if high = low then raise gaps low need.room
  else gaps

/-- Add to every gap after one lane up to another. -/
def stretch (gaps : List α) (low high : Nat) (extra : α) : List α :=
  gaps.mapIdx fun index gap =>
    if low < index && index ≤ high then gap + extra else gap

/-- Spread what is missing for a need across several lanes over the gaps between
them. -/
def widenAcross (gaps : List α) (need : Clearance α) : List α :=
  let low := min need.first need.second
  let high := max need.first need.second
  if high ≤ low + 1 then gaps
  else
    let available := ((gaps.take high).drop low).foldl (· + ·) zero
    if available < need.room then
      stretch gaps low high
        ((need.room - available) / ((high - low : Nat) : α))
    else gaps

def settle (gaps : List α) (needs : List (Clearance α)) : List α :=
  needs.foldl widenAcross (needs.foldl widenBeside gaps)

end Gaps

end Lifeline
