import Lifeline.Layout.Gaps
import Lifeline.Scalar
import Mathlib.Algebra.Order.Field.Rat
import Mathlib.Algebra.BigOperators.Intervals
import Mathlib.Algebra.Order.BigOperators.Group.Finset
import Mathlib.Algebra.Order.BigOperators.Group.LocallyFinite
import Mathlib.Algebra.BigOperators.Group.List.Basic
import Mathlib.Data.List.GetD
import Mathlib.Order.Interval.Finset.Nat
import Mathlib.Tactic.Linarith
import Mathlib.Tactic.FieldSimp

/-!
# The gaps of a settled layout

Needs are met by widening gaps, and no gap is ever made narrower.  So whatever
room the heads of the lanes have at first, they keep.

A need across several lanes is measured by the gaps from the one before its first
lane to the one before its last, while the distance of the two lanes is made of
the gaps after the first lane up to the last.  What a need across several lanes
finds at the end is therefore reckoned here gap by gap: how much each need adds
to every distance, in the order in which the needs are met.

The laws of a layout are stated for exact fractions.  There the operations of a
layout are those of the ordered field of fractions.
-/

namespace Lifeline

@[simp] theorem zero_fraction : (zero : Rat) = 0 :=
  rfl

@[simp] theorem half_fraction (value : Rat) : half value = value / 2 :=
  rfl

@[simp] theorem twice_fraction (value : Rat) : twice value = 2 * value :=
  rfl

@[simp] theorem larger_fraction (first second : Rat) :
    larger first second = max first second := by
  rw [larger, max_def_lt]

theorem le_floor_iff {whole : Int} {value : Rat} :
    whole ≤ floor value ↔ (whole : Rat) ≤ value :=
  Rat.le_floor_iff

theorem floor_lt_iff {whole : Int} {value : Rat} :
    floor value < whole ↔ value < (whole : Rat) :=
  Rat.floor_lt_iff

@[simp] theorem floor_intCast (whole : Int) : floor (whole : Rat) = whole :=
  Rat.floor_intCast whole

@[simp] theorem floor_natCast (count : Nat) : floor (count : Rat) = count :=
  Rat.floor_intCast count

namespace Clearance

variable {α : Type}

def low (need : Clearance α) : Nat :=
  min need.first need.second

def high (need : Clearance α) : Nat :=
  max need.first need.second

/-- Whether a need spans several gaps. -/
def Wide (need : Clearance α) : Prop :=
  need.low + 1 < need.high

instance (need : Clearance α) : Decidable need.Wide :=
  inferInstanceAs (Decidable (need.low + 1 < need.high))

theorem low_le_high (need : Clearance α) : need.low ≤ need.high :=
  min_le_max

end Clearance

namespace Gaps

/-- The gap that ends at a lane. -/
def gap (gaps : List Rat) (index : Nat) : Rat :=
  gaps.getD index 0

/-- There are as many gaps as before, and none is narrower. -/
structure Grown (gaps wider : List Rat) : Prop where
  length : wider.length = gaps.length
  gap_le : ∀ index, gap gaps index ≤ gap wider index

namespace Grown

theorem refl (gaps : List Rat) : Grown gaps gaps :=
  ⟨rfl, fun _ => le_refl _⟩

theorem trans {gaps wider widest : List Rat} (first : Grown gaps wider)
    (second : Grown wider widest) : Grown gaps widest :=
  ⟨second.length.trans first.length,
    fun index => (first.gap_le index).trans (second.gap_le index)⟩

theorem foldl {step : List Rat → Clearance Rat → List Rat}
    (grows : ∀ gaps need, Grown gaps (step gaps need)) (needs : List (Clearance Rat))
    (gaps : List Rat) : Grown gaps (needs.foldl step gaps) := by
  induction needs generalizing gaps with
  | nil => exact refl gaps
  | cons need rest ih => exact (grows gaps need).trans (ih (step gaps need))

end Grown

theorem gap_raise (gaps : List Rat) {index : Nat} (room : Rat) (other : Nat) :
    gap (raise gaps index room) other =
      if index = other ∧ other < gaps.length then max (gap gaps other) room
      else gap gaps other := by
  rw [gap, gap, List.getD_eq_getElem?_getD, List.getD_eq_getElem?_getD, raise,
    List.getElem?_modify]
  by_cases inside : other < gaps.length
  · by_cases same : index = other
    · simp [inside, same, max_def_lt]
    · simp [inside, same]
  · simp [inside]

theorem grown_raise (gaps : List Rat) (index : Nat) (room : Rat) :
    Grown gaps (raise gaps index room) := by
  refine ⟨by simp [raise], fun other => ?_⟩
  rw [gap_raise]
  split
  · exact le_max_left _ _
  · exact le_refl _

theorem grown_widenBeside (gaps : List Rat) (need : Clearance Rat) :
    Grown gaps (widenBeside gaps need) := by
  rw [widenBeside]
  split
  · exact grown_raise _ _ _
  · split
    · exact grown_raise _ _ _
    · exact Grown.refl gaps

theorem length_stretch {α : Type} [Scalar α] (gaps : List α) (low high : Nat) (extra : α) :
    (stretch gaps low high extra).length = gaps.length := by
  simp [stretch]

theorem gap_stretch (gaps : List Rat) (low high : Nat) (extra : Rat) {index : Nat}
    (inside : index < gaps.length) :
    gap (stretch gaps low high extra) index =
      gap gaps index + if index ∈ Finset.Ioc low high then extra else 0 := by
  rw [gap, gap, List.getD_eq_getElem?_getD, List.getD_eq_getElem?_getD, stretch,
    List.getElem?_mapIdx]
  by_cases between : index ∈ Finset.Ioc low high
  · have bounds := Finset.mem_Ioc.mp between
    simp [inside, bounds]
  · have bounds : ¬ (low < index ∧ index ≤ high) := fun bounds =>
      between (Finset.mem_Ioc.mpr bounds)
    simp [inside, bounds]

theorem grown_stretch (gaps : List Rat) (low high : Nat) {extra : Rat}
    (nonneg : 0 ≤ extra) : Grown gaps (stretch gaps low high extra) := by
  refine ⟨length_stretch gaps low high extra, fun index => ?_⟩
  by_cases inside : index < gaps.length
  · rw [gap_stretch gaps low high extra inside]
    split <;> linarith
  · have beyond : gaps.length ≤ index := by omega
    rw [gap, gap, List.getD_eq_default _ _ beyond,
      List.getD_eq_default _ _ (by rwa [length_stretch])]

theorem length_ofWidths {α : Type} [Scalar α] (sizes : Sizes α) (widths : List α) :
    (ofWidths sizes widths).length = widths.length + 1 := by
  simp [ofWidths]

theorem gap_ofWidths_zero (sizes : Sizes Rat) (widths : List Rat) :
    gap (ofWidths sizes widths) 0 = (widths.map (share sizes)).getD 0 0 := by
  cases widths <;> simp [gap, ofWidths]

theorem gap_ofWidths_succ (sizes : Sizes Rat) (widths : List Rat) (index : Nat) :
    gap (ofWidths sizes widths) (index + 1) =
      (widths.map (share sizes)).getD index 0 +
        (widths.map (share sizes)).getD (index + 1) 0 := by
  generalize sharesEq : widths.map (share sizes) = shares
  rw [gap, ofWidths, sharesEq, zero_fraction]
  simp only [List.getD_eq_getElem?_getD, List.getElem?_zipWith, List.getElem?_cons_succ,
    List.getElem?_append]
  rcases lt_trichotomy (index + 1) shares.length with inside | last | beyond
  · have before : index < shares.length := by omega
    simp [inside, before]
  · have before : index < shares.length := by omega
    simp [last, before]
  · have after : shares.length ≤ index := by omega
    simp [List.getElem?_eq_none after,
      List.getElem?_eq_none (show shares.length ≤ index + 1 by omega)]

theorem getD_share_nonneg {sizes : Sizes Rat} {widths : List Rat}
    (nonneg : ∀ width ∈ widths, 0 ≤ share sizes width) (index : Nat) :
    0 ≤ (widths.map (share sizes)).getD index 0 := by
  rw [List.getD_eq_getElem?_getD, List.getElem?_map]
  cases widthEq : widths[index]? with
  | none => simp
  | some width => simpa using nonneg width (List.mem_of_getElem? widthEq)

theorem gap_ofWidths_nonneg {sizes : Sizes Rat} {widths : List Rat}
    (nonneg : ∀ width ∈ widths, 0 ≤ share sizes width) (index : Nat) :
    0 ≤ gap (ofWidths sizes widths) index := by
  cases index with
  | zero =>
      rw [gap_ofWidths_zero]
      exact getD_share_nonneg nonneg 0
  | succ index =>
      rw [gap_ofWidths_succ]
      exact add_nonneg (getD_share_nonneg nonneg index) (getD_share_nonneg nonneg (index + 1))

/-- The gap that ends at a lane holds the share of the lane's head. -/
theorem getD_share_le_gap {sizes : Sizes Rat} {widths : List Rat}
    (nonneg : ∀ width ∈ widths, 0 ≤ share sizes width) (index : Nat) :
    (widths.map (share sizes)).getD index 0 ≤ gap (ofWidths sizes widths) index := by
  cases index with
  | zero => rw [gap_ofWidths_zero]
  | succ index =>
      have before := getD_share_nonneg nonneg index
      rw [gap_ofWidths_succ]
      linarith

def distance (gaps : List Rat) (low high : Nat) : Rat :=
  ∑ index ∈ Finset.Ioc low high, gap gaps index

/-- The room that a need across several lanes is held against: the gaps from the
one before its first lane to the one before its last. -/
def counted (gaps : List Rat) (low high : Nat) : Rat :=
  ∑ index ∈ Finset.Ico low high, gap gaps index

theorem sum_take (gaps : List Rat) (count : Nat) :
    (gaps.take count).sum = ∑ index ∈ Finset.range count, gap gaps index := by
  induction count with
  | zero => simp
  | succ count ih =>
      rw [List.take_add_one, List.sum_append, ih, Finset.sum_range_succ, gap,
        List.getD_eq_getElem?_getD]
      cases gaps[count]? <;> simp

theorem foldl_between (gaps : List Rat) {low high : Nat} (ordered : low ≤ high) :
    ((gaps.take high).drop low).foldl (· + ·) 0 = counted gaps low high := by
  have split : (gaps.take low).sum + ((gaps.take high).drop low).sum =
      (gaps.take high).sum := by
    rw [← List.sum_append]
    nth_rewrite 1 [← Nat.min_eq_left ordered]
    rw [← List.take_take, List.take_append_drop]
  rw [sum_take, sum_take] at split
  rw [← List.sum_eq_foldl, counted, Finset.sum_Ico_eq_sub _ ordered]
  linarith

theorem distance_add_gap (gaps : List Rat) {low high : Nat} (ordered : low ≤ high) :
    distance gaps low high + gap gaps low = counted gaps low high + gap gaps high := by
  rw [distance, counted, add_comm, Finset.add_sum_Ioc_eq_sum_Icc ordered,
    Finset.sum_Ico_add_eq_sum_Icc ordered]

theorem distance_succ (gaps : List Rat) {low high : Nat} (ordered : low ≤ high) :
    distance gaps low (high + 1) = distance gaps low high + gap gaps (high + 1) := by
  rw [distance, distance, Finset.sum_Ioc_succ_top (by omega)]

/-- Two lanes have between them what the heads of both hold in the gaps, however
many lanes stand in between. -/
theorem shares_le_distance {sizes : Sizes Rat} {widths : List Rat} {gaps : List Rat}
    (nonneg : ∀ width ∈ widths, 0 ≤ share sizes width)
    (grown : Grown (ofWidths sizes widths) gaps) {low high : Nat} (ordered : low < high) :
    (widths.map (share sizes)).getD low 0 + (widths.map (share sizes)).getD high 0 ≤
      distance gaps low high := by
  have held (index : Nat) :
      (widths.map (share sizes)).getD index 0 + (widths.map (share sizes)).getD (index + 1) 0 ≤
        gap gaps (index + 1) := by
    rw [← gap_ofWidths_succ]
    exact grown.gap_le (index + 1)
  induction high, ordered using Nat.le_induction with
  | base =>
      rw [distance, Finset.sum_Ioc_succ_top (le_refl low), Finset.Ioc_self, Finset.sum_empty,
        zero_add]
      exact held low
  | succ high ordered ih =>
      have shareNonneg := getD_share_nonneg nonneg high
      have next := held high
      rw [distance_succ gaps (by omega)]
      linarith

theorem distance_stretch (gaps : List Rat) (low high : Nat) (extra : Rat)
    {first last : Nat} (inside : last < gaps.length) :
    distance (stretch gaps low high extra) first last =
      distance gaps first last +
        ((min last high - max first low : Nat) : Rat) * extra := by
  have gapEq : ∀ index ∈ Finset.Ioc first last,
      gap (stretch gaps low high extra) index =
        gap gaps index + if index ∈ Finset.Ioc low high then extra else 0 := by
    intro index member
    have upper := (Finset.mem_Ioc.mp member).2
    exact gap_stretch gaps low high extra (by omega)
  rw [distance, Finset.sum_congr rfl gapEq, Finset.sum_add_distrib,
    Finset.sum_ite_mem, Finset.Ioc_inter_Ioc, Finset.sum_const, Nat.card_Ioc,
    nsmul_eq_mul]
  rfl

/-- What is missing for a need across several lanes when its turn comes. -/
def shortage (gaps : List Rat) (need : Clearance Rat) : Rat :=
  if need.low + 1 < need.high then
    max 0 (need.room - counted gaps need.low need.high)
  else 0

theorem shortage_nonneg (gaps : List Rat) (need : Clearance Rat) :
    0 ≤ shortage gaps need := by
  rw [shortage]
  split
  · exact le_max_left _ _
  · exact le_refl _

theorem stretch_zero (gaps : List Rat) (low high : Nat) :
    stretch gaps low high 0 = gaps := by
  apply List.ext_getElem?
  intro index
  rw [stretch, List.getElem?_mapIdx]
  cases gaps[index]? with
  | none => rfl
  | some gap => simp

theorem widenAcross_eq_stretch (gaps : List Rat) (need : Clearance Rat) :
    widenAcross gaps need =
      stretch gaps need.low need.high
        (shortage gaps need / ((need.high - need.low : Nat) : Rat)) := by
  have unfolded : widenAcross gaps need =
      if need.high ≤ need.low + 1 then gaps
      else if counted gaps need.low need.high < need.room then
        stretch gaps need.low need.high
          ((need.room - counted gaps need.low need.high) /
            ((need.high - need.low : Nat) : Rat))
      else gaps := by
    rw [← foldl_between gaps (need.low_le_high)]
    rfl
  rw [unfolded, shortage]
  by_cases wide : need.low + 1 < need.high
  · rw [if_neg (by omega), if_pos wide]
    split
    next short => rw [max_eq_right (by linarith)]
    next enough => rw [max_eq_left (by linarith), zero_div, stretch_zero]
  · rw [if_pos (by omega), if_neg wide, zero_div, stretch_zero]

theorem grown_widenAcross (gaps : List Rat) (need : Clearance Rat) :
    Grown gaps (widenAcross gaps need) := by
  rw [widenAcross_eq_stretch]
  exact grown_stretch gaps _ _
    (div_nonneg (shortage_nonneg gaps need) (Nat.cast_nonneg _))

theorem grown_settle (gaps : List Rat) (needs : List (Clearance Rat)) :
    Grown gaps (settle gaps needs) :=
  (Grown.foldl grown_widenBeside needs gaps).trans (Grown.foldl grown_widenAcross needs _)

/-- What a need adds to the distance of two lanes when its turn comes: its share
for every gap that is between both pairs of lanes. -/
def gain (gaps : List Rat) (need : Clearance Rat) (low high : Nat) : Rat :=
  ((min high need.high - max low need.low : Nat) : Rat) *
    (shortage gaps need / ((need.high - need.low : Nat) : Rat))

/-- What needs that are met in turn add to the distance of two lanes. -/
def totalGain : List Rat → List (Clearance Rat) → Nat → Nat → Rat
  | _, [], _, _ => 0
  | gaps, need :: rest, low, high =>
      gain gaps need low high + totalGain (widenAcross gaps need) rest low high

theorem distance_widenAcross (gaps : List Rat) (need : Clearance Rat) {low high : Nat}
    (inside : high < gaps.length) :
    distance (widenAcross gaps need) low high =
      distance gaps low high + gain gaps need low high := by
  rw [widenAcross_eq_stretch, distance_stretch gaps _ _ _ inside, gain]

theorem distance_foldl_widenAcross (gaps : List Rat) (needs : List (Clearance Rat))
    {low high : Nat} (inside : high < gaps.length) :
    distance (needs.foldl widenAcross gaps) low high =
      distance gaps low high + totalGain gaps needs low high := by
  induction needs generalizing gaps with
  | nil => simp [totalGain]
  | cons need rest ih =>
      have lengthEq := (grown_widenAcross gaps need).length
      rw [List.foldl_cons, ih _ (by omega), distance_widenAcross gaps need inside,
        totalGain, add_assoc]

theorem gain_self (gaps : List Rat) {need : Clearance Rat} (wide : need.Wide) :
    gain gaps need need.low need.high =
      max 0 (need.room - counted gaps need.low need.high) := by
  have ordered : need.low + 1 < need.high := wide
  have positive : ((need.high - need.low : Nat) : Rat) ≠ 0 := by
    rw [Nat.cast_ne_zero]
    omega
  rw [gain, min_self, max_self, shortage, if_pos ordered]
  field_simp

/-- When a need across several lanes ends up with its room: the gap before its
first lane, which was counted, is made up for by the gap before its last lane,
which was not, by what was counted beyond the need, and by what later needs add. -/
theorem room_le_distance_iff (gaps : List Rat) {need : Clearance Rat}
    (rest : List (Clearance Rat)) (wide : need.Wide) (inside : need.high < gaps.length) :
    need.room ≤ distance ((need :: rest).foldl widenAcross gaps) need.low need.high ↔
      gap gaps need.low ≤
        gap gaps need.high + max 0 (counted gaps need.low need.high - need.room) +
          totalGain (widenAcross gaps need) rest need.low need.high := by
  have ends := distance_add_gap gaps need.low_le_high
  rw [distance_foldl_widenAcross gaps _ inside, totalGain, gain_self gaps wide]
  -- Either the need is met by what was counted, or it adds what is missing.
  rcases le_total need.room (counted gaps need.low need.high) with enough | short
  · rw [max_eq_left (by linarith), max_eq_right (by linarith)]
    constructor <;> intro bound <;> linarith
  · rw [max_eq_right (by linarith), max_eq_left (by linarith)]
    constructor <;> intro bound <;> linarith

/-- Whether every need across several lanes makes up for the gap before its first
lane, given the gaps that it finds at its turn. -/
def EvensOut (gaps : List Rat) (needs : List (Clearance Rat)) : Prop :=
  ∀ before need after, needs = before ++ need :: after → need.Wide →
    gap (before.foldl widenAcross gaps) need.low ≤
      gap (before.foldl widenAcross gaps) need.high +
          max 0 (counted (before.foldl widenAcross gaps) need.low need.high - need.room) +
        totalGain (widenAcross (before.foldl widenAcross gaps) need) after need.low need.high

/-- Every need across several lanes ends up with its room exactly if each makes up
for the gap before its first lane. -/
theorem evensOut_iff {gaps : List Rat} {needs : List (Clearance Rat)}
    (inside : ∀ need ∈ needs, need.Wide → need.high < gaps.length) :
    EvensOut gaps needs ↔
      ∀ need ∈ needs, need.Wide →
        need.room ≤ distance (needs.foldl widenAcross gaps) need.low need.high := by
  constructor
  · intro evensOut need member wide
    obtain ⟨before, after, split⟩ := List.append_of_mem member
    have lengthEq := (Grown.foldl grown_widenAcross before gaps).length
    have within := inside need member wide
    rw [split, List.foldl_append, room_le_distance_iff _ after wide (by omega)]
    exact evensOut before need after split wide
  · intro met before need after split wide
    have member : need ∈ needs := by simp [split]
    have lengthEq := (Grown.foldl grown_widenAcross before gaps).length
    have within := inside need member wide
    have enough := met need member wide
    rw [split, List.foldl_append, room_le_distance_iff _ after wide (by omega)] at enough
    exact enough

end Gaps

end Lifeline
