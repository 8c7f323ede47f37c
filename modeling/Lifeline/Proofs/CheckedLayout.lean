import Lifeline.Proofs.Relayout

/-!
# Layouts that look before they read

A layout changes gaps by the numbers of lanes and moves its cursor by heights that it
measured.  Here it is written once more, and fails wherever there is no gap of some
number or no height where one is read.  Its cursor goes down past copies of the events
that hold nothing but what this layout measured.

Such a layout never fails, whatever is laid out: every lane that a name leads to has
its gaps, and exactly what was measured is placed.
-/

namespace Lifeline

variable {α : Type}

/-- A fold whose steps succeed on good states succeeds and ends in a good state. -/
theorem foldlM_eq_some {σ ε : Type} (good : σ → Prop) {step : σ → ε → σ}
    {step? : σ → ε → Option σ} {elements : List ε}
    (agree : ∀ state, good state → ∀ element ∈ elements,
      step? state element = some (step state element) ∧ good (step state element))
    {state : σ} (start : good state) :
    elements.foldlM step? state = some (elements.foldl step state) ∧
      good (elements.foldl step state) := by
  induction elements generalizing state with
  | nil => exact ⟨rfl, start⟩
  | cons element rest ih =>
      obtain ⟨stepEq, next⟩ := agree state start element List.mem_cons_self
      rw [List.foldlM_cons, stepEq, List.foldl_cons]
      exact ih (fun state good other member =>
        agree state good other (List.mem_cons_of_mem _ member)) next

namespace Gaps

/-- Change the gap of some number, if there is one. -/
def change? (gaps : List α) (index : Nat) (change : α → α) : Option (List α) :=
  gaps[index]?.map fun gap => gaps.set index (change gap)

theorem change?_eq {gaps : List α} {index : Nat} (inside : index < gaps.length)
    (change : α → α) : change? gaps index change = some (gaps.modify index change) := by
  rw [change?, List.modify_eq_set_getElem?, List.getElem?_eq_getElem inside]
  rfl

variable [Scalar α]

/-- The gaps that heads take up, as each head in turn adds its share to the gap before
its lane and to the gap after it. -/
def ofWidths? (sizes : Sizes α) (widths : List α) : Option (List α) :=
  widths.zipIdx.foldlM
    (fun gaps (width, lane) =>
      (change? gaps lane (· + share sizes width)).bind fun gaps =>
        change? gaps (lane + 1) (· + share sizes width))
    (List.replicate (widths.length + 1) zero)

def raise? (gaps : List α) (index : Nat) (room : α) : Option (List α) :=
  change? gaps index fun gap => if gap < room then room else gap

def widenBeside? (gaps : List α) (need : Clearance α) : Option (List α) :=
  let low := min need.first need.second
  let high := max need.first need.second
  if high = low + 1 then raise? gaps high need.room
  else if high = low then raise? gaps low need.room
  else some gaps

/-- Add to every gap after one lane up to another, one gap after the other. -/
def stretch? (gaps : List α) (low high : Nat) (extra : α) : Option (List α) :=
  (List.range' (low + 1) (high - low)).foldlM
    (fun gaps index => change? gaps index (· + extra)) gaps

def widenAcross? (gaps : List α) (need : Clearance α) : Option (List α) :=
  let low := min need.first need.second
  let high := max need.first need.second
  if high ≤ low + 1 then some gaps
  else
    let available := ((gaps.take high).drop low).foldl (· + ·) zero
    if available < need.room then
      stretch? gaps low high ((need.room - available) / ((high - low : Nat) : α))
    else some gaps

def settle? (gaps : List α) (needs : List (Clearance α)) : Option (List α) :=
  (needs.foldlM widenBeside? gaps).bind (needs.foldlM widenAcross?)

variable {gaps : List α}

/-- Shares that are added one after the other, the last of them to the gap that is still
open as well. -/
def ofShares (before : α) : List α → List α
  | [] => [before]
  | share :: rest => (before + share) :: ofShares (zero + share) rest

omit [Scalar α] in
theorem change?_append (front back : List α) (gap : α) (change : α → α) :
    change? (front ++ gap :: back) front.length change =
      some (front ++ change gap :: back) := by
  rw [change?, List.getElem?_append_right (le_refl _), Nat.sub_self,
    List.getElem?_cons_zero, Option.map_some, List.set_append_right _ _ (le_refl _),
    Nat.sub_self, List.set_cons_zero]

theorem ofWidths?_eq_ofShares (sizes : Sizes α) (widths : List α) :
    ofWidths? sizes widths = some (ofShares zero (widths.map (share sizes))) := by
  -- In front of the lane whose turn it is, the gaps are done; behind it, they are zero.
  suffices general : ∀ (front : List α) (before : α),
      (widths.zipIdx front.length).foldlM
        (fun gaps (numbered : α × Nat) =>
          (change? gaps numbered.2 (· + share sizes numbered.1)).bind fun gaps =>
            change? gaps (numbered.2 + 1) (· + share sizes numbered.1))
        (front ++ before :: List.replicate widths.length zero) =
      some (front ++ ofShares before (widths.map (share sizes))) from general [] zero
  induction widths with
  | nil => intro front before; rfl
  | cons width rest ih =>
      intro front before
      have inner := change?_append (front ++ [before + share sizes width])
        (List.replicate rest.length zero) zero (· + share sizes width)
      have next := ih (front ++ [before + share sizes width]) (zero + share sizes width)
      simp only [List.length_append, List.length_singleton, List.append_assoc,
        List.singleton_append] at inner next
      rw [List.zipIdx_cons, List.foldlM_cons, change?_append, Option.bind_some,
        List.length_cons, List.replicate_succ, inner]
      exact next

theorem ofShares_eq_zipWith (before : Rat) (shares : List Rat) :
    ofShares before shares =
      List.zipWith (· + ·) (before :: shares) (shares ++ [zero]) := by
  induction shares generalizing before with
  | nil => rw [ofShares, List.nil_append, List.zipWith_cons_cons, zero_fraction, add_zero]; rfl
  | cons share rest ih =>
      rw [ofShares, ih, List.cons_append, List.zipWith_cons_cons, zero_fraction, zero_add]

/-- In exact arithmetic the gaps that are counted up are those of the layout. -/
theorem ofWidths?_eq (sizes : Sizes Rat) (widths : List Rat) :
    ofWidths? sizes widths = some (ofWidths sizes widths) := by
  rw [ofWidths?_eq_ofShares, ofShares_eq_zipWith]
  rfl

theorem length_widenBeside (gaps : List α) (need : Clearance α) :
    (widenBeside gaps need).length = gaps.length := by
  rw [widenBeside]
  split
  · exact List.length_modify _ _ _
  · split
    · exact List.length_modify _ _ _
    · rfl

theorem widenBeside?_eq {need : Clearance α} (inside : need.high < gaps.length) :
    widenBeside? gaps need = some (widenBeside gaps need) := by
  have lowInside : need.low < gaps.length := need.low_le_high.trans_lt inside
  rw [widenBeside?, widenBeside]
  split
  · exact change?_eq inside _
  · split
    · exact change?_eq lowInside _
    · rfl

theorem stretch_self (gaps : List α) (low : Nat) (extra : α) :
    stretch gaps low low extra = gaps := by
  apply List.ext_getElem?
  intro index
  have never : ¬ (low < index ∧ index ≤ low) := by omega
  rw [stretch, List.getElem?_mapIdx]
  simp [never]

theorem stretch_succ (gaps : List α) (low count : Nat) (extra : α) :
    stretch gaps low (low + (count + 1)) extra =
      (stretch gaps low (low + count) extra).modify (low + 1 + count) (· + extra) := by
  apply List.ext_getElem?
  intro index
  rw [stretch, stretch, List.getElem?_modify, List.getElem?_mapIdx, List.getElem?_mapIdx,
    Option.map_eq_map, Option.map_map]
  congr 1
  funext gap
  by_cases last : low + 1 + count = index
  · have now : low < index ∧ index ≤ low + (count + 1) := by omega
    have beyond : ¬ index ≤ low + count := by omega
    simp [last, now, beyond]
  · have same : (low < index ∧ index ≤ low + (count + 1)) ↔
        (low < index ∧ index ≤ low + count) := by omega
    simp [last, same]

theorem stretch?_eq {low high : Nat} (ordered : low ≤ high) (inside : high < gaps.length)
    (extra : α) : stretch? gaps low high extra = some (stretch gaps low high extra) := by
  obtain ⟨count, rfl⟩ := Nat.exists_eq_add_of_le ordered
  rw [stretch?, Nat.add_sub_cancel_left]
  induction count with
  | zero => exact congrArg some (stretch_self gaps low extra).symm
  | succ count ih =>
      have next : low + 1 + count < (stretch gaps low (low + count) extra).length := by
        rw [length_stretch]
        omega
      rw [List.range'_concat, Nat.one_mul, List.foldlM_append, ih (by omega) (by omega),
        Option.bind_eq_bind, Option.bind_some, List.foldlM_cons, change?_eq next, stretch_succ]
      rfl

theorem length_widenAcross (gaps : List α) (need : Clearance α) :
    (widenAcross gaps need).length = gaps.length := by
  rw [widenAcross]
  dsimp only
  split
  · rfl
  · split
    · exact length_stretch _ _ _ _
    · rfl

theorem widenAcross?_eq {need : Clearance α} (inside : need.high < gaps.length) :
    widenAcross? gaps need = some (widenAcross gaps need) := by
  rw [widenAcross?, widenAcross]
  dsimp only
  split
  · rfl
  · split
    · exact stretch?_eq need.low_le_high inside _
    · rfl

/-- Needs between lanes that there are find every gap that they change. -/
theorem settle?_eq {needs : List (Clearance α)}
    (inside : ∀ need ∈ needs, need.high < gaps.length) :
    settle? gaps needs = some (settle gaps needs) ∧
      (settle gaps needs).length = gaps.length := by
  have beside := foldlM_eq_some (fun state => state.length = gaps.length)
    (fun state lengthEq need member =>
      ⟨widenBeside?_eq (lengthEq ▸ inside need member),
        (length_widenBeside state need).trans lengthEq⟩) rfl
  have across := foldlM_eq_some (fun state => state.length = gaps.length)
    (fun state lengthEq need member =>
      ⟨widenAcross?_eq (lengthEq ▸ inside need member),
        (length_widenAcross state need).trans lengthEq⟩) beside.2
  rw [settle?, beside.1, Option.bind_some]
  exact across

end Gaps

section Layout

variable [Scalar α]

/-- Give actors their lanes, if there is a gap after each of them. -/
def Actor.spread? (sizes : Sizes α) (position : α) :
    List (Actor α) → List α → Option (List (Actor α) × α)
  | [], _ => some ([], position)
  | _ :: _, [] => none
  | actor :: rest, gap :: gaps =>
      (spread? sizes (position + gap) rest gaps).map fun (others, width) =>
        ({ actor with
            laneX := position
            x := position - half actor.width
            topY := sizes.padding } :: others, width)

theorem Actor.spread?_eq (sizes : Sizes α) (position : α) {actors : List (Actor α)}
    {gaps : List α} (enough : actors.length ≤ gaps.length) :
    spread? sizes position actors gaps = some (spread sizes position actors gaps) := by
  induction actors generalizing position gaps with
  | nil => rfl
  | cons actor rest ih =>
      cases gaps with
      | nil => simp at enough
      | cons gap gaps =>
          rw [spread?, ih _ (by simpa using enough)]
          rfl

namespace Diagram

variable (measure : Measurer α) (sizes : Sizes α) (diagram : Diagram α)

/-- The gaps of a diagram, unless one that is changed is missing.  What the heads take is
counted up gap by gap, too. -/
def gaps? : Option (List α) :=
  let widths := (diagram.heads measure sizes).map Actor.width
  (Gaps.ofWidths? sizes widths).bind fun _ =>
    Gaps.settle? (Gaps.ofWidths sizes widths) (diagram.clearances measure sizes)

/-- What a layout returns: actors at their lanes and placed events, with lifelines that
go down to a position. -/
def finish (spread : List (Actor α) × α) (placed : List (Event α)) (bottom : α) :
    Diagram α × Extent α :=
  ({ actors := spread.1.map fun actor => { actor with bottomY := bottom }
     events := placed },
    { width := spread.2, height := bottom + sizes.padding })

theorem layout_eq_finish :
    diagram.layout measure sizes =
      finish sizes (diagram.spread measure sizes) (diagram.placement measure sizes).1
        ((diagram.placement measure sizes).2.getD (diagram.top measure sizes)) :=
  rfl

/-- Lay out a diagram, unless a gap or a height that is read is missing.  Nothing but
what this layout has measured is placed; what it does not place stays as it was. -/
def layout? : Option (Diagram α × Extent α) := do
  let gaps ← diagram.gaps? measure sizes
  let first ← gaps.head?
  let spread ← Actor.spread? sizes first (diagram.heads measure sizes) gaps.tail
  let (fresh, cursor) :=
    Event.placeAll (Directory.ofActors spread.1) sizes spread.2 (diagram.top measure sizes)
      (Event.allMeasured diagram.directory measure sizes (Event.allBlank diagram.events))
  cursor.map (finish sizes spread (Event.allOver diagram.events fresh))

theorem high_le_of_mem_clearances {need : Clearance α}
    (member : need ∈ diagram.clearances measure sizes) :
    need.high ≤ diagram.actors.length := by
  rw [clearances, Event.allClearances_eq_flatMap, List.mem_flatMap] at member
  obtain ⟨event, -, own⟩ := member
  cases event with
  | signal signal place =>
      rw [Event.ownClearances, Event.clearances] at own
      split at own
      next source destination endsEq =>
        obtain ⟨sourceFound, destinationFound⟩ := Directory.ends?_eq_some_iff.mp endsEq
        rw [List.mem_singleton.mp own]
        exact max_le (Directory.lane_lt_of_find? sourceFound).le
          (Directory.lane_lt_of_find? destinationFound).le
      next => cases own
  | note note place =>
      rw [Event.ownClearances, Event.clearances] at own
      split at own
      next entry anchorEq =>
        obtain ⟨name, found⟩ := Directory.exists_find?_of_anchor? anchorEq
        have inside := Directory.lane_lt_of_find? found
        rw [List.mem_singleton.mp own]
        exact max_le inside.le inside
      next => cases own
  | conditional | synchrony | lifetime | numbering => cases own

theorem gaps?_eq :
    diagram.gaps? measure sizes = some (diagram.gaps measure sizes) ∧
      (diagram.gaps measure sizes).length = diagram.actors.length + 1 := by
  have lengthEq := diagram.length_headGaps measure sizes
  have inside : ∀ need ∈ diagram.clearances measure sizes, need.high <
      (Gaps.ofWidths sizes ((diagram.heads measure sizes).map Actor.width)).length := by
    intro need member
    rw [lengthEq]
    exact Nat.lt_succ_of_le (high_le_of_mem_clearances measure sizes diagram member)
  rw [gaps?, Gaps.ofWidths?_eq_ofShares, Option.bind_some, ← lengthEq]
  exact Gaps.settle?_eq inside

/-- A layout finds every gap and every height that it reads. -/
theorem layout?_eq :
    diagram.layout? measure sizes = some (diagram.layout measure sizes) := by
  obtain ⟨gapsEq, lengthEq⟩ := diagram.gaps?_eq measure sizes
  obtain ⟨bottom, cursorEq, placementEq, -⟩ := diagram.placement_over measure sizes
  have headEq : (diagram.gaps measure sizes).head? =
      some ((diagram.gaps measure sizes).headD zero) := by
    cases gaps : diagram.gaps measure sizes with
    | nil => rw [gaps] at lengthEq; cases lengthEq
    | cons => rfl
  have spreadEq : Actor.spread? sizes ((diagram.gaps measure sizes).headD zero)
      (diagram.heads measure sizes) (diagram.gaps measure sizes).tail =
        some (diagram.spread measure sizes) := by
    apply Actor.spread?_eq
    rw [List.length_tail, lengthEq, heads, List.length_map, Nat.add_sub_cancel]
  have placed : (diagram.freshPlacement measure sizes).2.map
      (finish sizes (diagram.spread measure sizes)
        (Event.allOver diagram.events (diagram.freshPlacement measure sizes).1)) =
      some (diagram.layout measure sizes) := by
    rw [layout_eq_finish, placementEq, cursorEq]
    rfl
  rw [← placed, layout?, gapsEq, Option.bind_eq_bind, Option.bind_some, headEq,
    Option.bind_eq_bind, Option.bind_some, spreadEq, Option.bind_eq_bind, Option.bind_some]
  rfl

end Diagram

end Layout

end Lifeline
