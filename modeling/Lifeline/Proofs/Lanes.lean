import Lifeline.Layout
import Lifeline.Proofs.Gaps

/-!
# Lanes of actors

A layout gives every actor its lane and leaves its names alone.  So a name that
means some lane before a layout means the same lane after it, and the actor found
there is the one that stands at that lane.
-/

namespace Lifeline

namespace Directory

variable {α β : Type}

theorem map_under (name : Actor α → String) (actors : List (Actor α)) :
    (under name actors).map (fun entry => (entry.name, entry.lane)) =
      ((actors.map name).zipIdx).reverse := by
  rw [under, List.map_reverse, List.map_map, List.zipIdx_map]
  rfl

theorem map_find? (value : Entry α → β) (directory : Directory α) (name : String) :
    (directory.find? name).map value =
      ((directory.map fun entry => (entry.name, value entry)).find?
        (fun known => known.1 == name)).map Prod.snd := by
  rw [List.find?_map, Option.map_map]
  rfl

/-- Two directories that lead from every name to the same lane. -/
def Alike (directory : Directory α) (other : Directory β) : Prop :=
  ∀ name, (directory.find? name).map Entry.lane = (other.find? name).map Entry.lane

theorem alike_ofActors {actors : List (Actor α)} {others : List (Actor β)}
    (captions : actors.map Actor.caption = others.map Actor.caption)
    (nicknames : actors.map Actor.nickname = others.map Actor.nickname) :
    Alike (ofActors actors) (ofActors others) := by
  intro name
  rw [map_find?, map_find?, ofActors, ofActors, List.map_append, List.map_append,
    map_under, map_under, map_under, map_under, captions, nicknames]

theorem actor_of_mem_under {name : Actor α → String} {actors : List (Actor α)}
    {entry : Entry α} (member : entry ∈ under name actors) :
    actors[entry.lane]? = some entry.actor := by
  rw [under, List.mem_reverse, List.mem_map] at member
  obtain ⟨⟨actor, lane⟩, numbered, rfl⟩ := member
  exact List.mk_mem_zipIdx_iff_getElem?.mp numbered

theorem actor_of_find? {actors : List (Actor α)} {name : String} {entry : Entry α}
    (found : (ofActors actors).find? name = some entry) :
    actors[entry.lane]? = some entry.actor := by
  have member := List.mem_of_find?_eq_some found
  rw [ofActors, List.mem_append] at member
  rcases member with underCaption | underNickname
  · exact actor_of_mem_under underCaption
  · exact actor_of_mem_under underNickname

theorem lane_lt_of_find? {actors : List (Actor α)} {name : String} {entry : Entry α}
    (found : (ofActors actors).find? name = some entry) : entry.lane < actors.length :=
  (List.getElem?_eq_some_iff.mp (actor_of_find? found)).1

theorem exists_find?_of_anchor? {directory : Directory α} {location : Option String}
    {entry : Entry α} (found : directory.anchor? location = some entry) :
    ∃ name, directory.find? name = some entry := by
  cases location with
  | none => cases found
  | some location =>
      rw [anchor?] at found
      split at found
      · cases found
      · exact ⟨location, found⟩

theorem ends?_eq_some_iff {directory : Directory α} {source destination : String}
    {first second : Entry α} :
    directory.ends? source destination = some (first, second) ↔
      directory.find? source = some first ∧ directory.find? destination = some second := by
  rw [ends?]
  cases directory.find? source <;> cases directory.find? destination <;> simp

theorem map_ends?_eq_bind (value : Entry α → β) (directory : Directory α)
    (source destination : String) :
    (directory.ends? source destination).map (Prod.map value value) =
      ((directory.find? source).map value).bind fun first =>
        ((directory.find? destination).map value).map fun second => (first, second) := by
  rw [ends?]
  cases directory.find? source <;> cases directory.find? destination <;> rfl

namespace Alike

variable {directory : Directory α} {other : Directory β}

theorem map_ends? (alike : directory.Alike other) (source destination : String) :
    (directory.ends? source destination).map (Prod.map Entry.lane Entry.lane) =
      (other.ends? source destination).map (Prod.map Entry.lane Entry.lane) := by
  rw [map_ends?_eq_bind, map_ends?_eq_bind, alike source, alike destination]

theorem map_anchor? (alike : directory.Alike other) (location : Option String) :
    (directory.anchor? location).map Entry.lane =
      (other.anchor? location).map Entry.lane := by
  cases location with
  | none => rfl
  | some location =>
      rw [anchor?, anchor?]
      split
      · rfl
      · exact alike location

end Alike

end Directory

namespace Gaps

/-- Where a lane stands: behind every gap up to its own. -/
def position (gaps : List Rat) (lane : Nat) : Rat :=
  ∑ index ∈ Finset.range (lane + 1), gap gaps index

theorem position_sub_position (gaps : List Rat) {low high : Nat} (ordered : low ≤ high) :
    position gaps high - position gaps low = distance gaps low high := by
  have between : Finset.Ico (low + 1) (high + 1) = Finset.Ioc low high := by
    ext index
    rw [Finset.mem_Ico, Finset.mem_Ioc]
    omega
  rw [position, position, ← Finset.sum_Ico_eq_sub _ (by omega), between, distance]

theorem gap_le_position {gaps : List Rat} (nonneg : ∀ index, 0 ≤ gap gaps index) (lane : Nat) :
    gap gaps lane ≤ position gaps lane :=
  Finset.single_le_sum (fun index _ => nonneg index) (Finset.self_mem_range_succ lane)

theorem sum_gap_succ (gaps : List Rat) (count : Nat) :
    ∑ index ∈ Finset.range (count + 1), gap gaps index =
      gaps.headD zero + ∑ index ∈ Finset.range count, gap gaps.tail index := by
  rw [Finset.sum_range_succ', add_comm]
  cases gaps <;> simp [gap]

end Gaps

namespace Actor

theorem getElem?_spread (sizes : Sizes Rat) (position : Rat) (actors : List (Actor Rat))
    (gaps : List Rat) (lane : Nat) :
    (spread sizes position actors gaps).1[lane]? =
      actors[lane]?.map fun actor =>
        { actor with
          laneX := position + ∑ index ∈ Finset.range lane, Gaps.gap gaps index
          x := position + ∑ index ∈ Finset.range lane, Gaps.gap gaps index -
            actor.width / 2
          topY := sizes.padding } := by
  induction actors generalizing position gaps lane with
  | nil => simp [spread]
  | cons actor rest ih =>
      cases lane with
      | zero => simp [spread]
      | succ lane =>
          rw [spread, List.getElem?_cons_succ, ih, List.getElem?_cons_succ,
            Gaps.sum_gap_succ, add_assoc]

/-- What neither the size nor the place of a head changes is left as it is. -/
theorem map_spread {α β : Type} [Scalar α] {value : Actor α → β}
    (unmoved : ∀ (actor : Actor α) (laneX x topY : α),
      value { actor with laneX, x, topY } = value actor)
    (sizes : Sizes α) (position : α) (actors : List (Actor α)) (gaps : List α) :
    (spread sizes position actors gaps).1.map value = actors.map value := by
  induction actors generalizing position gaps with
  | nil => rfl
  | cons actor rest ih =>
      rw [spread, List.map_cons, List.map_cons, ih, unmoved]

end Actor

namespace Diagram

section Parts

variable {α : Type} [Scalar α] (measure : Measurer α) (sizes : Sizes α)
  (diagram : Diagram α)

def heads : List (Actor α) :=
  diagram.actors.map (Actor.measured measure sizes)

/-- The actors of a diagram at their lanes, and the width of the drawing. -/
def spread : List (Actor α) × α :=
  Actor.spread sizes ((diagram.gaps measure sizes).headD zero)
    (diagram.heads measure sizes) (diagram.gaps measure sizes).tail

def laneDirectory : Directory α :=
  Directory.ofActors (diagram.spread measure sizes).1

def top : α :=
  Actor.highest (diagram.heads measure sizes) + sizes.padding * ((2 : Nat) : α) +
    ((1 : Nat) : α)

/-- The events of a diagram at their places, and the position below them. -/
def placement : List (Event α) × Option α :=
  Event.placeAll (diagram.laneDirectory measure sizes) sizes
    (diagram.spread measure sizes).2 (diagram.top measure sizes)
    (Event.allMeasured diagram.directory measure sizes diagram.events)

theorem layout_events :
    (diagram.layout measure sizes).1.events = (diagram.placement measure sizes).1 :=
  rfl

theorem layout_actors :
    (diagram.layout measure sizes).1.actors =
      (diagram.spread measure sizes).1.map fun actor =>
        { actor with
          bottomY :=
            (diagram.placement measure sizes).2.getD (diagram.top measure sizes) } :=
  rfl

theorem map_spread {β : Type} {value : Actor α → β}
    (unmoved : ∀ (actor : Actor α) (width height laneX x topY : α),
      value { actor with width, height, laneX, x, topY } = value actor) :
    (diagram.spread measure sizes).1.map value = diagram.actors.map value := by
  rw [spread, Actor.map_spread fun actor => unmoved actor actor.width actor.height, heads,
    List.map_map]
  apply List.map_congr_left
  intro actor _
  exact unmoved actor _ _ actor.laneX actor.x actor.topY

theorem alike_laneDirectory :
    diagram.directory.Alike (diagram.laneDirectory measure sizes) := by
  apply Directory.alike_ofActors
  · exact (map_spread measure sizes diagram fun _ _ _ _ _ _ => rfl).symm
  · exact (map_spread measure sizes diagram fun _ _ _ _ _ _ => rfl).symm

theorem gaps_eq_settle :
    diagram.gaps measure sizes =
      Gaps.settle (Gaps.ofWidths sizes ((diagram.heads measure sizes).map Actor.width))
        (diagram.clearances measure sizes) :=
  rfl

/-- Before anything asks for room there is a gap in front of each lane and one behind the
last. -/
theorem length_headGaps :
    (Gaps.ofWidths sizes ((diagram.heads measure sizes).map Actor.width)).length =
      diagram.actors.length + 1 := by
  rw [Gaps.length_ofWidths, List.length_map, heads, List.length_map]

end Parts

variable (measure : Measurer Rat) (sizes : Sizes Rat) (diagram : Diagram Rat)

/-- The gaps of a diagram once the needs between neighbours are met. -/
def besideGaps : List Rat :=
  (diagram.clearances measure sizes).foldl Gaps.widenBeside
    (Gaps.ofWidths sizes ((diagram.heads measure sizes).map Actor.width))

theorem length_besideGaps :
    (diagram.besideGaps measure sizes).length = diagram.actors.length + 1 := by
  rw [besideGaps, (Gaps.Grown.foldl Gaps.grown_widenBeside _ _).length, length_headGaps]

theorem getElem?_spread (lane : Nat) :
    (diagram.spread measure sizes).1[lane]? =
      (diagram.heads measure sizes)[lane]?.map fun actor =>
        { actor with
          laneX := Gaps.position (diagram.gaps measure sizes) lane
          x := Gaps.position (diagram.gaps measure sizes) lane - actor.width / 2
          topY := sizes.padding } := by
  rw [spread, Actor.getElem?_spread, ← Gaps.sum_gap_succ, Gaps.position]

theorem getElem?_layout (lane : Nat) :
    (diagram.layout measure sizes).1.actors[lane]? =
      (diagram.heads measure sizes)[lane]?.map fun actor =>
        { actor with
          laneX := Gaps.position (diagram.gaps measure sizes) lane
          x := Gaps.position (diagram.gaps measure sizes) lane - actor.width / 2
          topY := sizes.padding
          bottomY :=
            (diagram.placement measure sizes).2.getD (diagram.top measure sizes) } := by
  rw [layout_actors, List.getElem?_map, getElem?_spread, Option.map_map]
  rfl

theorem laneX_of_find? {name : String} {entry : Entry Rat}
    (found : (diagram.laneDirectory measure sizes).find? name = some entry) :
    entry.actor.laneX = Gaps.position (diagram.gaps measure sizes) entry.lane ∧
      entry.lane < diagram.actors.length := by
  have atLane := Directory.actor_of_find? found
  rw [getElem?_spread, heads, List.getElem?_map, Option.map_map,
    Option.map_eq_some_iff] at atLane
  obtain ⟨actor, actorEq, placedEq⟩ := atLane
  refine ⟨?_, (List.getElem?_eq_some_iff.mp actorEq).1⟩
  rw [← placedEq]
  rfl

end Diagram

theorem Measurer.width_cells_nonneg (caption : String) :
    0 ≤ (Measurer.cells caption : Extent Rat).width :=
  Nat.cast_nonneg _

theorem Sizes.padding_cells : (Sizes.cells : Sizes Rat).padding = 1 :=
  rfl

theorem Sizes.padding_cells_pos : 0 < (Sizes.cells : Sizes Rat).padding := by
  decide

namespace Diagram

section Room

variable {measure : Measurer Rat} {sizes : Sizes Rat} {diagram : Diagram Rat} {lane : Nat}
  {head : Actor Rat}

theorem padding_le_width_of_head (widths : ∀ caption, 0 ≤ (measure caption).width)
    (headEq : (diagram.heads measure sizes)[lane]? = some head) :
    2 * sizes.padding ≤ head.width := by
  rw [heads, List.getElem?_map, Option.map_eq_some_iff] at headEq
  obtain ⟨actor, -, rfl⟩ := headEq
  have caption := widths actor.caption
  simp only [Actor.measured, twice_fraction]
  linarith

theorem getD_share (headEq : (diagram.heads measure sizes)[lane]? = some head) :
    (((diagram.heads measure sizes).map Actor.width).map (Gaps.share sizes)).getD lane 0 =
      head.width / 2 + sizes.padding := by
  rw [List.getD_eq_getElem?_getD, List.getElem?_map, List.getElem?_map, headEq]
  rfl

variable (padding : 0 ≤ sizes.padding) (widths : ∀ caption, 0 ≤ (measure caption).width)

include padding widths

variable (diagram) in
theorem share_nonneg :
    ∀ width ∈ (diagram.heads measure sizes).map Actor.width, 0 ≤ Gaps.share sizes width := by
  intro width member
  obtain ⟨head, inHeads, rfl⟩ := List.mem_map.mp member
  obtain ⟨lane, headEq⟩ := List.mem_iff_getElem?.mp inHeads
  have wide := padding_le_width_of_head widths headEq
  rw [Gaps.share, half_fraction]
  linarith

theorem gap_nonneg (index : Nat) : 0 ≤ Gaps.gap (diagram.gaps measure sizes) index := by
  rw [gaps_eq_settle]
  exact (Gaps.gap_ofWidths_nonneg (share_nonneg diagram padding widths) index).trans
    ((Gaps.grown_settle _ _).gap_le index)

/-- In front of a lane there is room for half its box, with padding. -/
theorem box_le_position (headEq : (diagram.heads measure sizes)[lane]? = some head) :
    head.width / 2 + sizes.padding ≤ Gaps.position (diagram.gaps measure sizes) lane := by
  rw [← getD_share headEq]
  refine (Gaps.getD_share_le_gap (share_nonneg diagram padding widths) lane).trans ?_
  exact ((Gaps.grown_settle _ _).gap_le lane).trans
    (Gaps.gap_le_position (gap_nonneg padding widths) lane)

variable (diagram) in
/-- Between two lanes there is room for the halves of their boxes, each with padding. -/
theorem boxes_le_position_sub {first last : Nat} (ordered : first < last) :
    (((diagram.heads measure sizes).map Actor.width).map (Gaps.share sizes)).getD first 0 +
        (((diagram.heads measure sizes).map Actor.width).map (Gaps.share sizes)).getD last 0 ≤
      Gaps.position (diagram.gaps measure sizes) last -
        Gaps.position (diagram.gaps measure sizes) first := by
  rw [Gaps.position_sub_position _ (le_of_lt ordered)]
  exact Gaps.shares_le_distance (share_nonneg diagram padding widths) (Gaps.grown_settle _ _)
    ordered

/-- Behind a lane there is room for half its box, with padding. -/
theorem position_add_box_le (headEq : (diagram.heads measure sizes)[lane]? = some head) :
    Gaps.position (diagram.gaps measure sizes) lane + (head.width / 2 + sizes.padding) ≤
      Gaps.position (diagram.gaps measure sizes) diagram.actors.length := by
  have inside : lane < diagram.actors.length := by
    simpa [heads] using (List.getElem?_eq_some_iff.mp headEq).1
  have boxes := boxes_le_position_sub diagram padding widths inside
  have nonneg := Gaps.getD_share_nonneg (share_nonneg diagram padding widths)
    diagram.actors.length
  rw [getD_share headEq] at boxes
  linarith

end Room

end Diagram

end Lifeline
