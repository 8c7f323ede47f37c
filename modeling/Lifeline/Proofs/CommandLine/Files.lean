import Lifeline.CommandLine.Files
import Mathlib.Data.List.Basic
import Mathlib.Data.List.Infix

/-!
# Files that are written

Writing a file changes one node of a tree of files.  The directories on the way to it are
there before, so nothing new stands beside it, and what stood elsewhere stays.  Whatever is
found before is found after at the same path, and the path that was written at leads to the
file.

A word may stand for no path: one of its letters stands for no bytes, or it has a null
character.  Every other path that cannot be opened is refused for what the files are like.
-/

namespace Lifeline.CommandLine

open Text (Letters)

/-- How a path that cannot be opened ends a run. -/
inductive Fault where
  | system
  | nullCharacter
  | surrogate
  deriving DecidableEq

def PathError.fault : PathError → Fault
  | .nullCharacter => .nullCharacter
  | .surrogate => .surrogate
  | .missing | .notDirectory | .isDirectory | .other _ _ => .system

/-- How a word ends a run if it is a path that cannot be opened: by what keeps it from
being a path at all, or else by what the system says. -/
def nameFault (path : Letters) : Fault :=
  if path.pathBytes?.isNone then .surrogate
  else if .char '\x00' ∈ path then .nullCharacter
  else .system

namespace FileTree

variable {tree : FileTree} {names : List FileName} {path : Letters}

/-- Whether a file can stand somewhere: all that comes before it on the way is a directory,
and no directory stands there. -/
structure Writable (tree : FileTree) (names : List FileName) : Prop where
  nonempty : names ≠ []
  parents : ∀ other, other <+: names → other ≠ names → tree.node? other = some .directory
  free : tree.node? names ≠ some .directory

theorem node?_of_find? {names : List FileName} (nonempty : names ≠ [])
    {entry : List FileName × FileNode}
    (found : tree.entries.find? (fun entry => entry.1 == names) = some entry) :
    tree.node? names = some entry.2 := by
  rw [node?, if_neg (by simpa using nonempty), found]

theorem find?_insert (tree : FileTree) (names : List FileName) (content : ByteArray)
    (other : List FileName) :
    (tree.insert names content).entries.find? (fun entry => entry.1 == other) =
      if other = names then some (names, .file content)
      else tree.entries.find? fun entry => entry.1 == other := by
  rw [insert, List.find?_append, List.find?_filter]
  split
  next same =>
    subst same
    have noneKept : tree.entries.find?
        (fun entry => (entry.1 != other) = true ∧ (entry.1 == other) = true) = none := by
      simp
    rw [noneKept]
    simp
  next differs =>
    have kept : (fun entry : List FileName × FileNode =>
        decide ((entry.1 != names) = true ∧ (entry.1 == other) = true)) =
          fun entry => entry.1 == other := by
      funext entry
      by_cases same : entry.1 = other <;> simp [same, differs]
    rw [kept]
    simp [Ne.symm differs]

theorem any_isPrefixOf_insert (tree : FileTree) {names other : List FileName}
    (beside : ¬ other <+: names) (content : ByteArray) :
    ((tree.insert names content).entries.any fun entry => other.isPrefixOf entry.1) =
      tree.entries.any fun entry => other.isPrefixOf entry.1 := by
  have notPrefix : other.isPrefixOf names = false :=
    Bool.eq_false_iff.mpr fun isPrefix => beside (List.isPrefixOf_iff_prefix.mp isPrefix)
  have kept : (fun entry : List FileName × FileNode =>
      entry.1 != names && other.isPrefixOf entry.1) = fun entry => other.isPrefixOf entry.1 := by
    funext entry
    by_cases same : entry.1 = names
    · simp [same, notPrefix]
    · simp [same]
  rw [insert, List.any_append, List.any_filter, kept]
  simp [notPrefix]

theorem Writable.node?_insert (writable : tree.Writable names) (content : ByteArray)
    (other : List FileName) :
    (tree.insert names content).node? other =
      if other = names then some (.file content) else tree.node? other := by
  by_cases outermost : other = []
  · rw [outermost, if_neg writable.nonempty.symm]
    rfl
  have found := tree.find?_insert names content other
  split
  next same =>
    rw [if_pos same] at found
    exact node?_of_find? outermost found
  next differs =>
    rw [if_neg differs] at found
    cases foundBefore : tree.entries.find? fun entry => entry.1 == other with
    | some entry =>
        rw [node?_of_find? outermost (found.trans foundBefore),
          node?_of_find? outermost foundBefore]
    | none =>
        -- A directory without an entry of its own is one for what is inside it.
        rw [foundBefore] at found
        by_cases above : other <+: names
        · rw [writable.parents other above differs, node?, if_neg (by simpa using outermost),
            found]
          simp [insert, above]
        · rw [node?, node?, found, foundBefore, any_isPrefixOf_insert tree above]

/-- Directories stay directories. -/
theorem Writable.isDirectory_insert (writable : tree.Writable names) (content : ByteArray)
    {place : Place} (isDirectory : tree.isDirectory place = true) :
    (tree.insert names content).isDirectory place = true := by
  cases place with
  | outside => rfl
  | inside other =>
      rw [FileTree.isDirectory] at isDirectory ⊢
      rw [writable.node?_insert]
      split
      next same =>
        rw [same] at isDirectory
        have free := writable.free
        cases nodeEq : tree.node? names with
        | none => simp [nodeEq] at isDirectory
        | some node => cases node <;> simp_all [FileNode.isDirectory]
      next => exact isDirectory

/-- The directory above a place. -/
def Place.up : Place → Place
  | .outside => .outside
  | .inside names => if names.isEmpty then .outside else .inside names.dropLast

/-- A step stays in a directory, goes up from it, or goes on to something that is there. -/
theorem step_eq_ok_iff {place reached : Place} {name : FileName} :
    tree.step place name = .ok reached ↔
      tree.isDirectory place = true ∧
        ((name = [] ∨ name = here) ∧ reached = place ∨
          name = above ∧ reached = place.up ∨
          (name ≠ [] ∧ name ≠ here ∧ name ≠ above) ∧ ∃ dir, place = .inside dir ∧
            (tree.node? (dir ++ [name])).isSome = true ∧ reached = .inside (dir ++ [name])) := by
  constructor
  · intro stepped
    simp only [step] at stepped
    split at stepped
    · cases stepped
    next isDirectory =>
      refine ⟨by simpa using isDirectory, ?_⟩
      split at stepped
      next stays =>
        cases stepped
        exact Or.inl ⟨by simpa using stays, rfl⟩
      next goesOn =>
        rw [Bool.or_eq_true, decide_eq_true_eq, decide_eq_true_eq, not_or] at goesOn
        cases place with
        | outside =>
            dsimp only at stepped
            split at stepped <;> cases stepped
            next goesUp => exact Or.inr (Or.inl ⟨goesUp, rfl⟩)
        | inside dir =>
            dsimp only at stepped
            split at stepped
            next goesUp =>
              cases stepped
              exact Or.inr (Or.inl ⟨goesUp, rfl⟩)
            next plain =>
              split at stepped <;> cases stepped
              next nodeEq =>
                exact Or.inr (Or.inr
                  ⟨⟨goesOn.1, goesOn.2, plain⟩, dir, rfl, by rw [nodeEq]; rfl, rfl⟩)
  · rintro ⟨isDirectory, ⟨stays, rfl⟩ | ⟨rfl, rfl⟩ | ⟨⟨nonempty, notHere, notUp⟩, dir, rfl,
      there, rfl⟩⟩
    · rcases stays with rfl | rfl <;> simp [step, isDirectory]
    · cases place <;> simp [step, isDirectory, Place.up, above, here]
    · obtain ⟨node, nodeEq⟩ := Option.isSome_iff_exists.mp there
      simp [step, isDirectory, nonempty, notHere, notUp, nodeEq]

/-- Nothing on the way of a path is lost. -/
theorem Writable.step_insert (writable : tree.Writable names) (content : ByteArray)
    {place reached : Place} {name : FileName} (stepped : tree.step place name = .ok reached) :
    (tree.insert names content).step place name = .ok reached := by
  rw [step_eq_ok_iff] at stepped ⊢
  obtain ⟨isDirectory, stays | goesUp | ⟨plain, dir, placeEq, there, reachedEq⟩⟩ := stepped
  · exact ⟨writable.isDirectory_insert content isDirectory, Or.inl stays⟩
  · exact ⟨writable.isDirectory_insert content isDirectory, Or.inr (Or.inl goesUp)⟩
  · refine ⟨writable.isDirectory_insert content isDirectory,
      Or.inr (Or.inr ⟨plain, dir, placeEq, ?_, reachedEq⟩)⟩
    rw [writable.node?_insert]
    split
    · rfl
    · exact there

theorem walk_cons_eq_ok_iff {place reached : Place} {name : FileName} {rest : List FileName} :
    tree.walk place (name :: rest) = .ok reached ↔
      ∃ next, tree.step place name = .ok next ∧ tree.walk next rest = .ok reached := by
  rw [walk, List.foldlM_cons]
  constructor
  · intro walkedEq
    cases stepped : tree.step place name with
    | error error =>
        rw [stepped] at walkedEq
        cases walkedEq
    | ok next =>
        rw [stepped] at walkedEq
        exact ⟨next, rfl, walkedEq⟩
  · rintro ⟨next, stepped, onward⟩
    rw [stepped]
    exact onward

theorem Writable.walk_insert (writable : tree.Writable names) (content : ByteArray)
    {place reached : Place} {walked : List FileName}
    (walkedEq : tree.walk place walked = .ok reached) :
    (tree.insert names content).walk place walked = .ok reached := by
  induction walked generalizing place with
  | nil => exact walkedEq
  | cons name rest ih =>
      obtain ⟨next, stepped, onward⟩ := walk_cons_eq_ok_iff.mp walkedEq
      exact walk_cons_eq_ok_iff.mpr ⟨next, writable.step_insert content stepped, ih onward⟩

/-- Whether all that comes before a place on the way is a directory. -/
def Along (tree : FileTree) : Place → Prop
  | .outside => True
  | .inside names =>
      ∀ other, other <+: names → other ≠ names → tree.node? other = some .directory

theorem node?_of_isDirectory (isDirectory : tree.isDirectory (.inside names) = true) :
    tree.node? names = some .directory := by
  rw [FileTree.isDirectory, Option.any_eq_true] at isDirectory
  obtain ⟨node, nodeEq, holds⟩ := isDirectory
  cases node with
  | file => cases holds
  | directory => exact nodeEq

/-- All that comes before an entry of a directory that is reached is a directory. -/
theorem along_concat (along : tree.Along (.inside names))
    (nodeEq : tree.node? names = some .directory) (name : FileName) :
    tree.Along (.inside (names ++ [name])) := by
  intro other isPrefix differs
  rcases List.prefix_concat_iff.mp isPrefix with same | isPrefix
  · exact absurd same differs
  · by_cases same : other = names
    · rw [same, nodeEq]
    · exact along other isPrefix same

theorem along_of_step {place reached : Place} {name : FileName} (along : tree.Along place)
    (stepped : tree.step place name = .ok reached) : tree.Along reached := by
  obtain ⟨isDirectory, ⟨-, rfl⟩ | ⟨-, rfl⟩ | ⟨-, dir, rfl, -, rfl⟩⟩ := step_eq_ok_iff.mp stepped
  · exact along
  · cases place with
    | outside => trivial
    | inside names =>
        rw [Place.up]
        split
        · trivial
        · intro other isPrefix differs
          refine along other (isPrefix.trans names.dropLast_prefix) fun same => ?_
          subst same
          have short := isPrefix.length_le
          rw [List.length_dropLast] at short
          have empty : other = [] := List.eq_nil_of_length_eq_zero (by omega)
          exact differs (by rw [empty]; rfl)
  · exact along_concat along (node?_of_isDirectory isDirectory) name

theorem along_of_walk {place reached : Place} {walked : List FileName} (along : tree.Along place)
    (walkedEq : tree.walk place walked = .ok reached) : tree.Along reached := by
  induction walked generalizing place with
  | nil =>
      cases walkedEq
      exact along
  | cons name rest ih =>
      obtain ⟨next, stepped, onward⟩ := walk_cons_eq_ok_iff.mp walkedEq
      exact ih (along_of_step along stepped) onward

/-- Where a file is written that is written at a path. -/
def locate (tree : FileTree) (path : Letters) : Except PathError (List FileName) := do
  let bytes ← check path
  let names := split bytes
  let named := (names.reverse.dropWhile (· == [])).reverse
  match named.getLast? with
  | none => .error .isDirectory
  | some last =>
      let place ← tree.walk (start bytes) named.dropLast
      if named.length = names.length then tree.target place last
      else if tree.isDirectory place then .error .isDirectory
      else .error .notDirectory

theorem write_eq (tree : FileTree) (path : Letters) (content : ByteArray) :
    tree.write path content = (tree.locate path).map (tree.insert · content) := by
  rw [write, locate]
  cases check path with
  | error error => rfl
  | ok bytes =>
      simp only [bind, Except.bind, pure, Except.pure]
      generalize ((split bytes).reverse.dropWhile (· == [])).reverse = named
      cases named.getLast? with
      | none => rfl
      | some last =>
          cases tree.walk (start bytes) named.dropLast with
          | error error => rfl
          | ok place =>
              dsimp only
              split
              · cases tree.target place last <;> rfl
              · split <;> rfl

theorem target_eq_ok {place : Place} {last : FileName}
    (targeted : tree.target place last = .ok names) :
    ∃ dir, place = .inside dir ∧ names = dir ++ [last] ∧ tree.node? dir = some .directory ∧
      last ≠ here ∧ last ≠ above ∧ tree.node? names ≠ some .directory := by
  simp only [target] at targeted
  split at targeted
  · cases targeted
  split at targeted
  · cases targeted
  next isDirectory notSpecial =>
    cases place with
    | outside => cases targeted
    | inside dir =>
        dsimp only at targeted
        split at targeted
        · cases targeted
        next free =>
          cases targeted
          refine ⟨dir, rfl, rfl, node?_of_isDirectory (by simpa using isDirectory), ?_, ?_, ?_⟩
          · intro here
            simp [here] at notSpecial
          · intro up
            simp [up] at notSpecial
          · intro directory
            simp [directory, FileNode.isDirectory] at free

theorem locate_eq_ok (located : tree.locate path = .ok names) :
    ∃ bytes before last place, check path = .ok bytes ∧ split bytes = before ++ [last] ∧
      last ≠ [] ∧ tree.walk (start bytes) before = .ok place ∧
        tree.target place last = .ok names := by
  rw [locate] at located
  cases checked : check path with
  | error error =>
      rw [checked] at located
      cases located
  | ok bytes =>
      simp only [checked, bind, Except.bind] at located
      generalize namedEq : ((split bytes).reverse.dropWhile (· == [])).reverse = named at located
      cases lastEq : named.getLast? with
      | none => simp [lastEq] at located
      | some last =>
          simp only [lastEq] at located
          split at located
          · cases located
          next place walked =>
            split at located
            next wholeLength =>
              have whole : (split bytes).reverse.dropWhile (· == []) = (split bytes).reverse :=
                (List.dropWhile_suffix _).eq_of_length (by simpa [← namedEq] using wholeLength)
              have splitEq : split bytes = named := by rw [← namedEq, whole, List.reverse_reverse]
              have notEmpty := List.head?_dropWhile_not (· == []) (split bytes).reverse
              rw [← namedEq, List.getLast?_reverse] at lastEq
              rw [lastEq] at notEmpty
              rw [← List.getLast?_reverse, namedEq] at lastEq
              refine ⟨bytes, named.dropLast, last, place, rfl, ?_, by simpa using notEmpty,
                walked, located⟩
              rw [splitEq]
              exact (List.dropLast_append_getLast? last lastEq).symm
            next =>
              split at located <;> cases located

theorem writable_of_locate (located : tree.locate path = .ok names) : tree.Writable names := by
  obtain ⟨bytes, before, last, place, -, -, -, walked, targeted⟩ := locate_eq_ok located
  obtain ⟨dir, rfl, rfl, dirEq, -, -, free⟩ := target_eq_ok targeted
  have alongStart : tree.Along (start bytes) := by
    rw [start]
    split
    · trivial
    · intro other isPrefix differs
      exact absurd (List.prefix_nil.mp isPrefix) differs
  exact ⟨by simp, along_concat (along_of_walk alongStart walked) dirEq last, free⟩

/-- Where a file is written at a path, the path leads. -/
theorem walk_of_locate (located : tree.locate path = .ok names) (content : ByteArray) :
    ∃ bytes, check path = .ok bytes ∧
      (tree.insert names content).walk (start bytes) (split bytes) = .ok (.inside names) := by
  have writable := writable_of_locate located
  obtain ⟨bytes, before, last, place, checked, splitEq, nonempty, walked, targeted⟩ :=
    locate_eq_ok located
  obtain ⟨dir, rfl, rfl, dirEq, notHere, notUp, free⟩ := target_eq_ok targeted
  have here : (tree.insert (dir ++ [last]) content).node? (dir ++ [last]) =
      some (.file content) := by
    rw [writable.node?_insert, if_pos rfl]
  have inDirectory : (tree.insert (dir ++ [last]) content).isDirectory (.inside dir) = true :=
    writable.isDirectory_insert content (by rw [FileTree.isDirectory, dirEq]; rfl)
  refine ⟨bytes, checked, ?_⟩
  rw [splitEq, walk, List.foldlM_append]
  have walkedAfter := writable.walk_insert content walked
  rw [walk] at walkedAfter
  rw [walkedAfter]
  change ((tree.insert (dir ++ [last]) content).step (.inside dir) last >>= _) = _
  have stepped : (tree.insert (dir ++ [last]) content).step (.inside dir) last =
      .ok (.inside (dir ++ [last])) :=
    step_eq_ok_iff.mpr ⟨inDirectory, Or.inr (Or.inr ⟨⟨nonempty, notHere, notUp⟩, dir, rfl,
      by rw [here]; rfl, rfl⟩)⟩
  rw [stepped]
  rfl

theorem fault_of_check_error {error : PathError} (refused : check path = .error error) :
    error.fault = nameFault path := by
  rw [check] at refused
  rw [nameFault]
  cases bytesEq : path.pathBytes? with
  | none =>
      rw [bytesEq] at refused
      cases refused
      rfl
  | some bytes =>
      rw [bytesEq] at refused
      simp only [List.contains_iff_mem] at refused
      split at refused
      next null =>
        cases refused
        simp [null, PathError.fault]
      next notNull =>
        split at refused <;> cases refused
        simp [notNull, PathError.fault]

theorem nameFault_of_check_ok {bytes : List UInt8} (checked : check path = .ok bytes) :
    nameFault path = .system := by
  rw [check] at checked
  rw [nameFault]
  cases bytesEq : path.pathBytes? with
  | none =>
      rw [bytesEq] at checked
      cases checked
  | some bytes =>
      rw [bytesEq] at checked
      simp only [List.contains_iff_mem] at checked
      split at checked
      · cases checked
      next notNull => simp [notNull]

theorem fault_of_step_error {place : Place} {name : FileName} {error : PathError}
    (stopped : tree.step place name = .error error) : error.fault = .system := by
  simp only [step] at stopped
  repeat' split at stopped
  all_goals cases stopped
  all_goals rfl

theorem fault_of_walk_error {place : Place} {walked : List FileName} {error : PathError}
    (stopped : tree.walk place walked = .error error) : error.fault = .system := by
  induction walked generalizing place with
  | nil => cases stopped
  | cons name rest ih =>
      rw [walk, List.foldlM_cons] at stopped
      cases stepped : tree.step place name with
      | error other =>
          rw [stepped] at stopped
          cases stopped
          exact fault_of_step_error stepped
      | ok next =>
          rw [stepped] at stopped
          exact ih stopped

theorem fault_of_target_error {place : Place} {last : FileName} {error : PathError}
    (stopped : tree.target place last = .error error) : error.fault = .system := by
  simp only [target] at stopped
  repeat' split at stopped
  all_goals cases stopped
  all_goals rfl

/-- A path that cannot be read says by its letters how it ends a run. -/
theorem fault_of_read_error {error : PathError} (unread : tree.read path = .error error) :
    error.fault = nameFault path := by
  rw [read] at unread
  cases checked : check path with
  | error other =>
      rw [checked] at unread
      cases unread
      exact fault_of_check_error checked
  | ok bytes =>
      rw [nameFault_of_check_ok checked]
      simp only [checked, bind, Except.bind] at unread
      split at unread
      next walked =>
        cases unread
        exact fault_of_walk_error walked
      next =>
        repeat' split at unread
        all_goals cases unread
        all_goals rfl

theorem fault_of_locate_error {error : PathError} (unlocated : tree.locate path = .error error) :
    error.fault = nameFault path := by
  rw [locate] at unlocated
  cases checked : check path with
  | error other =>
      rw [checked] at unlocated
      cases unlocated
      exact fault_of_check_error checked
  | ok bytes =>
      rw [nameFault_of_check_ok checked]
      simp only [checked, bind, Except.bind] at unlocated
      split at unlocated
      · cases unlocated
        rfl
      split at unlocated
      next walked =>
        cases unlocated
        exact fault_of_walk_error walked
      next =>
        split at unlocated
        · exact fault_of_target_error unlocated
        · split at unlocated <;> cases unlocated <;> rfl

end FileTree

end Lifeline.CommandLine
