/-
Heights of nodes under a dependency relation, the layers they fall into, and closed chains.
-/

import Mathlib.Data.List.Chain
import Mathlib.Data.List.Perm.Subperm
import Mathlib.Data.List.Sort
import Mathlib.Data.Nat.SuccPred

namespace CrossCodex.Library

variable {Node : Type*} {depends : Node → List Node} {node : Node} {steps bound : Nat}

/-- Each node of the list depends on the next one. -/
def Descends (depends : Node → List Node) (path : List Node) : Prop :=
  path.IsChain fun above below => below ∈ depends above

def pathLengths (depends : Node → List Node) (node : Node) : Set Nat :=
  { steps | ∃ path, path.length = steps ∧ Descends depends (node :: path) }

/-- The longest path below the node has this many steps. -/
def Height (depends : Node → List Node) (node : Node) (height : Nat) : Prop :=
  IsGreatest (pathLengths depends node) height

theorem descends_cons_cons {first second : Node} {rest : List Node} :
    Descends depends (first :: second :: rest) ↔
      second ∈ depends first ∧ Descends depends (second :: rest) :=
  List.isChain_cons_cons

theorem zero_mem_pathLengths (depends : Node → List Node) (node : Node) :
    0 ∈ pathLengths depends node :=
  ⟨[], rfl, List.isChain_singleton node⟩

theorem succ_mem_pathLengths :
    steps + 1 ∈ pathLengths depends node ↔
      ∃ dep ∈ depends node, steps ∈ pathLengths depends dep := by
  constructor
  · rintro ⟨path, length, chain⟩
    cases path with
    | nil => cases length
    | cons dep rest =>
      have split := descends_cons_cons.mp chain
      exact ⟨dep, split.1, rest, Nat.succ.inj length, split.2⟩
  · rintro ⟨dep, direct, path, length, chain⟩
    exact ⟨dep :: path, congrArg (· + 1) length, descends_cons_cons.mpr ⟨direct, chain⟩⟩

theorem Height.unique {first second : Nat} (one : Height depends node first)
    (other : Height depends node second) : first = second :=
  IsGreatest.unique one other

theorem exists_height (bounded : ∀ steps ∈ pathLengths depends node, steps ≤ bound) :
    ∃ height ≤ bound, Height depends node height := by
  have above : BddAbove (pathLengths depends node) := ⟨bound, bounded⟩
  obtain ⟨height, greatest⟩ :=
    above.exists_isGreatest_of_nonempty ⟨0, zero_mem_pathLengths depends node⟩
  exact ⟨height, bounded height greatest.1, greatest⟩

variable {height : Nat}

theorem Height.lower (high : Height depends node height) {dep : Node}
    (direct : dep ∈ depends node) : ∃ lower < height, Height depends dep lower := by
  have below : ∀ steps ∈ pathLengths depends dep, steps + 1 ≤ height := by
    intro steps path
    exact high.2 (succ_mem_pathLengths.mpr ⟨dep, direct, path⟩)
  have positive := below 0 (zero_mem_pathLengths depends dep)
  have bounded : ∀ steps ∈ pathLengths depends dep, steps ≤ height - 1 := by
    intro steps path
    have := below steps path
    omega
  obtain ⟨lower, bound, greatest⟩ := exists_height bounded
  exact ⟨lower, by omega, greatest⟩

theorem height_of_lower
    (lower : ∀ dep ∈ depends node, ∃ height < bound, Height depends dep height) :
    ∃ height ≤ bound, Height depends node height := by
  apply exists_height
  intro steps path
  cases steps with
  | zero => exact Nat.zero_le bound
  | succ steps =>
    obtain ⟨dep, direct, rest⟩ := succ_mem_pathLengths.mp path
    obtain ⟨height, below, greatest⟩ := lower dep direct
    have := greatest.2 rest
    omega

theorem Height.previous (high : Height depends node (height + 1)) :
    ∃ dep ∈ depends node, Height depends dep height := by
  obtain ⟨dep, direct, rest⟩ := succ_mem_pathLengths.mp high.1
  obtain ⟨lower, below, greatest⟩ := high.lower direct
  have atLeast := greatest.2 rest
  have same : lower = height := by omega
  exact ⟨dep, direct, same ▸ greatest⟩

theorem height_iff_ready {layer : Nat} :
    Height depends node layer ↔ (¬∃ height < layer, Height depends node height) ∧
      ∀ dep ∈ depends node, ∃ height < layer, Height depends dep height := by
  constructor
  · intro high
    constructor
    · rintro ⟨height, below, other⟩
      have same := high.unique other
      omega
    · intro dep direct
      exact high.lower direct
  · rintro ⟨none, lower⟩
    obtain ⟨height, bound, high⟩ := height_of_lower lower
    have same : height = layer := by
      by_contra ne
      exact none ⟨height, by omega, high⟩
    exact same ▸ high

theorem exists_height_iff :
    (∃ height, Height depends node height) ↔
      ∀ dep ∈ depends node, ∃ height, Height depends dep height := by
  constructor
  · rintro ⟨height, high⟩ dep direct
    obtain ⟨lower, _, greatest⟩ := high.lower direct
    exact ⟨lower, greatest⟩
  · intro all
    -- A finite list of dependencies has a common bound on its heights.
    have common : ∀ dependencies : List Node,
        (∀ dep ∈ dependencies, ∃ height, Height depends dep height) →
          ∃ bound, ∀ dep ∈ dependencies, ∃ height < bound,
            Height depends dep height := by
      intro dependencies
      induction dependencies with
      | nil =>
        intro _
        exact ⟨0, fun dep member => absurd member List.not_mem_nil⟩
      | cons first rest ih =>
        intro heights
        obtain ⟨bound, below⟩ := ih fun dep member =>
          heights dep (List.mem_cons_of_mem _ member)
        obtain ⟨height, greatest⟩ := heights first List.mem_cons_self
        refine ⟨max bound (height + 1), ?_⟩
        intro dep member
        rcases List.mem_cons.mp member with rfl | later
        · exact ⟨height, by omega, greatest⟩
        · obtain ⟨lower, less, high⟩ := below dep later
          exact ⟨lower, by omega, high⟩
    obtain ⟨bound, below⟩ := common (depends node) all
    obtain ⟨height, _, high⟩ := height_of_lower below
    exact ⟨height, high⟩

/-- A chain of at least one step back to the node it starts from. -/
structure ClosedChain (depends : Node → List Node) (chain : List Node) : Prop where
  descends : Descends depends chain
  steps : 2 ≤ chain.length
  closed : chain.head? = chain.getLast?

def Acyclic (depends : Node → List Node) : Prop := ∀ chain, ¬ClosedChain depends chain

theorem Height.descends_lt (high : Height depends node height) {path : List Node}
    (chain : Descends depends (node :: path)) :
    ∀ below ∈ path, ∃ lower < height, Height depends below lower := by
  induction path generalizing node height with
  | nil =>
    intro below member
    cases member
  | cons next rest ih =>
    have split := descends_cons_cons.mp chain
    obtain ⟨lower, less, greatest⟩ := high.lower split.1
    intro below member
    rcases List.mem_cons.mp member with rfl | later
    · exact ⟨lower, less, greatest⟩
    · obtain ⟨lowest, under, found⟩ := ih greatest split.2 below later
      exact ⟨lowest, by omega, found⟩

theorem ClosedChain.no_height {chain : List Node} (cycle : ClosedChain depends chain) :
    ∃ node ∈ chain, ¬∃ height, Height depends node height := by
  cases chain with
  | nil => exact absurd cycle.steps (by simp)
  | cons node path =>
    refine ⟨node, List.mem_cons_self, ?_⟩
    rintro ⟨height, high⟩
    have more : path ≠ [] := by
      rintro rfl
      exact absurd cycle.steps (by simp)
    have last : path.getLast? = some node := by
      have closed := cycle.closed
      rw [List.head?_cons, List.getLast?_cons_of_ne_nil more] at closed
      exact closed.symm
    obtain ⟨lower, less, again⟩ :=
      high.descends_lt cycle.descends node (List.mem_of_getLast? last)
    have same := high.unique again
    omega

section Closed

variable {within : Node → Prop}

def ClosedUnder (within : Node → Prop) (depends : Node → List Node) : Prop :=
  ∀ node, within node → ∀ dependency ∈ depends node, within dependency

variable (closed : ClosedUnder within depends) {others : Node → List Node}
include closed

theorem ClosedUnder.exists_height_eq (inside : within node) {height lower : Nat}
    (high : Height depends node height) (bound : lower ≤ height) :
    ∃ below, within below ∧ Height depends below lower := by
  induction height generalizing node with
  | zero =>
    have same : lower = 0 := by omega
    exact ⟨node, inside, same ▸ high⟩
  | succ height ih =>
    by_cases same : lower = height + 1
    · exact ⟨node, inside, same ▸ high⟩
    · obtain ⟨dep, direct, previous⟩ := high.previous
      exact ih (closed node inside dep direct) previous (by omega)

theorem ClosedUnder.exists_distinct (inside : within node) (high : Height depends node height) :
    ∃ met : List Node, met.Nodup ∧ met.length = height + 1 ∧
      ∀ below ∈ met, within below ∧ ∃ lower ≤ height, Height depends below lower := by
  induction height generalizing node with
  | zero =>
    refine ⟨[node], List.nodup_singleton node, rfl, ?_⟩
    intro below member
    rw [List.mem_singleton.mp member]
    exact ⟨inside, 0, Nat.le_refl 0, high⟩
  | succ height ih =>
    obtain ⟨dep, direct, previous⟩ := high.previous
    obtain ⟨met, nodup, length, each⟩ := ih (closed node inside dep direct) previous
    have fresh : node ∉ met := by
      intro member
      obtain ⟨_, lower, bound, again⟩ := each node member
      have same := high.unique again
      omega
    refine ⟨node :: met, List.nodup_cons.mpr ⟨fresh, nodup⟩, by simp [length], ?_⟩
    intro below member
    rcases List.mem_cons.mp member with rfl | later
    · exact ⟨inside, height + 1, Nat.le_refl _, high⟩
    · obtain ⟨kept, lower, bound, found⟩ := each below later
      exact ⟨kept, lower, by omega, found⟩

theorem ClosedUnder.height_lt {names : List Node} (listed : ∀ node, within node → node ∈ names)
    (inside : within node) (high : Height depends node height) : height < names.length := by
  obtain ⟨met, nodup, length, each⟩ := closed.exists_distinct inside high
  have subset : met ⊆ names := fun below member => listed below (each below member).1
  have bound := (nodup.subperm subset).length_le
  omega

theorem ClosedUnder.mem_pathLengths_congr
    (same : ∀ node, within node → others node = depends node) (inside : within node) :
    steps ∈ pathLengths others node ↔ steps ∈ pathLengths depends node := by
  induction steps generalizing node with
  | zero => exact iff_of_true (zero_mem_pathLengths _ _) (zero_mem_pathLengths _ _)
  | succ steps ih =>
    rw [succ_mem_pathLengths, succ_mem_pathLengths, same node inside]
    apply exists_congr
    intro dep
    apply and_congr_right
    intro direct
    exact ih (closed node inside dep direct)

theorem ClosedUnder.height_congr (same : ∀ node, within node → others node = depends node)
    (inside : within node) : Height others node height ↔ Height depends node height := by
  have equal : pathLengths others node = pathLengths depends node :=
    Set.ext fun _ => closed.mem_pathLengths_congr same inside
  rw [Height, Height, equal]

end Closed

section Layers

variable [LinearOrder Node] {within : Node → Prop} {start : Nat} {levels others : List (List Node)}
  {rest : List (List Node)} {group : List Node}

/-- The nodes in question from a height on, listed layer by layer and in order inside each, up
to the last layer that has one. -/
structure Layered (start : Nat) (within : Node → Prop) (depends : Node → List Node)
    (levels : List (List Node)) : Prop where
  member : ∀ layer group, levels[layer]? = some group →
    ∀ node, node ∈ group ↔ within node ∧ Height depends node (start + layer)
  sorted : ∀ group ∈ levels, group.Pairwise (· < ·)
  inhabited : ∀ group ∈ levels, group ≠ []
  complete : ∀ node, within node → ∀ height, start ≤ height → Height depends node height →
    height < start + levels.length

theorem Layered.nil
    (ended : ∀ node, within node → ∀ height, start ≤ height → ¬Height depends node height) :
    Layered start within depends [] where
  member layer group place := by cases place
  sorted group listed := by cases listed
  inhabited group listed := by cases listed
  complete node inside height bound high := absurd high (ended node inside height bound)

theorem Layered.cons (here : ∀ node, node ∈ group ↔ within node ∧ Height depends node start)
    (sorted : group.Pairwise (· < ·)) (inhabited : group ≠ [])
    (above : Layered (start + 1) within depends rest) :
    Layered start within depends (group :: rest) where
  member layer other place := by
    cases layer with
    | zero =>
      cases place
      exact here
    | succ layer =>
      have shifted := above.member layer other place
      rw [Nat.add_right_comm] at shifted
      exact shifted
  sorted := List.forall_mem_cons.mpr ⟨sorted, above.sorted⟩
  inhabited := List.forall_mem_cons.mpr ⟨inhabited, above.inhabited⟩
  complete node inside height bound high := by
    rw [List.length_cons]
    by_cases same : height = start
    · omega
    · have := above.complete node inside height (by omega) high
      omega

theorem sorted_ext {first second : List Node} (one : first.Pairwise (· < ·))
    (other : second.Pairwise (· < ·)) (same : ∀ node, node ∈ first ↔ node ∈ second) :
    first = second := by
  have permuted : first.Perm second :=
    (List.perm_ext_iff_of_nodup (one.imp fun less => less.ne) (other.imp fun less => less.ne)).mpr
      same
  exact permuted.eq_of_pairwise (fun _ _ _ _ before after => absurd after before.asymm) one other

theorem Layered.length_le (layered : Layered start within depends levels)
    (also : Layered start within depends others) : levels.length ≤ others.length := by
  by_contra longer
  have bound : others.length < levels.length := by omega
  have place : levels[others.length]? = some levels[others.length] :=
    List.getElem?_eq_getElem bound
  obtain ⟨node, present⟩ :=
    List.exists_mem_of_ne_nil _ (layered.inhabited _ (List.getElem_mem bound))
  have high := (layered.member _ _ place node).mp present
  have below := also.complete node high.1 _ (by omega) high.2
  omega

theorem Layered.unique (layered : Layered start within depends levels)
    (also : Layered start within depends others) : levels = others := by
  have length : levels.length = others.length :=
    Nat.le_antisymm (layered.length_le also) (also.length_le layered)
  apply List.ext_getElem length
  intro layer first second
  apply sorted_ext (layered.sorted _ (List.getElem_mem first))
    (also.sorted _ (List.getElem_mem second))
  intro node
  rw [layered.member layer _ (List.getElem?_eq_getElem first),
    also.member layer _ (List.getElem?_eq_getElem second)]

theorem Layered.mem_flatten (layered : Layered 0 within depends levels) {node : Node} :
    node ∈ levels.flatten ↔ within node ∧ ∃ height, Height depends node height := by
  rw [List.mem_flatten]
  constructor
  · rintro ⟨group, listed, present⟩
    obtain ⟨layer, place⟩ := List.mem_iff_getElem?.mp listed
    have high := (layered.member layer group place node).mp present
    exact ⟨high.1, 0 + layer, high.2⟩
  · rintro ⟨inside, height, high⟩
    have bound := layered.complete node inside height (Nat.zero_le _) high
    rw [Nat.zero_add] at bound
    have place := List.getElem?_eq_getElem bound
    refine ⟨levels[height], List.getElem_mem bound,
      (layered.member height _ place node).mpr ⟨inside, ?_⟩⟩
    rw [Nat.zero_add]
    exact high

theorem Layered.nodup_flatten (layered : Layered start within depends levels) :
    levels.flatten.Nodup := by
  rw [List.nodup_flatten]
  constructor
  · intro group listed
    exact (layered.sorted group listed).imp fun less => less.ne
  · apply List.pairwise_iff_getElem.mpr
    intro first second firstBound secondBound before node inFirst inSecond
    have one := (layered.member first _ (List.getElem?_eq_getElem firstBound) node).mp inFirst
    have other := (layered.member second _ (List.getElem?_eq_getElem secondBound) node).mp inSecond
    have same := one.2.unique other.2
    omega

theorem Layered.here (layered : Layered start within depends (group :: rest)) :
    ∀ node, node ∈ group ↔ within node ∧ Height depends node start :=
  layered.member 0 group rfl

theorem Layered.tail (layered : Layered start within depends (group :: rest)) :
    Layered (start + 1) within depends rest where
  member layer other place := by
    have shifted := layered.member (layer + 1) other place
    rw [Nat.add_comm layer 1, ← Nat.add_assoc] at shifted
    exact shifted
  sorted other listed := layered.sorted other (List.mem_cons_of_mem _ listed)
  inhabited other listed := layered.inhabited other (List.mem_cons_of_mem _ listed)
  complete node inside height bound high := by
    have below := layered.complete node inside height (by omega) high
    rw [List.length_cons] at below
    omega

theorem Layered.restrict (layered : Layered start within depends levels) {keep : Node → Bool}
    (closed : ClosedUnder (fun node => within node ∧ keep node = true) depends) :
    Layered start (fun node => within node ∧ keep node = true) depends
      ((levels.map fun group => group.filter keep).filter fun group => group ≠ []) := by
  induction levels generalizing start with
  | nil =>
    apply Layered.nil
    intro node inside height bound high
    have below := layered.complete node inside.1 height bound high
    rw [List.length_nil] at below
    omega
  | cons group rest ih =>
    have kept : ∀ node, node ∈ group.filter keep ↔
        (within node ∧ keep node = true) ∧ Height depends node start := by
      intro node
      rw [List.mem_filter, layered.here, and_right_comm]
    have above := ih layered.tail
    rw [List.map_cons]
    by_cases empty : group.filter keep = []
    · -- A node of a higher layer would have one of this layer below it.
      have ended : ∀ node, within node ∧ keep node = true → ∀ height, start ≤ height →
          ¬Height depends node height := by
        intro node inside height bound high
        obtain ⟨below, found, exact⟩ := closed.exists_height_eq inside high bound
        have member := (kept below).mpr ⟨found, exact⟩
        rw [empty] at member
        cases member
      have none : ((rest.map fun group => group.filter keep).filter fun group => group ≠ []) =
          [] := by
        apply above.unique
        apply Layered.nil
        intro node inside height bound
        exact ended node inside height (by omega)
      rw [List.filter_cons_of_neg (by simp [empty]), none]
      exact Layered.nil ended
    · rw [List.filter_cons_of_pos (by simp [empty])]
      exact Layered.cons kept ((layered.sorted group List.mem_cons_self).filter _) empty above

end Layers

theorem flatten_filter_ne_nil {Item : Type*} [DecidableEq Item] (groups : List (List Item)) :
    (groups.filter fun group => group ≠ []).flatten = groups.flatten := by
  induction groups with
  | nil => rfl
  | cons group rest ih =>
    by_cases empty : group = []
    · subst empty
      simpa using ih
    · rw [List.filter_cons_of_pos (by simp [empty]), List.flatten_cons, List.flatten_cons, ih]

end CrossCodex.Library
