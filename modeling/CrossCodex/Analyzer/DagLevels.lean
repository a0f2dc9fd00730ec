/-
The execution plan (pkg/analyzer/dag.go). A Go map is a table, visited in the table's order.
The loops of kahnSort and findCycle take a bound, and the search reports when it was
reached. kahnSort lists the nodes by height: an in-degree counts the listed dependencies that
are in no finished level.
-/

import CrossCodex.Analyzer.TaskId
import CrossCodex.Library.Layering
import CrossCodex.Library.Upsert

namespace CrossCodex.Analyzer

open Library (Table Height Layered height_iff_ready height_of_lower)

variable {Name Registered : Type} [LinearOrder Name]

-- It has a name, and is an instance where definitions look names up, so that such a test
-- unfolds to the same term wherever it is written.
theorem namesLawfulBEq : @LawfulBEq Name instBEqOfDecidableEq := inferInstance

structure DAG (Name Registered : Type) where
  levels : List (List Name)
  order : List Name
  edges : Table Name (List Name)
  nodes : Table Name Registered

def sortNames (names : List Name) : List Name := names.insertionSort (· ≤ ·)

section

variable (nodes : Table Name Registered) (edges : Table Name (List Name))

def dependencies (name : Name) : List Name :=
  (edges.lookup name).getD []

def inDegree (name : Name) : Int :=
  (dependencies edges name).length

/-- The reverse adjacency, with one entry for each time the dependency is listed. -/
def dependents (dependency : Name) : List Name :=
  edges.entries.flatMap fun entry =>
    (entry.2.filter fun listed => listed = dependency).map fun _ => entry.1

/-- Count one dependency of a dependent as done; it is next when none is left. -/
def settle (state : (Name → Int) × List Name) (dependent : Name) : (Name → Int) × List Name :=
  let degree := state.1 dependent - 1
  (Function.update state.1 dependent degree,
    if degree = 0 then state.2 ++ [dependent] else state.2)

def settleQueue (degrees : Name → Int) (queue : List Name) : (Name → Int) × List Name :=
  (queue.flatMap (dependents edges)).foldl settle (degrees, [])

def kahnLevels : Nat → (Name → Int) → List Name → List (List Name)
  | 0, _, _ => []
  | bound + 1, degrees, queue =>
    if queue = [] then []
    else
      let settled := settleQueue edges degrees queue
      queue :: kahnLevels bound settled.1 (sortNames settled.2)

/-- There are no more levels than nodes. -/
def kahnSort : List (List Name) × List Name :=
  let first := sortNames (nodes.keys.filter fun name => inDegree edges name = 0)
  let levels := kahnLevels edges nodes.keys.length (inDegree edges) first
  (levels, levels.flatten)

inductive CycleReport (Name : Type) where
  | unknownNodes
  | chain (names : List Name)
deriving DecidableEq

/-- Walk from the last node of the path to its first dependency that was not sorted. -/
def walkCycle (visited remaining : List Name) : Nat → List Name → Name → Option (CycleReport Name)
  | 0, _, _ => none
  | bound + 1, path, current =>
    match (sortNames (dependencies edges current)).find? fun dependency =>
      dependency ∉ visited with
    | none => some (.chain remaining)
    | some dependency =>
      if dependency ∈ path then
        some (.chain (path.drop (path.idxOf dependency) ++ [dependency]))
      else walkCycle visited remaining bound (path ++ [dependency]) dependency

def findCycle (visited : List Name) : Option (CycleReport Name) :=
  let remaining := sortNames (nodes.keys.filter fun name => name ∉ visited)
  match remaining with
  | [] => some .unknownNodes
  | start :: _ => walkCycle edges visited remaining (nodes.keys.length + 1) [start] start

def formatCycle : List Text → Text
  | [] => "dependency cycle detected".toList
  | first :: rest => first ++ rest.flatMap fun name => " -> ".toList ++ name

def CycleReport.text : CycleReport Text → Text
  | .unknownNodes => "dependency cycle detected (unknown nodes)".toList
  | .chain names => formatCycle names

/-- A cycle search that did not end has no report. -/
inductive BuildFailure (Name : Type) where
  | missingDependency (name dependency : Name)
  | cycleDetected (report : Option (CycleReport Name))
deriving DecidableEq

/-- The text of the error; %q puts a name that Register admits in quotes. -/
def BuildFailure.text : BuildFailure Text → Option Text
  | .missingDependency name dependency =>
    some ("analyzer \"".toList ++ name ++ "\" depends on \"".toList ++ dependency ++
      "\" which is not registered: missing dependency".toList)
  | .cycleDetected report => report.map fun cycle =>
    cycle.text ++ ": dependency cycle detected".toList

def missingDependency (analyzers : Table Name Registered) (edges : Table Name (List Name)) :
    Option (Name × Name) :=
  (edges.entries.flatMap fun entry => entry.2.map fun dependency => (entry.1, dependency)).find?
    fun edge => edge.2 ∉ analyzers

end

def buildDAG (dependsOn : Registered → List Name) (analyzers : Table Name Registered) :
    Except (BuildFailure Name) (DAG Name Registered) :=
  let edges := Library.mapEntries (fun _ => dependsOn) analyzers
  match missingDependency analyzers edges with
  | some (name, dependency) => .error (.missingDependency name dependency)
  | none =>
    let (levels, order) := kahnSort analyzers edges
    if order.length ≠ analyzers.keys.length then
      .error (.cycleDetected (findCycle analyzers edges order))
    else .ok { levels, order, edges, nodes := analyzers }

/-- The recursive walk; it goes no deeper than there are nodes it has not met. -/
def walkNeeded (edges : Table Name (List Name)) : Nat → List Name → Name → List Name
  | 0, needed, _ => needed
  | bound + 1, needed, name =>
    if name ∈ needed then needed
    else (dependencies edges name).foldl (walkNeeded edges bound) (needed ++ [name])

def DAG.needed (dag : DAG Name Registered) (names : List Name) : List Name :=
  names.foldl (walkNeeded dag.edges (dag.nodes.keys.length + 1)) []

/-- The error is the first name that is not in the DAG. -/
def DAG.subset (dag : DAG Name Registered) (names : List Name) :
    Except Name (DAG Name Registered) :=
  match names.find? fun name => name ∉ dag.nodes with
  | some name => .error name
  | none =>
    let needed := dag.needed names
    let nodes := Library.restrict (fun name => name ∈ needed) dag.nodes
    let edges := Library.mapEntries
      (fun _ listed => listed.filter fun dependency => dependency ∈ needed)
      (Library.restrict (fun name => name ∈ needed) dag.edges)
    let (levels, order) := kahnSort nodes edges
    .ok { levels, order, edges, nodes }

open List Function

variable {names : List Name} {name : Name}

theorem mem_sortNames : name ∈ sortNames names ↔ name ∈ names :=
  mem_insertionSort _

theorem sortNames_strict (nodup : names.Nodup) : (sortNames names).Pairwise (· < ·) := by
  have ordered : (sortNames names).Pairwise (· ≤ ·) := pairwise_insertionSort _ names
  have ne : (sortNames names).Nodup :=
    (perm_insertionSort _ names).nodup_iff.mpr nodup
  exact (ordered.and ne).imp fun both => lt_of_le_of_ne both.1 both.2

theorem settle_eq (degrees : Name → Int) (next : List Name) (dependent : Name) :
    settle (degrees, next) dependent =
      (update degrees dependent (degrees dependent - 1),
        if degrees dependent - 1 = 0 then next ++ [dependent] else next) := rfl

theorem foldl_settle_degrees (settled : List Name) (degrees : Name → Int) (next : List Name)
    (name : Name) :
    (settled.foldl settle (degrees, next)).1 name = degrees name - settled.count name := by
  induction settled generalizing degrees next with
  | nil => simp
  | cons first rest ih =>
    rw [foldl_cons, settle_eq, ih]
    by_cases same : name = first
    · subst same
      rw [update_self, count_cons_self]
      omega
    · rw [update_of_ne same, count_cons_of_ne (Ne.symm same)]

variable {degrees : Name → Int} {visited queue settled : List Name} {next : List Name}

theorem mem_foldl_settle :
    name ∈ (settled.foldl settle (degrees, next)).2 ↔
      name ∈ next ∨ 0 < degrees name ∧ degrees name ≤ settled.count name := by
  induction settled generalizing degrees next with
  | nil =>
    simp only [foldl_nil, count_nil, Int.natCast_zero]
    constructor
    · exact Or.inl
    · rintro (listed | ⟨positive, zero⟩)
      · exact listed
      · omega
  | cons first rest ih =>
    rw [foldl_cons, settle_eq, ih]
    by_cases same : name = first
    · subst same
      rw [update_self, count_cons_self]
      by_cases last : degrees name - 1 = 0
      · rw [if_pos last]
        have reached : 0 < degrees name ∧ degrees name ≤ ((rest.count name + 1 : Nat) : Int) := by
          omega
        constructor
        · intro _
          exact Or.inr reached
        · intro _
          exact Or.inl (mem_append_right _ mem_cons_self)
      · rw [if_neg last]
        apply or_congr_right
        omega
    · rw [update_of_ne same, count_cons_of_ne (Ne.symm same)]
      apply or_congr_left
      split
      · simp [same]
      · exact Iff.rfl

theorem nodup_foldl_settle (nodup : next.Nodup) (done : ∀ name ∈ next, degrees name ≤ 0) :
    (settled.foldl settle (degrees, next)).2.Nodup := by
  induction settled generalizing degrees next with
  | nil => exact nodup
  | cons first rest ih =>
    rw [foldl_cons, settle_eq]
    by_cases last : degrees first - 1 = 0
    · rw [if_pos last]
      have fresh : first ∉ next := by
        intro listed
        have := done first listed
        omega
      apply ih
      · exact nodup_append.mpr ⟨nodup, nodup_singleton first, by
          intro one inNext two isFirst same
          rw [mem_singleton.mp isFirst] at same
          exact fresh (same ▸ inNext)⟩
      · intro name listed
        by_cases same : name = first
        · subst same
          rw [update_self]
          omega
        · rw [update_of_ne same]
          rcases mem_append.mp listed with old | new
          · exact done name old
          · exact absurd (mem_singleton.mp new) same
    · rw [if_neg last]
      apply ih nodup
      intro name listed
      by_cases same : name = first
      · subst same
        rw [update_self]
        have := done name listed
        omega
      · rw [update_of_ne same]
        exact done name listed

theorem count_dependents (edges : Table Name (List Name)) (dep name : Name) :
    (dependents edges dep).count name = (dependencies edges name).count dep := by
  have counted : ∀ entries : List (Sigma fun _ : Name => List Name), entries.NodupKeys →
      (entries.flatMap fun entry =>
        (entry.2.filter fun listed => listed = dep).map fun _ => entry.1).count name =
      ((entries.dlookup name).getD []).count dep := by
    intro entries nodup
    induction entries with
    | nil => rfl
    | cons entry rest ih =>
      obtain ⟨key, listed⟩ := entry
      rw [nodupKeys_cons] at nodup
      have later := ih nodup.2
      rw [flatMap_cons, count_append, later]
      have own : ((listed.filter fun other => other = dep).map fun _ => key).count name =
          if name = key then listed.count dep else 0 := by
        rw [map_const', count_replicate, ← countP_eq_length_filter]
        by_cases same : name = key
        · subst same
          simp only [beq_self_eq_true, if_true]
          rfl
        · rw [if_neg same, if_neg]
          simpa using Ne.symm same
      rw [own]
      by_cases same : name = key
      · subst same
        have absent : rest.dlookup name = none := dlookup_eq_none.mpr nodup.1
        rw [if_pos rfl, absent, dlookup_cons_eq]
        rfl
      · rw [if_neg same, dlookup_cons_ne _ _ same, Nat.zero_add]
  exact counted edges.entries edges.nodupKeys

theorem countP_mem_cons {first : Name} {rest : List Name} (fresh : first ∉ rest) :
    names.countP (fun name => name ∈ first :: rest) =
      names.count first + names.countP fun name => name ∈ rest := by
  induction names with
  | nil => rfl
  | cons name names ih =>
    rw [countP_cons, countP_cons, count_cons, ih]
    by_cases same : name = first
    · subst same
      simp [fresh]
      omega
    · by_cases listed : name ∈ rest
      · simp [same, listed]
        omega
      · simp [same, listed]

theorem count_flatMap_dependents (edges : Table Name (List Name)) (nodup : queue.Nodup)
    (name : Name) :
    (queue.flatMap (dependents edges)).count name =
      (dependencies edges name).countP fun dep => dep ∈ queue := by
  induction queue with
  | nil => simp
  | cons first rest ih =>
    rw [nodup_cons] at nodup
    rw [flatMap_cons, count_append, count_dependents, ih nodup.2, countP_mem_cons nodup.1]

theorem countP_notMem_append (disjoint : ∀ name ∈ queue, name ∉ visited) :
    names.countP (fun name => name ∉ visited ++ queue) +
        names.countP (fun name => name ∈ queue) =
      names.countP fun name => name ∉ visited := by
  induction names with
  | nil => rfl
  | cons name names ih =>
    rw [countP_cons, countP_cons, countP_cons]
    simp only [mem_append] at ih ⊢
    by_cases queued : name ∈ queue
    · have fresh := disjoint name queued
      simp only [queued, fresh, or_true, not_true, not_false_iff, decide_true, decide_false,
        if_true, if_false, Bool.false_eq_true]
      omega
    · by_cases old : name ∈ visited
      · simp only [queued, old, or_false, not_true, decide_false, if_false, Bool.false_eq_true]
        omega
      · simp only [queued, old, or_false, not_false_iff, decide_true, decide_false, if_true,
          if_false, Bool.false_eq_true]
        omega

section Loop

variable {nodes : Table Name Registered} {edges : Table Name (List Name)} {layer : Nat}

structure EdgesWithin (nodes : Table Name Registered) (edges : Table Name (List Name)) : Prop where
  source : ∀ name ∈ edges, name ∈ nodes
  target : ∀ name, ∀ dependency ∈ dependencies edges name, dependency ∈ nodes

/-- Before a level is settled: the finished levels hold the nodes below its height, the queue
those of its height, and the degrees count what is not finished. -/
structure Progress (nodes : Table Name Registered) (edges : Table Name (List Name)) (layer : Nat)
    (visited : List Name) (degrees : Name → Int) (queue : List Name) : Prop where
  visited_iff : ∀ name, name ∈ visited ↔
    name ∈ nodes ∧ ∃ height < layer, Height (dependencies edges) name height
  queue_iff : ∀ name, name ∈ queue ↔ name ∈ nodes ∧ Height (dependencies edges) name layer
  degree : ∀ name, degrees name =
    (dependencies edges name).countP fun dependency => dependency ∉ visited
  sorted : queue.Pairwise (· < ·)

theorem EdgesWithin.closed (within : EdgesWithin nodes edges) :
    Library.ClosedUnder (· ∈ nodes) (dependencies edges) :=
  fun name _ => within.target name

theorem EdgesWithin.mem_nodes (within : EdgesWithin nodes edges) {dep : Name}
    (listed : dep ∈ dependencies edges name) : name ∈ nodes := by
  apply within.source
  by_contra absent
  rw [dependencies, AList.lookup_eq_none.mpr absent] at listed
  cases listed

theorem countP_notMem_eq_zero :
    names.countP (fun name => name ∉ visited) = 0 ↔ ∀ name ∈ names, name ∈ visited := by
  rw [countP_eq_zero]
  simp

theorem Progress.initial :
    Progress nodes edges 0 [] (inDegree edges)
      (sortNames (nodes.keys.filter fun name => inDegree edges name = 0)) where
  visited_iff name := by simp
  queue_iff name := by
    rw [mem_sortNames, mem_filter, ← AList.mem_keys, decide_eq_true_eq, inDegree]
    apply and_congr_right
    intro _
    rw [Int.natCast_eq_zero, length_eq_zero_iff, height_iff_ready]
    simp [eq_nil_iff_forall_not_mem]
  degree name := by
    rw [inDegree, countP_eq_length.mpr]
    simp
  sorted := sortNames_strict (nodes.keys_nodup.filter _)

theorem Progress.disjoint (progress : Progress nodes edges layer visited degrees queue) :
    ∀ name ∈ queue, name ∉ visited := by
  intro name queued old
  obtain ⟨_, height, below, high⟩ := (progress.visited_iff name).mp old
  have same := high.unique ((progress.queue_iff name).mp queued).2
  omega

variable (within : EdgesWithin nodes edges)
include within

theorem visited_all_iff (exact : ∀ name, name ∈ visited ↔
      name ∈ nodes ∧ ∃ height < layer, Height (dependencies edges) name height) (name : Name) :
    (∀ dep ∈ dependencies edges name, dep ∈ visited) ↔
      ∀ dep ∈ dependencies edges name,
        ∃ height < layer, Height (dependencies edges) dep height := by
  constructor
  · intro all dep listed
    exact ((exact dep).mp (all dep listed)).2
  · intro lower dep listed
    exact (exact dep).mpr ⟨within.target name dep listed, lower dep listed⟩

theorem height_succ_iff (before : ∀ name, name ∈ visited ↔
      name ∈ nodes ∧ ∃ height < layer, Height (dependencies edges) name height)
    (after : ∀ name, name ∈ visited ++ queue ↔
      name ∈ nodes ∧ ∃ height < layer + 1, Height (dependencies edges) name height) (name : Name) :
    Height (dependencies edges) name (layer + 1) ↔
      (¬∀ dep ∈ dependencies edges name, dep ∈ visited) ∧
        ∀ dep ∈ dependencies edges name, dep ∈ visited ++ queue := by
  rw [visited_all_iff within before, visited_all_iff within after, height_iff_ready]
  apply and_congr_left
  intro _
  apply not_congr
  constructor
  · rintro ⟨height, bound, high⟩ dep listed
    obtain ⟨lower, less, found⟩ := high.lower listed
    exact ⟨lower, by omega, found⟩
  · intro lower
    obtain ⟨height, bound, high⟩ := height_of_lower lower
    exact ⟨height, by omega, high⟩

theorem Progress.step (progress : Progress nodes edges layer visited degrees queue) :
    Progress nodes edges (layer + 1) (visited ++ queue) (settleQueue edges degrees queue).1
      (sortNames (settleQueue edges degrees queue).2) := by
  have nodup : queue.Nodup := progress.sorted.imp fun less => less.ne
  have after : ∀ name, name ∈ visited ++ queue ↔
      name ∈ nodes ∧ ∃ height < layer + 1, Height (dependencies edges) name height := by
    intro name
    rw [mem_append, progress.visited_iff, progress.queue_iff, ← and_or_left]
    apply and_congr_right
    intro _
    simp only [Nat.lt_succ_iff_lt_or_eq, or_and_right, exists_or, exists_eq_left]
  have counted := fun name => count_flatMap_dependents edges nodup name
  have remains : ∀ name, (dependencies edges name).countP (fun dep =>
        dep ∉ visited ++ queue) +
      (dependencies edges name).countP (fun dep => dep ∈ queue) =
        (dependencies edges name).countP fun dep => dep ∉ visited :=
    fun name => countP_notMem_append progress.disjoint
  refine ⟨after, ?_, ?_, ?_⟩
  · intro name
    rw [mem_sortNames, settleQueue, mem_foldl_settle, counted, progress.degree,
      height_succ_iff within progress.visited_iff after, ← countP_notMem_eq_zero,
      ← countP_notMem_eq_zero]
    have left := remains name
    constructor
    · rintro (listed | ⟨positive, reached⟩)
      · cases listed
      · have queued : 0 < (dependencies edges name).countP fun dep =>
            dep ∈ queue := by omega
        obtain ⟨dep, listed, _⟩ := countP_pos_iff.mp queued
        exact ⟨within.mem_nodes listed, by omega, by omega⟩
    · rintro ⟨_, some, none⟩
      exact Or.inr (by omega)
  · intro name
    have left := remains name
    rw [settleQueue, foldl_settle_degrees, counted, progress.degree]
    omega
  · apply sortNames_strict
    exact nodup_foldl_settle nodup_nil fun name listed => absurd listed not_mem_nil

theorem Progress.layered {bound : Nat}
    (progress : Progress nodes edges layer visited degrees queue)
    (enough : ∀ name ∈ nodes, ∀ height, Height (dependencies edges) name height →
      height < layer + bound) :
    Layered layer (· ∈ nodes) (dependencies edges) (kahnLevels edges bound degrees queue) := by
  induction bound generalizing layer visited degrees queue with
  | zero =>
    apply Layered.nil
    intro name inside height bound high
    have := enough name inside height high
    omega
  | succ bound ih =>
    rw [kahnLevels]
    by_cases ended : queue = []
    · rw [if_pos ended]
      apply Layered.nil
      intro name inside height above high
      obtain ⟨below, mem, exact⟩ := within.closed.exists_height_eq inside high above
      have queued := (progress.queue_iff below).mpr ⟨mem, exact⟩
      rw [ended] at queued
      cases queued
    · rw [if_neg ended]
      apply Layered.cons progress.queue_iff progress.sorted ended
      apply ih (progress.step within)
      intro name inside height high
      have := enough name inside height high
      omega

theorem kahnSort_layered : Layered 0 (· ∈ nodes) (dependencies edges) (kahnSort nodes edges).1 := by
  apply Progress.initial.layered within
  intro name inside height high
  rw [Nat.zero_add]
  exact within.closed.height_lt (fun _ mem => AList.mem_keys.mp mem) inside high

theorem mem_kahnSort_order :
    name ∈ (kahnSort nodes edges).2 ↔
      name ∈ nodes ∧ ∃ height, Height (dependencies edges) name height :=
  (kahnSort_layered within).mem_flatten

theorem kahnSort_order_nodup : (kahnSort nodes edges).2.Nodup :=
  (kahnSort_layered within).nodup_flatten

theorem kahnSort_length_iff :
    (kahnSort nodes edges).2.length = nodes.keys.length ↔
      ∀ name ∈ nodes, ∃ height, Height (dependencies edges) name height := by
  have nodup := kahnSort_order_nodup within
  have subset : (kahnSort nodes edges).2 ⊆ nodes.keys :=
    fun name listed => AList.mem_keys.mp ((mem_kahnSort_order within).mp listed).1
  constructor
  · intro length name inside
    have permuted := (nodup.subperm subset).perm_of_length_le (Nat.le_of_eq length.symm)
    exact ((mem_kahnSort_order within).mp (permuted.mem_iff.mpr (AList.mem_keys.mp inside))).2
  · intro all
    apply List.Perm.length_eq
    apply (perm_ext_iff_of_nodup nodup nodes.keys_nodup).mpr
    intro name
    rw [mem_kahnSort_order within, ← AList.mem_keys]
    exact and_iff_left_of_imp (all name)

end Loop

end CrossCodex.Analyzer
