/-
BuildDAG succeeds exactly on registered, acyclic dependencies. The nodes kahnSort leaves out
each depend on another of them, so findCycle never meets a dead end.
-/

import CrossCodex.Analyzer.DagLevels

namespace CrossCodex.Analyzer

open Library (Table Height Layered Descends ClosedChain Acyclic)
open List

variable {Name Registered : Type} [LinearOrder Name]
  {nodes : Table Name Registered} {edges : Table Name (List Name)} {left : Name → Prop}
  {path : List Name} {dep current : Name}

/-- The nodes a search walks through: each has a dependency that was not sorted, and every
such dependency is one of them. -/
structure Stuck (edges : Table Name (List Name)) (visited names : List Name)
    (left : Name → Prop) : Prop where
  listed : ∀ name, left name → name ∈ names
  blocked : ∀ name, left name → ∃ dependency ∈ dependencies edges name, dependency ∉ visited
  stays : ∀ name, left name → ∀ dependency ∈ dependencies edges name,
    dependency ∉ visited → left dependency

structure Walked (edges : Table Name (List Name)) (left : Name → Prop) (path : List Name)
    (current : Name) : Prop where
  distinct : path.Nodup
  descends : Descends (dependencies edges) path
  inside : ∀ name ∈ path, left name
  last : path.getLast? = some current

theorem Walked.append (walked : Walked edges left path current)
    (direct : dep ∈ dependencies edges current) (inside : left dep) (fresh : dep ∉ path) :
    Walked edges left (path ++ [dep]) dep where
  distinct := by
    apply nodup_append.mpr
    refine ⟨walked.distinct, nodup_singleton dep, ?_⟩
    intro name mem other isLast same
    rw [mem_singleton.mp isLast] at same
    exact fresh (same ▸ mem)
  descends := by
    apply isChain_append.mpr
    refine ⟨walked.descends, isChain_singleton dep, ?_⟩
    intro last isLast first isFirst
    rw [walked.last, Option.mem_some] at isLast
    rw [head?_cons, Option.mem_some] at isFirst
    rw [← isLast, ← isFirst]
    exact direct
  inside := Library.forall_mem_concat walked.inside inside
  last := getLast?_concat

theorem Walked.closed (walked : Walked edges left path current)
    (direct : dep ∈ dependencies edges current) (met : dep ∈ path) :
    ClosedChain (dependencies edges)
      (path.drop (path.idxOf dep) ++ [dep]) := by
  have bound : path.idxOf dep < path.length := idxOf_lt_length_iff.mpr met
  have first : path.drop (path.idxOf dep) =
      dep :: path.drop (path.idxOf dep + 1) := by
    rw [drop_eq_getElem_cons bound, getElem_idxOf]
  have last : (path.drop (path.idxOf dep)).getLast? = some current := by
    rw [getLast?_drop, if_neg (by omega), walked.last]
  constructor
  · apply isChain_append.mpr
    refine ⟨List.IsChain.drop walked.descends _, isChain_singleton dep, ?_⟩
    intro previous isLast next isNext
    rw [last, Option.mem_some] at isLast
    rw [head?_cons, Option.mem_some] at isNext
    rw [← isLast, ← isNext]
    exact direct
  · rw [first]
    simp
  · rw [getLast?_concat, first]
    rfl

theorem walkCycle_closed {visited remaining names : List Name}
    (stuck : Stuck edges visited names left) {bound : Nat}
    (walked : Walked edges left path current) (enough : names.length < bound + path.length) :
    ∃ chain, walkCycle edges visited remaining bound path current = some (.chain chain) ∧
      ClosedChain (dependencies edges) chain := by
  induction bound generalizing path current with
  | zero =>
    have subset : path ⊆ names := fun name mem => stuck.listed name (walked.inside name mem)
    have short := (walked.distinct.subperm subset).length_le
    omega
  | succ bound ih =>
    have inside := walked.inside current (mem_of_getLast? walked.last)
    rw [walkCycle]
    cases found : (sortNames (dependencies edges current)).find? fun dep =>
        dep ∉ visited with
    | none =>
      obtain ⟨dep, direct, unsorted⟩ := stuck.blocked current inside
      have none := find?_eq_none.mp found dep (mem_sortNames.mpr direct)
      exact absurd (decide_eq_true unsorted) none
    | some dep =>
      have direct : dep ∈ dependencies edges current :=
        mem_sortNames.mp (mem_of_find?_eq_some found)
      have test := find?_some found
      have unsorted : dep ∉ visited := of_decide_eq_true test
      by_cases met : dep ∈ path
      · simp only [if_pos met]
        exact ⟨_, rfl, walked.closed direct met⟩
      · simp only [if_neg met]
        apply ih (walked.append direct (stuck.stays current inside dep direct unsorted) met)
        rw [length_append, length_singleton]
        omega

theorem findCycle_closed (within : EdgesWithin nodes edges)
    (unsorted : ∃ name ∈ nodes, ¬∃ height, Height (dependencies edges) name height) :
    ∃ chain, findCycle nodes edges (kahnSort nodes edges).2 = some (.chain chain) ∧
      ClosedChain (dependencies edges) chain := by
  have mem_left : ∀ name, name ∈ sortNames (nodes.keys.filter fun name =>
      name ∉ (kahnSort nodes edges).2) ↔
        name ∈ nodes ∧ ¬∃ height, Height (dependencies edges) name height := by
    intro name
    rw [mem_sortNames, mem_filter, ← AList.mem_keys, decide_eq_true_eq, mem_kahnSort_order within]
    apply and_congr_right
    intro inside
    exact not_congr (and_iff_right inside)
  -- A node without a height has a dependency without one.
  have stuck : Stuck edges (kahnSort nodes edges).2 nodes.keys fun name =>
      name ∈ nodes ∧ ¬∃ height, Height (dependencies edges) name height := by
    constructor
    · rintro name ⟨inside, _⟩
      exact AList.mem_keys.mp inside
    · rintro name ⟨inside, none⟩
      rw [Library.exists_height_iff] at none
      push Not at none
      obtain ⟨dep, direct, missing⟩ := none
      refine ⟨dep, direct, ?_⟩
      rw [mem_kahnSort_order within]
      rintro ⟨_, height, high⟩
      exact missing height high
    · rintro name _ dep direct fresh
      have known := within.target name dep direct
      refine ⟨known, ?_⟩
      intro high
      exact fresh ((mem_kahnSort_order within).mpr ⟨known, high⟩)
  obtain ⟨name, inside, none⟩ := unsorted
  rw [findCycle]
  cases found : sortNames (nodes.keys.filter fun name => name ∉ (kahnSort nodes edges).2) with
  | nil =>
    have mem := (mem_left name).mpr ⟨inside, none⟩
    rw [found] at mem
    cases mem
  | cons start rest =>
    have walked : Walked edges (fun name =>
        name ∈ nodes ∧ ¬∃ height, Height (dependencies edges) name height) [start] start := by
      constructor
      · exact nodup_singleton start
      · exact isChain_singleton start
      · intro name mem
        rw [mem_singleton.mp mem]
        exact (mem_left start).mp (found ▸ mem_cons_self)
      · rfl
    exact walkCycle_closed stuck walked (by rw [length_singleton]; omega)

def declared (dependsOn : Registered → List Name) (analyzers : Table Name Registered)
    (name : Name) : List Name :=
  ((analyzers.lookup name).map dependsOn).getD []

def AllRegistered (dependsOn : Registered → List Name) (analyzers : Table Name Registered) :
    Prop :=
  ∀ name ∈ analyzers, ∀ dependency ∈ declared dependsOn analyzers name, dependency ∈ analyzers

variable {dependsOn : Registered → List Name} {analyzers : Table Name Registered} {name : Name}

theorem dependencies_mapEntries (dependsOn : Registered → List Name)
    (analyzers : Table Name Registered) :
    dependencies (Library.mapEntries (fun _ => dependsOn) analyzers) =
      declared dependsOn analyzers := by
  funext name
  rw [dependencies, Library.lookup_mapEntries, declared]

theorem mem_of_declared (direct : dep ∈ declared dependsOn analyzers name) : name ∈ analyzers := by
  by_contra absent
  rw [declared, AList.lookup_eq_none.mpr absent] at direct
  cases direct

theorem mem_mapEntries_edges :
    (name, dep) ∈ ((Library.mapEntries (fun _ => dependsOn) analyzers).entries.flatMap
      fun entry => entry.2.map fun dep => (entry.1, dep)) ↔
        dep ∈ declared dependsOn analyzers name := by
  rw [← dependencies_mapEntries, dependencies, mem_flatMap]
  constructor
  · rintro ⟨entry, listed, mem⟩
    obtain ⟨other, direct, same⟩ := mem_map.mp mem
    cases same
    rw [AList.mem_lookup_iff.mpr listed]
    exact direct
  · intro direct
    cases found : (Library.mapEntries (fun _ => dependsOn) analyzers).lookup name with
    | none =>
      rw [found] at direct
      cases direct
    | some listed =>
      rw [found] at direct
      exact ⟨⟨name, listed⟩, AList.mem_lookup_iff.mp found,
        mem_map.mpr ⟨dep, direct, rfl⟩⟩

theorem missingDependency_eq_none :
    missingDependency analyzers (Library.mapEntries (fun _ => dependsOn) analyzers) = none ↔
      AllRegistered dependsOn analyzers := by
  rw [missingDependency, find?_eq_none]
  constructor
  · intro all name _ dep direct
    have listed := all (name, dep) (mem_mapEntries_edges.mpr direct)
    by_contra absent
    exact listed (decide_eq_true absent)
  · rintro registered ⟨name, dep⟩ listed missing
    have direct := mem_mapEntries_edges.mp listed
    exact absurd (registered name (mem_of_declared direct) dep direct)
      (of_decide_eq_true missing)

theorem missingDependency_eq_some
    (missing : missingDependency analyzers (Library.mapEntries (fun _ => dependsOn) analyzers) =
      some (name, dep)) : dep ∈ declared dependsOn analyzers name ∧ dep ∉ analyzers := by
  have test := find?_some missing
  exact ⟨mem_mapEntries_edges.mp (mem_of_find?_eq_some missing), of_decide_eq_true test⟩

theorem AllRegistered.edgesWithin (registered : AllRegistered dependsOn analyzers) :
    EdgesWithin analyzers (Library.mapEntries (fun _ => dependsOn) analyzers) where
  source name mem := by
    rw [AList.mem_keys, Library.keys_mapEntries] at mem
    exact AList.mem_keys.mpr mem
  target name dep direct := by
    rw [dependencies_mapEntries] at direct
    exact registered name (mem_of_declared direct) dep direct

theorem AllRegistered.heights_iff_acyclic (registered : AllRegistered dependsOn analyzers) :
    (∀ name ∈ analyzers, ∃ height, Height (declared dependsOn analyzers) name height) ↔
      Acyclic (declared dependsOn analyzers) := by
  have within := registered.edgesWithin
  constructor
  · intro all chain cycle
    obtain ⟨name, _, none⟩ := cycle.no_height
    by_cases known : name ∈ analyzers
    · exact none (all name known)
    · apply none
      apply Library.exists_height_iff.mpr
      intro dep direct
      exact absurd (mem_of_declared direct) known
  · intro acyclic name known
    by_contra none
    rw [← dependencies_mapEntries] at none
    obtain ⟨chain, _, cycle⟩ := findCycle_closed within ⟨name, known, none⟩
    rw [dependencies_mapEntries] at cycle
    exact acyclic chain cycle

theorem buildDAG_cases (dependsOn : Registered → List Name) (analyzers : Table Name Registered) :
    (¬AllRegistered dependsOn analyzers ∧ ∃ name dep,
      buildDAG dependsOn analyzers = .error (.missingDependency name dep) ∧
        dep ∈ declared dependsOn analyzers name ∧ dep ∉ analyzers) ∨
    (AllRegistered dependsOn analyzers ∧ ¬Acyclic (declared dependsOn analyzers) ∧ ∃ chain,
      buildDAG dependsOn analyzers = .error (.cycleDetected (some (.chain chain))) ∧
        ClosedChain (declared dependsOn analyzers) chain) ∨
    (AllRegistered dependsOn analyzers ∧ Acyclic (declared dependsOn analyzers) ∧
      buildDAG dependsOn analyzers = .ok
        { levels := (kahnSort analyzers (Library.mapEntries (fun _ => dependsOn) analyzers)).1
          order := (kahnSort analyzers (Library.mapEntries (fun _ => dependsOn) analyzers)).2
          edges := Library.mapEntries (fun _ => dependsOn) analyzers
          nodes := analyzers }) := by
  cases missing : missingDependency analyzers (Library.mapEntries (fun _ => dependsOn) analyzers) with
  | some edge =>
    obtain ⟨name, dep⟩ := edge
    have direct := missingDependency_eq_some missing
    refine Or.inl ⟨?_, name, dep, by rw [buildDAG, missing], direct⟩
    intro registered
    exact direct.2 (registered name (mem_of_declared direct.1) dep direct.1)
  | none =>
    have registered := missingDependency_eq_none.mp missing
    have within := registered.edgesWithin
    have sorted := kahnSort_length_iff within
    rw [dependencies_mapEntries, registered.heights_iff_acyclic] at sorted
    by_cases acyclic : Acyclic (declared dependsOn analyzers)
    · refine Or.inr (Or.inr ⟨registered, acyclic, ?_⟩)
      simp only [buildDAG, missing, ne_eq, sorted.mpr acyclic, not_true, if_false]
    · refine Or.inr (Or.inl ⟨registered, acyclic, ?_⟩)
      have unsorted : ∃ name ∈ analyzers,
          ¬∃ height, Height (declared dependsOn analyzers) name height := by
        by_contra all
        push Not at all
        exact acyclic (registered.heights_iff_acyclic.mp all)
      rw [← dependencies_mapEntries] at unsorted
      obtain ⟨chain, found, cycle⟩ := findCycle_closed within unsorted
      rw [dependencies_mapEntries] at cycle
      refine ⟨chain, ?_, cycle⟩
      have ne := mt sorted.mp acyclic
      simp only [buildDAG, missing, ne_eq, ne, not_false_iff, if_true, found]

theorem kahnSort_plan (registered : AllRegistered dependsOn analyzers)
    (acyclic : Acyclic (declared dependsOn analyzers)) :
    (∀ name level, (∃ group, (kahnSort analyzers
        (Library.mapEntries (fun _ => dependsOn) analyzers)).1[level]? = some group ∧
          name ∈ group) ↔
      name ∈ analyzers ∧ Height (declared dependsOn analyzers) name level) ∧
    (kahnSort analyzers (Library.mapEntries (fun _ => dependsOn) analyzers)).1.flatten.Perm
      analyzers.keys ∧
    (∀ group ∈ (kahnSort analyzers (Library.mapEntries (fun _ => dependsOn) analyzers)).1,
      group.Pairwise (· < ·) ∧ group ≠ []) ∧
    (kahnSort analyzers (Library.mapEntries (fun _ => dependsOn) analyzers)).2 =
      (kahnSort analyzers (Library.mapEntries (fun _ => dependsOn) analyzers)).1.flatten := by
  have layered := kahnSort_layered registered.edgesWithin
  rw [dependencies_mapEntries] at layered
  refine ⟨?_, ?_, ?_, rfl⟩
  · intro name level
    constructor
    · rintro ⟨group, place, mem⟩
      have high := (layered.member level group place name).mp mem
      rw [Nat.zero_add] at high
      exact high
    · rintro ⟨known, high⟩
      have bound := layered.complete name known level (Nat.zero_le level) high
      rw [Nat.zero_add] at bound
      have place := getElem?_eq_getElem bound
      refine ⟨_, place, (layered.member level _ place name).mpr ⟨known, ?_⟩⟩
      rw [Nat.zero_add]
      exact high
  · apply (perm_ext_iff_of_nodup layered.nodup_flatten analyzers.keys_nodup).mpr
    intro name
    rw [layered.mem_flatten, ← AList.mem_keys]
    exact and_iff_left_of_imp (registered.heights_iff_acyclic.mpr acyclic name)
  · intro group listed
    exact ⟨layered.sorted group listed, layered.inhabited group listed⟩

/-- BuildDAG succeeds exactly on registered and acyclic dependencies, with each analyzer once,
in the level of the longest dependency path below it and in order inside; a cycle is reported
as a closed chain of dependencies. -/
theorem buildDAG_correct (dependsOn : Registered → List Name) (analyzers : Table Name Registered) :
    ((∃ dag, buildDAG dependsOn analyzers = .ok dag) ↔
      AllRegistered dependsOn analyzers ∧ Acyclic (declared dependsOn analyzers)) ∧
    (∀ dag, buildDAG dependsOn analyzers = .ok dag →
      (∀ name level, (∃ group, dag.levels[level]? = some group ∧ name ∈ group) ↔
        name ∈ analyzers ∧ Height (declared dependsOn analyzers) name level) ∧
      dag.levels.flatten.Perm analyzers.keys ∧
      (∀ group ∈ dag.levels, group.Pairwise (· < ·) ∧ group ≠ []) ∧
      dag.order = dag.levels.flatten) ∧
    (AllRegistered dependsOn analyzers → ¬Acyclic (declared dependsOn analyzers) →
      ∃ chain, buildDAG dependsOn analyzers = .error (.cycleDetected (some (.chain chain))) ∧
        ClosedChain (declared dependsOn analyzers) chain) := by
  rcases buildDAG_cases dependsOn analyzers with
    ⟨unregistered, name, dep, failed, _⟩ | ⟨registered, cyclic, chain, failed, cycle⟩ |
      ⟨registered, acyclic, built⟩
  · refine ⟨⟨?_, fun good => absurd good.1 unregistered⟩, ?_,
      fun registered => absurd registered unregistered⟩
    · rintro ⟨dag, built⟩
      rw [failed] at built
      cases built
    · intro dag built
      rw [failed] at built
      cases built
  · refine ⟨⟨?_, fun good => absurd good.2 cyclic⟩, ?_, fun _ _ => ⟨chain, failed, cycle⟩⟩
    · rintro ⟨dag, built⟩
      rw [failed] at built
      cases built
    · intro dag built
      rw [failed] at built
      cases built
  · refine ⟨⟨fun _ => ⟨registered, acyclic⟩, fun _ => ⟨_, built⟩⟩, ?_,
      fun _ cyclic => absurd acyclic cyclic⟩
    intro dag same
    rw [built] at same
    cases same
    exact kahnSort_plan registered acyclic

def plannedAnalyzers : Table Nat (List Nat) :=
  Library.upsertAll ∅ [(1, []), (2, [1]), (3, [2, 1, 2])]

def circularAnalyzers : Table Nat (List Nat) := Library.upsertAll ∅ [(1, [2]), (2, [3, 1]), (3, [])]

theorem buildDAG_correct_sample :
    Height (declared id plannedAnalyzers) 3 2 ∧
      ∃ chain, buildDAG id circularAnalyzers = .error (.cycleDetected (some (.chain chain))) ∧
        ClosedChain (declared id circularAnalyzers) chain := by
  have planned := (buildDAG_correct id plannedAnalyzers).2.1 _ rfl
  have registered : AllRegistered id circularAnalyzers := by
    unfold AllRegistered
    decide
  have cyclic : ¬Acyclic (declared id circularAnalyzers) :=
    fun acyclic => acyclic [1, 2, 1] ⟨by unfold Descends; decide, by decide, rfl⟩
  exact ⟨((planned.1 3 2).mp ⟨[3], rfl, by decide⟩).2,
    (buildDAG_correct id circularAnalyzers).2.2 registered cyclic⟩

end CrossCodex.Analyzer
