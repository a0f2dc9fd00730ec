/-
Subset keeps the requested analyzers with everything below them, in the plan's order and
levels, and returns what BuildDAG returns for the analyzers it keeps.
-/

import CrossCodex.Analyzer.DagCycles

namespace CrossCodex.Analyzer

open Library (Table Height Layered Acyclic ClosedUnder restrict mapEntries)
open Relation (ReflTransGen)
open List

variable {Name Registered : Type} [LinearOrder Name] {needed result : List Name}

/-- A walk from some targets, with the names it had met before and after. -/
structure Walks (edges : Table Name (List Name)) (targets needed result : List Name) : Prop where
  kept : needed ⊆ result
  reached : targets ⊆ result
  sound : ∀ name ∈ result, name ∈ needed ∨ ∃ target ∈ targets,
    ReflTransGen (fun above below => below ∈ dependencies edges above) target name
  closed : ∀ name ∈ result, name ∉ needed → dependencies edges name ⊆ result

theorem Walks.nil (edges : Table Name (List Name)) (needed : List Name) :
    Walks edges [] needed needed where
  kept := List.Subset.refl needed
  reached := nil_subset needed
  sound _ mem := Or.inl mem
  closed _ mem fresh := absurd mem fresh

theorem Walks.cons {edges : Table Name (List Name)} {target : Name} {targets middle : List Name}
    (one : Walks edges [target] needed middle) (rest : Walks edges targets middle result) :
    Walks edges (target :: targets) needed result where
  kept := List.Subset.trans one.kept rest.kept
  reached := by
    intro name mem
    rcases mem_cons.mp mem with rfl | later
    · exact rest.kept (one.reached mem_cons_self)
    · exact rest.reached later
  sound := by
    intro name mem
    rcases rest.sound name mem with before | ⟨source, listed, path⟩
    · rcases one.sound name before with old | ⟨source, listed, path⟩
      · exact Or.inl old
      · rw [mem_singleton.mp listed] at path
        exact Or.inr ⟨target, mem_cons_self, path⟩
    · exact Or.inr ⟨source, mem_cons_of_mem _ listed, path⟩
  closed := by
    intro name mem fresh
    by_cases before : name ∈ middle
    · exact List.Subset.trans (one.closed name before fresh) rest.kept
    · exact rest.closed name mem before

variable {name : Name}

theorem Walks.through {edges : Table Name (List Name)}
    (below : Walks edges (dependencies edges name) (needed ++ [name]) result) :
    Walks edges [name] needed result where
  kept := List.Subset.trans (subset_append_left _ _) below.kept
  reached := by
    intro other mem
    rw [mem_singleton.mp mem]
    exact below.kept (mem_append_right _ mem_cons_self)
  sound := by
    intro other mem
    rcases below.sound other mem with before | ⟨dep, direct, path⟩
    · rcases mem_append.mp before with old | self
      · exact Or.inl old
      · rw [mem_singleton.mp self]
        exact Or.inr ⟨name, mem_cons_self, ReflTransGen.refl⟩
    · exact Or.inr ⟨name, mem_cons_self, ReflTransGen.head direct path⟩
  closed := by
    intro other mem fresh
    by_cases self : other = name
    · subst self
      exact below.reached
    · apply below.closed other mem
      intro before
      rcases mem_append.mp before with old | same
      · exact fresh old
      · exact self (mem_singleton.mp same)

attribute [local instance] namesLawfulBEq in
def unmet (names needed : List Name) : List Name := names.filter fun name => name ∉ needed

theorem unmet_length_le {names : List Name} (kept : needed ⊆ result) :
    (unmet names result).length ≤ (unmet names needed).length := by
  rw [unmet, unmet, ← countP_eq_length_filter, ← countP_eq_length_filter]
  apply countP_mono_left
  intro name _ fresh
  exact decide_eq_true fun mem => of_decide_eq_true fresh (kept mem)

theorem unmet_length_lt {names : List Name} (listed : name ∈ names) (fresh : name ∉ needed) :
    (unmet names (needed ++ [name])).length < (unmet names needed).length := by
  have split : unmet names (needed ++ [name]) =
      (unmet names needed).filter fun other => other ≠ name := by
    rw [unmet, unmet, filter_filter]
    apply filter_congr
    intro other _
    simp [not_or, and_comm]
  rw [split]
  apply length_filter_lt_length_iff_exists.mpr
  exact ⟨name, mem_filter.mpr ⟨listed, decide_eq_true fresh⟩, by simp⟩

variable {edges : Table Name (List Name)} {names : List Name}

theorem foldl_walks {bound : Nat}
    (walk : ∀ needed name, name ∈ names → (unmet names needed).length < bound →
      Walks edges [name] needed (walkNeeded edges bound needed name)) {targets : List Name}
    (listed : targets ⊆ names) (enough : (unmet names needed).length < bound) :
    Walks edges targets needed (targets.foldl (walkNeeded edges bound) needed) := by
  induction targets generalizing needed with
  | nil => exact Walks.nil edges needed
  | cons target targets ih =>
    have first := walk needed target (listed mem_cons_self) enough
    have fewer : (unmet names (walkNeeded edges bound needed target)).length < bound :=
      Nat.lt_of_le_of_lt (unmet_length_le first.kept) enough
    exact Walks.cons first (ih (fun name mem => listed (mem_cons_of_mem _ mem)) fewer)

theorem walkNeeded_walks (closed : ∀ name, dependencies edges name ⊆ names) (bound : Nat)
    (needed : List Name) (name : Name) (listed : name ∈ names)
    (enough : (unmet names needed).length < bound) :
    Walks edges [name] needed (walkNeeded edges bound needed name) := by
  induction bound generalizing needed name with
  | zero => omega
  | succ bound ih =>
    rw [walkNeeded]
    by_cases met : name ∈ needed
    · rw [if_pos met]
      constructor
      · exact List.Subset.refl needed
      · intro other mem
        rw [mem_singleton.mp mem]
        exact met
      · intro other mem
        exact Or.inl mem
      · intro other mem fresh
        exact absurd mem fresh
    · rw [if_neg met]
      have fewer := unmet_length_lt listed met
      exact Walks.through (foldl_walks ih (closed name) (by omega))

variable {dependsOn : Registered → List Name} {analyzers : Table Name Registered}

def KeepsBelow (dependsOn : Registered → List Name) (analyzers : Table Name Registered)
    (keep : Name → Bool) : Prop :=
  ∀ name, keep name = true → ∀ dependency ∈ declared dependsOn analyzers name,
    keep dependency = true

variable {keep : Name → Bool}

theorem subset_edges_eq (below : KeepsBelow dependsOn analyzers keep) :
    mapEntries (fun _ listed => listed.filter keep)
        (restrict keep (mapEntries (fun _ => dependsOn) analyzers)) =
      mapEntries (fun _ => dependsOn) (restrict keep analyzers) := by
  apply AList.ext
  change ((analyzers.entries.map fun entry => (⟨entry.1, dependsOn entry.2⟩ :
      Sigma fun _ : Name => List Name)).filter fun entry => keep entry.1).map
        (fun entry => (⟨entry.1, entry.2.filter keep⟩ : Sigma fun _ : Name => List Name)) =
    (analyzers.entries.filter fun entry => keep entry.1).map fun entry =>
      (⟨entry.1, dependsOn entry.2⟩ : Sigma fun _ : Name => List Name)
  rw [filter_map, map_map]
  apply map_congr_left
  intro entry listed
  have kept := mem_filter.mp listed
  have whole : (dependsOn entry.2).filter keep = dependsOn entry.2 := by
    apply filter_eq_self.mpr
    intro dep direct
    apply below entry.1 kept.2 dep
    rw [declared, AList.mem_lookup_iff.mpr kept.1]
    exact direct
  simp only [Function.comp_apply, whole]

theorem declared_restrict (kept : keep name = true) :
    declared dependsOn (restrict keep analyzers) name = declared dependsOn analyzers name := by
  rw [declared, Library.lookup_restrict analyzers kept, declared]

section

variable (below : KeepsBelow dependsOn analyzers keep)
  (registered : AllRegistered dependsOn analyzers)
include below registered

theorem KeepsBelow.closed :
    ClosedUnder (fun name => name ∈ analyzers ∧ keep name = true)
      (declared dependsOn analyzers) := by
  rintro name ⟨known, kept⟩ dep direct
  exact ⟨registered name known dep direct, below name kept dep direct⟩

theorem KeepsBelow.allRegistered : AllRegistered dependsOn (restrict keep analyzers) := by
  intro name mem dep direct
  have kept := Library.mem_restrict.mp mem
  rw [declared_restrict kept.2] at direct
  exact Library.mem_restrict.mpr ⟨registered name kept.1 dep direct,
    below name kept.2 dep direct⟩

theorem KeepsBelow.height_iff (known : name ∈ analyzers) (kept : keep name = true) {height : Nat} :
    Height (declared dependsOn (restrict keep analyzers)) name height ↔
      Height (declared dependsOn analyzers) name height :=
  (below.closed registered).height_congr (fun _ inside => declared_restrict inside.2) ⟨known, kept⟩

theorem KeepsBelow.acyclic (acyclic : Acyclic (declared dependsOn analyzers)) :
    Acyclic (declared dependsOn (restrict keep analyzers)) := by
  apply (below.allRegistered registered).heights_iff_acyclic.mp
  intro name mem
  have kept := Library.mem_restrict.mp mem
  obtain ⟨height, high⟩ := registered.heights_iff_acyclic.mpr acyclic name kept.1
  exact ⟨height, (below.height_iff registered kept.1 kept.2).mpr high⟩

theorem KeepsBelow.levels_eq :
    (kahnSort (restrict keep analyzers)
        (mapEntries (fun _ => dependsOn) (restrict keep analyzers))).1 =
      ((kahnSort analyzers (mapEntries (fun _ => dependsOn) analyzers)).1.map fun group =>
        group.filter keep).filter fun group => group ≠ [] := by
  have whole := kahnSort_layered registered.edgesWithin
  have part := kahnSort_layered (below.allRegistered registered).edgesWithin
  rw [dependencies_mapEntries] at whole part
  have left := whole.restrict (below.closed registered)
  have same : ∀ name, name ∈ restrict keep analyzers ↔ name ∈ analyzers ∧ keep name = true :=
    fun name => Library.mem_restrict
  have relabelled : Layered 0 (fun name => name ∈ analyzers ∧ keep name = true)
      (declared dependsOn analyzers) (kahnSort (restrict keep analyzers)
        (mapEntries (fun _ => dependsOn) (restrict keep analyzers))).1 := by
    constructor
    · intro layer group place name
      rw [part.member layer group place name, same]
      apply and_congr_right
      intro kept
      exact below.height_iff registered kept.1 kept.2
    · exact part.sorted
    · exact part.inhabited
    · intro name kept height bound high
      exact part.complete name ((same name).mpr kept) height bound
        ((below.height_iff registered kept.1 kept.2).mpr high)
  exact relabelled.unique left

theorem KeepsBelow.order_eq :
    (kahnSort (restrict keep analyzers)
        (mapEntries (fun _ => dependsOn) (restrict keep analyzers))).2 =
      (kahnSort analyzers (mapEntries (fun _ => dependsOn) analyzers)).2.filter keep := by
  change (kahnSort (restrict keep analyzers)
    (mapEntries (fun _ => dependsOn) (restrict keep analyzers))).1.flatten =
      (kahnSort analyzers (mapEntries (fun _ => dependsOn) analyzers)).1.flatten.filter keep
  rw [below.levels_eq registered, Library.flatten_filter_ne_nil, filter_flatten]

end

variable {dag : DAG Name Registered}

theorem buildDAG_ok (built : buildDAG dependsOn analyzers = .ok dag) :
    AllRegistered dependsOn analyzers ∧ Acyclic (declared dependsOn analyzers) ∧
      dag = { levels := (kahnSort analyzers (mapEntries (fun _ => dependsOn) analyzers)).1
              order := (kahnSort analyzers (mapEntries (fun _ => dependsOn) analyzers)).2
              edges := mapEntries (fun _ => dependsOn) analyzers
              nodes := analyzers } := by
  rcases buildDAG_cases dependsOn analyzers with
    ⟨_, _, _, failed, _⟩ | ⟨_, _, _, failed, _⟩ | ⟨registered, acyclic, same⟩
  · rw [failed] at built
    cases built
  · rw [failed] at built
    cases built
  · rw [same] at built
    cases built
    exact ⟨registered, acyclic, rfl⟩

/-- A plan is what BuildDAG returns for its own analyzers. -/
def DAG.Planned (dependsOn : Registered → List Name) (dag : DAG Name Registered) : Prop :=
  buildDAG dependsOn dag.nodes = .ok dag

section

variable (planned : dag.Planned dependsOn)
include planned

theorem DAG.Planned.levels_plan :
    (∀ name level, (∃ group, dag.levels[level]? = some group ∧ name ∈ group) ↔
      name ∈ dag.nodes ∧ Height (declared dependsOn dag.nodes) name level) ∧
    dag.levels.flatten.Perm dag.nodes.keys := by
  obtain ⟨registered, acyclic, same⟩ := buildDAG_ok planned
  have plan := kahnSort_plan registered acyclic
  have levels : dag.levels =
      (kahnSort dag.nodes (mapEntries (fun _ => dependsOn) dag.nodes)).1 :=
    congrArg DAG.levels same
  rw [← levels] at plan
  exact ⟨plan.1, plan.2.1⟩

variable {names : List Name} (known : ∀ name ∈ names, name ∈ dag.nodes)
include known

theorem DAG.Planned.needed_walks : Walks dag.edges names [] (dag.needed names) := by
  obtain ⟨registered, _, same⟩ := buildDAG_ok planned
  have within := registered.edgesWithin
  have edges : dag.edges = mapEntries (fun _ => dependsOn) dag.nodes := by
    rw [same]
  rw [← edges] at within
  have closed : ∀ name, dependencies dag.edges name ⊆ dag.nodes.keys :=
    fun name dep direct => AList.mem_keys.mp (within.target name dep direct)
  have bound : (unmet dag.nodes.keys []).length ≤ dag.nodes.keys.length :=
    length_filter_le _ _
  exact foldl_walks (walkNeeded_walks closed _)
    (fun name mem => AList.mem_keys.mp (known name mem)) (by omega)

theorem DAG.Planned.mem_needed :
    name ∈ dag.needed names ↔ ∃ requested ∈ names,
      ReflTransGen (fun above below => below ∈ declared dependsOn dag.nodes above)
        requested name := by
  have walks := planned.needed_walks known
  have edges : dependencies dag.edges = declared dependsOn dag.nodes := by
    obtain ⟨_, _, same⟩ := buildDAG_ok planned
    rw [← dependencies_mapEntries]
    rw [same]
  rw [← edges]
  constructor
  · intro mem
    exact (walks.sound name mem).resolve_left not_mem_nil
  · rintro ⟨requested, listed, path⟩
    induction path with
    | refl => exact walks.reached listed
    | tail _ direct ih => exact walks.closed _ ih not_mem_nil direct

theorem DAG.Planned.needed_known (kept : name ∈ dag.needed names) : name ∈ dag.nodes := by
  obtain ⟨registered, _⟩ := buildDAG_ok planned
  obtain ⟨requested, listed, path⟩ := (planned.mem_needed known).mp kept
  induction path with
  | refl => exact known requested listed
  | tail path direct ih =>
    exact registered _ (ih ((planned.mem_needed known).mpr ⟨requested, listed, path⟩)) _ direct

theorem DAG.Planned.mem_needed_of_closed
    (closed : ∀ name ∈ names, ∀ dep ∈ declared dependsOn dag.nodes name,
      dep ∈ names) : name ∈ dag.needed names ↔ name ∈ names := by
  rw [planned.mem_needed known]
  constructor
  · rintro ⟨requested, listed, path⟩
    induction path with
    | refl => exact listed
    | tail _ direct ih => exact closed _ ih _ direct
  · intro listed
    exact ⟨name, listed, ReflTransGen.refl⟩

theorem DAG.Planned.keepsBelow :
    KeepsBelow dependsOn dag.nodes fun name => name ∈ dag.needed names := by
  intro name kept dep direct
  obtain ⟨requested, listed, path⟩ := (planned.mem_needed known).mp (of_decide_eq_true kept)
  exact decide_eq_true ((planned.mem_needed known).mpr ⟨requested, listed, path.tail direct⟩)

theorem DAG.Planned.subset_eq :
    ∃ sub, dag.subset names = .ok sub ∧
      buildDAG dependsOn (restrict (fun name => name ∈ dag.needed names) dag.nodes) = .ok sub ∧
      sub.nodes = restrict (fun name => name ∈ dag.needed names) dag.nodes := by
  have below := planned.keepsBelow known
  obtain ⟨registered, acyclic, same⟩ := buildDAG_ok planned
  have found : (names.find? fun name => name ∉ dag.nodes) = none := by
    apply find?_eq_none.mpr
    intro name mem missing
    exact of_decide_eq_true missing (known name mem)
  have edges : dag.edges = mapEntries (fun _ => dependsOn) dag.nodes := by rw [same]
  rcases buildDAG_cases dependsOn (restrict (fun name => name ∈ dag.needed names) dag.nodes) with
    ⟨unregistered, _⟩ | ⟨_, cyclic, _⟩ | ⟨_, _, built⟩
  · exact absurd (below.allRegistered registered) unregistered
  · exact absurd (below.acyclic registered acyclic) cyclic
  · refine ⟨_, ?_, built, rfl⟩
    simp only [DAG.subset, found]
    rw [edges, subset_edges_eq below]

end

/-- The plans there are: of the registered analyzers, and subsets of plans. -/
inductive DAG.Built (dependsOn : Registered → List Name) : DAG Name Registered → Prop where
  | build {analyzers : Table Name Registered} {dag : DAG Name Registered}
      (built : buildDAG dependsOn analyzers = .ok dag) : DAG.Built dependsOn dag
  | subset {dag sub : DAG Name Registered} {names : List Name}
      (parent : DAG.Built dependsOn dag) (taken : dag.subset names = .ok sub) :
      DAG.Built dependsOn sub

theorem DAG.subset_known {dag sub : DAG Name Registered} {names : List Name}
    (taken : dag.subset names = .ok sub) : ∀ name ∈ names, name ∈ dag.nodes := by
  intro name mem
  by_contra missing
  rw [DAG.subset] at taken
  split at taken
  · cases taken
  · next found =>
    exact find?_eq_none.mp found name mem (decide_eq_true missing)

theorem DAG.Built.planned (built : DAG.Built dependsOn dag) : dag.Planned dependsOn := by
  induction built with
  | build built =>
    obtain ⟨_, _, same⟩ := buildDAG_ok built
    rw [DAG.Planned]
    have nodes := congrArg DAG.nodes same
    rw [nodes]
    exact built
  | subset parent taken planned =>
    obtain ⟨other, taken', built, nodes⟩ := planned.subset_eq (DAG.subset_known taken)
    rw [taken] at taken'
    cases taken'
    rw [DAG.Planned, nodes]
    exact built

/-- Subset holds exactly the requested analyzers and what they transitively depend on, in the
plan's order and levels, and is the plan of those analyzers alone. -/
theorem subset_correct {dag : DAG Name Registered} (built : DAG.Built dependsOn dag)
    (names : List Name) (known : ∀ name ∈ names, name ∈ dag.nodes) :
    ∃ sub, dag.subset names = .ok sub ∧
      (∀ name, name ∈ sub.nodes ↔ ∃ requested ∈ names,
        ReflTransGen (fun above below => below ∈ declared dependsOn dag.nodes above)
          requested name) ∧
      (∀ name ∈ sub.nodes, sub.nodes.lookup name = dag.nodes.lookup name) ∧
      sub.order = dag.order.filter (fun name => name ∈ sub.nodes) ∧
      sub.levels = (dag.levels.map fun group => group.filter fun name =>
        name ∈ sub.nodes).filter (fun group => group ≠ []) ∧
      (∀ group ∈ sub.levels, group ≠ []) ∧
      ((∀ name ∈ names, ∀ dependency ∈ declared dependsOn dag.nodes name, dependency ∈ names) →
        buildDAG dependsOn (restrict (fun name => name ∈ names) dag.nodes) = .ok sub) := by
  have planned := built.planned
  have below := planned.keepsBelow known
  obtain ⟨registered, _, same⟩ := buildDAG_ok planned
  obtain ⟨sub, taken, rebuilt, nodes⟩ := planned.subset_eq known
  obtain ⟨_, _, plan⟩ := buildDAG_ok rebuilt
  have mem_nodes : ∀ name, name ∈ sub.nodes ↔ name ∈ dag.needed names := by
    intro name
    rw [nodes, Library.mem_restrict, decide_eq_true_eq]
    exact and_iff_right_of_imp (planned.needed_known known)
  have kept : (fun name => decide (name ∈ sub.nodes)) = fun name =>
      decide (name ∈ dag.needed names) := by
    funext name
    exact decide_eq_decide.mpr (mem_nodes name)
  have levels : sub.levels = (dag.levels.map fun group => group.filter fun name =>
      name ∈ sub.nodes).filter (fun group => group ≠ []) := by
    rw [kept, congrArg DAG.levels plan, congrArg DAG.levels same]
    exact below.levels_eq registered
  refine ⟨sub, taken, ?_, ?_, ?_, levels, ?_, ?_⟩
  · intro name
    rw [mem_nodes, planned.mem_needed known]
  · intro name mem
    rw [nodes]
    exact Library.lookup_restrict _ (decide_eq_true ((mem_nodes name).mp mem))
  · rw [kept, congrArg DAG.order plan, congrArg DAG.order same]
    exact below.order_eq registered
  · intro group listed
    rw [levels] at listed
    exact of_decide_eq_true (mem_filter.mp listed).2
  · intro closed
    have request : (fun name => decide (name ∈ names)) = fun name =>
        decide (name ∈ dag.needed names) := by
      funext name
      exact decide_eq_decide.mpr (planned.mem_needed_of_closed known closed).symm
    rw [request]
    exact rebuilt

def branchedAnalyzers : Table Nat (List Nat) :=
  Library.upsertAll ∅ [(4, [2]), (3, [1, 1]), (2, []), (1, [])]

def branchedPlan : DAG Nat (List Nat) where
  levels := [[1, 2], [3, 4]]
  order := [1, 2, 3, 4]
  edges := mapEntries (fun _ => id) branchedAnalyzers
  nodes := branchedAnalyzers

theorem subset_correct_sample :
    buildDAG id branchedAnalyzers = .ok branchedPlan ∧
      ∃ sub, branchedPlan.subset [3] = .ok sub ∧
        sub.order = branchedPlan.order.filter (fun name => name ∈ sub.nodes) ∧
        sub.levels = [[1], [3]] := by
  have built : buildDAG id branchedAnalyzers = .ok branchedPlan := rfl
  have known : ∀ name ∈ [3], name ∈ branchedPlan.nodes := by decide
  obtain ⟨sub, taken, _, _, order, _⟩ := subset_correct (.build built) [3] known
  refine ⟨built, sub, taken, order, ?_⟩
  cases taken
  decide

end CrossCodex.Analyzer
