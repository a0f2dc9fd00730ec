/-
A verdict marked as projected has exactly the live SAME_AS edges it asks for, after every
undisturbed run; three disturbed runs show what goes wrong.
-/

import CrossCodex.Artifacts.WorldViews

namespace CrossCodex.Artifacts

open Analyzer (Text)
open Graph List

namespace World

variable {world : World} {naming : Naming}

def liveSameAs (graph : SameAsGraph) (pair : Pair) : List Text :=
  ((graph.queryRelationships sameAsLabel).filter pair.joins).map Edge.id

def askedSameAs (deployment : Deployment) (pair : Pair) (row : VerdictRow) : List Text :=
  match row.determinationType, row.status with
  | .human, .confirmed => (row.decidedAt.map (humanEdgeID deployment pair)).toList
  | .llmPanel, .confirmed => [panelEdgeID pair]
  | _, _ => []

theorem eq_toList_of_nodup {Item : Type} {items : List Item} (nodup : items.Nodup)
    {sole : Option Item} (exactly : ∀ item, item ∈ items ↔ sole = some item) :
    items = sole.toList := by
  cases sole with
  | none =>
    apply eq_nil_iff_forall_not_mem.mpr
    intro item mem
    cases (exactly item).mp mem
  | some item =>
    apply perm_singleton.mp
    apply (perm_ext_iff_of_nodup nodup (nodup_singleton item)).mpr
    intro other
    rw [exactly, mem_singleton, Option.some.injEq, eq_comm]

theorem Consistent.liveSameAs_eq (consistent : world.Consistent naming) (pair : Pair) :
    liveSameAs world.graph pair = liveIDs (world.view pair).edges := by
  unfold liveSameAs liveIDs GraphDB.queryRelationships view
  rw [filter_filter, filter_filter]
  congr 1
  apply filter_congr
  intro edge mem
  simp [consistent.graph.labels edge mem, Bool.and_comm]

theorem asked_eq (naming : Naming) (pair : Pair) {row : VerdictRow}
    (authority : row.determinationType ≠ .tokenOverlap) :
    ((naming.names pair).asked row).toList = askedSameAs naming.deployment pair row := by
  unfold EdgeNames.asked askedSameAs
  cases determination : row.determinationType with
  | tokenOverlap => exact absurd determination authority
  | llmPanel => cases status : row.status <;> simp [Naming.names]
  | human => cases status : row.status <;> simp [Naming.names]

/-- For every interleaving of reconcile runs, panels, reviewers and passes, with crashes
between any two calls: a verdict that is marked as projected and not orphaned has exactly
the live edges it asks for. A marked row carries no claim, so none is asked about. -/
theorem applied_verdict_mirrored (deployment : Deployment) (versionOf : Pair → Text)
    (versions : ∀ pair, versionOf pair ≠ "llm_panel".toList) (start : Nat) (events : List Event)
    (final : World)
    (undisturbed : Library.Along (step deployment) (Undisturbed versionOf) (initial start) events)
    (ran : Library.run (step deployment) (initial start) events = some final)
    (pair : Pair) (row : VerdictRow) (stored : final.store.lookup pair = some row)
    (applied : row.graphApplied = true) (intact : final.orphaned pair = false) :
    liveSameAs final.graph pair = askedSameAs deployment pair row := by
  have consistent := run_consistent ⟨deployment, versionOf, versions⟩ undisturbed ran
  have view := consistent.views pair
  have kept := view.row row stored
  have authority := (kept.decided (kept.applied applied).1).1
  have asked := asked_eq ⟨deployment, versionOf, versions⟩ pair authority
  rw [consistent.liveSameAs_eq, ← asked]
  apply eq_toList_of_nodup
  · exact view.distinct.sublist (filter_sublist.map Edge.id)
  · exact view.settled row stored applied intact

instance decidableClocksAgree (world : World) (event : Event) :
    Decidable (world.ClocksAgree event) := by
  apply event.casesOn (motive := fun event => Decidable (world.ClocksAgree event)) <;> intros <;>
    unfold ClocksAgree <;> infer_instance

instance decidableWithinClaim (world : World) (event : Event) :
    Decidable (world.WithinClaim event) := by
  apply event.casesOn (motive := fun event => Decidable (world.WithinClaim event)) <;> intros <;>
    unfold WithinClaim <;> infer_instance

instance decidableWritesOpen (store : VerdictStore) (run : Option ReconcileRun) :
    Decidable (WritesOpen store run) := by
  unfold WritesOpen
  split <;> infer_instance

instance decidableOrderly (versionOf : Pair → Text) (world : World) (event : Event) :
    Decidable (world.Orderly versionOf event) := by
  apply event.casesOn (motive := fun event => Decidable (world.Orderly versionOf event)) <;>
    intros <;> unfold Orderly <;> infer_instance

instance decidableUndisturbed (versionOf : Pair → Text) (world : World) (event : Event) :
    Decidable (world.Undisturbed versionOf event) := by
  unfold Undisturbed
  infer_instance

def sampleDeployment : Deployment :=
  { formatTime := Nat.toDigits 10
    formatTime_injective := Library.toDigits_injective
    leaseDuration := 10 }

def samplePair : Pair := { low := "a".toList, high := "b".toList }

def wholeReconcile (run : Nat) (version : Text) (newGroups : List Text) : List Event :=
  [.reconcileStarts run version newGroups [samplePair], .reconcileScreens run,
    .reconcilePlans run] ++ newGroups.map (fun _ => .reconcileCreatesGroup run) ++
  [.reconcileWrites run, .reconcileEnqueues run]

/-- A reviewer overrules the panel while its verdict is being written; the next pass carries
the rejection, and a later confirmation is projected after a pass of it crashed. -/
def overruled : List Event :=
  wholeReconcile 0 "v1".toList ["a".toList, "b".toList] ++
    [.panelDecides 0 samplePair .confirmed 5, .claims 0, .createsEdge 0,
      .humanDecides samplePair .rejected 6, .looksUp 0, .supersedes 0, .marks 0,
      .loads 1 samplePair, .claims 1, .looksUp 1, .supersedes 1, .marks 1,
      .humanDecides samplePair .confirmed 7, .loads 2 samplePair, .claims 2, .createsEdge 2,
      .crashes 2, .timePasses 10, .loads 3 samplePair, .claims 3, .createsEdge 3, .looksUp 3,
      .marks 3]

def showsApplied (asked : List Text) (world : World) : Bool :=
  (world.store.lookup samplePair).any (fun row => row.graphApplied ∧
    askedSameAs sampleDeployment samplePair row = asked) ∧ world.orphaned samplePair = false

theorem showsApplied_eq_true {asked : List Text} {world : World}
    (shows : showsApplied asked world = true) :
    ∃ row, world.store.lookup samplePair = some row ∧ row.graphApplied = true ∧
      askedSameAs sampleDeployment samplePair row = asked ∧
        world.orphaned samplePair = false := by
  simp only [showsApplied, decide_eq_true_eq] at shows
  obtain ⟨row, stored, marked⟩ := (Option.any_eq_true _ _).mp shows.1
  simp only [decide_eq_true_eq] at marked
  exact ⟨row, stored, marked.1, marked.2, shows.2⟩

theorem applied_verdict_mirrored_overruled :
    ∃ final, Library.run (step sampleDeployment) (initial 0) overruled = some final ∧
      liveSameAs final.graph samplePair = [humanEdgeID sampleDeployment samplePair 7] := by
  have shows : (Library.run (step sampleDeployment) (initial 0) overruled).any
      (showsApplied [humanEdgeID sampleDeployment samplePair 7]) = true := by
    decide +kernel
  have undisturbed : Library.Along (step sampleDeployment)
      (Undisturbed fun _ => "v1".toList) (initial 0) overruled := by
    decide +kernel
  obtain ⟨final, ran, shown⟩ := (Option.any_eq_true _ _).mp shows
  obtain ⟨row, stored, applied, asked, intact⟩ := showsApplied_eq_true shown
  refine ⟨final, ran, ?_⟩
  rw [← asked]
  exact applied_verdict_mirrored sampleDeployment (fun _ => "v1".toList) (fun _ => by decide) 0
    overruled final undisturbed ran samplePair row stored applied intact

/-- The panel rejects a pair that two algorithm versions matched while it was pending. -/
def rematched : List Event :=
  wholeReconcile 0 "v1".toList ["a".toList, "b".toList] ++ wholeReconcile 1 "v2".toList [] ++
    [.panelDecides 0 samplePair .rejected 5, .claims 0, .looksUp 0, .supersedes 0, .marks 0]

/-- A reconcile run of a newer version reads the closed pairs before a reviewer rejects the
pair and writes its edge after the rejection was projected. -/
def readsEarlier : List Event :=
  wholeReconcile 0 "v1".toList ["a".toList, "b".toList] ++
    [.reconcileStarts 1 "v2".toList [] [samplePair], .reconcileScreens 1,
      .humanDecides samplePair .rejected 5, .loads 0 samplePair, .claims 0, .looksUp 0,
      .supersedes 0, .marks 0, .reconcilePlans 1, .reconcileWrites 1, .reconcileEnqueues 1]

/-- The graph is rebuilt after a confirmation was projected, and reconciled again. -/
def rebuilt : List Event :=
  wholeReconcile 0 "v1".toList ["a".toList, "b".toList] ++
    [.humanDecides samplePair .confirmed 5, .loads 0 samplePair, .claims 0, .createsEdge 0,
      .looksUp 0, .supersedes 0, .marks 0, .rebuilds,
      .reconcileStarts 1 "v1".toList ["a".toList, "b".toList] [samplePair],
      .reconcileScreens 1, .reconcilePlans 1, .reconcileCreatesGroup 1,
      .reconcileCreatesGroup 1, .reconcileEnqueues 1]

/-- Clocks agree and every pass ends within its claim, and yet an applied verdict without a
claim asks for the first list of edges while the second is live. -/
def Diverges (events : List Event) (asked live : List Text) : Prop :=
  Library.Along (step sampleDeployment)
      (fun world event => world.ClocksAgree event ∧ world.WithinClaim event) (initial 0) events ∧
    ∃ final row, Library.run (step sampleDeployment) (initial 0) events = some final ∧
      final.store.lookup samplePair = some row ∧ row.graphApplied = true ∧
      final.orphaned samplePair = false ∧ row.unclaimed final.now = true ∧
      askedSameAs sampleDeployment samplePair row = asked ∧
      liveSameAs final.graph samplePair = live

theorem diverges_of_run {events : List Event} {asked live : List Text}
    (fair : Library.Along (step sampleDeployment)
      (fun world event => world.ClocksAgree event ∧ world.WithinClaim event) (initial 0) events)
    (ends : (Library.run (step sampleDeployment) (initial 0) events).any (fun final =>
      (final.store.lookup samplePair).any (fun row => row.graphApplied = true ∧
        final.orphaned samplePair = false ∧ row.unclaimed final.now = true ∧
        askedSameAs sampleDeployment samplePair row = asked ∧
        liveSameAs final.graph samplePair = live)) = true) :
    Diverges events asked live := by
  obtain ⟨final, ran, found⟩ := (Option.any_eq_true _ _).mp ends
  obtain ⟨row, stored, shown⟩ := (Option.any_eq_true _ _).mp found
  simp only [decide_eq_true_eq] at shown
  exact ⟨fair, final, row, ran, stored, shown⟩

theorem applied_verdict_not_mirrored :
    Diverges rematched [] [sameAsEdgeID "v1".toList samplePair] ∧
      Diverges readsEarlier [] [sameAsEdgeID "v2".toList samplePair] ∧
      Diverges rebuilt [humanEdgeID sampleDeployment samplePair 5] [] := by
  refine ⟨?_, ?_, ?_⟩
  · exact diverges_of_run (by decide +kernel) (by decide +kernel)
  · exact diverges_of_run (by decide +kernel) (by decide +kernel)
  · exact diverges_of_run (by decide +kernel) (by decide +kernel)

end World

end CrossCodex.Artifacts
