/-
Runs of the graph service seen from one job: what the job's last event left is what the
graph holds in the end.
-/

import CrossCodex.Graph.ResultMirror

namespace CrossCodex.Graph

open Analyzer Library List

/-! ### Events that are not the job's -/

def ServiceEvent.Concerns (jobID : Text) (kind : ResultKind) : ServiceEvent → Prop
  | .projects _ _ _ => False
  | .stores otherID results => otherID = jobID ∧ results.kind = kind
  | .handles otherID other _ => otherID = jobID ∧ other = kind

section

variable {kind : ResultKind} {jobID : Text} {graph next : ResultGraph} {results : StageResults}
  {node : Node Properties} {otherID : Text} {now : Nat}

theorem filter_of_appended {Item : Type} {keep : Item → Prop} [DecidablePred keep]
    {items before added : List Item} (whole : items = before ++ added)
    (foreign : ∀ item ∈ added, ¬ keep item) :
    (items.filter fun item => keep item) = before.filter fun item => keep item := by
  have none : (added.filter fun item => keep item) = [] := by
    apply filter_eq_nil_iff.mpr
    intro item mem own
    exact foreign item mem (of_decide_eq_true own)
  rw [whole, filter_append, none, append_nil]

theorem text_injective {text other : Text}
    (same : some (PropertyValue.text text) = some (.text other)) : text = other := by
  simpa using same

theorem jobEdges_applyWrites (wellFormed : results.WellFormed)
    (other : ¬ (otherID = jobID ∧ results.kind = kind)) :
    jobEdges kind jobID (applyWrites graph (results.writes otherID now)).1 =
      jobEdges kind jobID graph := by
  obtain ⟨_nodes, added, edges, written⟩ :=
    @applyWrites_appends graph _ (results.named otherID now)
  apply filter_of_appended edges
  rintro edge mem ⟨label, job⟩
  obtain ⟨write, inWrites, about⟩ := written edge mem
  rcases StageResults.described_of_write inWrites about with described | type
  · apply other
    constructor
    · exact text_injective ((StageResults.jobOf_described wellFormed described).symm.trans job)
    · exact ResultKind.label_injective ((StageResults.described_named described).1.symm.trans label)
  · exact kind.label_ne_isType (label.symm.trans type)

theorem jobArtifacts_applyWrites (other : ¬ (otherID = jobID ∧ results.kind = .artifacts)) :
    jobArtifacts jobID (applyWrites graph (results.writes otherID now)).1 =
      jobArtifacts jobID graph := by
  obtain ⟨⟨added, nodes, written⟩, _edges⟩ :=
    @applyWrites_appends graph _ (results.named otherID now)
  apply filter_of_appended nodes
  rintro node mem ⟨label, job⟩
  obtain ⟨artifacts, described⟩ := StageResults.describedNode_of_write (written node mem) label
  have own := (StageResults.jobOf_describedNode described).1
  exact other ⟨text_injective (own.symm.trans job), artifacts⟩

theorem upsertNode_edges (nodup : (graph.nodes.map Node.id).Nodup)
    (upserted : graph.upsertNode node = .ok next) : next.edges = graph.edges := by
  rcases GraphDB.upsertNode_cases nodup upserted with ⟨_, rfl⟩ | ⟨_, rfl⟩ <;> rfl

theorem jobArtifacts_upsertNode (control : node.label = controlLabel)
    (nodup : (graph.nodes.map Node.id).Nodup) (upserted : graph.upsertNode node = .ok next) :
    jobArtifacts jobID next = jobArtifacts jobID graph := by
  have notArtifact : controlLabel ≠ "Artifact".toList := by decide
  rcases GraphDB.upsertNode_cases nodup upserted with ⟨_, rfl⟩ | ⟨labels, rfl⟩
  · apply filter_of_appended rfl
    rintro other mem ⟨label, _job⟩
    rw [mem_singleton.mp mem, control] at label
    exact notArtifact label
  · unfold jobArtifacts
    rw [filter_map]
    have kept : ∀ old ∈ graph.nodes, old.label = "Artifact".toList → old.id ≠ node.id := by
      intro old mem label same
      rw [labels old mem same, control] at label
      exact notArtifact label
    have chosen : graph.nodes.filter ((fun other : Node Properties =>
          decide (other.label = "Artifact".toList ∧ jobOf other.properties = some (.text jobID))) ∘
        node.replaces) =
        graph.nodes.filter fun other =>
          decide (other.label = "Artifact".toList ∧ jobOf other.properties = some (.text jobID)) := by
      apply filter_congr
      intro old mem
      simp only [Function.comp, Node.replaces]
      split_ifs with hit
      · have oldLabel : old.label ≠ "Artifact".toList := fun label => kept old mem label hit
        have newLabel : node.label ≠ "Artifact".toList := by
          rw [control]
          exact notArtifact
        rw [decide_eq_false fun both => newLabel both.1,
          decide_eq_false fun both => oldLabel both.1]
      · rfl
    rw [chosen]
    apply (map_congr_left _).trans (map_id _)
    intro old mem
    obtain ⟨inGraph, both⟩ := mem_filter.mp mem
    exact if_neg (kept old inGraph (of_decide_eq_true both).1)

end

section

variable {history : List (Text × StageResults)} {kind : ResultKind} {jobID tenantID : Text}
  {now : Nat}

theorem jobViews_projectNodes (controls : List ControlRecord) :
    ∀ state : ResultGraph × List GraphError, Traced history state.1 →
      jobEdges kind jobID (controls.foldl (projectNode tenantID now) state).1 =
          jobEdges kind jobID state.1 ∧
        jobArtifacts jobID (controls.foldl (projectNode tenantID now) state).1 =
          jobArtifacts jobID state.1 := by
  induction controls with
  | nil => exact fun _state _traced => ⟨rfl, rfl⟩
  | cons control rest ih =>
    intro state traced
    obtain ⟨edges, artifacts⟩ := ih _ (traced.projectNode tenantID now control)
    rw [foldl_cons, edges, artifacts]
    rcases projectNode_cases tenantID now state control with ⟨upserted, _same⟩ | ⟨error, failed⟩
    · constructor
      · exact filter_of_appended (by rw [upsertNode_edges traced.distinctNodes upserted, append_nil]) (by simp)
      · exact jobArtifacts_upsertNode rfl traced.distinctNodes upserted
    · rw [failed]
      exact ⟨rfl, rfl⟩

theorem jobViews_projectParent (state : ResultGraph × List GraphError) (control : ControlRecord) :
    jobEdges kind jobID (projectParent now state control).1 = jobEdges kind jobID state.1 ∧
      jobArtifacts jobID (projectParent now state control).1 = jobArtifacts jobID state.1 := by
  unfold projectParent
  split_ifs
  · exact ⟨rfl, rfl⟩
  · split
    next graph created =>
      have applied : tolerate true state.1 (createChecked state.1 (parentEdge now control)) =
          .ok graph := by
        rw [created]
        rfl
      cases edgeOutcome_of_tolerate (derivedID_ne_nil (by simp) _) applied with
      | created _source _target _free added =>
        subst graph
        refine ⟨filter_of_appended rfl ?_, rfl⟩
        rintro edge mem ⟨label, _job⟩
        rw [mem_singleton.mp mem] at label
        exact kind.label_ne_parentOf label.symm
      | stored _taken same =>
        subst graph
        exact ⟨rfl, rfl⟩
      | skipped _missing same =>
        subst graph
        exact ⟨rfl, rfl⟩
    · exact ⟨rfl, rfl⟩
    · exact ⟨rfl, rfl⟩
    · exact ⟨rfl, rfl⟩

theorem jobViews_projectParents (controls : List ControlRecord) :
    ∀ state : ResultGraph × List GraphError,
      jobEdges kind jobID (controls.foldl (projectParent now) state).1 =
          jobEdges kind jobID state.1 ∧
        jobArtifacts jobID (controls.foldl (projectParent now) state).1 =
          jobArtifacts jobID state.1 := by
  induction controls with
  | nil => exact fun _state => ⟨rfl, rfl⟩
  | cons control rest ih =>
    intro state
    obtain ⟨edges, artifacts⟩ := ih (projectParent now state control)
    obtain ⟨firstEdges, firstArtifacts⟩ := @jobViews_projectParent kind jobID now state control
    exact ⟨edges.trans firstEdges, artifacts.trans firstArtifacts⟩

end

namespace GraphService

variable {service next final : GraphService} {jobID : Text} {kind : ResultKind}
  {events : List ServiceEvent} {event : ServiceEvent}

structure Undisturbed (jobID : Text) (kind : ResultKind) (service next : GraphService) : Prop where
  edges : jobEdges kind jobID next.graph = jobEdges kind jobID service.graph
  artifacts : kind = .artifacts → jobArtifacts jobID next.graph = jobArtifacts jobID service.graph
  stored : next.stored.lookup (jobID, kind) = service.stored.lookup (jobID, kind)

theorem history_step (taken : service.step event = some next) :
    ∀ entry ∈ service.history, entry ∈ next.history := by
  intro entry mem
  cases event with
  | projects tenantID now controls =>
    cases taken
    exact mem
  | stores otherID results =>
    cases taken
    exact mem
  | handles otherID other now =>
    cases taken
    unfold GraphService.handles
    cases service.stored.lookup (otherID, other) with
    | none => exact mem
    | some results => exact mem_append_left _ mem

theorem history_run (ran : Library.run step service events = some final) :
    ∀ entry ∈ service.history, entry ∈ final.history := by
  induction events generalizing service with
  | nil =>
    cases ran
    exact fun _ mem => mem
  | cons event rest ih =>
    obtain ⟨middle, taken, remaining⟩ := run_cons_eq_some.mp ran
    exact fun entry mem => ih remaining entry (history_step taken entry mem)

theorem undisturbed_step (consistent : service.Consistent)
    (taken : service.step event = some next) (other : ¬ event.Concerns jobID kind)
    (wellFormed : ∀ entry ∈ next.history, entry.2.WellFormed) :
    Undisturbed jobID kind service next := by
  cases event with
  | projects tenantID now controls =>
    cases taken
    obtain ⟨edges, artifacts⟩ := @jobViews_projectNodes service.history kind jobID tenantID now
      controls (service.graph, []) consistent.traced
    obtain ⟨parentEdges, parentArtifacts⟩ :=
      @jobViews_projectParents kind jobID now controls
        (controls.foldl (projectNode tenantID now) (service.graph, []))
    exact ⟨parentEdges.trans edges, fun _ => parentArtifacts.trans artifacts, rfl⟩
  | stores otherID results =>
    cases taken
    refine ⟨rfl, fun _ => rfl, ?_⟩
    rw [lookup_insert_eq, if_neg]
    intro same
    exact other ⟨(Prod.mk.inj same).1, (Prod.mk.inj same).2⟩
  | handles otherID otherKind now =>
    cases taken
    unfold GraphService.handles GraphService.handle at wellFormed ⊢
    cases found : service.stored.lookup (otherID, otherKind) with
    | none => exact ⟨rfl, fun _ => rfl, rfl⟩
    | some results =>
      simp only [found] at wellFormed
      have kinds := consistent.kinds otherID otherKind results found
      have form : results.WellFormed := wellFormed (otherID, results)
        (mem_append_right _ mem_cons_self)
      have foreign : ¬ (otherID = jobID ∧ results.kind = kind) := by
        rw [kinds]
        exact other
      refine ⟨jobEdges_applyWrites form foreign, ?_, rfl⟩
      intro artifacts
      rw [artifacts] at foreign
      exact jobArtifacts_applyWrites foreign

theorem undisturbed_run (consistent : service.Consistent)
    (ran : Library.run step service events = some final)
    (others : ∀ event ∈ events, ¬ event.Concerns jobID kind)
    (wellFormed : ∀ entry ∈ final.history, entry.2.WellFormed) :
    Undisturbed jobID kind service final := by
  induction events generalizing service with
  | nil =>
    cases ran
    exact ⟨rfl, fun _ => rfl, rfl⟩
  | cons event rest ih =>
    obtain ⟨middle, taken, remaining⟩ := run_cons_eq_some.mp ran
    have first := undisturbed_step consistent taken (others event mem_cons_self)
      fun entry mem => wellFormed entry (history_run remaining entry mem)
    have later := ih (consistent.step taken) remaining
      fun other mem => others other (mem_cons_of_mem _ mem)
    exact ⟨later.edges.trans first.edges,
      fun artifacts => (later.artifacts artifacts).trans (first.artifacts artifacts),
      later.stored.trans first.stored⟩

/-- After the last event of a job's analyzer was handled without error the graph mirrors the
stored results, and no event that came later has changed that. -/
theorem graph_mirrors_results (before later : List ServiceEvent) (service final : GraphService)
    (jobID : Text) (kind : ResultKind) (now : Nat) (results : StageResults)
    (ran : Library.run step initial before = some service)
    (stored : service.stored.lookup (jobID, kind) = some results)
    (handled : (service.handle jobID kind now).2 = none)
    (resumed : Library.run step (service.handles jobID kind now) later = some final)
    (last : ∀ event ∈ later, ¬ event.Concerns jobID kind) (steady : Steady final.history) :
    final.stored.lookup (jobID, kind) = some results ∧
      Mirrors jobID results (service.handle jobID kind now).1 ∧
      jobEdges kind jobID final.graph = jobEdges kind jobID (service.handle jobID kind now).1 ∧
      (kind = .artifacts → jobArtifacts jobID final.graph =
        jobArtifacts jobID (service.handle jobID kind now).1) := by
  have consistent := run_consistent ran
  have taken : service.step (.handles jobID kind now) = some (service.handles jobID kind now) :=
    rfl
  have after := consistent.step taken
  have outcome : service.handle jobID kind now =
      ((applyWrites service.graph (results.writes jobID now)).1,
        (applyWrites service.graph (results.writes jobID now)).2.map HandlerError.write) := by
    simp only [handle, stored]
  have recorded : (service.handles jobID kind now).history =
      service.history ++ [(jobID, results)] := by
    simp only [handles, stored]
  have inHistory : (jobID, results) ∈ (service.handles jobID kind now).history := by
    rw [recorded]
    exact mem_append_right _ mem_cons_self
  have success : (applyWrites service.graph (results.writes jobID now)).2 = none := by
    rw [outcome] at handled
    simpa using handled
  have traced : Traced final.history
      (applyWrites service.graph (results.writes jobID now)).1 := by
    have extended := after.traced.extend (history_run resumed)
    unfold handles at extended
    rw [outcome] at extended
    exact extended
  have undisturbed := undisturbed_run after resumed last steady.wellFormed
  refine ⟨undisturbed.stored.trans stored, ?_, undisturbed.edges, undisturbed.artifacts⟩
  rw [outcome]
  exact steady.mirrors (history_run resumed _ inHistory) success traced

def auditRecord : ControlRecord :=
  { accessRecord with controlID := "au-2".toList, identifier := "au-2".toList }

def needsAudit (confidence : ℚ) : StageResults :=
  .requires
    [{ sourceID := "ac-1".toList, targetID := "au-2".toList, confidence, unanimous := false
       validVotes := 3, totalVotes := 3, models := [] }]

def serviceAfter (events : List ServiceEvent) : GraphService :=
  (Library.run step initial events).getD initial

def firstDelivery : List ServiceEvent :=
  [.projects "acme".toList 1 [accessRecord, auditRecord],
    .stores "job".toList (needsAudit (9 / 10)), .handles "job".toList .requires 2]

def otherJob : List ServiceEvent :=
  [.stores "other".toList (needsAudit (1 / 2)), .handles "other".toList .requires 4]

theorem graph_mirrors_results_redelivered :
    let service := serviceAfter firstDelivery
    let final := serviceAfter (firstDelivery ++ .handles "job".toList .requires 3 :: otherJob)
    Mirrors "job".toList (needsAudit (9 / 10)) (service.handle "job".toList .requires 3).1 ∧
      jobEdges .requires "job".toList final.graph =
        jobEdges .requires "job".toList (service.handle "job".toList .requires 3).1 := by
  have whole := graph_mirrors_results firstDelivery otherJob (serviceAfter firstDelivery)
    (serviceAfter (firstDelivery ++ .handles "job".toList .requires 3 :: otherJob)) "job".toList
    .requires 3 (needsAudit (9 / 10)) rfl (by decide +kernel) (by decide +kernel) rfl
    (by
      intro event mem concerned
      rcases mem_cons.mp mem with rfl | mem
      · exact absurd concerned.1 (by decide)
      · rw [mem_singleton.mp mem] at concerned
        exact absurd concerned.1 (by decide))
    ⟨by decide +kernel, by decide +kernel, by decide +kernel⟩
  exact ⟨whole.2.1, whole.2.2.1⟩

def retried : List ServiceEvent :=
  firstDelivery ++ [.stores "job".toList (needsAudit (6 / 10))]

def sharedControl : List ServiceEvent :=
  [.projects "acme".toList 1 [accessRecord], .stores "job".toList (.artifacts accessFound),
    .handles "job".toList .artifacts 2, .stores "other".toList (.artifacts accessFound)]

/-- The retry leaves the edge of the first attempt, and the second job gets no Artifact node
of its own. Both events are handled without error. -/
theorem graph_not_mirrored_retry :
    ((serviceAfter retried).stored.lookup ("job".toList, .requires) =
        some (needsAudit (6 / 10)) ∧
      ((serviceAfter retried).handle "job".toList .requires 3).2 = none ∧
      ¬ Mirrors "job".toList (needsAudit (6 / 10))
        ((serviceAfter retried).handle "job".toList .requires 3).1) ∧
    ((serviceAfter sharedControl).stored.lookup ("other".toList, .artifacts) =
        some (.artifacts accessFound) ∧
      ((serviceAfter sharedControl).handle "other".toList .artifacts 3).2 = none ∧
      ¬ Mirrors "other".toList (.artifacts accessFound)
        ((serviceAfter sharedControl).handle "other".toList .artifacts 3).1) := by
  constructor
  · refine ⟨by decide +kernel, by decide +kernel, ?_⟩
    intro mirrors
    have missing : requiresEdge "job".toList 0
        ⟨"ac-1".toList, "au-2".toList, 6 / 10, false, 3, 3, []⟩ ∉
        (jobEdges .requires "job".toList
          ((serviceAfter retried).handle "job".toList .requires 3).1).map timelessEdge := by
      decide +kernel
    apply missing
    exact (mirrors.edges _).mpr ⟨mem_cons_self, by decide +kernel, by decide +kernel⟩
  · refine ⟨by decide +kernel, by decide +kernel, ?_⟩
    intro mirrors
    have missing : artifactNode "other".toList 0 "ac-1".toList 0
        ⟨"Access policy".toList, "POLICY".toList, [], [], 1⟩ ∉
        (jobArtifacts "other".toList
          ((serviceAfter sharedControl).handle "other".toList .artifacts 3).1).map
            timelessNode := by
      decide +kernel
    apply missing
    exact (mirrors.artifacts rfl _).mpr mem_cons_self

/-- After every history of events, handled one after the other, no ID is taken twice, no edge has
an end that is missing, and each edge but a parent's is written for a result that was handled. -/
theorem graph_wellFormed (events : List ServiceEvent) :
    let service := serviceAfter events
    (service.graph.nodes.map Node.id).Nodup ∧ (service.graph.edges.map Edge.id).Nodup ∧
      ∀ edge ∈ service.graph.edges,
        (edge.label = parentOfLabel ∨
          ∃ write, write.edge? = some edge ∧ Handled service.history write) ∧
        (service.graph.getNode edge.sourceID).isSome ∧
        (service.graph.getNode edge.targetID).isSome := by
  have consistent : (serviceAfter events).Consistent := by
    unfold serviceAfter
    cases ran : Library.run step initial events with
    | none => exact consistent_initial
    | some service => exact run_consistent ran
  have traced := consistent.traced
  refine ⟨traced.distinctNodes, traced.distinct, ?_⟩
  exact fun edge mem => ⟨(traced.edges edge mem).imp_left And.left, traced.endpoints edge mem⟩

end GraphService

end CrossCodex.Graph
