/-
The key of a control from import through the analyzers to the DEMANDS edges. Import and
projection use the control ID, which starts with the catalog ID; the analyzer uses the
identifier.
-/

import CrossCodex.Analyzer.ArtifactResults
import CrossCodex.Graph.ResultEvents
import CrossCodex.Oscal.Catalog

namespace CrossCodex.Graph

open Analyzer Library List

/-- The control records that ParseCatalog stores. -/
def importControls (catalogID : Text) (items : List Oscal.ControlItem) : List ControlRecord :=
  items.map fun item =>
    { controlID := catalogID ++ '/' :: item.id, catalogID, identifier := item.id
      title := item.title, statement := item.text, class_ := item.class_
      parentID := item.parentID, props := item.props }

variable (records : List ControlRecord) {label : Text}

/-- The control an analyzer is given for a row; the parent's title is looked up under the
row's parent ID as it stands. -/
def readControl (record : ControlRecord) : Control :=
  let ancestor :=
    match records.find? fun parent => parent.controlID = record.parentID with
    | none => []
    | some parent => [("ancestor_title", parent.title)]
  { controlId := record.controlID, catalogId := record.catalogID
    identifier := record.identifier, statement := record.statement
    parts := ancestor ++ ("class", record.class_) :: record.props }

def readControls : List Control :=
  (records.insertionSort fun left right => left.controlID ≤ right.controlID).map
    (readControl records)

theorem record_of_mem_readControls {records : List ControlRecord} {control : Control}
    (mem : control ∈ readControls records) :
    ∃ record ∈ records, record.controlID = control.controlId := by
  obtain ⟨record, sorted, rfl⟩ := mem_map.mp mem
  exact ⟨record, (mem_insertionSort _).mp sorted, rfl⟩

structure ArtifactsStage (source target : List ControlRecord) where
  input : StageInput
  controls : input.controls = readControls source ++ readControls target
  fl : ℚ → ℚ
  host : Artifacts.ArtifactHost
  fuzzyThreshold : ℚ
  tasks : List Task
  generated : stageTasks input .artifacts = .ok tasks
  answers : List TaskResult
  answered : ∀ answer ∈ answers, answer.taskID ∈ tasks.map Task.taskID
  found : List ArtifactResult
  reported : Artifacts.stageResult fl host
    { toArtifactsConfig := input.artifacts, fuzzyThreshold } answers = .ok found

namespace ArtifactsStage

variable {source target : List ControlRecord} (stage : ArtifactsStage source target)

/-- An answer to one of the control's tasks voted in the group behind the result. -/
def ExtractedFrom (result : ArtifactResult) (control : Control) : Prop :=
  ∃ answer ∈ stage.answers,
    answer.taskID ∈ Artifacts.taskIDs stage.input.artifacts control ∧
    ∃ vote, Artifacts.castVote stage.host stage.input.artifacts.models answer =
      some (result.controlID, vote)

/-- Task IDs of this stage decode to the identifiers they were built from. -/
def Decodes : Prop :=
  stage.input.artifacts.samplesPerModel ≤ 2 ^ 63 ∧
    ∀ control ∈ stage.input.controls, ∀ model ∈ stage.input.artifacts.models,
      ModelRecovered stage.input.artifacts.models control.identifier model

variable {stage}

theorem exists_extractedFrom {result : ArtifactResult} (mem : result ∈ stage.found) :
    ∃ control ∈ stage.input.controls, stage.ExtractedFrom result control := by
  obtain ⟨answer, given, vote, cast⟩ := Artifacts.stageResult_cast stage.reported mem
  obtain ⟨task, listed, named⟩ := mem_map.mp (stage.answered answer given)
  obtain ⟨control, inJob, outputs, produced, output⟩ := (mem_gatherEach stage.generated).mp listed
  refine ⟨control, inJob, answer, given, ?_, vote, cast⟩
  rw [← Artifacts.generateWork_taskIDs produced, ← named]
  exact mem_map_of_mem output

theorem controlID_of_extractedFrom (decodes : stage.Decodes) {result : ArtifactResult}
    {control : Control} (inJob : control ∈ stage.input.controls)
    (extracted : stage.ExtractedFrom result control) : result.controlID = control.identifier := by
  obtain ⟨answer, _given, own, vote, cast⟩ := extracted
  unfold Artifacts.taskIDs at own
  unfold Artifacts.castVote at cast
  cases outcome : answer.outcome with
  | error failure => simp [outcome] at cast
  | ok text =>
    cases text with
    | none => simp [outcome] at cast
    | some raw =>
      split_ifs at own with skipped
      · rw [mem_singleton.mp own, parseControlTaskID_skipTaskID] at cast
        simp [outcome] at cast
      · obtain ⟨model, listed, inner⟩ := mem_flatMap.mp own
        obtain ⟨sample, inRange, named⟩ := mem_map.mp inner
        have below : sample < 2 ^ 63 :=
          lt_of_lt_of_le (mem_range.mp inRange) decodes.1
        have parsed := (@parseControlTaskID_eq_some_iff sample _ model "artifacts".toList
          control.identifier listed below).mpr (decodes.2 control inJob model listed)
        rw [← named, parsed] at cast
        simp only [outcome, Bool.false_eq_true, if_false, Option.some.injEq, Prod.mk.injEq] at cast
        exact cast.1.symm

end ArtifactsStage

def HasNode (graph : ResultGraph) (id label : Text) : Prop :=
  ∃ node ∈ graph.nodes, node.id = id ∧ node.label = label

def Projected (graph : ResultGraph) (records : List ControlRecord) : Prop :=
  ∀ record ∈ records, HasNode graph record.controlID controlLabel

theorem HasNode.grows {graph next : ResultGraph} {id : Text} (has : HasNode graph id label)
    (grows : Grows graph next) : HasNode next id label := by
  obtain ⟨node, mem, same⟩ := has
  exact ⟨node, grows.nodes node mem, same⟩

theorem HasNode.isSome {graph : ResultGraph} {id : Text} (has : HasNode graph id label) :
    (graph.getNode id).isSome := by
  obtain ⟨node, mem, same⟩ := has
  exact isSome_getNode.mpr ⟨node, mem, same.1⟩

theorem HasNode.upsert {graph next : ResultGraph} {id : Text} {node : Node Properties}
    (has : HasNode graph id label) (upserted : graph.upsertNode node = .ok next)
    (nodup : (graph.nodes.map Node.id).Nodup) : HasNode next id label := by
  obtain ⟨stored, mem, sameID, sameLabel⟩ := has
  rcases GraphDB.upsertNode_cases nodup upserted with ⟨_, rfl⟩ | ⟨labels, rfl⟩
  · exact ⟨stored, mem_append_left _ mem, sameID, sameLabel⟩
  · exact ⟨_, mem_map_of_mem mem, (Node.replaces_id ..).trans sameID,
      (Node.replaces_label (labels stored mem)).trans sameLabel⟩

theorem projectNode_cases (tenantID : Text) (now : Nat) (state : ResultGraph × List GraphError)
    (control : ControlRecord) :
    state.1.upsertNode (controlNode tenantID now control) =
        .ok (projectNode tenantID now state control).1 ∧
        (projectNode tenantID now state control).2 = state.2 ∨
      ∃ error, projectNode tenantID now state control = (state.1, state.2 ++ [error]) := by
  unfold projectNode
  dsimp only
  split
  next graph upserted =>
    split_ifs at upserted
    exact .inl ⟨upserted, rfl⟩
  next error _failed => exact .inr ⟨error, rfl⟩

theorem grows_projectParent (now : Nat) (state : ResultGraph × List GraphError)
    (control : ControlRecord) : Grows state.1 (projectParent now state control).1 := by
  unfold projectParent
  split_ifs
  · exact .refl _
  · split
    next graph created =>
      have outcome := @edgeOutcome_of_tolerate state.1 graph (parentEdge now control) true
        (derivedID_ne_nil (by simp) _) (by rw [created]; rfl)
      exact outcome.grows
    · exact .refl _
    · exact .refl _
    · exact .refl _

section

variable {history : List (Text × StageResults)} {tenantID : Text} {now : Nat}

theorem projectNodes_hasNode {id : Text} (controls : List ControlRecord) :
    ∀ state : ResultGraph × List GraphError, Traced history state.1 →
      HasNode state.1 id label →
        HasNode (controls.foldl (projectNode tenantID now) state).1 id label := by
  induction controls with
  | nil => exact fun _state _traced has => has
  | cons control rest ih =>
    intro state traced has
    apply ih _ (traced.projectNode tenantID now control)
    rcases projectNode_cases tenantID now state control with ⟨upserted, _same⟩ | ⟨error, failed⟩
    · exact has.upsert upserted traced.distinctNodes
    · rw [failed]
      exact has

theorem projectParents_grows (controls : List ControlRecord) :
    ∀ state : ResultGraph × List GraphError,
      Grows state.1 (controls.foldl (projectParent now) state).1 := by
  induction controls with
  | nil => exact fun state => .refl state.1
  | cons control rest ih =>
    intro state
    exact (grows_projectParent now state control).trans (ih _)

end

theorem HasNode.step {service next : GraphService} {event : ServiceEvent} {id : Text}
    (consistent : service.Consistent) (taken : service.step event = some next)
    (has : HasNode service.graph id label) : HasNode next.graph id label := by
  cases event with
  | projects tenantID now controls =>
    cases taken
    exact (projectNodes_hasNode controls (service.graph, []) consistent.traced has).grows
      (projectParents_grows controls _)
  | stores jobID results =>
    cases taken
    exact has
  | handles jobID kind now =>
    cases taken
    apply has.grows
    unfold GraphService.handles GraphService.handle
    cases service.stored.lookup (jobID, kind) with
    | none => exact .refl _
    | some results => exact grows_applyWrites (results.named jobID now)

def Demanded (graph : ResultGraph) (controlID artifactID : Text) : Prop :=
  ∃ edge ∈ graph.edges, edge.label = "DEMANDS".toList ∧ edge.sourceID = controlID ∧
    edge.targetID = artifactID

section

variable {history : List (Text × StageResults)} {graph : ResultGraph}

theorem Traced.demanded_of_id (traced : Traced history graph) {edge : Edge EdgeFacts}
    (mem : edge ∈ graph.edges) {controlID artifact : Text}
    (named : edge.id = derivedID ["demands".toList, controlID, artifact]) :
    Demanded graph controlID artifact := by
  have parts : ∀ {kind : Text} {rest : List Text}, edge.id = derivedID (kind :: rest) →
      kind :: rest = ["demands".toList, controlID, artifact] := by
    intro kind rest own
    exact derivedID_injective (by simp) (by simp) (own.symm.trans named)
  cases traced.origin mem with
  | parentOf label id => simpa using parts id
  | semanticMatch jobID now matched handled result given same =>
    subst edge
    simpa using parts rfl
  | requires jobID now required handled result given same =>
    subst edge
    simpa using parts rfl
  | isType jobID now control entry same =>
    subst edge
    simpa using parts rfl
  | demands jobID now extracted handled result given entry indexed same =>
    subst edge
    have own := parts rfl
    simp only [List.cons.injEq, and_true, true_and] at own
    exact ⟨_, mem, rfl, own.1, own.2⟩

theorem Traced.controlID_of_demanded (traced : Traced history graph) {controlID named : Text}
    {index : Nat} (demanded : Demanded graph controlID (artifactID named index)) :
    controlID = named := by
  obtain ⟨edge, mem, label, sourceID, targetID⟩ := demanded
  cases traced.origin mem with
  | parentOf other _id =>
    have impossible : "DEMANDS".toList = "PARENT_OF".toList := label.symm.trans other
    simp at impossible
  | semanticMatch jobID now matched handled result given same =>
    subst edge
    cases label
  | requires jobID now required handled result given same =>
    subst edge
    cases label
  | isType jobID now control entry same =>
    subst edge
    cases label
  | demands jobID now extracted handled result given entry indexed same =>
    subst edge
    have own := (artifactID_injective targetID).1
    exact sourceID.symm.trans own

end

theorem hasNode_of_applyWrites {graph : ResultGraph} {writes : List Write}
    {node : Node Properties} (named : ∀ write ∈ writes, Named write)
    (success : (applyWrites graph writes).2 = none) (written : .node node ∈ writes) :
    HasNode (applyWrites graph writes).1 node.id node.label := by
  obtain ⟨before, after, rfl⟩ := append_of_mem written
  obtain ⟨earlier, next, _grows, applied, _prior, later⟩ := applyWrites_ok named success
  have has : HasNode next node.id node.label := (present_of_apply_node applied).2
  exact has.grows later

theorem artifactWrites_within {jobID : Text} {now : Nat} {found : List ArtifactResult}
    {result : ArtifactResult} (mem : result ∈ found) {entry : Artifact × Nat}
    (indexed : entry ∈ result.artifacts.zipIdx) :
    ∃ before after, materializeArtifacts jobID now found =
      before ++ artifactWrites jobID now result.controlID entry.2 entry.1 ++ after := by
  obtain ⟨first, last, rfl⟩ := append_of_mem mem
  obtain ⟨start, finish, split⟩ := append_of_mem indexed
  let writesOf := fun entry : Artifact × Nat =>
    artifactWrites jobID now result.controlID entry.2 entry.1
  refine ⟨materializeArtifacts jobID now first ++ start.flatMap writesOf,
    finish.flatMap writesOf ++ materializeArtifacts jobID now last, ?_⟩
  simp [materializeArtifacts, split, writesOf]

theorem handled_artifact {graph : ResultGraph} {jobID : Text} {now : Nat}
    {found : List ArtifactResult}
    (success : (applyWrites graph (materializeArtifacts jobID now found)).2 = none)
    {result : ArtifactResult} (mem : result ∈ found) {entry : Artifact × Nat}
    (indexed : entry ∈ result.artifacts.zipIdx) :
    let final := (applyWrites graph (materializeArtifacts jobID now found)).1
    HasNode final (artifactID result.controlID entry.2) "Artifact".toList ∧
      ((graph.getNode result.controlID).isSome →
        ∃ edge ∈ final.edges, edge.id =
          derivedID ["demands".toList, result.controlID, artifactID result.controlID entry.2]) := by
  have named : ∀ write ∈ materializeArtifacts jobID now found, Named write :=
    StageResults.named (.artifacts found) jobID now
  obtain ⟨before, after, split⟩ := @artifactWrites_within jobID now _ _ mem _ indexed
  rw [split] at success named ⊢
  constructor
  · exact @hasNode_of_applyWrites graph _
      (artifactNode jobID now result.controlID entry.2 entry.1) named success
      (by simp [artifactWrites])
  · intro source
    -- the artifact's own node is written before its demand
    let lead := before ++ [Write.node (artifactNode jobID now result.controlID entry.2 entry.1),
      Write.node (artifactTypeNode now entry.1)]
    let demand := Write.edge true (demandsEdge jobID now result.controlID entry.2)
    let rest := Write.edge false (isTypeEdge jobID now result.controlID entry.2 entry.1) :: after
    have parted : before ++ artifactWrites jobID now result.controlID entry.2 entry.1 ++ after =
        lead ++ demand :: rest := by
      simp [lead, demand, rest, artifactWrites]
    rw [parted] at success named ⊢
    obtain ⟨earlier, next, grows, applied, prior, later⟩ := applyWrites_ok named success
    have leadNamed : ∀ write ∈ lead, Named write :=
      fun write inLead => named write (mem_append_left _ inLead)
    have target : HasNode earlier (artifactID result.controlID entry.2) "Artifact".toList := by
      have has := @hasNode_of_applyWrites graph lead
        (artifactNode jobID now result.controlID entry.2 entry.1) leadNamed (by rw [prior])
        (by simp [lead])
      rw [prior] at has
      exact has
    have named' := named demand (by simp) _ rfl
    have outcome := apply_edge rfl named' applied
    obtain ⟨stored, inNext, sameID⟩ := outcome.present (grows.getNode source) target.isSome
    exact ⟨stored, later.edges stored inNext, sameID⟩

/-- Extracted artifacts get their node, and the demand from their control exactly when the
control's ID is the identifier under which the analyzer reports it. -/
theorem artifact_attached_iff (events : List ServiceEvent) (service : GraphService)
    (source target : List ControlRecord) (stage : ArtifactsStage source target) (jobID : Text)
    (now : Nat) (ran : Library.run GraphService.step GraphService.initial events = some service)
    (projected : Projected service.graph (source ++ target))
    (stored : service.stored.lookup (jobID, .artifacts) = some (.artifacts stage.found))
    (handled : (service.handle jobID .artifacts now).2 = none) (decodes : stage.Decodes) :
    ∀ result ∈ stage.found,
      (∃ control ∈ stage.input.controls, stage.ExtractedFrom result control) ∧
      ∀ control ∈ stage.input.controls, stage.ExtractedFrom result control →
        ∀ entry ∈ result.artifacts.zipIdx,
          let graph := (service.handle jobID .artifacts now).1
          HasNode graph (artifactID result.controlID entry.2) "Artifact".toList ∧
          HasNode graph control.controlId controlLabel ∧
          (Demanded graph control.controlId (artifactID result.controlID entry.2) ↔
            control.controlId = control.identifier) := by
  intro result mem
  refine ⟨ArtifactsStage.exists_extractedFrom mem, ?_⟩
  intro control inJob extracted entry indexed
  have consistent := GraphService.run_consistent ran
  have taken : service.step (.handles jobID .artifacts now) =
      some (service.handles jobID .artifacts now) := rfl
  have after := (consistent.step taken).traced
  have named := ArtifactsStage.controlID_of_extractedFrom decodes inJob extracted
  have success : (applyWrites service.graph (materializeArtifacts jobID now stage.found)).2 =
      none := by
    simpa [GraphService.handle, stored, StageResults.writes] using handled
  have same : (service.handle jobID .artifacts now).1 =
      (applyWrites service.graph (materializeArtifacts jobID now stage.found)).1 := by
    simp [GraphService.handle, stored, StageResults.writes]
  have written := handled_artifact success mem indexed
  have controlNode : HasNode service.graph control.controlId controlLabel := by
    rw [stage.controls] at inJob
    rcases mem_append.mp inJob with left | right
    · obtain ⟨record, given, sameID⟩ := record_of_mem_readControls left
      rw [← sameID]
      exact projected record (mem_append_left _ given)
    · obtain ⟨record, given, sameID⟩ := record_of_mem_readControls right
      rw [← sameID]
      exact projected record (mem_append_right _ given)
  refine ⟨?_, controlNode.step consistent taken, ?_⟩
  · rw [same]
    exact written.1
  constructor
  · intro demanded
    exact (after.controlID_of_demanded demanded).trans named
  · intro keyed
    have present : (service.graph.getNode result.controlID).isSome := by
      rw [named, ← keyed]
      exact controlNode.isSome
    obtain ⟨edge, inFinal, id⟩ := written.2 present
    rw [keyed, ← named]
    rw [← same] at inFinal
    exact after.demanded_of_id inFinal id

def nameHost : Artifacts.ArtifactHost where
  parseResponse raw := ([⟨raw, .policy, [], [], [], []⟩], .ok)
  normalizeArtifactName name := name
  artifactNamesMatch left right _threshold := left = right

def accessItem : Oscal.ControlItem :=
  { id := "ac-1".toList, title := "Access control".toList
    text := "Keep an access control policy.".toList, class_ := "requirement".toList
    parentID := [], groupID := [], props := [] }

def accessRecord : ControlRecord :=
  { controlID := "ac-1".toList, catalogID := "c".toList, identifier := "ac-1".toList
    title := accessItem.title, statement := accessItem.text, class_ := accessItem.class_
    parentID := [], props := [] }

def accessTasks : List Task :=
  ((stageTasks (crosswalkJob (readControls records ++ readControls [])) .artifacts).toOption).getD []

def accessAnswer : TaskResult :=
  { taskID := "artifacts-ac-1-m-s0".toList, outcome := .ok (some "Access policy".toList) }

def accessFound : List ArtifactResult :=
  [{ controlID := "ac-1".toList
     artifacts := [⟨"Access policy".toList, "POLICY".toList, [], [], 1⟩] }]

def keyedStage : ArtifactsStage [accessRecord] [] where
  input := crosswalkJob (readControls [accessRecord] ++ readControls [])
  controls := rfl
  fl := id
  host := nameHost
  fuzzyThreshold := 6 / 10
  tasks := accessTasks [accessRecord]
  generated := rfl
  answers := [accessAnswer]
  answered := by decide +kernel
  found := accessFound
  reported := by decide +kernel

def importedStage : ArtifactsStage (importControls "c".toList [accessItem]) [] where
  input := crosswalkJob
    (readControls (importControls "c".toList [accessItem]) ++ readControls [])
  controls := rfl
  fl := id
  host := nameHost
  fuzzyThreshold := 6 / 10
  tasks := accessTasks (importControls "c".toList [accessItem])
  generated := rfl
  answers := [accessAnswer]
  answered := by decide +kernel
  found := accessFound
  reported := by decide +kernel

def accessEvents : List ServiceEvent :=
  [.projects "acme".toList 1 records, .stores "job".toList (.artifacts accessFound)]

def accessService : GraphService :=
  (Library.run GraphService.step GraphService.initial (accessEvents records)).getD .initial

instance (graph : ResultGraph) (id label : Text) : Decidable (HasNode graph id label) :=
  inferInstanceAs (Decidable (∃ node ∈ graph.nodes, node.id = id ∧ node.label = label))

instance (graph : ResultGraph) (records : List ControlRecord) :
    Decidable (Projected graph records) :=
  inferInstanceAs (Decidable (∀ record ∈ records, HasNode graph record.controlID controlLabel))

instance (graph : ResultGraph) (controlID artifact : Text) :
    Decidable (Demanded graph controlID artifact) :=
  inferInstanceAs (Decidable (∃ edge ∈ graph.edges, edge.label = "DEMANDS".toList ∧
    edge.sourceID = controlID ∧ edge.targetID = artifact))

/-- Where the row's ID is the identifier, the artifact hangs on its control. -/
theorem artifact_attached_keyed :
    Demanded ((accessService [accessRecord]).handle "job".toList .artifacts 2).1
      "ac-1".toList (artifactID "ac-1".toList 0) := by
  have attached := artifact_attached_iff (accessEvents [accessRecord])
    (accessService [accessRecord]) [accessRecord] [] keyedStage "job".toList 2 rfl
    (by decide +kernel) (by decide +kernel) (by decide +kernel)
    ⟨by decide, by decide +kernel⟩
  obtain ⟨⟨control, inJob, extracted⟩, each⟩ := attached _ mem_cons_self
  have named : control = readControl [accessRecord] accessRecord := mem_singleton.mp inJob
  have whole := each control inJob extracted _ mem_cons_self
  rw [named] at whole
  exact whole.2.2.mpr rfl

/-- An imported control `c/ac-1`: the event is handled without error, the artifact has its
node, and no demand leads to it from the control. -/
theorem artifact_not_attached_imported :
    let records := importControls "c".toList [accessItem]
    let service := accessService records
    let graph := (service.handle "job".toList .artifacts 2).1
    Library.run GraphService.step GraphService.initial (accessEvents records) = some service ∧
    Projected service.graph records ∧
    service.stored.lookup ("job".toList, .artifacts) = some (.artifacts importedStage.found) ∧
    (service.handle "job".toList .artifacts 2).2 = none ∧
    (∃ result ∈ importedStage.found, ∃ control ∈ importedStage.input.controls,
      importedStage.ExtractedFrom result control ∧ control.controlId = "c/ac-1".toList ∧
      ∃ entry ∈ result.artifacts.zipIdx,
        HasNode graph (artifactID result.controlID entry.2) "Artifact".toList ∧
        ¬ Demanded graph control.controlId (artifactID result.controlID entry.2)) := by
  refine ⟨rfl, by decide +kernel, by decide +kernel, by decide +kernel, ?_⟩
  refine ⟨_, mem_cons_self, _, mem_cons_self, ?_, by decide +kernel, _,
    mem_cons_self, by decide +kernel, by decide +kernel⟩
  exact ⟨accessAnswer, mem_cons_self, by decide +kernel, _, rfl⟩

end CrossCodex.Graph
