/-
The graph against the stored results, up to times. The handlers only create, under IDs that
carry the job for matches and requirements but not for artifacts.
-/

import CrossCodex.Graph.ArtifactAttachment

namespace CrossCodex.Graph

open Analyzer Library List

def ResultKind.label : ResultKind → Text
  | .relationship => "SEMANTIC_MATCH".toList
  | .requires => "REQUIRES".toList
  | .artifacts => "DEMANDS".toList

theorem ResultKind.label_injective : Function.Injective ResultKind.label := by
  intro kind other same
  cases kind <;> cases other <;> first | rfl | exact absurd same (by decide)

theorem ResultKind.label_ne_parentOf (kind : ResultKind) : kind.label ≠ parentOfLabel := by
  cases kind <;> decide

theorem ResultKind.label_ne_isType (kind : ResultKind) : kind.label ≠ "IS_TYPE".toList := by
  cases kind <;> decide

def timelessEdge (edge : Edge EdgeFacts) : Edge EdgeFacts := { edge with validFrom := 0 }

def timelessNode (node : Node Properties) : Node Properties := { node with validFrom := 0 }

def jobOf (properties : Properties) : Option PropertyValue :=
  properties.lookup "job_id".toList

namespace StageResults

def describedEdges (jobID : Text) : StageResults → List (Edge EdgeFacts)
  | .relationship matched => matched.map (semanticMatchEdge jobID 0)
  | .requires required => required.map (requiresEdge jobID 0)
  | .artifacts extracted => extracted.flatMap fun result =>
    result.artifacts.zipIdx.map fun entry => demandsEdge jobID 0 result.controlID entry.2

def describedNodes (jobID : Text) : StageResults → List (Node Properties)
  | .relationship _ => []
  | .requires _ => []
  | .artifacts extracted => extracted.flatMap fun result =>
    result.artifacts.zipIdx.map fun entry =>
      artifactNode jobID 0 result.controlID entry.2 entry.1

def controls : StageResults → List Text
  | .relationship _ => []
  | .requires _ => []
  | .artifacts extracted => extracted.map ArtifactResult.controlID

def createdIDs : StageResults → List Text
  | .relationship _ => []
  | .requires _ => []
  | .artifacts extracted => extracted.flatMap fun result =>
    result.artifacts.zipIdx.flatMap fun entry =>
      [artifactID result.controlID entry.2, artifactTypeID entry.1.type]

/-- Each pair or control is reported once, no property of a match is called job_id, and no
control has the ID of a node that is created for the results. -/
def WellFormed : StageResults → Prop
  | .relationship matched =>
    (matched.map fun result => (result.sourceID, result.targetID)).Nodup ∧
      ∀ result ∈ matched, ∀ entry ∈ result.properties, entry.1 ≠ "job_id".toList
  | .requires required =>
    (required.map fun result => (result.sourceID, result.targetID)).Nodup
  | .artifacts extracted =>
    (extracted.map ArtifactResult.controlID).Nodup ∧
      ∀ result ∈ extracted, result.controlID ∉ (StageResults.artifacts extracted).createdIDs

instance : ∀ results : StageResults, Decidable results.WellFormed
  | .relationship _ => inferInstanceAs (Decidable (_ ∧ _))
  | .requires _ => inferInstanceAs (Decidable (List.Nodup _))
  | .artifacts _ => inferInstanceAs (Decidable (_ ∧ _))

end StageResults

/-- Handled results are well formed and do not change between the events of a job, and
different jobs report artifacts of different controls. -/
structure Steady (history : List (Text × StageResults)) : Prop where
  wellFormed : ∀ entry ∈ history, entry.2.WellFormed
  unchanged : ∀ entry ∈ history, ∀ other ∈ history, entry.1 = other.1 →
    entry.2.kind = other.2.kind → entry.2 = other.2
  apart : ∀ entry ∈ history, ∀ other ∈ history, entry.1 ≠ other.1 →
    ∀ control ∈ entry.2.controls, control ∉ other.2.controls

def jobEdges (kind : ResultKind) (jobID : Text) (graph : ResultGraph) : List (Edge EdgeFacts) :=
  graph.edges.filter fun edge =>
    edge.label = kind.label ∧ jobOf edge.properties.properties = some (.text jobID)

def jobArtifacts (jobID : Text) (graph : ResultGraph) : List (Node Properties) :=
  graph.nodes.filter fun node =>
    node.label = "Artifact".toList ∧ jobOf node.properties = some (.text jobID)

def HasEnds (graph : ResultGraph) (edge : Edge EdgeFacts) : Prop :=
  (graph.getNode edge.sourceID).isSome ∧ (graph.getNode edge.targetID).isSome

/-- The graph holds what the results describe, and each of it once. -/
structure Mirrors (jobID : Text) (results : StageResults) (graph : ResultGraph) : Prop where
  edges : ∀ edge, edge ∈ (jobEdges results.kind jobID graph).map timelessEdge ↔
    edge ∈ results.describedEdges jobID ∧ HasEnds graph edge
  edgesOnce : ((jobEdges results.kind jobID graph).map timelessEdge).Nodup
  artifacts : results.kind = .artifacts →
    ∀ node, node ∈ (jobArtifacts jobID graph).map timelessNode ↔
      node ∈ results.describedNodes jobID
  artifactsOnce : ((jobArtifacts jobID graph).map timelessNode).Nodup

variable {entry : Text × PropertyValue}

theorem lookup_replaced {key : Text} (other : entry.1 ≠ key) (properties : Properties) :
    (properties.map fun old => if old.1 = entry.1 then entry else old).lookup key =
      properties.lookup key := by
  have miss : (key == entry.1) = false := beq_eq_false_iff_ne.mpr (Ne.symm other)
  induction properties with
  | nil => rfl
  | cons old rest ih =>
    rw [map_cons, lookup_cons, lookup_cons, ih]
    split_ifs with same
    · rw [same, miss]
    · rfl

theorem lookup_setProperty {key : Text} (other : entry.1 ≠ key) (properties : Properties) :
    (setProperty properties entry).lookup key = properties.lookup key := by
  have miss : (key == entry.1) = false := beq_eq_false_iff_ne.mpr (Ne.symm other)
  have single : List.lookup key [entry] = none := by
    rw [lookup_cons, miss]
    rfl
  unfold setProperty
  split_ifs
  · exact lookup_replaced other properties
  · rw [lookup_append, single, Option.or_none]

theorem jobOf_setProperties {entries : Properties}
    (others : ∀ entry ∈ entries, entry.1 ≠ "job_id".toList) (start : Properties) :
    jobOf (entries.foldl setProperty start) = jobOf start := by
  induction entries generalizing start with
  | nil => rfl
  | cons entry rest ih =>
    rw [foldl_cons, ih fun later mem => others later (mem_cons_of_mem _ mem)]
    exact lookup_setProperty (others entry mem_cons_self) start

theorem jobOf_semanticMatchEdge {result : SemanticMatchResult}
    (others : ∀ entry ∈ result.properties, entry.1 ≠ "job_id".toList) (jobID : Text) (now : Nat) :
    jobOf (semanticMatchEdge jobID now result).properties.properties = some (.text jobID) := by
  refine (jobOf_setProperties ?_ _).trans ?_
  · intro entry mem
    obtain ⟨property, given, rfl⟩ := mem_map.mp mem
    exact others property given
  · rfl

theorem StageResults.jobOf_described {results : StageResults} (wellFormed : results.WellFormed)
    {jobID : Text} {edge : Edge EdgeFacts} (described : edge ∈ results.describedEdges jobID) :
    jobOf edge.properties.properties = some (.text jobID) := by
  cases results with
  | relationship matched =>
    obtain ⟨result, given, rfl⟩ := mem_map.mp described
    exact jobOf_semanticMatchEdge (wellFormed.2 result given) jobID 0
  | requires required =>
    obtain ⟨result, given, rfl⟩ := mem_map.mp described
    rfl
  | artifacts extracted =>
    obtain ⟨result, _given, inner⟩ := mem_flatMap.mp described
    obtain ⟨entry, _indexed, rfl⟩ := mem_map.mp inner
    rfl

theorem jobOf_artifactNode (jobID : Text) (now : Nat) (controlID : Text) (index : Nat)
    (artifact : Artifact) :
    jobOf (artifactNode jobID now controlID index artifact).properties = some (.text jobID) :=
  rfl

def ResultKind.tag : ResultKind → Text
  | .relationship => "semantic-match".toList
  | .requires => "requires".toList
  | .artifacts => "demands".toList

theorem ResultKind.tag_injective : Function.Injective ResultKind.tag := by
  intro kind other same
  cases kind <;> cases other <;> first | rfl | exact absurd same (by decide)

theorem ResultKind.tag_ne_parentOf (kind : ResultKind) : kind.tag ≠ "parent-of".toList := by
  cases kind <;> decide

theorem ResultKind.tag_ne_isType (kind : ResultKind) : kind.tag ≠ "is-type".toList := by
  cases kind <;> decide

def StageResults.nameParts (jobID : Text) (kind : ResultKind) (edge : Edge EdgeFacts) :
    List Text :=
  match kind with
  | .relationship => [jobID, edge.sourceID, edge.targetID]
  | .requires => [jobID, edge.sourceID, edge.targetID]
  | .artifacts => [edge.sourceID, edge.targetID]

theorem StageResults.described_named {results : StageResults} {jobID : Text}
    {edge : Edge EdgeFacts} (described : edge ∈ results.describedEdges jobID) :
    edge.label = results.kind.label ∧
      edge.id = derivedID (results.kind.tag :: nameParts jobID results.kind edge) := by
  cases results with
  | relationship matched =>
    obtain ⟨result, _given, rfl⟩ := mem_map.mp described
    exact ⟨rfl, rfl⟩
  | requires required =>
    obtain ⟨result, _given, rfl⟩ := mem_map.mp described
    exact ⟨rfl, rfl⟩
  | artifacts extracted =>
    obtain ⟨result, _given, inner⟩ := mem_flatMap.mp described
    obtain ⟨entry, _indexed, rfl⟩ := mem_map.mp inner
    exact ⟨rfl, rfl⟩

section

variable {history : List (Text × StageResults)} {graph : ResultGraph}

/-- Every edge is described by handled results, or is one of the two sorts beside them. -/
theorem Traced.sort (traced : Traced history graph) {edge : Edge EdgeFacts}
    (mem : edge ∈ graph.edges) :
    (∃ jobID results, (jobID, results) ∈ history ∧
      timelessEdge edge ∈ results.describedEdges jobID) ∨
    ∃ tag rest, edge.id = derivedID (tag :: rest) ∧
      ∀ kind : ResultKind, edge.label ≠ kind.label ∧ tag ≠ kind.tag := by
  cases traced.origin mem with
  | parentOf label id =>
    refine .inr ⟨_, _, id, fun kind => ⟨?_, kind.tag_ne_parentOf.symm⟩⟩
    rw [label]
    exact kind.label_ne_parentOf.symm
  | semanticMatch jobID now matched handled result given same =>
    subst edge
    exact .inl ⟨jobID, .relationship matched, handled, mem_map.mpr ⟨result, given, rfl⟩⟩
  | requires jobID now required handled result given same =>
    subst edge
    exact .inl ⟨jobID, .requires required, handled, mem_map.mpr ⟨result, given, rfl⟩⟩
  | demands jobID now extracted handled result given entry indexed same =>
    subst edge
    refine .inl ⟨jobID, .artifacts extracted, handled, ?_⟩
    exact mem_flatMap.mpr ⟨result, given, mem_map.mpr ⟨entry, indexed, rfl⟩⟩
  | isType jobID now controlID entry same =>
    subst edge
    exact .inr ⟨_, _, rfl, fun kind => ⟨kind.label_ne_isType.symm, kind.tag_ne_isType.symm⟩⟩

theorem Traced.described (traced : Traced history graph) {edge : Edge EdgeFacts}
    (mem : edge ∈ graph.edges) {kind : ResultKind} (label : edge.label = kind.label) :
    ∃ jobID results, (jobID, results) ∈ history ∧ results.kind = kind ∧
      timelessEdge edge ∈ results.describedEdges jobID := by
  rcases traced.sort mem with ⟨jobID, results, handled, described⟩ | ⟨_, _, _, other⟩
  · have own := (StageResults.described_named described).1
    exact ⟨jobID, results, handled, ResultKind.label_injective (own.symm.trans label), described⟩
  · exact absurd label (other kind).1

theorem Traced.label_of_tag (traced : Traced history graph) {edge : Edge EdgeFacts}
    (mem : edge ∈ graph.edges) {kind : ResultKind} {parts : List Text}
    (named : edge.id = derivedID (kind.tag :: parts)) : edge.label = kind.label := by
  have tags : ∀ {tag : Text} {rest : List Text}, edge.id = derivedID (tag :: rest) →
      tag = kind.tag := by
    intro tag rest own
    exact (List.cons.inj (derivedID_injective (by simp) (by simp) (own.symm.trans named))).1
  rcases traced.sort mem with ⟨jobID, results, _handled, described⟩ | ⟨tag, _, own, other⟩
  · obtain ⟨label, id⟩ := StageResults.described_named described
    rw [← ResultKind.tag_injective (tags id)]
    exact label
  · exact absurd (tags own) (other kind).2

theorem job_eq {properties : Properties} {jobID otherID : Text}
    (job : jobOf properties = some (.text jobID))
    (otherJob : jobOf properties = some (.text otherID)) : otherID = jobID := by
  have both := otherJob.symm.trans job
  simpa using both

theorem Steady.job_of_control (steady : Steady history) {entry other : Text × StageResults}
    (handled : entry ∈ history) (otherHandled : other ∈ history) {control : Text}
    (mem : control ∈ entry.2.controls) (otherMem : control ∈ other.2.controls) :
    other.1 = entry.1 := by
  by_contra ne
  exact steady.apart other otherHandled entry handled ne control otherMem mem

theorem Steady.described_unique (steady : Steady history) {jobID otherID : Text}
    {results others : StageResults} (handled : (jobID, results) ∈ history)
    (otherHandled : (otherID, others) ∈ history) (kinds : others.kind = results.kind)
    {edge other : Edge EdgeFacts} (described : edge ∈ results.describedEdges jobID)
    (otherDescribed : other ∈ others.describedEdges otherID) (same : other.id = edge.id) :
    other = edge := by
  rw [(StageResults.described_named otherDescribed).2, (StageResults.described_named described).2,
    kinds] at same
  have parts := (List.cons.inj (derivedID_injective (by simp) (by simp) same)).2
  have unchanged : otherID = jobID → others = results := fun sameJob =>
    steady.unchanged _ otherHandled _ handled sameJob kinds
  have wellFormed := steady.wellFormed _ handled
  cases results with
  | relationship matched =>
    simp only [StageResults.kind, StageResults.nameParts, List.cons.injEq, and_true] at parts
    obtain ⟨rfl, sourceID, targetID⟩ := parts
    rw [unchanged rfl] at otherDescribed
    obtain ⟨result, given, rfl⟩ := mem_map.mp described
    obtain ⟨second, alsoGiven, rfl⟩ := mem_map.mp otherDescribed
    rw [inj_on_of_nodup_map wellFormed.1 alsoGiven given (Prod.ext sourceID targetID)]
  | requires required =>
    simp only [StageResults.kind, StageResults.nameParts, List.cons.injEq, and_true] at parts
    obtain ⟨rfl, sourceID, targetID⟩ := parts
    rw [unchanged rfl] at otherDescribed
    obtain ⟨result, given, rfl⟩ := mem_map.mp described
    obtain ⟨second, alsoGiven, rfl⟩ := mem_map.mp otherDescribed
    rw [inj_on_of_nodup_map wellFormed alsoGiven given (Prod.ext sourceID targetID)]
  | artifacts extracted =>
    cases others with
    | relationship _ => cases kinds
    | requires _ => cases kinds
    | artifacts otherExtracted =>
      simp only [StageResults.kind, StageResults.nameParts, List.cons.injEq, and_true] at parts
      obtain ⟨result, given, inner⟩ := mem_flatMap.mp described
      obtain ⟨entry, _indexed, rfl⟩ := mem_map.mp inner
      obtain ⟨second, alsoGiven, otherInner⟩ := mem_flatMap.mp otherDescribed
      obtain ⟨otherEntry, _otherIndexed, rfl⟩ := mem_map.mp otherInner
      have sameControl : second.controlID = result.controlID := parts.1
      have sameIndex := (artifactID_injective parts.2).2
      -- one control, so one job
      have sameJob : otherID = jobID := steady.job_of_control handled otherHandled
        (mem_map_of_mem given) (sameControl ▸ mem_map_of_mem alsoGiven)
      rw [sameJob, sameControl, sameIndex]

theorem Steady.described_of_job (steady : Steady history) (traced : Traced history graph)
    {jobID : Text} {results : StageResults} (handled : (jobID, results) ∈ history)
    {edge : Edge EdgeFacts} (mem : edge ∈ jobEdges results.kind jobID graph) :
    timelessEdge edge ∈ results.describedEdges jobID := by
  obtain ⟨stored, own⟩ := mem_filter.mp mem
  obtain ⟨label, job⟩ := of_decide_eq_true own
  obtain ⟨otherID, others, otherHandled, kinds, described⟩ := traced.described stored label
  have otherJob := StageResults.jobOf_described (steady.wellFormed _ otherHandled) described
  obtain rfl := job_eq job otherJob
  have unchanged : others = results := steady.unchanged _ otherHandled _ handled rfl kinds
  rw [unchanged] at described
  exact described

theorem Steady.timeless_of_id (steady : Steady history) (traced : Traced history graph)
    {jobID : Text} {results : StageResults} (handled : (jobID, results) ∈ history)
    {edge stored : Edge EdgeFacts} (described : edge ∈ results.describedEdges jobID)
    (mem : stored ∈ graph.edges) (same : stored.id = edge.id) :
    timelessEdge stored = edge := by
  have named := same.trans (StageResults.described_named described).2
  have label := traced.label_of_tag mem named
  obtain ⟨otherID, others, otherHandled, kinds, otherDescribed⟩ := traced.described mem label
  exact steady.described_unique handled otherHandled kinds described otherDescribed same

namespace StageResults

variable {results : StageResults} {jobID : Text} {now : Nat} {node : Node Properties}
  (written : .node node ∈ results.writes jobID now)
include written

theorem node_of_write :
    ∃ extracted, results = .artifacts extracted ∧ ∃ result ∈ extracted,
      ∃ entry ∈ result.artifacts.zipIdx, node = artifactNode jobID now result.controlID entry.2 entry.1 ∨
        node = artifactTypeNode now entry.1 := by
  cases results with
  | relationship matched =>
    obtain ⟨result, _given, wrong⟩ := mem_map.mp written
    cases wrong
  | requires required =>
    obtain ⟨result, _given, wrong⟩ := mem_map.mp written
    cases wrong
  | artifacts extracted =>
    obtain ⟨result, given, inner⟩ := mem_flatMap.mp written
    obtain ⟨entry, indexed, one⟩ := mem_flatMap.mp inner
    simp only [artifactWrites, mem_cons, not_mem_nil, or_false, Write.node.injEq,
      reduceCtorEq] at one
    exact ⟨extracted, rfl, result, given, entry, indexed, one⟩

theorem createdIDs_of_write : node.id ∈ results.createdIDs := by
  obtain ⟨extracted, rfl, result, given, entry, indexed, made⟩ := node_of_write written
  apply mem_flatMap.mpr
  refine ⟨result, given, mem_flatMap.mpr ⟨entry, indexed, ?_⟩⟩
  rcases made with rfl | rfl
  · exact mem_cons_self
  · exact mem_cons_of_mem _ mem_cons_self

theorem describedNode_of_write (label : node.label = "Artifact".toList) :
    results.kind = .artifacts ∧ timelessNode node ∈ results.describedNodes jobID := by
  obtain ⟨extracted, rfl, result, given, entry, indexed, rfl | rfl⟩ := node_of_write written
  · exact ⟨rfl, mem_flatMap.mpr ⟨result, given, mem_map.mpr ⟨entry, indexed, rfl⟩⟩⟩
  · have impossible : "ArtifactType".toList = "Artifact".toList := label
    exact absurd impossible (by decide)

end StageResults

theorem Traced.describedNode (traced : Traced history graph) {node : Node Properties}
    (mem : node ∈ graph.nodes) (label : node.label = "Artifact".toList) :
    ∃ jobID extracted, (jobID, .artifacts extracted) ∈ history ∧
      timelessNode node ∈ (StageResults.artifacts extracted).describedNodes jobID := by
  rcases traced.nodes node mem with control | ⟨entry, handled, now, written⟩
  · have impossible : "Artifact".toList = controlLabel := label.symm.trans control
    exact absurd impossible (by decide)
  · obtain ⟨artifacts, described⟩ := StageResults.describedNode_of_write written label
    obtain ⟨jobID, results⟩ := entry
    cases results <;> cases artifacts
    exact ⟨jobID, _, handled, described⟩

theorem StageResults.jobOf_describedNode {results : StageResults} {jobID : Text}
    {node : Node Properties} (described : node ∈ results.describedNodes jobID) :
    jobOf node.properties = some (.text jobID) ∧ node.label = "Artifact".toList := by
  cases results with
  | relationship matched => cases described
  | requires required => cases described
  | artifacts extracted =>
    obtain ⟨result, _given, inner⟩ := mem_flatMap.mp described
    obtain ⟨entry, _indexed, rfl⟩ := mem_map.mp inner
    exact ⟨jobOf_artifactNode jobID 0 result.controlID entry.2 entry.1, rfl⟩

theorem Steady.describedNode_unique (steady : Steady history) {jobID otherID : Text}
    {extracted others : List ArtifactResult} (handled : (jobID, .artifacts extracted) ∈ history)
    (otherHandled : (otherID, .artifacts others) ∈ history) {node other : Node Properties}
    (described : node ∈ (StageResults.artifacts extracted).describedNodes jobID)
    (otherDescribed : other ∈ (StageResults.artifacts others).describedNodes otherID)
    (same : other.id = node.id) : other = node := by
  obtain ⟨result, given, inner⟩ := mem_flatMap.mp described
  obtain ⟨entry, indexed, rfl⟩ := mem_map.mp inner
  obtain ⟨second, alsoGiven, otherInner⟩ := mem_flatMap.mp otherDescribed
  obtain ⟨otherEntry, otherIndexed, rfl⟩ := mem_map.mp otherInner
  obtain ⟨sameControl, sameIndex⟩ := artifactID_injective same
  have sameJob : otherID = jobID := steady.job_of_control handled otherHandled
    (mem_map_of_mem given) (sameControl ▸ mem_map_of_mem alsoGiven)
  have unchanged : StageResults.artifacts others = .artifacts extracted :=
    steady.unchanged _ otherHandled _ handled sameJob rfl
  cases unchanged
  have wellFormed := steady.wellFormed _ handled
  have sameResult := inj_on_of_nodup_map wellFormed.1 alsoGiven given sameControl
  subst sameResult
  have sameArtifact : otherEntry.1 = entry.1 := by
    have first := mem_zipIdx_iff_getElem?.mp indexed
    have secondAt := mem_zipIdx_iff_getElem?.mp otherIndexed
    rw [sameIndex, first] at secondAt
    exact (Option.some.inj secondAt).symm
  rw [sameJob, sameIndex, sameArtifact]

end

/-! ### What a handled event leaves -/

theorem apply_appends {graph next : ResultGraph} {write : Write} (named : Named write)
    (applied : write.apply graph = .ok next) :
    (∃ added, next.nodes = graph.nodes ++ added ∧ ∀ node ∈ added, Write.node node = write) ∧
    ∃ added, next.edges = graph.edges ++ added ∧ ∀ edge ∈ added, write.edge? = some edge := by
  have nothing : next = graph →
      (∃ added, next.nodes = graph.nodes ++ added ∧ ∀ node ∈ added, Write.node node = write) ∧
      ∃ added, next.edges = graph.edges ++ added ∧ ∀ edge ∈ added, write.edge? = some edge := by
    intro same
    subst next
    exact ⟨⟨[], by simp, by simp⟩, ⟨[], by simp, by simp⟩⟩
  cases about : write.edge? with
  | some edge =>
    cases apply_edge about (named edge about) applied with
    | created _source _target _free added =>
      subst next
      exact ⟨⟨[], by simp, by simp⟩, ⟨[edge], rfl, by simp⟩⟩
    | stored _taken same => simpa [about] using nothing same
    | skipped _missing same => simpa [about] using nothing same
  | none =>
    cases write with
    | node written =>
      rcases apply_node applied with ⟨_free, added⟩ | ⟨_stored, _found, _label, same⟩
      · subst next
        exact ⟨⟨[written], rfl, by simp⟩, ⟨[], by simp, by simp⟩⟩
      · simpa [about] using nothing same
    | edge skips written => cases about
    | requires written => cases about

section

variable {graph : ResultGraph} {writes : List Write}

theorem applyWrites_appends (named : ∀ write ∈ writes, Named write) :
    (∃ added, (applyWrites graph writes).1.nodes = graph.nodes ++ added ∧
      ∀ node ∈ added, .node node ∈ writes) ∧
    ∃ added, (applyWrites graph writes).1.edges = graph.edges ++ added ∧
      ∀ edge ∈ added, ∃ write ∈ writes, write.edge? = some edge := by
  induction writes generalizing graph with
  | nil => exact ⟨⟨[], by simp [applyWrites], by simp⟩, ⟨[], by simp [applyWrites], by simp⟩⟩
  | cons write rest ih =>
    rw [applyWrites]
    cases applied : write.apply graph with
    | error error => exact ⟨⟨[], by simp, by simp⟩, ⟨[], by simp, by simp⟩⟩
    | ok next =>
      obtain ⟨⟨nodes, nodesAre, nodesFrom⟩, ⟨edges, edgesAre, edgesFrom⟩⟩ :=
        @ih next fun other mem => named other (mem_cons_of_mem _ mem)
      obtain ⟨⟨newNodes, first, fromNode⟩, ⟨newEdges, second, fromEdge⟩⟩ :=
        apply_appends (named write mem_cons_self) applied
      constructor
      · refine ⟨newNodes ++ nodes, ?_, ?_⟩
        · rw [nodesAre, first, append_assoc]
        · intro node mem
          rcases mem_append.mp mem with here | later
          · rw [fromNode node here]
            exact mem_cons_self
          · exact mem_cons_of_mem _ (nodesFrom node later)
      · refine ⟨newEdges ++ edges, ?_, ?_⟩
        · rw [edgesAre, second, append_assoc]
        · intro edge mem
          rcases mem_append.mp mem with here | later
          · exact ⟨write, mem_cons_self, fromEdge edge here⟩
          · obtain ⟨other, inRest, about⟩ := edgesFrom edge later
            exact ⟨other, mem_cons_of_mem _ inRest, about⟩

theorem edge_of_applyWrites (named : ∀ write ∈ writes, Named write)
    (success : (applyWrites graph writes).2 = none) {write : Write} (written : write ∈ writes)
    {edge : Edge EdgeFacts} (about : write.edge? = some edge) (ends : HasEnds graph edge) :
    ∃ stored ∈ (applyWrites graph writes).1.edges, stored.id = edge.id := by
  obtain ⟨before, after, rfl⟩ := append_of_mem written
  obtain ⟨earlier, next, grows, applied, _prior, later⟩ := applyWrites_ok named success
  have outcome := apply_edge about (named write written edge about) applied
  obtain ⟨stored, mem, same⟩ :=
    outcome.present (grows.getNode ends.1) (grows.getNode ends.2)
  exact ⟨stored, later.edges stored mem, same⟩

end

namespace StageResults

variable {results : StageResults} {jobID : Text} {now : Nat} {graph : ResultGraph}

theorem described_of_write {write : Write} {edge : Edge EdgeFacts}
    (written : write ∈ results.writes jobID now) (about : write.edge? = some edge) :
    timelessEdge edge ∈ results.describedEdges jobID ∨ edge.label = "IS_TYPE".toList := by
  cases writesEdge written about with
  | semanticMatch result given => exact .inl (mem_map.mpr ⟨result, given, rfl⟩)
  | requires result given => exact .inl (mem_map.mpr ⟨result, given, rfl⟩)
  | demands result given entry indexed =>
    exact .inl (mem_flatMap.mpr ⟨result, given, mem_map.mpr ⟨entry, indexed, rfl⟩⟩)
  | isType => exact .inr rfl

theorem getNode_before {id : Text} (other : id ∉ results.createdIDs)
    (after : ((applyWrites graph (results.writes jobID now)).1.getNode id).isSome) :
    (graph.getNode id).isSome := by
  obtain ⟨⟨added, nodes, written⟩, _edges⟩ :=
    @applyWrites_appends graph _ (results.named jobID now)
  obtain ⟨node, mem, same⟩ := isSome_getNode.mp after
  rw [nodes] at mem
  rcases mem_append.mp mem with old | new
  · exact isSome_getNode.mpr ⟨node, old, same⟩
  · rw [← same] at other
    exact absurd (createdIDs_of_write (written node new)) other

theorem stored_of_described (wellFormed : results.WellFormed)
    (success : (applyWrites graph (results.writes jobID now)).2 = none) {edge : Edge EdgeFacts}
    (described : edge ∈ results.describedEdges jobID)
    (ends : HasEnds (applyWrites graph (results.writes jobID now)).1 edge) :
    ∃ stored ∈ (applyWrites graph (results.writes jobID now)).1.edges, stored.id = edge.id := by
  cases results with
  | relationship matched =>
    obtain ⟨result, given, rfl⟩ := mem_map.mp described
    have before : HasEnds graph (semanticMatchEdge jobID now result) :=
      ⟨getNode_before not_mem_nil ends.1, getNode_before not_mem_nil ends.2⟩
    have stored := @edge_of_applyWrites graph _ (named _ jobID now) success
      (.edge true (semanticMatchEdge jobID now result)) (mem_map.mpr ⟨result, given, rfl⟩) _ rfl before
    exact stored
  | requires required =>
    obtain ⟨result, given, rfl⟩ := mem_map.mp described
    have before : HasEnds graph (requiresEdge jobID now result) :=
      ⟨getNode_before not_mem_nil ends.1, getNode_before not_mem_nil ends.2⟩
    have stored := @edge_of_applyWrites graph _ (named _ jobID now) success
      (.requires (requiresEdge jobID now result)) (mem_map.mpr ⟨result, given, rfl⟩) _ rfl before
    exact stored
  | artifacts extracted =>
    obtain ⟨result, given, inner⟩ := mem_flatMap.mp described
    obtain ⟨entry, indexed, rfl⟩ := mem_map.mp inner
    have source := getNode_before (wellFormed.2 result given) ends.1
    exact (handled_artifact success given indexed).2 source

end StageResults

theorem Steady.mirrors {history : List (Text × StageResults)} {graph : ResultGraph}
    (steady : Steady history) {jobID : Text} {results : StageResults} {now : Nat}
    (handled : (jobID, results) ∈ history)
    (success : (applyWrites graph (results.writes jobID now)).2 = none)
    (traced : Traced history (applyWrites graph (results.writes jobID now)).1) :
    Mirrors jobID results (applyWrites graph (results.writes jobID now)).1 := by
  have wellFormed := steady.wellFormed _ handled
  constructor
  · intro edge
    constructor
    · intro mem
      obtain ⟨stored, own, rfl⟩ := mem_map.mp mem
      exact ⟨steady.described_of_job traced handled own,
        traced.endpoints stored (mem_of_mem_filter own)⟩
    · rintro ⟨described, ends⟩
      obtain ⟨stored, mem, same⟩ :=
        StageResults.stored_of_described wellFormed success described ends
      have timeless := steady.timeless_of_id traced handled described mem same
      have label : stored.label = results.kind.label := by
        rw [← (StageResults.described_named described).1, ← timeless]
        rfl
      have job : jobOf stored.properties.properties = some (.text jobID) := by
        rw [← StageResults.jobOf_described wellFormed described, ← timeless]
        rfl
      exact mem_map.mpr
        ⟨stored, mem_filter.mpr ⟨mem, decide_eq_true ⟨label, job⟩⟩, timeless⟩
  · apply List.Nodup.of_map Edge.id
    rw [map_map]
    exact List.Nodup.sublist (List.Sublist.map _ filter_sublist) traced.distinct
  · intro kind node
    cases results with
    | relationship matched => cases kind
    | requires required => cases kind
    | artifacts extracted =>
      constructor
      · intro mem
        obtain ⟨stored, own, rfl⟩ := mem_map.mp mem
        obtain ⟨inGraph, both⟩ := mem_filter.mp own
        obtain ⟨label, job⟩ := of_decide_eq_true both
        obtain ⟨otherID, others, otherHandled, described⟩ := traced.describedNode inGraph label
        obtain rfl := job_eq job (StageResults.jobOf_describedNode described).1
        have unchanged : StageResults.artifacts others = .artifacts extracted :=
          steady.unchanged _ otherHandled _ handled rfl rfl
        rw [unchanged] at described
        exact described
      · intro described
        obtain ⟨result, given, inner⟩ := mem_flatMap.mp described
        obtain ⟨entry, indexed, rfl⟩ := mem_map.mp inner
        obtain ⟨stored, mem, sameID, label⟩ := (handled_artifact success given indexed).1
        obtain ⟨otherID, others, otherHandled, otherDescribed⟩ :=
          traced.describedNode mem label
        have timeless := steady.describedNode_unique handled otherHandled described
          otherDescribed sameID
        have job : jobOf stored.properties = some (.text jobID) := by
          rw [← (StageResults.jobOf_describedNode described).1, ← timeless]
          rfl
        exact mem_map.mpr
          ⟨stored, mem_filter.mpr ⟨mem, decide_eq_true ⟨label, job⟩⟩, timeless⟩
  · apply List.Nodup.of_map Node.id
    rw [map_map]
    exact List.Nodup.sublist (List.Sublist.map _ filter_sublist) traced.distinctNodes

end CrossCodex.Graph
