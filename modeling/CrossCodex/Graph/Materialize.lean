/-
What the graph service writes (internal/graph/catalog_projection.go,
subscriber_handlers.go). A handler is a sequence of writes that does not depend on their
outcomes.
-/

import CrossCodex.Analyzer.Results
import CrossCodex.Graph.GraphDB
import CrossCodex.Library.Upsert

namespace CrossCodex.Graph

open Analyzer List

inductive PropertyValue where
  | text (value : Text)
  | number (value : ℚ)
  | flag (value : Bool)
  | texts (value : List Text)
deriving DecidableEq

abbrev Properties := List (Text × PropertyValue)

def setProperty (properties : Properties) (entry : Text × PropertyValue) : Properties :=
  if properties.any (fun old => old.1 = entry.1) then
    properties.map fun old => if old.1 = entry.1 then entry else old
  else properties ++ [entry]

structure EdgeFacts where
  confidence : ℚ
  properties : Properties
deriving DecidableEq

abbrev ResultGraph := GraphDB Properties EdgeFacts

/-- `^[A-Za-z_][A-Za-z0-9_]*$`. -/
def isIdentifier : Text → Bool
  | [] => false
  | first :: rest =>
    (first.isAlpha || first = '_') && rest.all fun symbol => symbol.isAlphanum || symbol = '_'

def reservedNodeKeys : List Text :=
  ["id".toList, "valid_from".toList, "valid_to".toList, "created_by".toList,
    "creation_method".toList, "superseded_by".toList]

def reservedEdgeKeys : List Text :=
  ["id".toList, "valid_from".toList, "valid_to".toList, "determined_by".toList,
    "determination_type".toList, "confidence".toList, "supersedes".toList,
    "superseded_by".toList]

def checkKeys (reserved : List Text) (properties : Properties) : Bool :=
  properties.all fun entry => isIdentifier entry.1 && !reserved.contains entry.1

inductive Write where
  | node (node : Node Properties)
  /-- An edge, and whether a missing endpoint is passed over. -/
  | edge (skips : Bool) (edge : Edge EdgeFacts)
  /-- CreateRequiresEdge, whose properties are the driver's own. -/
  | requires (edge : Edge EdgeFacts)

def createChecked (graph : ResultGraph) (edge : Edge EdgeFacts) :
    Except GraphError ResultGraph :=
  if edge.sourceID ≠ [] ∧ edge.targetID ≠ [] then graph.createEdge edge else .error .invalid

/-- isNodeExists and skipMissingEndpoint, on the outcome of a write. -/
def tolerate (skips : Bool) (graph : ResultGraph) :
    Except GraphError ResultGraph → Except GraphError ResultGraph
  | .error .nodeExists => .ok graph
  | .error .edgeExists => .ok graph
  | .error .nodeNotFound => if skips then .ok graph else .error .nodeNotFound
  | outcome => outcome

def Write.apply (graph : ResultGraph) : Write → Except GraphError ResultGraph
  | .node written =>
    if written.id ≠ [] ∧ checkKeys reservedNodeKeys written.properties then
      tolerate false graph (graph.createNode written)
    else .error .invalid
  | .edge skips written =>
    if checkKeys reservedEdgeKeys written.properties.properties then
      tolerate skips graph (createChecked graph written)
    else .error .invalid
  | .requires written => tolerate true graph (createChecked graph written)

/-- The graph after the writes up to the first error, and that error. -/
def applyWrites (graph : ResultGraph) : List Write → ResultGraph × Option GraphError
  | [] => (graph, none)
  | write :: rest =>
    match write.apply graph with
    | .ok next => applyWrites next rest
    | .error error => (graph, some error)

theorem isSome_getNode {graph : ResultGraph} {id : Text} :
    (graph.getNode id).isSome ↔ ∃ node ∈ graph.nodes, node.id = id := by
  simp [GraphDB.getNode]

structure Grows (graph next : ResultGraph) : Prop where
  nodes : ∀ node ∈ graph.nodes, node ∈ next.nodes
  edges : ∀ edge ∈ graph.edges, edge ∈ next.edges

theorem Grows.refl (graph : ResultGraph) : Grows graph graph :=
  ⟨fun _ mem => mem, fun _ mem => mem⟩

theorem Grows.trans {graph next last : ResultGraph} (first : Grows graph next)
    (second : Grows next last) : Grows graph last :=
  ⟨fun node mem => second.nodes node (first.nodes node mem),
    fun edge mem => second.edges edge (first.edges edge mem)⟩

variable {graph next : ResultGraph}

theorem Grows.getNode (grows : Grows graph next) {id : Text} (present : (graph.getNode id).isSome) :
    (next.getNode id).isSome := by
  obtain ⟨node, mem, same⟩ := isSome_getNode.mp present
  exact isSome_getNode.mpr ⟨node, grows.nodes node mem, same⟩

def Write.edge? : Write → Option (Edge EdgeFacts)
  | .node _ => none
  | .edge _ written => some written
  | .requires written => some written

/-- What one edge write can do, when its endpoints are named and its ID is not empty. -/
inductive EdgeOutcome (graph next : ResultGraph) (edge : Edge EdgeFacts) : Prop where
  | created (source : (graph.getNode edge.sourceID).isSome)
      (target : (graph.getNode edge.targetID).isSome) (free : graph.getEdge edge.id = none)
      (added : next = { graph with edges := graph.edges ++ [edge] })
  | stored (taken : (graph.getEdge edge.id).isSome) (same : next = graph)
  | skipped (missing : ¬ ((graph.getNode edge.sourceID).isSome ∧
      (graph.getNode edge.targetID).isSome)) (same : next = graph)

variable {edge : Edge EdgeFacts} {write : Write} {node : Node Properties}

theorem edgeOutcome_of_tolerate {skips : Bool} (named : edge.id ≠ [])
    (applied : tolerate skips graph (createChecked graph edge) = .ok next) :
    EdgeOutcome graph next edge := by
  unfold createChecked GraphDB.createEdge at applied
  split_ifs at applied with ends missing taken
  · apply EdgeOutcome.skipped
    · intro both
      rcases missing with absent | absent
      · simp [Option.isNone_iff_eq_none.mp absent] at both
      · simp [Option.isNone_iff_eq_none.mp absent] at both
    · cases skips <;> simp [tolerate] at applied
      exact applied.symm
  · exact .stored taken.2 (Except.ok.inj applied).symm
  · rw [not_or] at missing
    apply EdgeOutcome.created
    · simpa [Option.isSome_iff_ne_none] using missing.1
    · simpa [Option.isSome_iff_ne_none] using missing.2
    · simpa [named] using taken
    · exact (Except.ok.inj applied).symm
  · cases skips <;> cases applied

theorem apply_edge (about : write.edge? = some edge) (named : edge.id ≠ [])
    (applied : write.apply graph = .ok next) : EdgeOutcome graph next edge := by
  cases write with
  | node written => cases about
  | edge skips written =>
    cases about
    simp only [Write.apply] at applied
    split_ifs at applied
    exact edgeOutcome_of_tolerate named applied
  | requires written =>
    cases about
    exact edgeOutcome_of_tolerate named applied

theorem apply_node (applied : (Write.node node).apply graph = .ok next) :
    (graph.getNode node.id = none ∧ next = { graph with nodes := graph.nodes ++ [node] }) ∨
      ∃ stored, graph.getNode node.id = some stored ∧ stored.label = node.label ∧
        next = graph := by
  simp only [Write.apply] at applied
  split_ifs at applied
  unfold GraphDB.createNode at applied
  cases found : graph.getNode node.id with
  | none =>
    simp only [found, tolerate] at applied
    exact .inl ⟨rfl, (Except.ok.inj applied).symm⟩
  | some stored =>
    simp only [found] at applied
    split_ifs at applied with same
    · exact .inr ⟨stored, rfl, same, (Except.ok.inj applied).symm⟩
    · cases applied

theorem EdgeOutcome.grows (outcome : EdgeOutcome graph next edge) : Grows graph next := by
  cases outcome with
  | created _source _target _free added =>
    subst next
    exact ⟨fun _ mem => mem, fun _ mem => mem_append_left _ mem⟩
  | stored _taken same =>
    subst next
    exact .refl graph
  | skipped _missing same =>
    subst next
    exact .refl graph

theorem EdgeOutcome.present (outcome : EdgeOutcome graph next edge)
    (source : (graph.getNode edge.sourceID).isSome)
    (target : (graph.getNode edge.targetID).isSome) :
    ∃ stored ∈ next.edges, stored.id = edge.id := by
  cases outcome with
  | created _source _target _free added =>
    subst next
    exact ⟨edge, mem_append_right _ mem_cons_self, rfl⟩
  | stored taken same =>
    subst next
    obtain ⟨stored, found⟩ := Option.isSome_iff_exists.mp taken
    exact ⟨stored, GraphDB.getEdge_eq_some_mem found⟩
  | skipped missing _same => exact absurd ⟨source, target⟩ missing

theorem present_of_apply_node (applied : (Write.node node).apply graph = .ok next) :
    Grows graph next ∧ ∃ stored ∈ next.nodes, stored.id = node.id ∧ stored.label = node.label := by
  rcases apply_node applied with ⟨_free, added⟩ | ⟨stored, found, label, same⟩
  · subst next
    exact ⟨⟨fun _ mem => mem_append_left _ mem, fun _ mem => mem⟩,
      node, mem_append_right _ mem_cons_self, rfl, rfl⟩
  · subst next
    have matched := find?_some found
    exact ⟨.refl graph, stored, mem_of_find?_eq_some found, of_decide_eq_true matched, label⟩

def Named (write : Write) : Prop := ∀ edge, write.edge? = some edge → edge.id ≠ []

theorem grows_of_apply (named : Named write) (applied : write.apply graph = .ok next) :
    Grows graph next := by
  cases about : write.edge? with
  | some edge => exact (apply_edge about (named edge about) applied).grows
  | none =>
    cases write with
    | node written => exact (present_of_apply_node applied).1
    | edge skips written => cases about
    | requires written => cases about

theorem grows_applyWrites {graph : ResultGraph} {writes : List Write}
    (named : ∀ write ∈ writes, Named write) : Grows graph (applyWrites graph writes).1 := by
  induction writes generalizing graph with
  | nil => exact .refl graph
  | cons write rest ih =>
    rw [applyWrites]
    cases applied : write.apply graph with
    | error error => exact .refl graph
    | ok next =>
      have first := grows_of_apply (named write mem_cons_self) applied
      exact first.trans (ih fun other mem => named other (mem_cons_of_mem _ mem))

theorem applyWrites_ok {graph : ResultGraph} {before after : List Write}
    (named : ∀ other ∈ before ++ write :: after, Named other)
    (success : (applyWrites graph (before ++ write :: after)).2 = none) :
    ∃ earlier next, Grows graph earlier ∧ write.apply earlier = .ok next ∧
      applyWrites graph before = (earlier, none) ∧
      Grows next (applyWrites graph (before ++ write :: after)).1 := by
  induction before generalizing graph with
  | nil =>
    simp only [nil_append, applyWrites] at success named ⊢
    cases applied : write.apply graph with
    | error error => simp [applied] at success
    | ok next =>
      refine ⟨graph, next, .refl graph, applied, rfl, ?_⟩
      have rest := fun other mem => named other (mem_cons_of_mem write mem)
      exact grows_applyWrites rest
  | cons first before ih =>
    simp only [cons_append, applyWrites] at success ⊢
    cases applied : first.apply graph with
    | error error => simp [applied] at success
    | ok middle =>
      simp only [applied] at success ⊢
      obtain ⟨earlier, next, grows, taken, prior, later⟩ := ih
        (fun other mem => named other (mem_cons_of_mem first mem)) success
      have firstGrows := grows_of_apply (named first mem_cons_self) applied
      exact ⟨earlier, next, firstGrows.trans grows, taken, prior, later⟩

variable (jobID : Text) (now : Nat)

def jobProperty : Text × PropertyValue := ("job_id".toList, .text jobID)

def semanticMatchEdge (result : SemanticMatchResult) : Edge EdgeFacts :=
  { id := derivedID ["semantic-match".toList, jobID, result.sourceID, result.targetID]
    label := "SEMANTIC_MATCH".toList
    sourceID := result.sourceID
    targetID := result.targetID
    validFrom := now
    validTo := none
    properties :=
      { confidence := result.confidence
        properties := (result.properties.map fun entry => (entry.1, .text entry.2)).foldl
          setProperty
          [("relationship_type".toList, .text result.relationshipType), jobProperty jobID] } }

def materializeRelationship (matched : List SemanticMatchResult) : List Write :=
  matched.map fun result => .edge true (semanticMatchEdge jobID now result)

/-- The votes' weight and the samples are not in the results, so they are written as zero. -/
def requiresEdge (result : RequiresResult) : Edge EdgeFacts :=
  { id := derivedID ["requires".toList, jobID, result.sourceID, result.targetID]
    label := "REQUIRES".toList
    sourceID := result.sourceID
    targetID := result.targetID
    validFrom := now
    validTo := none
    properties :=
      { confidence := result.confidence
        properties :=
          [("unanimous".toList, .flag result.unanimous),
            ("valid_votes".toList, .number result.validVotes),
            ("total_votes".toList, .number result.totalVotes),
            ("vote_weight".toList, .number 0), ("samples_per_model".toList, .number 0),
            jobProperty jobID] ++
            if result.models = [] then [] else [("models".toList, .texts result.models)] } }

/-- The ID under which the results service lists a mapping (internal/results: toResponse). -/
def mappingID (sourceID targetID : Text) : Text :=
  derivedID ["semantic-match".toList, jobID, sourceID, targetID]

/-- Two part lists share an ID only if they are equal, so no two REQUIRES edges or mappings do. -/
theorem derived_ids_apart {parts others : List Text}
    (given : 2 ≤ parts.length ∨ ∃ part ∈ parts.head?, part ≠ [])
    (otherGiven : 2 ≤ others.length ∨ ∃ part ∈ others.head?, part ≠ []) :
    (derivedID parts = derivedID others → parts = others) ∧
      (∀ jobID otherID now later (result other : RequiresResult),
        (requiresEdge jobID now result).id = (requiresEdge otherID later other).id →
          jobID = otherID ∧ result.sourceID = other.sourceID ∧ result.targetID = other.targetID) ∧
      ∀ jobID otherID source target otherSource otherTarget,
        mappingID jobID source target = mappingID otherID otherSource otherTarget →
          jobID = otherID ∧ source = otherSource ∧ target = otherTarget := by
  have filled : ∀ {parts : List Text}, (2 ≤ parts.length ∨ ∃ part ∈ parts.head?, part ≠ []) →
      parts ≠ [] := by
    rintro _ (long | ⟨part, first, _⟩) rfl
    · cases long
    · cases first
  refine ⟨derivedID_injective (filled given) (filled otherGiven), ?_, ?_⟩
  · intro jobID otherID now later result other same
    have parts := derivedID_injective (by simp) (by simp) same
    simpa using parts
  · intro jobID otherID source target otherSource otherTarget same
    have parts := derivedID_injective (by simp) (by simp) same
    simpa using parts

theorem derived_ids_apart_escaped :
    derivedID ["a_b".toList] ≠ derivedID ["a".toList, "b".toList] := fun same =>
  absurd ((derived_ids_apart (.inr ⟨_, rfl, by decide⟩) (.inl (by decide))).1 same) (by decide)

def materializeRequires (required : List RequiresResult) : List Write :=
  required.map fun result => .requires (requiresEdge jobID now result)

/-- `"%s__art_%d"`. -/
def artifactID (controlID : Text) (index : Nat) : Text :=
  controlID ++ "__art_".toList ++ Nat.toDigits 10 index

theorem artifactID_injective {controlID otherID : Text} {index other : Nat}
    (same : artifactID controlID index = artifactID otherID other) :
    controlID = otherID ∧ index = other := by
  have digits : ∀ number symbol, symbol ∈ Nat.toDigits 10 number → symbol.isDigit = true :=
    fun number symbol mem => Nat.isDigit_of_mem_toDigits (by decide) (by decide) mem
  have taken : ∀ (body : Text) (number : Nat),
      ((artifactID body number).reverse.takeWhile fun symbol => symbol.isDigit) =
        (Nat.toDigits 10 number).reverse := by
    intro body number
    rw [artifactID, reverse_append, reverse_append]
    rw [takeWhile_append_of_pos fun symbol mem =>
      digits number symbol (mem_reverse.mp mem)]
    simp
  have codes := taken controlID index
  rw [same, taken otherID other] at codes
  have numbers : other = index := Library.toDigits_injective (reverse_injective codes)
  subst other
  exact ⟨append_cancel_right (append_cancel_right same), rfl⟩

def artifactTypeID (type : Text) : Text := "type_".toList ++ type

def artifactNode (controlID : Text) (index : Nat) (artifact : Artifact) : Node Properties :=
  { id := artifactID controlID index
    label := "Artifact".toList
    validFrom := now
    validTo := none
    properties :=
      [("name".toList, .text artifact.name), ("type".toList, .text artifact.type),
        ("frequency".toList, .text artifact.frequency),
        ("owner_role".toList, .text artifact.ownerRole),
        ("confidence".toList, .number artifact.confidence), jobProperty jobID] }

def artifactTypeNode (artifact : Artifact) : Node Properties :=
  { id := artifactTypeID artifact.type
    label := "ArtifactType".toList
    validFrom := now
    validTo := none
    properties := [("name".toList, .text artifact.type)] }

def demandsEdge (controlID : Text) (index : Nat) : Edge EdgeFacts :=
  { id := derivedID ["demands".toList, controlID, artifactID controlID index]
    label := "DEMANDS".toList
    sourceID := controlID
    targetID := artifactID controlID index
    validFrom := now
    validTo := none
    properties := { confidence := 0, properties := [jobProperty jobID] } }

def isTypeEdge (controlID : Text) (index : Nat) (artifact : Artifact) : Edge EdgeFacts :=
  { id := derivedID ["is-type".toList, artifactID controlID index, artifact.type]
    label := "IS_TYPE".toList
    sourceID := artifactID controlID index
    targetID := artifactTypeID artifact.type
    validFrom := now
    validTo := none
    properties := { confidence := 0, properties := [jobProperty jobID] } }

def artifactWrites (controlID : Text) (index : Nat) (artifact : Artifact) : List Write :=
  [.node (artifactNode jobID now controlID index artifact),
    .node (artifactTypeNode now artifact),
    .edge true (demandsEdge jobID now controlID index),
    .edge false (isTypeEdge jobID now controlID index artifact)]

def materializeArtifacts (extracted : List ArtifactResult) : List Write :=
  extracted.flatMap fun result => result.artifacts.zipIdx.flatMap fun entry =>
    artifactWrites jobID now result.controlID entry.2 entry.1

structure ControlRecord where
  controlID : Text
  catalogID : Text
  identifier : Text
  title : Text
  statement : Text
  class_ : Text
  parentID : Text
  props : List (String × Text)
deriving DecidableEq

def controlNode (tenantID : Text) (now : Nat) (control : ControlRecord) : Node Properties :=
  { id := control.controlID
    label := "Control".toList
    validFrom := now
    validTo := none
    properties :=
      [("tenant_id".toList, .text tenantID), ("catalog_id".toList, .text control.catalogID),
        ("identifier".toList, .text control.identifier), ("title".toList, .text control.title),
        ("statement".toList, .text control.statement), ("class".toList, .text control.class_)] }

def parentEdge (control : ControlRecord) : Edge EdgeFacts :=
  let sourceID := control.catalogID ++ '/' :: control.parentID
  { id := derivedID ["parent-of".toList, sourceID, control.controlID]
    label := "PARENT_OF".toList
    sourceID
    targetID := control.controlID
    validFrom := now
    validTo := none
    properties := { confidence := 0, properties := [] } }

/-- One upsert; its error is recorded and the loop goes on. -/
def projectNode (tenantID : Text) (now : Nat) (state : ResultGraph × List GraphError)
    (control : ControlRecord) : ResultGraph × List GraphError :=
  let outcome :=
    if control.controlID ≠ [] then state.1.upsertNode (controlNode tenantID now control)
    else .error .invalid
  match outcome with
  | .ok graph => (graph, state.2)
  | .error error => (state.1, state.2 ++ [error])

def projectParent (state : ResultGraph × List GraphError) (control : ControlRecord) :
    ResultGraph × List GraphError :=
  if control.parentID = [] then state
  else
    match createChecked state.1 (parentEdge now control) with
    | .ok graph => (graph, state.2)
    | .error .edgeExists => state
    | .error .nodeNotFound => state
    | .error error => (state.1, state.2 ++ [error])

/-- Every node before any edge, so that a child listed ahead of its parent gets its edge. -/
def projectCatalog (tenantID : Text) (now : Nat) (graph : ResultGraph)
    (controls : List ControlRecord) : ResultGraph × List GraphError :=
  controls.foldl (projectParent now) (controls.foldl (projectNode tenantID now) (graph, []))

end CrossCodex.Graph
