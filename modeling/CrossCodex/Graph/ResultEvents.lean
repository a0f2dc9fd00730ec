/-
The graph service over a history of events. An event may come again and a job may store
other results when it is retried. No step reads the history.
-/

import CrossCodex.Graph.Materialize
import CrossCodex.Library.Run

namespace CrossCodex.Graph

open Analyzer Library List

inductive ResultKind where
  | relationship
  | requires
  | artifacts
deriving DecidableEq, Repr

inductive StageResults where
  | relationship (matched : List SemanticMatchResult)
  | requires (required : List RequiresResult)
  | artifacts (extracted : List ArtifactResult)
deriving DecidableEq

namespace StageResults

def kind : StageResults → ResultKind
  | .relationship _ => .relationship
  | .requires _ => .requires
  | .artifacts _ => .artifacts

def writes (jobID : Text) (now : Nat) : StageResults → List Write
  | .relationship matched => materializeRelationship jobID now matched
  | .requires required => materializeRequires jobID now required
  | .artifacts extracted => materializeArtifacts jobID now extracted

end StageResults

inductive HandlerError where
  | unresolved
  | write (error : GraphError)
deriving DecidableEq, Repr

structure GraphService where
  graph : ResultGraph
  stored : Table (Text × ResultKind) StageResults
  history : List (Text × StageResults)

inductive ServiceEvent where
  | projects (tenantID : Text) (now : Nat) (controls : List ControlRecord)
  | stores (jobID : Text) (results : StageResults)
  | handles (jobID : Text) (kind : ResultKind) (now : Nat)

namespace GraphService

variable (service : GraphService)

def handle (jobID : Text) (kind : ResultKind) (now : Nat) :
    ResultGraph × Option HandlerError :=
  match service.stored.lookup (jobID, kind) with
  | none => (service.graph, some .unresolved)
  | some results =>
    let outcome := applyWrites service.graph (results.writes jobID now)
    (outcome.1, outcome.2.map HandlerError.write)

def handles (jobID : Text) (kind : ResultKind) (now : Nat) : GraphService :=
  { service with
    graph := (service.handle jobID kind now).1
    history :=
      match service.stored.lookup (jobID, kind) with
      | none => service.history
      | some results => service.history ++ [(jobID, results)] }

def step : GraphService → ServiceEvent → Option GraphService
  | service, .projects tenantID now controls =>
    some { service with graph := (projectCatalog tenantID now service.graph controls).1 }
  | service, .stores jobID results =>
    some { service with stored := service.stored.insert (jobID, results.kind) results }
  | service, .handles jobID kind now => some (service.handles jobID kind now)

def initial : GraphService := { graph := .empty, stored := ∅, history := [] }

end GraphService

/-! ### Where nodes and edges come from -/

def Handled (history : List (Text × StageResults)) (write : Write) : Prop :=
  ∃ entry ∈ history, ∃ now, write ∈ entry.2.writes entry.1 now

def controlLabel : Text := "Control".toList

def parentOfLabel : Text := "PARENT_OF".toList

/-- Everything in the graph was projected from a catalog or written for a result. -/
structure Traced (history : List (Text × StageResults)) (graph : ResultGraph) : Prop where
  nodes : ∀ node ∈ graph.nodes, node.label = controlLabel ∨ Handled history (.node node)
  edges : ∀ edge ∈ graph.edges,
    (edge.label = parentOfLabel ∧
      edge.id = derivedID ["parent-of".toList, edge.sourceID, edge.targetID]) ∨
    ∃ write, write.edge? = some edge ∧ Handled history write
  endpoints : ∀ edge ∈ graph.edges,
    (graph.getNode edge.sourceID).isSome ∧ (graph.getNode edge.targetID).isSome
  distinct : (graph.edges.map Edge.id).Nodup
  distinctNodes : (graph.nodes.map Node.id).Nodup

inductive EdgeOrigin (history : List (Text × StageResults)) (edge : Edge EdgeFacts) : Prop where
  | parentOf (label : edge.label = parentOfLabel)
      (id : edge.id = derivedID ["parent-of".toList, edge.sourceID, edge.targetID])
  | semanticMatch (jobID : Text) (now : Nat) (matched : List SemanticMatchResult)
      (handled : (jobID, .relationship matched) ∈ history) (result : SemanticMatchResult)
      (member : result ∈ matched) (same : edge = semanticMatchEdge jobID now result)
  | requires (jobID : Text) (now : Nat) (required : List RequiresResult)
      (handled : (jobID, .requires required) ∈ history) (result : RequiresResult)
      (member : result ∈ required) (same : edge = requiresEdge jobID now result)
  | demands (jobID : Text) (now : Nat) (extracted : List ArtifactResult)
      (handled : (jobID, .artifacts extracted) ∈ history) (result : ArtifactResult)
      (member : result ∈ extracted) (entry : Artifact × Nat)
      (indexed : entry ∈ result.artifacts.zipIdx)
      (same : edge = demandsEdge jobID now result.controlID entry.2)
  | isType (jobID : Text) (now : Nat) (controlID : Text) (entry : Artifact × Nat)
      (same : edge = isTypeEdge jobID now controlID entry.2 entry.1)

/-- What an edge is that a handler writes for a job's results. -/
inductive StageResults.WritesEdge (jobID : Text) (now : Nat) :
    StageResults → Edge EdgeFacts → Prop where
  | semanticMatch {matched : List SemanticMatchResult} (result : SemanticMatchResult)
      (member : result ∈ matched) :
      WritesEdge jobID now (.relationship matched) (semanticMatchEdge jobID now result)
  | requires {required : List RequiresResult} (result : RequiresResult)
      (member : result ∈ required) :
      WritesEdge jobID now (.requires required) (requiresEdge jobID now result)
  | demands {extracted : List ArtifactResult} (result : ArtifactResult)
      (member : result ∈ extracted) (entry : Artifact × Nat)
      (indexed : entry ∈ result.artifacts.zipIdx) :
      WritesEdge jobID now (.artifacts extracted) (demandsEdge jobID now result.controlID entry.2)
  | isType {extracted : List ArtifactResult} (controlID : Text) (entry : Artifact × Nat) :
      WritesEdge jobID now (.artifacts extracted)
        (isTypeEdge jobID now controlID entry.2 entry.1)

variable {edge : Edge EdgeFacts} {write : Write} {results : StageResults} {jobID : Text} {now : Nat}

theorem StageResults.writesEdge (written : write ∈ results.writes jobID now)
    (about : write.edge? = some edge) : results.WritesEdge jobID now edge := by
  cases results with
  | relationship matched =>
    obtain ⟨result, given, rfl⟩ := mem_map.mp written
    cases about
    exact .semanticMatch result given
  | requires required =>
    obtain ⟨result, given, rfl⟩ := mem_map.mp written
    cases about
    exact .requires result given
  | artifacts extracted =>
    obtain ⟨result, given, inner⟩ := mem_flatMap.mp written
    obtain ⟨entry, indexed, one⟩ := mem_flatMap.mp inner
    simp only [artifactWrites, mem_cons, not_mem_nil, or_false] at one
    rcases one with rfl | rfl | rfl | rfl
    · cases about
    · cases about
    · cases about
      exact .demands result given entry indexed
    · cases about
      exact .isType result.controlID entry

theorem Traced.origin {history : List (Text × StageResults)} {graph : ResultGraph}
    (traced : Traced history graph) (mem : edge ∈ graph.edges) : EdgeOrigin history edge := by
  rcases traced.edges edge mem with ⟨label, id⟩ | ⟨write, about, ⟨jobID, _⟩, handled, now, written⟩
  · exact .parentOf label id
  · cases StageResults.writesEdge written about with
    | semanticMatch result given => exact .semanticMatch jobID now _ handled result given rfl
    | requires result given => exact .requires jobID now _ handled result given rfl
    | demands result given entry indexed =>
      exact .demands jobID now _ handled result given entry indexed rfl
    | isType controlID entry => exact .isType jobID now controlID entry rfl

theorem StageResults.named (results : StageResults) (jobID : Text) (now : Nat) :
    ∀ write ∈ results.writes jobID now, Named write := by
  intro write written edge about
  cases writesEdge written about with
  | semanticMatch | requires | demands | isType => exact derivedID_ne_nil (by simp) _

theorem getNode_eq_none {graph : ResultGraph} {id : Text} :
    graph.getNode id = none ↔ ∀ node ∈ graph.nodes, node.id ≠ id := by
  simp [GraphDB.getNode]

section

variable {history : List (Text × StageResults)} {graph next : ResultGraph}
  {state : ResultGraph × List GraphError}

section

variable (traced : Traced history graph) {node : Node Properties}
include traced

theorem Traced.addNode (origin : node.label = controlLabel ∨ Handled history (.node node))
    (free : graph.getNode node.id = none) :
    Traced history { graph with nodes := graph.nodes ++ [node] } := by
  have grows : Grows graph { graph with nodes := graph.nodes ++ [node] } :=
    ⟨fun _ mem => mem_append_left _ mem, fun _ mem => mem⟩
  refine { traced with
    nodes := forall_mem_concat traced.nodes origin, endpoints := ?_, distinctNodes := ?_ }
  · intro edge mem
    have ends := traced.endpoints edge mem
    exact ⟨grows.getNode ends.1, grows.getNode ends.2⟩
  · exact nodup_map_append traced.distinctNodes (getNode_eq_none.mp free)

theorem Traced.addEdge (origin : (edge.label = parentOfLabel ∧
      edge.id = derivedID ["parent-of".toList, edge.sourceID, edge.targetID]) ∨
      ∃ write, write.edge? = some edge ∧ Handled history write)
    (source : (graph.getNode edge.sourceID).isSome)
    (target : (graph.getNode edge.targetID).isSome) (free : graph.getEdge edge.id = none) :
    Traced history { graph with edges := graph.edges ++ [edge] } := by
  exact { traced with
    edges := forall_mem_concat traced.edges origin
    endpoints := forall_mem_concat traced.endpoints ⟨source, target⟩
    distinct := nodup_map_append traced.distinct (GraphDB.getEdge_eq_none.mp free) }

theorem Traced.apply (named : Named write) (handled : Handled history write)
    (applied : write.apply graph = .ok next) : Traced history next := by
  cases about : write.edge? with
  | some edge =>
    cases apply_edge about (named edge about) applied with
    | created source target free added =>
      subst next
      exact traced.addEdge (.inr ⟨write, about, handled⟩) source target free
    | stored _taken same =>
      subst next
      exact traced
    | skipped _missing same =>
      subst next
      exact traced
  | none =>
    cases write with
    | node written =>
      rcases apply_node applied with ⟨free, added⟩ | ⟨_stored, _found, _label, same⟩
      · subst next
        exact traced.addNode (.inr handled) free
      · subst next
        exact traced
    | edge skips written => cases about
    | requires written => cases about

theorem Traced.applyWrites {writes : List Write} (named : ∀ write ∈ writes, Named write)
    (handled : ∀ write ∈ writes, Handled history write) :
    Traced history (applyWrites graph writes).1 := by
  induction writes generalizing graph with
  | nil => exact traced
  | cons write rest ih =>
    rw [Graph.applyWrites]
    cases applied : write.apply graph with
    | error error => exact traced
    | ok next =>
      have kept := traced.apply (named write mem_cons_self)
        (handled write mem_cons_self) applied
      exact ih kept (fun other mem => named other (mem_cons_of_mem _ mem))
        (fun other mem => handled other (mem_cons_of_mem _ mem))

theorem Traced.extend {longer : List (Text × StageResults)}
    (longerThan : ∀ entry ∈ history, entry ∈ longer) : Traced longer graph := by
  have keep : ∀ write, Handled history write → Handled longer write := by
    rintro write ⟨entry, mem, now, written⟩
    exact ⟨entry, longerThan entry mem, now, written⟩
  refine { traced with nodes := ?_, edges := ?_ }
  · intro node mem
    exact (traced.nodes node mem).imp_right (keep _)
  · intro edge mem
    rcases traced.edges edge mem with parent | ⟨write, about, handled⟩
    · exact .inl parent
    · exact .inr ⟨write, about, keep write handled⟩

theorem Traced.upsert (control : node.label = controlLabel)
    (upserted : graph.upsertNode node = .ok next) : Traced history next := by
  rcases GraphDB.upsertNode_cases traced.distinctNodes upserted with ⟨absent, rfl⟩ | ⟨_, rfl⟩
  · exact traced.addNode (.inl control) absent
  · have ids : (graph.nodes.map node.replaces).map Node.id = graph.nodes.map Node.id := by
      rw [map_map]
      exact map_congr_left fun old _ => Node.replaces_id node old
    have present : ∀ id, (graph.getNode id).isSome → (GraphDB.getNode
        { graph with nodes := graph.nodes.map node.replaces } id).isSome := by
      intro id
      rw [isSome_getNode, isSome_getNode]
      rintro ⟨old, mem, rfl⟩
      exact ⟨_, mem_map_of_mem mem, Node.replaces_id node old⟩
    constructor
    · intro other mem
      obtain ⟨old, oldMember, rfl⟩ := mem_map.mp mem
      unfold Node.replaces
      split_ifs with hit
      · exact .inl control
      · exact traced.nodes old oldMember
    · exact traced.edges
    · intro edge mem
      have ends := traced.endpoints edge mem
      exact ⟨present _ ends.1, present _ ends.2⟩
    · exact traced.distinct
    · change (List.map Node.id (graph.nodes.map _)).Nodup
      rw [ids]
      exact traced.distinctNodes

end

theorem Traced.projectNode (traced : Traced history state.1) (tenantID : Text) (now : Nat)
    (control : ControlRecord) : Traced history (projectNode tenantID now state control).1 := by
  unfold Graph.projectNode
  dsimp only
  split
  next graph upserted =>
    split_ifs at upserted
    exact traced.upsert rfl upserted
  · exact traced

theorem Traced.projectParent (traced : Traced history state.1) (now : Nat)
    (control : ControlRecord) : Traced history (projectParent now state control).1 := by
  have named : (parentEdge now control).id ≠ [] := derivedID_ne_nil (by simp) _
  unfold Graph.projectParent
  split_ifs
  · exact traced
  · split
    next graph created =>
      have applied : tolerate true state.1 (createChecked state.1 (parentEdge now control)) =
          .ok graph := by
        rw [created]
        rfl
      have outcome := edgeOutcome_of_tolerate named applied
      cases outcome with
      | created source target free added =>
        subst added
        exact traced.addEdge (.inl ⟨rfl, rfl⟩) source target free
      | stored _taken same =>
        subst same
        exact traced
      | skipped _missing same =>
        subst same
        exact traced
    · exact traced
    · exact traced
    · exact traced

theorem Traced.projectCatalog (traced : Traced history graph) (tenantID : Text) (now : Nat)
    (controls : List ControlRecord) :
    Traced history (projectCatalog tenantID now graph controls).1 := by
  have nodes : ∀ (rest : List ControlRecord) (state : ResultGraph × List GraphError),
      Traced history state.1 →
        Traced history (rest.foldl (Graph.projectNode tenantID now) state).1 := by
    intro rest
    induction rest with
    | nil => exact fun _ kept => kept
    | cons control rest ih => exact fun state kept => ih _ (kept.projectNode tenantID now control)
  have parents : ∀ (rest : List ControlRecord) (state : ResultGraph × List GraphError),
      Traced history state.1 → Traced history (rest.foldl (Graph.projectParent now) state).1 := by
    intro rest
    induction rest with
    | nil => exact fun _ kept => kept
    | cons control rest ih => exact fun state kept => ih _ (kept.projectParent now control)
  exact parents controls _ (nodes controls _ traced)

end

namespace GraphService

structure Consistent (service : GraphService) : Prop where
  traced : Traced service.history service.graph
  kinds : ∀ jobID kind results, service.stored.lookup (jobID, kind) = some results →
    results.kind = kind

variable {service next : GraphService} {event : ServiceEvent}

theorem Consistent.step (consistent : service.Consistent)
    (taken : service.step event = some next) : next.Consistent := by
  cases event with
  | projects tenantID now controls =>
    cases taken
    exact ⟨consistent.traced.projectCatalog tenantID now controls, consistent.kinds⟩
  | stores jobID results =>
    cases taken
    refine ⟨consistent.traced, ?_⟩
    intro otherID kind other found
    rw [lookup_insert_eq] at found
    split_ifs at found with same
    · cases found
      exact (Prod.mk.inj same).2
    · exact consistent.kinds otherID kind other found
  | handles jobID kind now =>
    cases taken
    refine ⟨?_, consistent.kinds⟩
    unfold GraphService.handles GraphService.handle
    cases found : service.stored.lookup (jobID, kind) with
    | none => exact consistent.traced
    | some results =>
      have longer := consistent.traced.extend
        (fun entry mem => mem_append_left [(jobID, results)] mem)
      apply longer.applyWrites
      · exact results.named jobID now
      · intro write written
        exact ⟨(jobID, results), mem_append_right _ mem_cons_self, now, written⟩

theorem consistent_initial : initial.Consistent := by
  refine ⟨⟨?_, ?_, ?_, nodup_nil, nodup_nil⟩, ?_⟩
  · intro node mem
    cases mem
  · intro edge mem
    cases mem
  · intro edge mem
    cases mem
  · intro jobID kind results found
    cases found

theorem run_consistent {events : List ServiceEvent}
    (ran : Library.run step initial events = some service) : service.Consistent :=
  Library.run_invariant (fun _ _ _ consistent taken => consistent.step taken)
    consistent_initial ran

end GraphService

end CrossCodex.Graph
