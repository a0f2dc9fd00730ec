/-
The graph store of one tenant, as the memory driver implements it. Properties are a type
parameter. The tenant check and the rule on labels are left out: callers pass fixed, valid
labels. Identifiers are built from escaped parts, so that text with the separator in it cannot
be taken for two parts.
-/

import Mathlib.Data.List.Nodup
import CrossCodex.Analyzer.TaskId

namespace CrossCodex.Graph

open Analyzer (Text)
open Library List

theorem nodup_map_append {Item Key : Type} {items : List Item} {key : Item → Key} {item : Item}
    (nodup : (items.map key).Nodup) (fresh : ∀ other ∈ items, key other ≠ key item) :
    ((items ++ [item]).map key).Nodup := by
  rw [map_append, nodup_append]
  refine ⟨nodup, by simp, ?_⟩
  intro name mem other otherMember
  obtain ⟨stored, storedMember, rfl⟩ := mem_map.mp mem
  rw [map_singleton, mem_singleton] at otherMember
  subst other
  exact fresh stored storedMember

def derivedIDEscaper (symbol : Char) : Text :=
  if symbol = '%' then "%25".toList else if symbol = '_' then "%5F".toList else [symbol]

def escapePart (part : Text) : Text := part.flatMap derivedIDEscaper

def derivedID (parts : List Text) : Text := ['_'].intercalate (parts.map escapePart)

theorem derivedIDEscaper_readBack (symbol : Char) :
    ReadBack (fun _ => True) derivedIDEscaper symbol := by
  intro other rest otherRest _follows _otherFollows same
  unfold derivedIDEscaper at same
  split_ifs at same with percent otherPercent otherSeparator <;> simp_all [eq_comm]

theorem escapePart_injective : Function.Injective escapePart := by
  apply flatMap_injective derivedIDEscaper_readBack
  intro symbol
  unfold derivedIDEscaper
  split_ifs <;> simp

theorem separator_not_mem_escapePart (part : Text) : '_' ∉ escapePart part := by
  intro mem
  obtain ⟨symbol, _inPart, inCode⟩ := mem_flatMap.mp mem
  unfold derivedIDEscaper at inCode
  split_ifs at inCode with percent separator
  · simp at inCode
  · simp at inCode
  · exact separator (mem_singleton.mp inCode).symm

theorem derivedID_injective {parts others : List Text} (some : parts ≠ []) (someOther : others ≠ [])
    (same : derivedID parts = derivedID others) : parts = others := by
  have split : ∀ parts : List Text, parts ≠ [] →
      (derivedID parts).splitOn '_' = parts.map escapePart := by
    intro parts some
    apply splitOn_intercalate
    · intro code mem
      obtain ⟨part, _given, rfl⟩ := mem_map.mp mem
      exact separator_not_mem_escapePart part
    · simpa using some
  apply map_injective_iff.mpr escapePart_injective
  rw [← split parts some, same, split others someOther]

theorem derivedID_ne_nil {part : Text} (tagged : part ≠ []) (parts : List Text) :
    derivedID (part :: parts) ≠ [] := by
  intro empty
  have same : derivedID (part :: parts) = derivedID [[]] := by rw [empty]; rfl
  have parted := derivedID_injective (by simp) (by simp) same
  exact tagged (List.cons.inj parted).1

structure Node (Properties : Type) where
  id : Text
  label : Text
  validFrom : Nat
  validTo : Option Nat
  properties : Properties
deriving DecidableEq, Repr

variable {NodeProperties EdgeProperties : Type}

/-- The stored validity of a node that is there already is kept unless the caller ends it. -/
def Node.replaces (node old : Node NodeProperties) : Node NodeProperties :=
  if old.id = node.id then
    { node with validFrom := old.validFrom, validTo := node.validTo.or old.validTo }
  else old

theorem Node.replaces_id (node old : Node NodeProperties) : (node.replaces old).id = old.id := by
  unfold replaces
  split_ifs with hit
  · exact hit.symm
  · rfl

theorem Node.replaces_label {node old : Node NodeProperties}
    (same : old.id = node.id → old.label = node.label) :
    (node.replaces old).label = old.label := by
  unfold replaces
  split_ifs with hit
  · exact (same hit).symm
  · rfl

structure Edge (Properties : Type) where
  id : Text
  label : Text
  sourceID : Text
  targetID : Text
  validFrom : Nat
  validTo : Option Nat
  properties : Properties
deriving DecidableEq, Repr

inductive GraphError where
  | nodeExists
  | nodeIDConflict
  | nodeNotFound
  | edgeExists
  | invalid
deriving DecidableEq, Repr

structure GraphDB (NodeProperties EdgeProperties : Type) where
  nodes : List (Node NodeProperties)
  edges : List (Edge EdgeProperties)
deriving DecidableEq, Repr

namespace GraphDB

variable (graph : GraphDB NodeProperties EdgeProperties)

def empty : GraphDB NodeProperties EdgeProperties := { nodes := [], edges := [] }

def getNode (id : Text) : Option (Node NodeProperties) :=
  graph.nodes.find? fun node => node.id = id

def getEdge (id : Text) : Option (Edge EdgeProperties) :=
  graph.edges.find? fun edge => edge.id = id

def createNode (node : Node NodeProperties) :
    Except GraphError (GraphDB NodeProperties EdgeProperties) :=
  match graph.getNode node.id with
  | none => .ok { graph with nodes := graph.nodes ++ [node] }
  | some stored => .error (if stored.label = node.label then .nodeExists else .nodeIDConflict)

def upsertNode (node : Node NodeProperties) :
    Except GraphError (GraphDB NodeProperties EdgeProperties) :=
  match graph.getNode node.id with
  | none => .ok { graph with nodes := graph.nodes ++ [node] }
  | some stored =>
    if stored.label = node.label then
      .ok { graph with nodes := graph.nodes.map node.replaces }
    else .error .nodeIDConflict

/-- Empty IDs are not deduplicated. -/
def createEdge (edge : Edge EdgeProperties) :
    Except GraphError (GraphDB NodeProperties EdgeProperties) :=
  if (graph.getNode edge.sourceID).isNone ∨ (graph.getNode edge.targetID).isNone then
    .error .nodeNotFound
  else if edge.id ≠ [] ∧ (graph.getEdge edge.id).isSome then .error .edgeExists
  else .ok { graph with edges := graph.edges ++ [edge] }

/-- An end that is set already is overwritten. -/
def supersedeEdge (id : Text) (supersededAt : Nat) : GraphDB NodeProperties EdgeProperties :=
  { graph with edges := graph.edges.map fun edge =>
      if edge.id = id then { edge with validTo := some supersededAt } else edge }

def queryRelationships (edgeLabel : Text) : List (Edge EdgeProperties) :=
  graph.edges.filter fun edge => edge.label = edgeLabel ∧ edge.validTo = none

/-- The outbound paths of length one. Superseded edges are among them. -/
def traverse (startNode edgeLabel : Text) : List (Edge EdgeProperties) :=
  if (graph.getNode startNode).isNone then []
  else graph.edges.filter fun edge => edge.sourceID = startNode ∧ edge.label = edgeLabel

section Lemmas

variable {graph} {created : GraphDB NodeProperties EdgeProperties} {id : Text}

theorem getEdge_eq_none : graph.getEdge id = none ↔ ∀ edge ∈ graph.edges, edge.id ≠ id := by
  simp [getEdge]

variable {edge : Edge EdgeProperties}

theorem getEdge_eq_some_mem (found : graph.getEdge id = some edge) :
    edge ∈ graph.edges ∧ edge.id = id := by
  have matched := find?_some found
  exact ⟨mem_of_find?_eq_some found, of_decide_eq_true matched⟩

theorem getEdge_of_mem (nodup : (graph.edges.map Edge.id).Nodup) (mem : edge ∈ graph.edges) :
    graph.getEdge edge.id = some edge := by
  cases found : graph.getEdge edge.id with
  | none => exact absurd rfl (getEdge_eq_none.mp found edge mem)
  | some other =>
    obtain ⟨otherMember, same⟩ := getEdge_eq_some_mem found
    exact congrArg some (inj_on_of_nodup_map nodup otherMember mem same)

/-- An upsert adds the node, or replaces the one that has its ID and its label. -/
theorem upsertNode_cases {node : Node NodeProperties} (nodup : (graph.nodes.map Node.id).Nodup)
    (upserted : graph.upsertNode node = .ok created) :
    graph.getNode node.id = none ∧ created = { graph with nodes := graph.nodes ++ [node] } ∨
      (∀ old ∈ graph.nodes, old.id = node.id → old.label = node.label) ∧
        created = { graph with nodes := graph.nodes.map node.replaces } := by
  unfold upsertNode at upserted
  split at upserted
  next absent => exact .inl ⟨absent, (Except.ok.inj upserted).symm⟩
  next stored found =>
    split_ifs at upserted with sameLabel
    refine .inr ⟨fun old mem hit => ?_, (Except.ok.inj upserted).symm⟩
    have storedID : stored.id = node.id := by simpa using find?_some found
    rw [inj_on_of_nodup_map nodup mem (mem_of_find?_eq_some found) (hit.trans storedID.symm)]
    exact sameLabel

theorem createEdge_eq_ok (named : edge.id ≠ []) (success : graph.createEdge edge = .ok created) :
    created = { graph with edges := graph.edges ++ [edge] } ∧
      ∀ stored ∈ graph.edges, stored.id ≠ edge.id := by
  unfold createEdge at success
  split_ifs at success with missing taken
  have free : graph.getEdge edge.id = none := by simpa [named] using taken
  exact ⟨(Except.ok.inj success).symm, getEdge_eq_none.mp free⟩

theorem createEdge_eq_edgeExists (refused : graph.createEdge edge = .error .edgeExists) :
    ∃ stored ∈ graph.edges, stored.id = edge.id := by
  unfold createEdge at refused
  split_ifs at refused with missing taken
  · cases refused
  · obtain ⟨stored, found⟩ := Option.isSome_iff_exists.mp taken.2
    exact ⟨stored, getEdge_eq_some_mem found⟩

theorem supersedeEdge_ids (id : Text) (supersededAt : Nat) :
    (graph.supersedeEdge id supersededAt).edges.map Edge.id = graph.edges.map Edge.id := by
  simp only [supersedeEdge, map_map]
  apply map_congr_left
  intro edge _member
  simp only [Function.comp]
  split_ifs <;> rfl

end Lemmas

end GraphDB

end CrossCodex.Graph
