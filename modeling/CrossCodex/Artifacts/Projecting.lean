/-
Projection of SAME_AS verdicts onto the graph. Every event is one call of one process on the
verdict store or the graph, and a process may stop after any of them. A chunk of
BulkCreateEdges is split into its edges and a batch of Unprojected into its pairs. Time
counts microseconds.
-/

import CrossCodex.Artifacts.VerdictStore
import CrossCodex.Library.Run

namespace CrossCodex.Artifacts

open Analyzer (Text)
open Graph Function

structure Deployment where
  formatTime : Nat → Text
  formatTime_injective : Function.Injective formatTime
  leaseDuration : Nat

def sameAsLabel : Text := "SAME_AS".toList

def artifactGroupLabel : Text := "ArtifactGroup".toList

def sameAsEdgeID (version : Text) (pair : Pair) : Text :=
  derivedID ["same-as".toList, version, pair.low, pair.high]

def panelEdgeID (pair : Pair) : Text :=
  derivedID ["same-as".toList, "llm_panel".toList, pair.low, pair.high]

variable (deployment : Deployment)

/-- The decision time is part of the ID, so a re-confirmation gets an edge of its own. -/
def humanEdgeID (pair : Pair) (decidedAt : Nat) : Text :=
  derivedID ["same-as".toList, "human".toList, pair.low, pair.high,
    deployment.formatTime decidedAt]

abbrev SameAsGraph := GraphDB Unit DeterminationType

def ownEdgeID (projection : Projection) : Option Text :=
  if projection.status = .confirmed then
    if projection.determinationType = .human then
      some (humanEdgeID deployment projection.pair projection.decidedAt)
    else some (panelEdgeID projection.pair)
  else none

def ownEdge (id : Text) (projection : Projection) : Edge DeterminationType :=
  { id
    label := sameAsLabel
    sourceID := projection.pair.low
    targetID := projection.pair.high
    validFrom := projection.decidedAt
    validTo := none
    properties := projection.determinationType }

/-- The live edges that a human verdict ends, each not before it began. -/
def humanTargets (graph : SameAsGraph) (projection : Projection) : List (Text × Nat) :=
  let keep := (ownEdgeID deployment projection).getD []
  ((graph.traverse projection.pair.low sameAsLabel).filter fun edge =>
      edge.targetID = projection.pair.high ∧ edge.id ≠ keep ∧ edge.validTo = none).map
    fun edge => (edge.id, max projection.decidedAt edge.validFrom)

/-- A panel verdict ends the candidate that is on record for the pair. -/
def panelTargets (graph : SameAsGraph) (projection : Projection) : List (Text × Nat) :=
  match graph.getEdge projection.candidateEdgeID with
  | some edge =>
    if edge.validTo = none then [(projection.candidateEdgeID, projection.decidedAt)] else []
  | none => []

def targets (graph : SameAsGraph) (projection : Projection) : List (Text × Nat) :=
  if projection.determinationType = .human then humanTargets deployment graph projection
  else panelTargets graph projection

inductive Phase where
  | creating
  | reading
  | superseding (targets : List (Text × Nat))
  | orphaned
deriving DecidableEq, Repr

/-- A pass between ClaimProjection and MarkProjected. -/
structure Hold where
  projection : Projection
  claimedUntil : Nat
  wrote : Bool
  phase : Phase
deriving DecidableEq, Repr

inductive Pass where
  | loaded (projection : Projection)
  | holding (hold : Hold)
deriving DecidableEq, Repr

inductive ReconcileRun where
  | matched (version : Text) (newGroups : List Text) (pairs : List Pair)
  | screened (version : Text) (newGroups : List Text) (openPairs : List Pair)
  | writing (version : Text) (newGroups : List Text) (openPairs planned : List Pair)
deriving DecidableEq, Repr

structure World where
  now : Nat
  store : VerdictStore
  graph : SameAsGraph
  /-- Whether the projection last marked on a pair found its groups gone. -/
  orphaned : Pair → Bool
  passes : Nat → Option Pass
  reconciles : Nat → Option ReconcileRun

inductive Event where
  | timePasses (elapsed : Nat)
  | reconcileStarts (run : Nat) (version : Text) (newGroups : List Text) (pairs : List Pair)
  | reconcileScreens (run : Nat)
  | reconcilePlans (run : Nat)
  | reconcileCreatesGroup (run : Nat)
  | reconcileWrites (run : Nat)
  | reconcileEnqueues (run : Nat)
  | reconcileCrashes (run : Nat)
  | panelDecides (pass : Nat) (pair : Pair) (status : VerdictStatus) (decidedAt : Nat)
  | panelAbandons (pair : Pair) (decidedAt : Nat)
  | humanDecides (pair : Pair) (status : VerdictStatus) (decidedAt : Nat)
  | loads (pass : Nat) (pair : Pair)
  | claims (pass : Nat)
  | createsEdge (pass : Nat)
  | looksUp (pass : Nat)
  | supersedes (pass : Nat)
  | marks (pass : Nat)
  | releases (pass : Nat)
  | crashes (pass : Nat)
  | resets
  | rebuilds
deriving DecidableEq, Repr

namespace World

variable (deployment : Deployment) (world : World)

def setRun (run : Nat) (progress : Option ReconcileRun) : World :=
  { world with reconciles := update world.reconciles run progress }

variable (pass : Nat)

def setPass (progress : Option Pass) : World :=
  { world with passes := update world.passes pass progress }

def setRow (pair : Pair) (row : VerdictRow) : World :=
  { world with store := world.store.insert pair row }

def reconcileStarts (run : Nat) (version : Text) (newGroups : List Text) (pairs : List Pair) :
    Option World :=
  if world.reconciles run = none then
    some (world.setRun run (some (.matched version newGroups pairs)))
  else none

def reconcileScreens (run : Nat) : Option World :=
  match world.reconciles run with
  | some (.matched version newGroups pairs) =>
    some (world.setRun run (some (.screened version newGroups
      (pairs.filter fun pair => !VerdictStore.closedPair world.store pair))))
  | _ => none

def reconcilePlans (run : Nat) : Option World :=
  match world.reconciles run with
  | some (.screened version newGroups openPairs) =>
    let stored := (world.graph.queryRelationships sameAsLabel).map Edge.id
    some (world.setRun run (some (.writing version newGroups openPairs
      (openPairs.filter fun pair => sameAsEdgeID version pair ∉ stored))))
  | _ => none

def groupNode (group : Text) (now : Nat) : Node Unit :=
  { id := group, label := artifactGroupLabel, validFrom := now, validTo := none, properties := () }

def reconcileCreatesGroup (run : Nat) : Option World :=
  match world.reconciles run with
  | some (.writing version (group :: newGroups) openPairs planned) =>
    let rest := some (ReconcileRun.writing version newGroups openPairs planned)
    match world.graph.createNode (groupNode group world.now) with
    | .ok graph => some ({ world with graph }.setRun run rest)
    | .error .nodeExists => some (world.setRun run rest)
    | .error _ => some (world.setRun run none)
  | _ => none

def candidateEdge (version : Text) (pair : Pair) (now : Nat) : Edge DeterminationType :=
  { id := sameAsEdgeID version pair
    label := sameAsLabel
    sourceID := pair.low
    targetID := pair.high
    validFrom := now
    validTo := none
    properties := .tokenOverlap }

/-- An edge whose ID is taken is dropped from its chunk. -/
def reconcileWrites (run : Nat) : Option World :=
  match world.reconciles run with
  | some (.writing version [] openPairs (pair :: planned)) =>
    let rest := some (ReconcileRun.writing version [] openPairs planned)
    match world.graph.createEdge (candidateEdge version pair world.now) with
    | .ok graph => some ({ world with graph }.setRun run rest)
    | .error .edgeExists => some (world.setRun run rest)
    | .error _ => some (world.setRun run none)
  | _ => none

def reconcileEnqueues (run : Nat) : Option World :=
  match world.reconciles run with
  | some (.writing version [] openPairs []) =>
    let candidates := openPairs.map fun pair => (pair, sameAsEdgeID version pair)
    some ({ world with store := VerdictStore.enqueue world.store candidates }.setRun run none)
  | _ => none

def reconcileCrashes (run : Nat) : Option World :=
  if (world.reconciles run).isSome then some (world.setRun run none) else none

/-- A panel that confirms or rejects goes on to project its own verdict. -/
def panelDecides (pair : Pair) (status : VerdictStatus) (decidedAt : Nat) : Option World :=
  if world.passes pass = none ∧
      (status = .confirmed ∨ status = .rejected ∨ status = .undecided) then
    (VerdictStore.decide world.store pair status decidedAt).map fun row =>
      (world.setRow pair row).setPass pass ((row.projection pair).map Pass.loaded)
  else none

def panelAbandons (pair : Pair) (decidedAt : Nat) : Option World :=
  (VerdictStore.abandon world.store pair decidedAt).map fun row => world.setRow pair row

def humanDecides (pair : Pair) (status : VerdictStatus) (decidedAt : Nat) : Option World :=
  if status = .confirmed ∨ status = .rejected then
    (VerdictStore.decideHuman world.store pair status decidedAt).map fun row =>
      world.setRow pair row
  else none

def loads (pair : Pair) : Option World :=
  if world.passes pass = none then
    (VerdictStore.unprojected world.store pair world.now).map fun projection =>
      world.setPass pass (some (.loaded projection))
  else none

/-- A rejection adds no edge, so its pass starts with the lookup. -/
def claims : Option World :=
  match world.passes pass with
  | some (.loaded projection) =>
    let claimUntil := world.now + deployment.leaseDuration
    match VerdictStore.claimProjection world.store projection claimUntil world.now with
    | some row =>
      some ((world.setRow projection.pair row).setPass pass (some (.holding
        { projection
          claimedUntil := claimUntil
          wrote := false
          phase := if projection.status = .confirmed then .creating else .reading })))
    | none => some (world.setPass pass none)
  | _ => none

def createsEdge : Option World :=
  match world.passes pass with
  | some (.holding { projection, claimedUntil, wrote, phase := .creating }) =>
    match ownEdgeID deployment projection with
    | some id =>
      match world.graph.createEdge (ownEdge id projection) with
      | .ok graph => some ({ world with graph }.setPass pass
          (some (.holding { projection, claimedUntil, wrote := true, phase := .reading })))
      | .error .edgeExists => some (world.setPass pass
          (some (.holding { projection, claimedUntil, wrote, phase := .reading })))
      | .error .nodeNotFound => some (world.setPass pass
          (some (.holding { projection, claimedUntil, wrote, phase := .orphaned })))
      | .error _ => some (world.setPass pass none)
    | none => none
  | _ => none

def looksUp : Option World :=
  match world.passes pass with
  | some (.holding { projection, claimedUntil, wrote, phase := .reading }) =>
    some (world.setPass pass (some (.holding
      { projection, claimedUntil, wrote
        phase := .superseding (targets deployment world.graph projection) })))
  | _ => none

def supersedes : Option World :=
  match world.passes pass with
  | some (.holding { projection, claimedUntil, wrote := _, phase := .superseding (target :: rest) }) =>
    some ({ world with graph := world.graph.supersedeEdge target.1 target.2 }.setPass pass
      (some (.holding { projection, claimedUntil, wrote := true, phase := .superseding rest })))
  | _ => none

def markProjected (pass : Nat) (hold : Hold) (orphaned : Bool) : World :=
  match VerdictStore.markProjected world.store hold.projection hold.claimedUntil with
  | some row =>
    { world.setRow hold.projection.pair row with
      orphaned := update world.orphaned hold.projection.pair orphaned }.setPass pass none
  | none => world.setPass pass none

def marks : Option World :=
  match world.passes pass with
  | some (.holding hold) =>
    match hold.phase with
    | .superseding [] => some (world.markProjected pass hold false)
    | .orphaned => some (world.markProjected pass hold true)
    | _ => none
  | _ => none

/-- A lookup that failed before anything was written gives the claim back. -/
def releases : Option World :=
  match world.passes pass with
  | some (.holding { projection, claimedUntil, wrote := false, phase := .reading }) =>
    match VerdictStore.releaseClaim world.store projection.pair claimedUntil with
    | some row => some ((world.setRow projection.pair row).setPass pass none)
    | none => some (world.setPass pass none)
  | _ => none

def crashes : Option World :=
  if (world.passes pass).isSome then some (world.setPass pass none) else none

def step : World → Event → Option World
  | world, .timePasses elapsed => some { world with now := world.now + elapsed }
  | world, .reconcileStarts run version newGroups pairs =>
    world.reconcileStarts run version newGroups pairs
  | world, .reconcileScreens run => world.reconcileScreens run
  | world, .reconcilePlans run => world.reconcilePlans run
  | world, .reconcileCreatesGroup run => world.reconcileCreatesGroup run
  | world, .reconcileWrites run => world.reconcileWrites run
  | world, .reconcileEnqueues run => world.reconcileEnqueues run
  | world, .reconcileCrashes run => world.reconcileCrashes run
  | world, .panelDecides pass pair status decidedAt =>
    world.panelDecides pass pair status decidedAt
  | world, .panelAbandons pair decidedAt => world.panelAbandons pair decidedAt
  | world, .humanDecides pair status decidedAt => world.humanDecides pair status decidedAt
  | world, .loads pass pair => world.loads pass pair
  | world, .claims pass => world.claims deployment pass
  | world, .createsEdge pass => world.createsEdge deployment pass
  | world, .looksUp pass => world.looksUp deployment pass
  | world, .supersedes pass => world.supersedes pass
  | world, .marks pass => world.marks pass
  | world, .releases pass => world.releases pass
  | world, .crashes pass => world.crashes pass
  | world, .resets => some { world with store := VerdictStore.resetProjection world.store }
  | world, .rebuilds => some { world with graph := .empty }

def initial (now : Nat) : World :=
  { now
    store := ∅
    graph := .empty
    orphaned := fun _ => false
    passes := fun _ => none
    reconciles := fun _ => none }

end World

end CrossCodex.Artifacts
