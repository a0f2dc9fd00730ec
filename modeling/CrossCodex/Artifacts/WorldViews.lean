/-
Every pair's view along a run. Reconcile runs must not write beside a verdict: one algorithm
version for each pair, no candidate edge for a closed pair, and a graph emptied only while
nothing is marked as projected.
-/

import CrossCodex.Artifacts.PairViews

namespace CrossCodex.Artifacts

open Analyzer (Text)
open Graph
open Library (forall_mem_concat)
open List Function

/-- The IDs in use: the format of decision times and the version that matches each pair. -/
structure Naming where
  deployment : Deployment
  versionOf : Pair → Text
  versionOf_ne_panel : ∀ pair, versionOf pair ≠ "llm_panel".toList

variable {pair : Pair} {id : Text} {other : Pair}

namespace Naming

variable (naming : Naming)

def names (pair : Pair) : EdgeNames where
  candidate := sameAsEdgeID (naming.versionOf pair) pair
  panel := panelEdgeID pair
  human := humanEdgeID naming.deployment pair
  candidate_ne_panel := by
    intro same
    have parts := derivedID_injective (by simp) (by simp) same
    exact naming.versionOf_ne_panel pair (List.cons.inj (List.cons.inj parts).2).1
  candidate_ne_human := by
    intro decidedAt same
    have parts := derivedID_injective (by simp) (by simp) same
    simpa using congrArg List.length parts
  panel_ne_human := by
    intro decidedAt same
    have parts := derivedID_injective (by simp) (by simp) same
    simpa using congrArg List.length parts
  human_injective := by
    intro decidedAt other same
    have parts := derivedID_injective (by simp) (by simp) same
    simp only [List.cons.injEq, and_true, true_and] at parts
    exact naming.deployment.formatTime_injective parts

theorem own_eq (projection : Projection) :
    ownEdgeID naming.deployment projection =
      (naming.names projection.pair).own projection := rfl

theorem parts_of_known (known : (naming.names pair).Known id) :
    ∃ kind rest, id = derivedID ("same-as".toList :: kind :: pair.low :: pair.high :: rest) := by
  rcases known with rfl | rfl | ⟨decidedAt, rfl⟩
  · exact ⟨naming.versionOf pair, [], rfl⟩
  · exact ⟨"llm_panel".toList, [], rfl⟩
  · exact ⟨"human".toList, [naming.deployment.formatTime decidedAt], rfl⟩

theorem known_unique (known : (naming.names pair).Known id)
    (otherKnown : (naming.names other).Known id) : pair = other := by
  obtain ⟨kind, rest, built⟩ := naming.parts_of_known known
  obtain ⟨otherKind, otherRest, otherBuilt⟩ := naming.parts_of_known otherKnown
  have parts := derivedID_injective (by simp) (by simp) (built.symm.trans otherBuilt)
  simp only [List.cons.injEq, true_and] at parts
  obtain ⟨low, high⟩ := pair
  obtain ⟨otherLow, otherHigh⟩ := other
  rw [Pair.mk.injEq]
  exact ⟨parts.2.1, parts.2.2.1⟩

theorem known_ne_nil (known : (naming.names pair).Known id) : id ≠ [] := by
  obtain ⟨kind, rest, rfl⟩ := naming.parts_of_known known
  exact derivedID_ne_nil (by simp) _

end Naming

def Pair.joins (pair : Pair) (edge : Edge DeterminationType) : Bool :=
  edge.sourceID = pair.low ∧ edge.targetID = pair.high

def holdOn (pair : Pair) : Option Pass → Option Hold
  | some (.holding hold) => if hold.projection.pair = pair then some hold else none
  | _ => none

variable {hold : Hold}

theorem holdOn_other (ne : hold.projection.pair ≠ pair) :
    holdOn pair (some (.holding hold)) = none := if_neg ne

/-- Every pair of the run is matched by the version that is meant to match it. -/
def ReconcileRun.Follows (versionOf : Pair → Text) : ReconcileRun → Prop
  | .matched version _ pairs => ∀ pair ∈ pairs, version = versionOf pair
  | .screened version _ openPairs => ∀ pair ∈ openPairs, version = versionOf pair
  | .writing version _ openPairs planned =>
    (∀ pair ∈ openPairs, version = versionOf pair) ∧
      ∀ pair ∈ planned, version = versionOf pair

namespace World

variable (world : World)

def view (pair : Pair) : PairView :=
  { now := world.now
    row := world.store.lookup pair
    orphaned := world.orphaned pair
    edges := world.graph.edges.filter pair.joins
    holds := fun pass => holdOn pair (world.passes pass) }

/-- A later decision bears a later time. -/
def ClocksAgree : Event → Prop
  | .humanDecides pair _ decidedAt =>
    (world.store.lookup pair).all (fun row => row.decidedAt.all (· < decidedAt)) = true
  | _ => True

def claimOf (pass : Nat) : Option Nat :=
  match world.passes pass with
  | some (.holding hold) => some hold.claimedUntil
  | _ => none

def WithinClaim : Event → Prop
  | .createsEdge pass | .looksUp pass | .supersedes pass | .marks pass | .releases pass =>
    (world.claimOf pass).all (world.now < ·) = true
  | _ => True

/-- The next candidate edge of a run is for a pair that is not closed. -/
def WritesOpen (store : VerdictStore) : Option ReconcileRun → Prop
  | some (.writing _ _ _ (pair :: _)) => VerdictStore.closedPair store pair = false
  | _ => True

/-- Reconcile runs of one version for each pair, which do not write beside a closed verdict,
and no rebuilt graph under rows that are marked or claimed. -/
def Orderly (versionOf : Pair → Text) : Event → Prop
  | .reconcileStarts _ version _ pairs => ∀ pair ∈ pairs, version = versionOf pair
  | .reconcileWrites run => WritesOpen world.store (world.reconciles run)
  | .rebuilds => ∀ entry ∈ world.store.entries,
      entry.2.graphApplied = false ∧ entry.2.unclaimed world.now = true
  | _ => True

structure GraphSound (graph : SameAsGraph) : Prop where
  labels : ∀ edge ∈ graph.edges, edge.label = sameAsLabel
  endpoints : ∀ edge ∈ graph.edges, (graph.getNode edge.sourceID).isSome
  distinct : (graph.edges.map Edge.id).Nodup

theorem GraphSound.empty : GraphSound .empty where
  labels := by
    intro edge mem
    cases mem
  endpoints := by
    intro edge mem
    cases mem
  distinct := nodup_nil

structure Consistent (naming : Naming) (world : World) : Prop where
  views : ∀ pair, (world.view pair).Consistent (naming.names pair)
  graph : GraphSound world.graph
  loaded : ∀ pass projection, world.passes pass = some (.loaded projection) →
    projection.Proper (naming.names projection.pair)
  runs : ∀ run progress, world.reconciles run = some progress →
    progress.Follows naming.versionOf

variable {naming : Naming} {world} {edge : Edge DeterminationType} {row : VerdictRow}
  {progress : Option Pass}

theorem Consistent.known (consistent : world.Consistent naming) (mem : edge ∈ world.graph.edges)
    (joins : pair.joins edge = true) : (naming.names pair).Known edge.id :=
  (consistent.views pair).known edge (mem_filter.mpr ⟨mem, joins⟩)

theorem Consistent.joins (consistent : world.Consistent naming) (mem : edge ∈ world.graph.edges)
    (known : (naming.names pair).Known edge.id) : pair.joins edge = true := by
  have own : Pair.joins ⟨edge.sourceID, edge.targetID⟩ edge = true := by simp [Pair.joins]
  have same := naming.known_unique (consistent.known mem own) known
  rwa [same] at own

theorem view_setPass (pass : Nat) (progress : Option Pass) (pair : Pair) :
    (world.setPass pass progress).view pair = { world.view pair with
      holds := update (world.view pair).holds pass (holdOn pair progress) } := by
  have holds : (fun other => holdOn pair (update world.passes pass progress other)) =
      update (world.view pair).holds pass (holdOn pair progress) := by
    funext other
    by_cases same : other = pass
    · subst other
      simp
    · simp [update_of_ne same, view]
  simp only [view, setPass, holds]

theorem view_setRow_other (ne : other ≠ pair) (row : VerdictRow) :
    (world.setRow pair row).view other = world.view other := by
  simp [view, setRow, AList.lookup_insert_ne ne]

section

variable (consistent : world.Consistent naming)
include consistent

theorem Consistent.setRun (run : Nat) {progress : Option ReconcileRun}
    (follows : ∀ next, progress = some next → next.Follows naming.versionOf) :
    (world.setRun run progress).Consistent naming where
  __ := consistent
  runs := by
    intro other next stored
    rcases update_cases stored with ⟨_same, given⟩ | ⟨_different, before⟩
    · exact follows next given
    · exact consistent.runs other next before

theorem Consistent.setRow
    (changed : PairView.Consistent (naming.names pair) { world.view pair with row := some row }) :
    (world.setRow pair row).Consistent naming where
  __ := consistent
  views := by
    intro other
    by_cases same : other = pair
    · subst other
      simpa [view, World.setRow] using changed
    · rw [view_setRow_other same]
      exact consistent.views other

theorem Consistent.replaceAutomatic {old : VerdictRow} (row : VerdictRow)
    (stored : world.store.lookup pair = some old) (automatic : old.automatic = true)
    (candidate : row.candidateEdgeID = (naming.names pair).candidate)
    (unapplied : old.graphApplied = false → row.graphApplied = false)
    (determined : old.determinationType ≠ .human → row.determinationType ≠ .human)
    (decided : old.closed = false → row.closed = true →
      row.determinationType ≠ .tokenOverlap ∧ ∃ decidedAt, row.decidedAt = some decidedAt) :
    PairView.Consistent (naming.names pair) { world.view pair with row := some row } := by
  simp only [VerdictRow.automatic, decide_eq_true_eq] at automatic
  have unclosed : old.closed = false := by simp [VerdictRow.closed, automatic.1]
  apply (consistent.views pair).replaceOpen ?_ candidate (unapplied ?_) (determined automatic.2)
    (decided unclosed)
  · intro current same
    cases stored.symm.trans same
    exact unclosed
  · cases applied : old.graphApplied with
    | false => rfl
    | true => simpa [unclosed] using (((consistent.views pair).row old stored).applied applied).1

theorem Consistent.setPass (pass : Nat) (unheld : ∀ pair, holdOn pair progress = none)
    (proper : ∀ projection, progress = some (.loaded projection) →
      projection.Proper (naming.names projection.pair)) :
    (world.setPass pass progress).Consistent naming where
  __ := consistent
  views := by
    intro pair
    rw [view_setPass, unheld pair]
    exact (consistent.views pair).drop pass
  loaded := by
    intro other projection stored
    rcases update_cases stored with ⟨_same, given⟩ | ⟨_different, before⟩
    · exact proper projection given
    · exact consistent.loaded other projection before

theorem Consistent.endPass (pass : Nat) : (world.setPass pass none).Consistent naming :=
  consistent.setPass pass (fun _ => rfl) (fun _ impossible => by cases impossible)

end

variable {pass : Nat} {graph : SameAsGraph}

theorem Consistent.moveHold (consistent : world.Consistent naming) (sound : GraphSound graph)
    {next : Hold} (others : ∀ pair, next.projection.pair ≠ pair →
      graph.edges.filter pair.joins = world.graph.edges.filter pair.joins)
    (moved : PairView.Consistent (naming.names next.projection.pair)
      { world.view next.projection.pair with
        edges := graph.edges.filter next.projection.pair.joins
        holds := update (world.view next.projection.pair).holds pass (some next) }) :
    ({ world with graph }.setPass pass (some (.holding next))).Consistent naming where
  views := by
    intro pair
    rw [view_setPass]
    by_cases same : next.projection.pair = pair
    · subst pair
      rw [holdOn, if_pos rfl]
      exact moved
    · rw [holdOn_other same]
      have kept := (consistent.views pair).drop pass
      simp only [view, others pair same] at kept ⊢
      exact kept
  graph := sound
  loaded := by
    intro other projection stored
    rcases update_cases stored with ⟨_same, impossible⟩ | ⟨_different, before⟩
    · cases impossible
    · exact consistent.loaded other projection before
  runs := consistent.runs

theorem GraphSound.append (sound : GraphSound graph) (label : edge.label = sameAsLabel)
    (endpoint : (graph.getNode edge.sourceID).isSome)
    (fresh : ∀ stored ∈ graph.edges, stored.id ≠ edge.id) :
    GraphSound { graph with edges := graph.edges ++ [edge] } where
  labels := forall_mem_concat sound.labels label
  endpoints := forall_mem_concat sound.endpoints endpoint
  distinct := nodup_map_append sound.distinct fresh

theorem GraphSound.supersede (sound : GraphSound graph) (id : Text) (supersededAt : Nat) :
    GraphSound (graph.supersedeEdge id supersededAt) where
  labels := by
    intro edge mem
    obtain ⟨old, stored, rfl⟩ := mem_map.mp mem
    have label := sound.labels old stored
    split_ifs <;> exact label
  endpoints := by
    intro edge mem
    obtain ⟨old, stored, rfl⟩ := mem_map.mp mem
    have endpoint := sound.endpoints old stored
    split_ifs <;> exact endpoint
  distinct := by
    rw [GraphDB.supersedeEdge_ids]
    exact sound.distinct

variable {next : World} {run : Nat}

section

variable (consistent : world.Consistent naming)
include consistent

theorem Consistent.reconcileStarts {version : Text} {newGroups : List Text} {pairs : List Pair}
    (follows : ∀ pair ∈ pairs, version = naming.versionOf pair)
    (taken : world.reconcileStarts run version newGroups pairs = some next) :
    next.Consistent naming := by
  unfold World.reconcileStarts at taken
  split_ifs at taken
  cases taken
  apply consistent.setRun
  rintro _ ⟨⟩
  exact follows

theorem Consistent.reconcileScreens (taken : world.reconcileScreens run = some next) :
    next.Consistent naming := by
  unfold World.reconcileScreens at taken
  split at taken
  next version newGroups pairs stored =>
    cases taken
    have follows := consistent.runs run _ stored
    apply consistent.setRun
    rintro _ ⟨⟩ pair mem
    exact follows pair (mem_of_mem_filter mem)
  · cases taken

theorem Consistent.reconcilePlans (taken : world.reconcilePlans run = some next) :
    next.Consistent naming := by
  unfold World.reconcilePlans at taken
  split at taken
  next version newGroups openPairs stored =>
    cases taken
    have follows := consistent.runs run _ stored
    apply consistent.setRun
    rintro _ ⟨⟩
    exact ⟨follows, fun pair mem => follows pair (mem_of_mem_filter mem)⟩
  · cases taken

theorem Consistent.addNode {node : Node Unit} (created : world.graph.createNode node = .ok graph) :
    { world with graph }.Consistent naming := by
  unfold GraphDB.createNode at created
  split at created
  · cases created
    exact
      { consistent with
        graph := { consistent.graph with
          endpoints := by
            intro edge mem
            have endpoint := consistent.graph.endpoints edge mem
            unfold GraphDB.getNode at endpoint ⊢
            rw [find?_append, Option.isSome_or, endpoint]
            rfl } }
  · cases created

theorem Consistent.reconcileCreatesGroup (taken : world.reconcileCreatesGroup run = some next) :
    next.Consistent naming := by
  unfold World.reconcileCreatesGroup at taken
  split at taken
  next version group newGroups openPairs planned stored =>
    have follows := consistent.runs run _ stored
    have rest : ∀ progress, some (ReconcileRun.writing version newGroups openPairs planned) =
        some progress → progress.Follows naming.versionOf := by
      rintro _ ⟨⟩
      exact follows
    split at taken
    next graph created =>
      cases taken
      exact (consistent.addNode created).setRun run rest
    · cases taken
      exact consistent.setRun run rest
    · cases taken
      apply consistent.setRun
      rintro _ ⟨⟩
  · cases taken

end

theorem createEdge_endpoint {graph created : SameAsGraph}
    (success : graph.createEdge edge = .ok created) : (graph.getNode edge.sourceID).isSome := by
  unfold GraphDB.createEdge at success
  split_ifs at success with missing
  rw [not_or] at missing
  simpa [Option.isSome_iff_ne_none] using missing.1

variable {edges : List (Edge DeterminationType)} {projection : Projection}

theorem filter_joins_append (apart : pair.joins edge = false) :
    (edges ++ [edge]).filter pair.joins = edges.filter pair.joins := by
  simp [filter_append, apart]

theorem joins_other (joins : pair.joins edge = true) (ne : pair ≠ other) :
    other.joins edge = false := by
  obtain ⟨low, high⟩ := pair
  obtain ⟨otherLow, otherHigh⟩ := other
  simp only [Pair.joins, decide_eq_true_eq, decide_eq_false_iff_not] at joins ⊢
  rintro ⟨sameLow, sameHigh⟩
  apply ne
  rw [← joins.1, ← joins.2, sameLow, sameHigh]

theorem Consistent.addCandidate (consistent : world.Consistent naming) {now : Nat}
    (created : world.graph.createEdge (candidateEdge (naming.versionOf pair) pair now) = .ok graph)
    (unclosed : VerdictStore.closedPair world.store pair = false) :
    { world with graph }.Consistent naming := by
  have known : (naming.names pair).Known (sameAsEdgeID (naming.versionOf pair) pair) := .inl rfl
  obtain ⟨appended, fresh⟩ :=
    GraphDB.createEdge_eq_ok (naming.known_ne_nil known) created
  have joined : pair.joins (candidateEdge (naming.versionOf pair) pair now) = true := by
    simp [Pair.joins, candidateEdge]
  have isOpen : ∀ row, (world.view pair).row = some row → row.closed = false := by
    intro row stored
    change world.store.lookup pair = some row at stored
    simpa [VerdictStore.closedPair, stored] using unclosed
  subst graph
  exact
    { consistent with
      views := by
        intro other
        by_cases same : pair = other
        · subst other
          have named : (candidateEdge (naming.versionOf pair) pair now).id =
              (naming.names pair).candidate := rfl
          have added := (consistent.views pair).addCandidate isOpen named
            (fun stored mem => fresh stored (mem_of_mem_filter mem))
          simpa [view, filter_append, joined] using added
        · have kept := consistent.views other
          simp only [view, filter_joins_append (joins_other joined same)] at kept ⊢
          exact kept
      graph := consistent.graph.append rfl (createEdge_endpoint created) fresh }

theorem Consistent.reconcileWrites (consistent : world.Consistent naming)
    (orderly : world.Orderly naming.versionOf (.reconcileWrites run))
    (taken : world.reconcileWrites run = some next) : next.Consistent naming := by
  unfold World.reconcileWrites at taken
  split at taken
  next version openPairs pair planned stored =>
    have follows := consistent.runs run _ stored
    have sameVersion : version = naming.versionOf pair := follows.2 pair mem_cons_self
    have rest : ∀ progress, some (ReconcileRun.writing version [] openPairs planned) =
        some progress → progress.Follows naming.versionOf := by
      rintro _ ⟨⟩
      exact ⟨follows.1, fun other mem => follows.2 other (mem_cons_of_mem _ mem)⟩
    simp only [Orderly, WritesOpen, stored] at orderly
    split at taken
    next graph created =>
      cases taken
      rw [sameVersion] at created
      exact (consistent.addCandidate created orderly).setRun run rest
    · cases taken
      exact consistent.setRun run rest
    · cases taken
      apply consistent.setRun
      rintro _ ⟨⟩
  · cases taken

theorem Consistent.enqueueOne (consistent : world.Consistent naming) (pair : Pair) :
    { world with
      store := VerdictStore.enqueueOne world.store pair
        (sameAsEdgeID (naming.versionOf pair) pair) }.Consistent naming := by
  unfold VerdictStore.enqueueOne
  split
  next missing =>
    apply consistent.setRow
    apply (consistent.views pair).replaceOpen
    · intro row stored
      change world.store.lookup pair = some row at stored
      rw [missing] at stored
      cases stored
    · rfl
    · rfl
    · simp [VerdictRow.queued]
    · intro closed
      simp [VerdictRow.closed, VerdictRow.queued] at closed
  next row stored =>
    split_ifs with automatic
    · apply consistent.setRow
      refine consistent.replaceAutomatic _ stored automatic rfl id id ?_
      intro unclosed closed
      exact absurd closed (by simpa [VerdictRow.closed] using unclosed)
    · exact consistent

theorem Consistent.enqueue (pairs : List Pair) (version : Text)
    (follows : ∀ pair ∈ pairs, version = naming.versionOf pair) :
    ∀ {world : World}, world.Consistent naming →
      { world with
        store := VerdictStore.enqueue world.store
          (pairs.map fun pair => (pair, sameAsEdgeID version pair)) }.Consistent naming := by
  induction pairs with
  | nil => exact fun consistent => consistent
  | cons pair rest ih =>
    intro world consistent
    have queued := consistent.enqueueOne pair
    rw [← follows pair mem_cons_self] at queued
    exact ih (fun other mem => follows other (mem_cons_of_mem _ mem)) queued

theorem Consistent.reconcileEnqueues (consistent : world.Consistent naming)
    (taken : world.reconcileEnqueues run = some next) : next.Consistent naming := by
  unfold World.reconcileEnqueues at taken
  split at taken
  next version openPairs stored =>
    cases taken
    have follows := consistent.runs run _ stored
    have queued := Consistent.enqueue openPairs version follows.1 consistent
    apply queued.setRun
    rintro _ ⟨⟩
  · cases taken

theorem projection_proper {names : EdgeNames} (kept : RowConsistent names edges row)
    (read : row.projection pair = some projection) :
    projection.pair = pair ∧ projection.Proper names := by
  unfold VerdictRow.projection at read
  split at read
  next decidedAt decided =>
    split_ifs at read with closed
    cases read
    refine ⟨rfl, kept.candidate, ?_, (kept.decided closed).1⟩
    simpa [VerdictRow.closed] using closed
  · cases read

section

variable (consistent : world.Consistent naming) {decidedAt : Nat} {status : VerdictStatus}
include consistent

theorem Consistent.panelDecides
    (taken : world.panelDecides pass pair status decidedAt = some next) :
    next.Consistent naming := by
  unfold World.panelDecides at taken
  split_ifs at taken
  obtain ⟨row, decided, rfl⟩ := Option.map_eq_some_iff.mp taken
  unfold VerdictStore.decide at decided
  split at decided
  next old stored =>
    split_ifs at decided with automatic
    cases decided
    have replaced := consistent.replaceAutomatic { old with
      status, determinationType := .llmPanel, decidedAt := some decidedAt
      graphApplied := false } stored automatic
      ((consistent.views pair).row old stored).candidate (fun _ => rfl) (by simp)
      (fun _ _ => ⟨by simp, decidedAt, rfl⟩)
    apply (consistent.setRow replaced).setPass
    · intro other
      cases (VerdictRow.projection _ pair) <;> rfl
    · intro projection loaded
      obtain ⟨read, found, same⟩ := Option.map_eq_some_iff.mp loaded
      cases same
      obtain ⟨samePair, proper⟩ := projection_proper (replaced.row _ rfl) found
      exact samePair ▸ proper
  · cases decided

theorem Consistent.panelAbandons (taken : world.panelAbandons pair decidedAt = some next) :
    next.Consistent naming := by
  obtain ⟨row, abandoned, rfl⟩ := Option.map_eq_some_iff.mp taken
  unfold VerdictStore.abandon at abandoned
  split at abandoned
  next old stored =>
    split_ifs at abandoned with automatic
    cases abandoned
    apply consistent.setRow
    refine consistent.replaceAutomatic _ stored automatic
      ((consistent.views pair).row old stored).candidate id id ?_
    intro _ closed
    simp [VerdictRow.closed] at closed
  · cases abandoned

theorem Consistent.humanDecides (agree : world.ClocksAgree (.humanDecides pair status decidedAt))
    (taken : world.humanDecides pair status decidedAt = some next) : next.Consistent naming := by
  unfold World.humanDecides at taken
  split_ifs at taken with judged
  obtain ⟨row, decided, rfl⟩ := Option.map_eq_some_iff.mp taken
  obtain ⟨old, stored, rfl⟩ := Option.map_eq_some_iff.mp decided
  apply consistent.setRow
  apply (consistent.views pair).overrule stored judged
  intro earlier before
  simpa [ClocksAgree, stored, before] using agree

theorem Consistent.loads (taken : world.loads pass pair = some next) : next.Consistent naming := by
  unfold World.loads at taken
  split_ifs at taken
  obtain ⟨projection, found, rfl⟩ := Option.map_eq_some_iff.mp taken
  unfold VerdictStore.unprojected at found
  split at found
  next row stored =>
    split_ifs at found
    obtain ⟨samePair, proper⟩ :=
      projection_proper ((consistent.views pair).row row stored) found
    apply consistent.setPass
    · intro other
      rfl
    · rintro _ ⟨⟩
      exact samePair ▸ proper
  · cases found

theorem Consistent.settle {orphaned : Pair → Bool} {held : Option Hold}
    (given : holdOn pair progress = held) (apart : ∀ other, pair ≠ other →
      holdOn other progress = none ∧ orphaned other = world.orphaned other)
    (unloaded : ∀ projection, progress ≠ some (.loaded projection))
    (own : PairView.Consistent (naming.names pair) { world.view pair with
      row := some row, orphaned := orphaned pair
      holds := update (world.view pair).holds pass held }) :
    ({ world.setRow pair row with orphaned }.setPass pass progress).Consistent naming where
  __ := consistent
  views := by
    intro other
    rw [view_setPass]
    by_cases same : pair = other
    · subst other
      rw [given]
      simpa [view, World.setRow] using own
    · rw [(apart other same).1]
      have kept := (consistent.views other).drop pass
      simpa [view, World.setRow, (apart other same).2,
        AList.lookup_insert_ne (Ne.symm same)] using kept
  loaded := by
    intro other projection stored
    rcases update_cases stored with ⟨_same, given⟩ | ⟨_different, before⟩
    · exact absurd given (unloaded projection)
    · exact consistent.loaded other projection before

theorem Consistent.claims (taken : world.claims naming.deployment pass = some next) :
    next.Consistent naming := by
  unfold World.claims at taken
  split at taken
  next projection stored =>
    dsimp only at taken
    split at taken
    next row acquired =>
      cases taken
      unfold VerdictStore.claimProjection at acquired
      split at acquired
      next old found =>
        split_ifs at acquired with granted
        cases acquired
        obtain ⟨_later, matching, unapplied, free⟩ := granted
        have proper := consistent.loaded pass projection stored
        refine consistent.settle (if_pos rfl) ?_ ?_ ?_
        · intro other ne
          exact ⟨holdOn_other ne, rfl⟩
        · intro other impossible
          cases impossible
        · refine (consistent.views projection.pair).claim found
            { projection
              claimedUntil := world.now + naming.deployment.leaseDuration
              wrote := false
              phase := if projection.status = .confirmed then .creating else .reading }
            ⟨proper, ?_⟩ matching unapplied free ?_ pass
          · intro targets superseding
            split_ifs at superseding
          · dsimp only
            split_ifs with confirmed
            · trivial
            · intro id asks
              simp [EdgeNames.own, confirmed] at asks
      · cases acquired
    · cases taken
      exact consistent.endPass pass
  · cases taken

end

theorem live_of_within (stored : world.passes pass = some (.holding hold))
    (within : (world.claimOf pass).all (world.now < ·) = true) : world.now < hold.claimedUntil := by
  simpa [claimOf, stored] using within

theorem holds_of_stored (stored : world.passes pass = some (.holding hold)) :
    (world.view hold.projection.pair).holds pass = some hold := by
  simp [view, stored, holdOn]

section

variable (consistent : world.Consistent naming)
include consistent

theorem Consistent.createsEdge (within : world.WithinClaim (.createsEdge pass))
    (taken : world.createsEdge naming.deployment pass = some next) : next.Consistent naming := by
  unfold World.createsEdge at taken
  split at taken
  next projection claimedUntil wrote stored =>
    have live := live_of_within stored within
    have holding := holds_of_stored stored
    split at taken
    next id asks =>
      have named : id ≠ [] := naming.known_ne_nil (EdgeNames.own_known _ asks)
      have joined : projection.pair.joins (ownEdge id projection) = true := by
        simp [Pair.joins, ownEdge]
      split at taken
      next graph created =>
        cases taken
        obtain ⟨appended, fresh⟩ := GraphDB.createEdge_eq_ok named created
        have endpoint := createEdge_endpoint created
        subst graph
        apply consistent.moveHold (consistent.graph.append rfl endpoint fresh)
        · intro other ne
          exact filter_joins_append (joins_other joined ne)
        · have added := (consistent.views projection.pair).create
            { projection, claimedUntil, wrote := true, phase := .reading } holding live rfl rfl rfl
            (show (naming.names projection.pair).own projection =
              some (ownEdge id projection).id from asks) rfl
            (fun old mem => fresh old (mem_of_mem_filter mem))
          simpa [view, filter_append, joined] using added
      next refused =>
        cases taken
        obtain ⟨edge, mem, same⟩ := GraphDB.createEdge_eq_edgeExists refused
        change edge.id = id at same
        rw [← same] at asks
        have joins := consistent.joins mem (EdgeNames.own_known _ asks)
        apply consistent.moveHold consistent.graph (fun _ _ => rfl)
        exact (consistent.views projection.pair).recreate _ holding live rfl rfl rfl
          (mem_filter.mpr ⟨mem, joins⟩) asks
      · cases taken
        apply consistent.moveHold consistent.graph (fun _ _ => rfl)
        exact (consistent.views projection.pair).orphan _ holding live rfl rfl rfl
      · cases taken
        exact consistent.endPass pass
    · cases taken
  · cases taken

theorem Consistent.mem_humanTargets (projection : Projection) (id : Text) :
    id ∈ (humanTargets naming.deployment world.graph projection).map Prod.fst ↔
      id ∈ liveIDs (world.graph.edges.filter projection.pair.joins) ∧
        (naming.names projection.pair).own projection ≠ some id := by
  rw [← naming.own_eq]
  simp only [humanTargets, map_map, mem_map, mem_filter, decide_eq_true_eq, comp, mem_liveIDs]
  constructor
  · rintro ⟨edge, ⟨walked, target, kept, unended⟩, rfl⟩
    unfold GraphDB.traverse at walked
    split_ifs at walked with missing
    · cases walked
    · obtain ⟨mem, leaves⟩ := mem_filter.mp walked
      simp only [decide_eq_true_eq] at leaves
      refine ⟨⟨edge, ⟨mem, by simp [Pair.joins, leaves.1, target]⟩, rfl, unended⟩, ?_⟩
      intro asks
      rw [asks] at kept
      exact kept rfl
  · rintro ⟨⟨edge, ⟨mem, joins⟩, rfl, unended⟩, ne⟩
    have ends := joins
    simp only [Pair.joins, decide_eq_true_eq] at ends
    refine ⟨edge, ⟨?_, ends.2, ?_, unended⟩, rfl⟩
    · have endpoint := consistent.graph.endpoints edge mem
      rw [ends.1, Option.isSome_iff_ne_none] at endpoint
      unfold GraphDB.traverse
      rw [if_neg (by simpa using endpoint), mem_filter]
      exact ⟨mem, by simp [ends.1, consistent.graph.labels edge mem]⟩
    · -- Without an edge of its own the pass keeps the empty ID, which no edge has.
      have named := naming.known_ne_nil (consistent.known mem joins)
      cases asks : ownEdgeID naming.deployment projection with
      | none => exact named
      | some own =>
        intro same
        exact ne (asks.trans (congrArg some same.symm))

theorem Consistent.mem_panelTargets (proper : projection.Proper (naming.names projection.pair))
    (id : Text) :
    id ∈ (panelTargets world.graph projection).map Prod.fst ↔
      id ∈ liveIDs (world.graph.edges.filter projection.pair.joins) ∧
        id = (naming.names projection.pair).candidate := by
  unfold panelTargets
  rw [proper.candidate, mem_liveIDs]
  constructor
  · intro listed
    split at listed
    next edge found =>
      split_ifs at listed with unended
      · obtain ⟨mem, same⟩ := GraphDB.getEdge_eq_some_mem found
        have known : (naming.names projection.pair).Known edge.id := .inl same
        have joins := consistent.joins mem known
        rw [map_singleton, mem_singleton] at listed
        exact ⟨⟨edge, mem_filter.mpr ⟨mem, joins⟩, same.trans listed.symm, unended⟩,
          listed⟩
      · cases listed
    · cases listed
  · rintro ⟨⟨edge, mem, same, unended⟩, rfl⟩
    have found := GraphDB.getEdge_of_mem consistent.graph.distinct (mem_of_mem_filter mem)
    rw [same] at found
    simp [found, unended]

theorem Consistent.looksUp (within : world.WithinClaim (.looksUp pass))
    (taken : world.looksUp naming.deployment pass = some next) : next.Consistent naming := by
  unfold World.looksUp at taken
  split at taken
  next projection claimedUntil wrote stored =>
    cases taken
    have live := live_of_within stored within
    have holding := holds_of_stored stored
    have proper := ((consistent.views projection.pair).proper pass _ holding).projection
    apply consistent.moveHold consistent.graph (fun _ _ => rfl)
    refine (consistent.views projection.pair).lookUp _ holding live rfl rfl rfl rfl ?_
    intro id
    unfold targets
    split_ifs with human
    · exact consistent.mem_humanTargets projection id
    · exact consistent.mem_panelTargets proper id
  · cases taken

end

theorem filter_joins_supersede (graph : SameAsGraph) (id : Text) (supersededAt : Nat)
    (pair : Pair) :
    (graph.supersedeEdge id supersededAt).edges.filter pair.joins =
      PairView.superseded (graph.edges.filter pair.joins) id supersededAt := by
  simp only [GraphDB.supersedeEdge, PairView.superseded, filter_map]
  congr 1
  apply filter_congr
  intro edge _member
  simp only [comp, Pair.joins]
  split_ifs <;> rfl

theorem superseded_eq_self (absent : ∀ edge ∈ edges, edge.id ≠ id) (supersededAt : Nat) :
    PairView.superseded edges id supersededAt = edges := by
  unfold PairView.superseded
  rw [map_congr_left fun edge mem => if_neg (absent edge mem), map_id']

section

variable (consistent : world.Consistent naming)
include consistent

theorem Consistent.supersedes (within : world.WithinClaim (.supersedes pass))
    (taken : world.supersedes pass = some next) : next.Consistent naming := by
  unfold World.supersedes at taken
  split at taken
  next projection claimedUntil wrote target rest stored =>
    cases taken
    have live := live_of_within stored within
    have holding := holds_of_stored stored
    have proper := (consistent.views projection.pair).proper pass _ holding
    have known := proper.targets _ rfl target mem_cons_self
    apply consistent.moveHold (consistent.graph.supersede target.1 target.2)
    · intro other ne
      rw [filter_joins_supersede]
      apply superseded_eq_self
      intro edge mem same
      have otherKnown := (consistent.views other).known edge mem
      rw [same] at otherKnown
      exact ne (naming.known_unique known otherKnown)
    · rw [filter_joins_supersede]
      exact (consistent.views projection.pair).supersede
        { projection, claimedUntil, wrote := true, phase := .superseding rest } holding live
        rfl rfl rfl rfl
  · cases taken

theorem Consistent.markProjected (stored : world.passes pass = some (.holding hold))
    (live : world.now < hold.claimedUntil) {orphaned : Bool}
    (done : orphaned = false → hold.phase = .superseding []) :
    (world.markProjected pass hold orphaned).Consistent naming := by
  have holding := holds_of_stored stored
  unfold World.markProjected
  split
  next row marked =>
    unfold VerdictStore.markProjected at marked
    split at marked
    next old found =>
      split_ifs at marked with claimed
      cases marked
      obtain ⟨current, same, held⟩ :=
        (consistent.views hold.projection.pair).held pass hold holding live
      cases found.symm.trans same
      have kept := (consistent.views hold.projection.pair).row old found
      apply consistent.settle rfl
      · intro other ne
        exact ⟨rfl, update_of_ne ne.symm _ _⟩
      · intro projection impossible
        cases impossible
      · apply (consistent.views hold.projection.pair).finish holding live found
        intro matching intact
        rw [update_self] at intact
        exact PairView.settles_of_held kept held (done intact) matching
    · cases marked
  · exact consistent.endPass pass

theorem Consistent.marks (within : world.WithinClaim (.marks pass))
    (taken : world.marks pass = some next) : next.Consistent naming := by
  unfold World.marks at taken
  split at taken
  next hold stored =>
    have live := live_of_within stored within
    split at taken
    next done =>
      cases taken
      exact consistent.markProjected stored live (fun _ => done)
    · cases taken
      exact consistent.markProjected stored live (fun impossible => by cases impossible)
    · cases taken
  · cases taken

theorem Consistent.releases (within : world.WithinClaim (.releases pass))
    (taken : world.releases pass = some next) : next.Consistent naming := by
  unfold World.releases at taken
  split at taken
  next projection claimedUntil stored =>
    have live := live_of_within stored within
    have holding := holds_of_stored stored
    split at taken
    next row released =>
      cases taken
      unfold VerdictStore.releaseClaim at released
      split at released
      next old found =>
        split_ifs at released with claimed
        cases released
        obtain ⟨current, same, held⟩ :=
          (consistent.views projection.pair).held pass _ holding live
        cases found.symm.trans same
        apply consistent.settle rfl
        · intro other _different
          exact ⟨rfl, rfl⟩
        · intro other impossible
          cases impossible
        · apply (consistent.views projection.pair).finish holding live found
          intro applied
          rw [held.pending] at applied
          cases applied
      · cases released
    · cases taken
      exact consistent.endPass pass
  · cases taken

theorem Consistent.elapse (elapsed : Nat) :
    { world with now := world.now + elapsed }.Consistent naming where
  __ := consistent
  views pair := (consistent.views pair).elapse elapsed

theorem Consistent.resets :
    { world with store := VerdictStore.resetProjection world.store }.Consistent naming where
  __ := consistent
  views := by
    intro pair
    have kept := consistent.views pair
    simp only [view, VerdictStore.resetProjection, Library.lookup_mapRows]
    cases stored : world.store.lookup pair with
    | none => simpa [view, stored] using kept
    | some row =>
      rw [Option.map_some]
      split_ifs
      · exact kept.reset stored
      · simpa [view, stored] using kept

theorem Consistent.rebuilds (orderly : world.Orderly naming.versionOf .rebuilds) :
    { world with graph := .empty }.Consistent naming where
  __ := consistent
  views := by
    intro pair
    apply (consistent.views pair).rebuild
    intro row stored
    exact orderly ⟨pair, row⟩ (AList.mem_lookup_iff.mp stored)
  graph := .empty

theorem Consistent.step {event : Event} (agree : world.ClocksAgree event)
    (within : world.WithinClaim event) (orderly : world.Orderly naming.versionOf event)
    (taken : world.step naming.deployment event = some next) : next.Consistent naming := by
  cases event with
  | timePasses elapsed =>
    cases taken
    exact consistent.elapse elapsed
  | reconcileStarts run version newGroups pairs => exact consistent.reconcileStarts orderly taken
  | reconcileScreens run => exact consistent.reconcileScreens taken
  | reconcilePlans run => exact consistent.reconcilePlans taken
  | reconcileCreatesGroup run => exact consistent.reconcileCreatesGroup taken
  | reconcileWrites run => exact consistent.reconcileWrites orderly taken
  | reconcileEnqueues run => exact consistent.reconcileEnqueues taken
  | reconcileCrashes run =>
    simp only [World.step, World.reconcileCrashes] at taken
    split_ifs at taken
    cases taken
    apply consistent.setRun
    rintro _ ⟨⟩
  | panelDecides pass pair status decidedAt => exact consistent.panelDecides taken
  | panelAbandons pair decidedAt => exact consistent.panelAbandons taken
  | humanDecides pair status decidedAt => exact consistent.humanDecides agree taken
  | loads pass pair => exact consistent.loads taken
  | claims pass => exact consistent.claims taken
  | createsEdge pass => exact consistent.createsEdge within taken
  | looksUp pass => exact consistent.looksUp within taken
  | supersedes pass => exact consistent.supersedes within taken
  | marks pass => exact consistent.marks within taken
  | releases pass => exact consistent.releases within taken
  | crashes pass =>
    simp only [World.step, World.crashes] at taken
    split_ifs at taken
    cases taken
    exact consistent.endPass pass
  | resets =>
    cases taken
    exact consistent.resets
  | rebuilds =>
    cases taken
    exact consistent.rebuilds orderly

end

theorem consistent_initial (now : Nat) : (initial now).Consistent naming where
  views := by
    intro pair
    constructor
    · intro edge mem
      cases mem
    · exact nodup_nil
    · intro _ edge mem
      cases mem
    · intro row stored
      cases stored
    · intro row stored
      cases stored
    · intro pass hold holding
      cases holding
    · intro pass hold holding
      cases holding
    · intro pass hold other otherHold holding
      cases holding
  graph := .empty
  loaded := by
    intro pass projection stored
    cases stored
  runs := by
    intro run progress stored
    cases stored

def Undisturbed (versionOf : Pair → Text) (world : World) (event : Event) : Prop :=
  world.ClocksAgree event ∧ world.WithinClaim event ∧ world.Orderly versionOf event

theorem run_consistent (naming : Naming) {start : Nat} {events : List Event} {final : World}
    (undisturbed : Library.Along (step naming.deployment) (Undisturbed naming.versionOf)
      (initial start) events)
    (ran : Library.run (step naming.deployment) (initial start) events = some final) :
    final.Consistent naming := by
  refine Library.run_invariant_along ?_ (consistent_initial start) undisturbed ran
  intro world event next consistent condition taken
  exact consistent.step condition.1 condition.2.1 condition.2.2 taken

end World

end CrossCodex.Artifacts
