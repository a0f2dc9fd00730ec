/-
Legal holds and the purge (pkg/retention/engine.go, hold.go). A Scan reads the active holds
once. A hold for a job is compared with the ID of a candidate. No collector lists a job's
attestation objects, so that no purge takes them.
-/

import CrossCodex.Retention.Scan

namespace CrossCodex.Retention

open Analyzer (Text)
open List

variable {holds : List Hold} {phase : Phase}

namespace Phase

def scan? : Phase → Option Scan
  | .idle => none
  | .loading scan => some scan
  | .collecting scan _ _ _ => some scan
  | .choosing scan _ _ => some scan
  | .handling scan _ _ _ _ => some scan

def loaded? : Phase → Option (Scan × List Hold)
  | .idle => none
  | .loading _ => none
  | .collecting scan holds _ _ => some (scan, holds)
  | .choosing scan holds _ => some (scan, holds)
  | .handling scan holds _ _ _ => some (scan, holds)

def candidates : Phase → List Candidate
  | .idle => []
  | .loading _ => []
  | .collecting _ _ _ found => found
  | .choosing _ _ candidates => candidates
  | .handling _ _ candidate rest _ => candidate :: rest

theorem scan?_of_loaded? {scan : Scan} (running : phase.loaded? = some (scan, holds)) :
    phase.scan? = some scan := by
  cases phase <;> cases running <;> rfl

end Phase

variable {world : World} {event : Event} {hold : Hold}

namespace World

theorem handle_holds (world : World) (scan : Scan) (holds : List Hold) (candidate : Candidate)
    (rest : List Candidate) (stage : Stage) :
    (world.handle scan holds candidate rest stage).holds = world.holds ∧
      (world.handle scan holds candidate rest stage).clock = world.clock := by
  unfold handle
  split
  · split <;> exact ⟨rfl, rfl⟩
  · exact ⟨rfl, rfl⟩
  · split
    · split <;> exact ⟨rfl, rfl⟩
    · exact ⟨rfl, rfl⟩
  · exact ⟨rfl, rfl⟩
  · exact ⟨rfl, rfl⟩
  · exact ⟨rfl, rfl⟩

theorem advance_holds {next : World} (works : world.advance = some next) :
    next.holds = world.holds ∧ next.clock = world.clock := by
  unfold advance at works
  split at works
  · cases works
  · cases works; exact ⟨rfl, rfl⟩
  · cases works; exact ⟨rfl, rfl⟩
  · cases works; exact ⟨rfl, rfl⟩
  · cases works; exact ⟨rfl, rfl⟩
  · split at works
    · cases works; exact ⟨rfl, rfl⟩
    · cases works; exact ⟨rfl, rfl⟩
  · cases works
    exact world.handle_holds _ _ _ _ _

theorem step_holds {next : World} (stepped : world.step event = some next) :
    (next.holds = world.holds ∧ world.clock ≤ next.clock) ∨
      (next.clock = world.clock ∧
        ((∃ hold, hold.createdAt = world.clock ∧ next.holds = world.holds ++ [hold]) ∨
          ∃ tenantID name, next.holds = world.release tenantID name)) := by
  cases event with
  | passes time => cases stepped; exact .inl ⟨rfl, Nat.le_add_right _ _⟩
  | createsHold hold =>
    simp only [step] at stepped
    split at stepped
    · rename_i accepted
      cases stepped
      exact .inr ⟨rfl, .inl ⟨hold, accepted.1, rfl⟩⟩
    · cases stepped
  | releasesHold tenantID name => cases stepped; exact .inr ⟨rfl, .inr ⟨tenantID, name, rfl⟩⟩
  | rewrites removed added => cases stepped; exact .inl ⟨rfl, le_rfl⟩
  | puts tenantID key object => cases stepped; exact .inl ⟨rfl, le_rfl⟩
  | removes tenantID key => cases stepped; exact .inl ⟨rfl, le_rfl⟩
  | begins tenantID userID policy dryRun =>
    simp only [step] at stepped
    split at stepped
    · cases stepped; exact .inl ⟨rfl, le_rfl⟩
    · cases stepped
  | advances =>
    obtain ⟨same, clock⟩ := advance_holds stepped
    exact .inl ⟨same, clock.ge⟩
  | stores kept =>
    simp only [step, store] at stepped
    split at stepped
    · cases stepped; exact .inl ⟨rfl, le_rfl⟩
    · cases stepped
  | fails =>
    simp only [step, fail] at stepped
    split at stepped
    · cases stepped; exact .inl ⟨rfl, le_rfl⟩
    · cases stepped; exact .inl ⟨rfl, le_rfl⟩
    · cases stepped; exact .inl ⟨rfl, le_rfl⟩
    · cases stepped
  | aborts => cases stepped; exact .inl ⟨rfl, le_rfl⟩

theorem clock_le_of_step {next : World} (stepped : world.step event = some next) :
    world.clock ≤ next.clock := by
  rcases step_holds stepped with ⟨_, later⟩ | ⟨same, _⟩
  · exact later
  · exact same.ge

theorem hold_of_step {next : World} (stepped : world.step event = some next)
    (mem : hold ∈ next.holds) (unreleased : hold.releasedAt = none) :
    hold ∈ world.holds ∨ hold.createdAt = world.clock := by
  rcases step_holds stepped with ⟨same, _⟩ | ⟨_, ⟨created, now, grown⟩ | ⟨tenantID, name, released⟩⟩
  · exact .inl (same ▸ mem)
  · rw [grown] at mem
    rcases mem_append.mp mem with old | new
    · exact .inl old
    · rw [mem_singleton.mp new]
      exact .inr now
  · rw [released] at mem
    obtain ⟨old, present, rfl⟩ := mem_map.mp mem
    split at unreleased
    · cases unreleased
    · rename_i kept
      rw [if_neg kept]
      exact .inl present

end World

theorem Hold.activeAt_mono {now later : Nat} (ordered : now ≤ later)
    (active : hold.activeAt later = true) : hold.activeAt now = true := by
  unfold activeAt at *
  rw [Bool.and_eq_true] at *
  refine ⟨active.1, ?_⟩
  cases limit : hold.expiresAt with
  | none => rfl
  | some expires =>
    have running := active.2
    rw [limit, Option.all_some, decide_eq_true_eq] at running
    rw [Option.all_some, decide_eq_true_eq]
    omega

theorem Hold.unreleased_of_active {now : Nat} (active : hold.activeAt now = true) :
    hold.releasedAt = none := by
  unfold activeAt at active
  rw [Bool.and_eq_true] at active
  exact of_decide_eq_true active.1

/-- The holds contain every hold in force that was there when the scan began. -/
def Seen (world : World) (scan : Scan) (holds : List Hold) : Prop :=
  ∀ hold ∈ world.holds, hold.createdAt < scan.now → hold.activeAt world.clock = true →
    hold.visibleTo scan.tenantID = true → hold ∈ holds

theorem Seen.step {next : World} {scan : Scan} (seen : Seen world scan holds)
    (started : scan.now ≤ world.clock) (stepped : world.step event = some next) :
    Seen next scan holds := by
  intro hold mem before active visible
  rcases World.hold_of_step stepped mem (Hold.unreleased_of_active active) with old | created
  · exact seen hold old before (Hold.activeAt_mono (World.clock_le_of_step stepped) active) visible
  · omega

theorem seen_active (world : World) (scan : Scan) (started : scan.now ≤ world.clock) :
    Seen world scan (world.active scan.tenantID scan.now) := by
  intro hold mem _ active visible
  apply mem_filter.mpr
  rw [Bool.and_eq_true]
  exact ⟨mem, visible, Hold.activeAt_mono started active⟩

def Collected (scan : Scan) (candidate : Candidate) : Prop :=
  candidate.tenantID = scan.tenantID ∧
    (candidate.store = .object → "attestation/".toList <+: candidate.objectKey)

variable {candidate : Candidate}

theorem collect_collected (world : World) (scan : Scan) (collector : Collector)
    (objects : ∀ dataClass, collector = .objects dataClass → dataClass = .attestation)
    (mem : candidate ∈ world.collect scan collector) : Collected scan candidate := by
  cases collector with
  | jobs =>
    obtain ⟨row, kept, rfl⟩ := mem_map.mp mem
    have selects := (mem_filter.mp kept).2
    simp only [Bool.and_eq_true, decide_eq_true_eq] at selects
    exact ⟨selects.1.1.1.2, nofun⟩
  | catalogs =>
    obtain ⟨row, kept, rfl⟩ := mem_map.mp mem
    have selects := (mem_filter.mp kept).2
    simp only [Bool.and_eq_true, decide_eq_true_eq] at selects
    exact ⟨selects.1.2, nofun⟩
  | objects dataClass =>
    obtain ⟨entry, kept, rfl⟩ := mem_map.mp mem
    have selects := (mem_filter.mp kept).2
    simp only [Bool.and_eq_true, isPrefixOf_iff_prefix, objects dataClass rfl] at selects
    exact ⟨rfl, fun _ => selects.1.2⟩

structure Orderly (phase : Phase) : Prop where
  collected : ∀ scan, phase.scan? = some scan → ∀ candidate ∈ phase.candidates,
    Collected scan candidate
  collectors : ∀ scan holds collectors found, phase = .collecting scan holds collectors found →
    ∀ dataClass, Collector.objects dataClass ∈ collectors → dataClass = .attestation
  spared : ∀ scan holds candidate rest stage, phase = .handling scan holds candidate rest stage →
    held holds candidate = false ∧ stage.Fits candidate

theorem Orderly.next {after : Phase} (orderly : Orderly phase)
    (moves : Phase.Next world phase after) : Orderly after := by
  cases moves with
  | stays phase => exact orderly
  | stops phase =>
    constructor
    · intro scan none; cases none
    · intro _ _ _ _ same; cases same
    · intro _ _ _ _ _ same; cases same
  | begins scan now =>
    constructor
    · intro _ _ candidate none; cases none
    · intro _ _ _ _ same; cases same
    · intro _ _ _ _ _ same; cases same
  | loads scan =>
    constructor
    · intro _ _ candidate none; cases none
    · intro _ _ _ _ same dataClass mem
      cases same
      simp only [World.collectors, mem_cons, reduceCtorEq, Collector.objects.injEq,
        not_mem_nil, or_false, false_or] at mem
      exact mem
    · intro _ _ _ _ _ same; cases same
  | collects scan holds collector more found =>
    have earlier := orderly.collectors _ _ _ _ rfl
    constructor
    · intro other same candidate mem
      cases same
      rcases mem_append.mp mem with old | new
      · exact orderly.collected scan rfl candidate old
      · apply collect_collected world scan collector _ new
        intro dataClass same
        exact earlier dataClass (same ▸ mem_cons_self)
    · intro _ _ _ _ same dataClass mem
      cases same
      exact earlier dataClass (mem_cons_of_mem _ mem)
    · intro _ _ _ _ _ same; cases same
  | collected scan holds found =>
    constructor
    · exact orderly.collected
    · intro _ _ _ _ same; cases same
    · intro _ _ _ _ _ same; cases same
  | passesOver scan holds candidate rest =>
    constructor
    · intro other same pending mem
      exact orderly.collected other same pending (mem_cons_of_mem _ mem)
    · intro _ _ _ _ same; cases same
    · intro _ _ _ _ _ same; cases same
  | takes scan holds candidate rest spared =>
    constructor
    · exact orderly.collected
    · intro _ _ _ _ same; cases same
    · intro _ _ _ _ _ same
      cases same
      exact ⟨spared, trivial⟩
  | works scan holds candidate rest stage after fits =>
    constructor
    · exact orderly.collected
    · intro _ _ _ _ same; cases same
    · intro _ _ _ _ _ same
      cases same
      obtain ⟨spared, before⟩ := orderly.spared _ _ _ _ _ rfl
      exact ⟨spared, fits before⟩
  | leaves scan holds candidate rest stage =>
    constructor
    · intro other same pending mem
      exact orderly.collected other same pending (mem_cons_of_mem _ mem)
    · intro _ _ _ _ same; cases same
    · intro _ _ _ _ _ same; cases same

structure Guarded (world : World) : Prop where
  orderly : Orderly world.phase
  started : ∀ scan, world.phase.scan? = some scan → scan.now ≤ world.clock
  loaded : ∀ scan holds, world.phase.loaded? = some (scan, holds) → Seen world scan holds

theorem guarded_idle (idle : world.phase = .idle) : Guarded world := by
  constructor
  · rw [idle]
    constructor
    · intro scan none; cases none
    · intro _ _ _ _ same; cases same
    · intro _ _ _ _ _ same; cases same
  · intro scan running
    rw [idle] at running
    cases running
  · intro scan holds running
    rw [idle] at running
    cases running

theorem Phase.Next.kept {after : Phase} (moves : Phase.Next world phase after) :
    (∀ scan, after.scan? = some scan → phase.scan? = some scan ∨ scan.now = world.clock) ∧
      ∀ scan holds, after.loaded? = some (scan, holds) →
        phase.loaded? = some (scan, holds) ∨
          (phase.scan? = some scan ∧ holds = world.active scan.tenantID scan.now) := by
  cases moves with
  | stops phase =>
    constructor
    · intro scan none; cases none
    · intro scan holds none; cases none
  | begins scan now =>
    constructor
    · intro other same
      cases same
      exact .inr now
    · intro other holds none; cases none
  | loads scan =>
    constructor
    · intro other same
      exact .inl same
    · intro other holds same
      cases same
      exact .inr ⟨rfl, rfl⟩
  | stays | collects | collected | passesOver | takes | works | leaves =>
    exact ⟨fun _ same => .inl same, fun _ _ same => .inl same⟩

theorem Guarded.step {next : World} (guarded : Guarded world)
    (stepped : world.step event = some next) : Guarded next := by
  have moves := World.step_phase stepped
  have later := World.clock_le_of_step stepped
  constructor
  · exact guarded.orderly.next moves
  · intro scan running
    rcases moves.kept.1 scan running with same | begun
    · exact le_trans (guarded.started scan same) later
    · omega
  · intro scan holds running
    rcases moves.kept.2 scan holds running with same | ⟨same, rfl⟩
    · have started := guarded.started scan (Phase.scan?_of_loaded? same)
      exact (guarded.loaded scan holds same).step started stepped
    · have started := guarded.started scan same
      exact (seen_active world scan started).step started stepped

theorem run_guarded {start : World} {events : List Event} (idle : start.phase = .idle)
    (ran : Library.run World.step start events = some world) : Guarded world :=
  Library.run_invariant (fun _ _ _ guarded stepped => Guarded.step guarded stepped)
    (guarded_idle idle) ran

theorem held_of_covers (mem : hold ∈ holds) (covers : hold.covers candidate = true) :
    held holds candidate = true :=
  any_eq_true.mpr ⟨hold, mem, covers⟩

theorem visibleTo_of_covers (covers : hold.covers candidate = true) :
    hold.visibleTo candidate.tenantID = true := by
  simp only [Hold.covers, HoldScope.matches, Bool.and_eq_true, Bool.or_eq_true,
    decide_eq_true_eq] at covers
  simp only [Hold.visibleTo, Bool.or_eq_true, decide_eq_true_eq]
  rcases covers.1.2 with wild | same
  · exact .inr wild
  · exact .inl same.symm

/-- A statement that takes a row of a job, cached results apart, is one of that job's purge. -/
theorem jobID_of_selected {row : Row} {aggregate : DbAggregate} {source : TableName × Column}
    {jobID : Text} (belongs : row.job = some jobID)
    (found : dbAggregates candidate.dataClass = some aggregate)
    (mem : source ∈ aggregate.statements)
    (own : row.table = .llmResultCache → candidate.dataClass = .jobResults)
    (selected : row.selected candidate.tenantID candidate.id source = true) :
    candidate.id = jobID := by
  simp only [Row.selected, Bool.and_eq_true, decide_eq_true_eq] at selected
  obtain ⟨⟨table, _⟩, column⟩ := selected
  rw [← Row.jobID_of_job belongs, ← column]
  suffices source.2 = .jobID by rw [this]; rfl
  cases dataClass : candidate.dataClass with
  | jobResults =>
    rw [dataClass] at found
    cases found
    clear column table
    revert source
    decide
  | catalogs =>
    rw [dataClass] at found own
    cases found
    have other : row.job = none ∨ row.table = .llmResultCache := by
      simp only [DbAggregate.statements, cons_append, nil_append, mem_cons, not_mem_nil,
        or_false] at mem
      rcases mem with rfl | rfl | rfl | rfl | rfl | rfl <;> simp [Row.job, table]
    rcases other with none | cached
    · rw [none] at belongs
      cases belongs
    · cases own cached
  | embeddings | attestation =>
    rw [dataClass] at found
    cases found

theorem not_attestation_of_ofJob {tenantID key jobID : Text} {object : Object}
    (belongs : (Piece.object tenantID key object).OfJob jobID) :
    ¬"attestation/".toList <+: key := by
  intro listed
  obtain ⟨_, rfl⟩ := belongs
  rw [prefix_iff_eq_take] at listed
  cases listed

/-- With a hold in force that was there before the scan began, nothing is purged as a
candidate the hold covers, and nothing of a job the hold names is purged, save a cached result
with its catalog. -/
theorem purge_spares_held {start world next : World} {events : List Event}
    (idle : start.phase = .idle) (ran : Library.run World.step start events = some world)
    {scan : Scan} {candidate : Candidate} {piece : Piece}
    (purges : world.Purges next scan candidate piece) {hold : Hold} (member : hold ∈ world.holds)
    (active : hold.activeAt world.clock = true) (before : hold.createdAt < scan.now) :
    hold.covers candidate = false ∧
      (piece.OfJob hold.scope.jobID →
        (piece.cached = true → candidate.dataClass = .jobResults) →
          hold.scope.matches candidate = false) := by
  have guarded := run_guarded idle ran
  obtain ⟨holds, rest, stage, phase⟩ := purges.handles
  obtain ⟨spared, fits⟩ := guarded.orderly.spared scan holds candidate rest stage phase
  have running : world.phase.scan? = some scan := by rw [phase]; rfl
  have collected := guarded.orderly.collected scan running candidate (by
    rw [phase]; exact mem_cons_self)
  have uncovered : hold.covers candidate = false := by
    rw [Bool.eq_false_iff]
    intro covers
    have visible := visibleTo_of_covers covers
    rw [collected.1] at visible
    have loaded := guarded.loaded scan holds (by rw [phase]; rfl) hold member before active visible
    rw [held_of_covers loaded covers] at spared
    cases spared
  refine ⟨uncovered, ?_⟩
  intro belongs own
  rcases purges.cases with ⟨row, rfl, _, _, payload, source, more, removed, deleting, selected⟩ |
    ⟨object, rfl, _, _, payload, deleting⟩
  · rw [phase] at deleting
    cases deleting
    obtain ⟨_, aggregate, found, all⟩ := fits
    have same := jobID_of_selected belongs found (all source mem_cons_self)
      (fun cached => own (decide_eq_true cached)) selected
    unfold Hold.covers at uncovered
    rw [same, decide_eq_true rfl, Bool.or_true, Bool.and_true] at uncovered
    exact uncovered
  · rw [phase] at deleting
    cases deleting
    exact absurd (collected.2 fits) (not_attestation_of_ofJob belongs)

namespace HeldRun

def job (jobID : Text) : Row :=
  { table := .jobs, tenantID := "t".toList, jobID, catalogID := [], sourceCatalogID := [],
    targetCatalogID := [], status := "completed".toList, createdBy := "u".toList, createdAt := 1,
    content := [] }

def holdOn (jobID : Text) (createdAt : Nat) : Hold :=
  { name := jobID, scope := ⟨none, "t".toList, jobID⟩, createdAt, expiresAt := none,
    releasedAt := none }

def start : World :=
  { clock := 100
    holds := [holdOn "held".toList 50]
    rows := [job "held".toList, job "late".toList]
    objects := ∅
    archive := ∅
    readBack := []
    phase := .idle }

/-- The scan loads the holds; then the other job is put on hold; then the scan goes on. -/
def events (actions : Nat) : List Event :=
  [.begins "t".toList [] ⟨fun _ _ => some 10⟩ false, .advances,
    .createsHold (holdOn "late".toList 100)] ++ List.replicate actions .advances

def after (actions : Nat) : World := (Library.run World.step start (events actions)).getD start

def scan : Scan := ⟨"t".toList, [], ⟨fun _ _ => some 10⟩, 100, false⟩

def jobCandidate (jobID : Text) : Candidate :=
  ⟨.postgres, .jobResults, jobID, "t".toList, 1, []⟩

theorem purges_late :
    (after 17).Purges (after 18) scan (jobCandidate "late".toList) (.row (job "late".toList)) where
  works := rfl
  handles := ⟨_, _, _, rfl⟩
  had := by decide +kernel
  gone := by decide +kernel

end HeldRun

open HeldRun in
/-- The purge of the other job passes over the hold that was there first, which keeps its
job to the end. -/
theorem purge_spares_held_job :
    (holdOn "held".toList 50).covers (jobCandidate "held".toList) = true ∧
      job "held".toList ∈ (HeldRun.after 20).rows ∧
      (holdOn "held".toList 50).covers (jobCandidate "late".toList) = false := by
  refine ⟨by decide, by decide +kernel, ?_⟩
  have ran : Library.run World.step start (events 17) = some (HeldRun.after 17) := rfl
  exact (purge_spares_held rfl ran purges_late (by decide +kernel) (by decide +kernel)
    (by decide)).1

open HeldRun in
/-- The job put on hold while the scan runs is purged. -/
theorem held_data_purged :
    (HeldRun.after 17).Purges (HeldRun.after 18) scan (jobCandidate "late".toList)
        (.row (job "late".toList)) ∧
      holdOn "late".toList 100 ∈ (HeldRun.after 17).holds ∧
      (holdOn "late".toList 100).activeAt (HeldRun.after 17).clock = true ∧
      (holdOn "late".toList 100).covers (jobCandidate "late".toList) = true := by
  refine ⟨purges_late, ?_⟩
  decide +kernel

end CrossCodex.Retention
