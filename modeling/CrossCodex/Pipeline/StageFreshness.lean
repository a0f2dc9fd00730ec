/-
No completed stage is stale, as long as three things the source does not check hold: the
completed-writes of candidate generation and synthesis are stored, a run with nothing left
to generate finds candidates recorded, and a retry keeps no completed stage that consumed
one it puts back.
-/

import CrossCodex.Pipeline.RunTracking

namespace CrossCodex.Pipeline

open Library
open Analyzer (Text)
open List

/-- What a live run relies on beyond what it tracks: the candidates and the synthesis behind
it are recorded, and what it works on has current inputs. -/
structure Relies (registry : Registry) (ledger : Ledger Text) (run : JobRun) : Prop where
  ready : PipelineStage.candidateGeneration.stageName ∈
      insertCandidateGeneration registry.analyzers →
    registry.passNames run.completed .afterCandidates = [] →
      PipelineStage.candidateGeneration.stageName ∈ run.completed
  generated : 3 ≤ run.phase.rank → run.phase.rank < 9 →
    PipelineStage.candidateGeneration.stageName ∈ insertCandidateGeneration registry.analyzers →
      PipelineStage.candidateGeneration.stageName ∈ ledger.done
  synthesized : 6 ≤ run.phase.rank → run.phase.rank < 9 →
    PipelineStage.synthesis.stageName ∈ ledger.done
  working : ∀ name ∈ run.active, ledger.Current registry.inputs name
  executing : ∀ stage, run.phase = .executing stage →
    ledger.Current registry.inputs stage.stageName ∧
      (stage = .candidateGeneration → registry.passNames run.completed .afterCandidates ≠ [])

variable {stage : PipelineStage}

namespace Relies

variable {registry : Registry} {ledger : Ledger Text} {run : JobRun}

variable (relies : Relies registry ledger run) {phase : JobPhase}
include relies

theorem move (running : run.phase.rank < 9) (generated : 3 ≤ phase.rank → 3 ≤ run.phase.rank ∨
      (PipelineStage.candidateGeneration.stageName ∈ insertCandidateGeneration registry.analyzers →
        PipelineStage.candidateGeneration.stageName ∈ ledger.done))
    (synthesized : 6 ≤ phase.rank → 6 ≤ run.phase.rank ∨
      PipelineStage.synthesis.stageName ∈ ledger.done)
    (waiting : ∀ stage, phase ≠ .executing stage) : Relies registry ledger { run with phase } :=
  { relies with
    generated := fun reached _ => by
      rcases generated reached with earlier | now
      · exact relies.generated earlier running
      · exact now
    synthesized := fun reached _ => by
      rcases synthesized reached with earlier | now
      · exact relies.synthesized earlier running
      · exact now
    executing := fun stage same => absurd same (waiting stage) }

theorem stop (last : phase.rank = 9) : Relies registry ledger { run with phase } :=
  { relies with
    generated := fun _ (running : phase.rank < 9) => by omega
    synthesized := fun _ (running : phase.rank < 9) => by omega
    executing := fun stage (same : phase = .executing stage) => by
      rw [same] at last
      cases stage <;> cases last }

theorem leaves (name : Text) {outputs failed : List Text} :
    Relies registry ledger
      { run with active := run.active.filter (· ≠ name), outputs, failed } :=
  { relies with working := fun other mem => relies.working other (mem_of_mem_filter mem) }

theorem grow {larger : Set Text} (grown : ledger.done ⊆ larger) :
    Relies registry { ledger with done := larger } run where
  ready := relies.ready
  generated reached running listed := grown (relies.generated reached running listed)
  synthesized reached running := grown (relies.synthesized reached running)
  working name mem := (relies.working name mem).mono grown
  executing stage phase := ⟨(relies.executing stage phase).1.mono grown, (relies.executing stage phase).2⟩

theorem execute {stage : Text} (idle : stage ∉ ledger.done) (apart : stage ∉ run.active)
    (waiting : ∀ other, run.phase ≠ .executing other) :
    Relies registry (ledger.execute stage) run where
  __ := relies
  working name mem :=
    (relies.working name mem).execute idle fun same => apart (same ▸ mem)
  executing other phase := absurd phase (waiting other)

theorem inputs_done (tracked : Tracked registry ledger.done run)
    (gathered : Gathered registry run) (phase : run.phase = .due stage) :
    ∀ input ∈ registry.inputs stage.stageName, input ∈ ledger.done := by
  have upstream : 3 < run.phase.rank → run.phase.rank < 9 →
      ∀ input ∈ insertCandidateGeneration registry.analyzers, input ∈ ledger.done := by
    intro late running input mem
    rcases mem_insertCandidateGeneration.mp mem with analyzer | ⟨rfl, _⟩
    · exact tracked.produced input (gathered.complete late running input analyzer)
    · exact relies.generated late.le running mem
  rw [registry.inputs_stage]
  cases stage with
  | candidateGeneration =>
    intro input mem
    cases mem
  | synthesis => exact upstream (by rw [phase]; decide) (by rw [phase]; decide)
  | graph =>
    exact forall_mem_concat (upstream (by rw [phase]; decide) (by rw [phase]; decide))
      (relies.synthesized (by rw [phase]; decide) (by rw [phase]; decide))

theorem stagePassed (here : run.phase = .due stage ∨ run.phase = .executing stage)
    (generated : stage = .candidateGeneration →
      PipelineStage.candidateGeneration.stageName ∈ insertCandidateGeneration registry.analyzers →
        stage.stageName ∈ ledger.done)
    (synthesized : stage = .synthesis → stage.stageName ∈ ledger.done) :
    Relies registry ledger { run with phase := stage.next } := by
  apply relies.move
  · rcases here with phase | phase <;> rw [phase] <;> cases stage <;> decide
  · intro _
    cases stage with
    | candidateGeneration => exact .inr (generated rfl)
    | synthesis | graph => rcases here with phase | phase <;> exact .inl (by rw [phase]; decide)
  · intro reached
    cases stage with
    | candidateGeneration => exact absurd reached (by decide)
    | synthesis => exact .inr (synthesized rfl)
    | graph => rcases here with phase | phase <;> exact .inl (by rw [phase]; decide)
  · intro other same
    cases stage <;> cases same

theorem attempted (tracked : Tracked registry ledger.done run) {pass : Pass} {name : Text}
    (phase : run.phase = .passing pass) (analyzer : name ∈ registry.analyzers)
    (idle : name ∉ ledger.done) (inactive : name ∉ run.active)
    (inputs : ∀ dep ∈ registry.dependsOn name, dep ∈ run.outputs) :
    Relies registry (ledger.execute name) { run with active := name :: run.active } := by
  have others := relies.execute idle inactive (by rw [phase]; intro stage same; cases same)
  refine { others with working := fun other mem => ?_ }
  rcases mem_cons.mp mem with rfl | earlier
  · refine Ledger.current_execute ?_ idle
    rw [registry.inputs_analyzer analyzer]
    exact fun input edge => tracked.produced input (inputs input edge)
  · exact others.working other earlier

theorem stageStarted (tracked : Tracked registry ledger.done run)
    (gathered : Gathered registry run) (phase : run.phase = .due stage)
    (runs : run.skips registry stage = false) :
    Relies registry (ledger.execute stage.stageName) { run with phase := .executing stage } := by
  have idle := tracked.due_not_done phase runs
  have quiet := gathered.quiet (by rw [phase]; intro pass same; cases same)
  have others := relies.execute idle (by rw [quiet]; exact not_mem_nil)
    (by rw [phase]; intro other same; cases same)
  refine { others with generated := ?_, synthesized := ?_, executing := ?_ }
  · intro (reached : 3 ≤ (JobPhase.executing stage).rank) _
    apply relies.generated <;> rw [phase] <;> cases stage <;>
      first | decide | exact absurd reached (by decide)
  · intro (reached : 6 ≤ (JobPhase.executing stage).rank) _
    apply relies.synthesized <;> rw [phase] <;> cases stage <;>
      first | decide | exact absurd reached (by decide)
  · intro other same
    cases same
    refine ⟨Ledger.current_execute (relies.inputs_done tracked gathered phase) idle, ?_⟩
    intro candidates none
    simp [JobRun.skips, candidates, none] at runs

end Relies

namespace Job

structure Consistent (registry : Registry) (job : Job) : Prop where
  tracks : job.Tracks registry
  gathers : job.Gathers registry
  fresh : job.ledger.Fresh job.registry.inputs
  relies : ∀ run, job.run = some run → Relies job.registry job.ledger run

def KeepsInputs (job : Job) : JobEvent → Prop
  | .stageCompletes write =>
    ∀ run ∈ job.run, run.phase = .executing .graph ∨ write.applied = true
  | .starts =>
    (∃ name ∈ job.registry.analyzers, name ∈ candidateDependentAnalyzers) →
      PipelineStage.candidateGeneration.stageName ∈ job.done ∨
        ∃ name ∈ job.registry.analyzers, name ∈ candidateDependentAnalyzers ∧ name ∉ job.done
  | .retries _ =>
    ∀ row ∈ keptRows job.rows, row.status = .completed →
      ∀ input ∈ job.registry.inputs row.stageName,
        input ∉ (resetRows job.rows).map StageRow.stageName
  | _ => True

instance decidableKeepsInputs (job : Job) (event : JobEvent) :
    Decidable (job.KeepsInputs event) := by
  cases event <;> unfold KeepsInputs <;> infer_instance

variable {registry : Registry} {job next : Job} {run : JobRun} {event : JobEvent} {write : Write}

/-- Freshness and what a run relies on, which the tracked state does not determine. -/
def Relying (job : Job) : Prop :=
  job.ledger.Fresh job.registry.inputs ∧
    ∀ run, job.run = some run → Relies job.registry job.ledger run

theorem relying_setRun {written : Job} {ledger : Ledger Text}
    (same : written.registry = job.registry) (kept : written.ledger = ledger)
    (fresh : ledger.Fresh job.registry.inputs) (relies : Relies job.registry ledger run) :
    (written.setRun run).Relying := by
  subst kept
  refine ⟨same ▸ fresh, fun current set => ?_⟩
  cases set
  change Relies written.registry written.ledger run
  rw [same]
  exact relies

theorem relying_withoutRun (fresh : job.ledger.Fresh job.registry.inputs)
    (same : next.registry = job.registry)
    (rows : completedStageSet next.rows = completedStageSet job.rows)
    (counts : next.executions = job.executions ∧ next.consumed = job.consumed)
    (ended : next.run = none) : next.Relying := by
  refine ⟨?_, fun current present => by rw [ended] at present; cases present⟩
  have ledger : next.ledger = job.ledger := by
    unfold Job.ledger done
    rw [rows, counts.1, counts.2]
  rw [ledger, same]
  exact fresh

theorem relying_completed {stage : Text} {change : Nat → StageRow → StageRow} (write : Write)
    (fresh : job.ledger.Fresh job.registry.inputs)
    (listed : stage ∈ job.rows.map StageRow.stageName)
    (sets : StageRow.Sets change .completed)
    (current : job.ledger.Current job.registry.inputs stage)
    (relies : ∀ ledger : Ledger Text, job.ledger.done ⊆ ledger.done →
      (write.applied = true → stage ∈ ledger.done) →
        (∀ done, ledger = { job.ledger with done } → Relies job.registry ledger run)) :
    ((job.write write stage change).setRun run).Relying := by
  cases applied : write.applied with
  | true =>
    refine relying_setRun rfl (ledger_write_completed applied listed sets)
      (fresh.complete current) (relies _ (Set.subset_insert _ _) (fun _ => .inl rfl) _ rfl)
  | false =>
    refine relying_setRun rfl (ledger_write_lost applied) fresh
      (relies _ subset_rfl (fun stored => ?_) _ rfl)
    rw [applied] at stored
    cases stored

theorem Consistent.listed_executing (before : job.Consistent registry)
    (candidates : stage = .candidateGeneration →
      job.registry.passNames run.completed .afterCandidates ≠ []) :
    stage.stageName ∈ job.rows.map StageRow.stageName := by
  apply before.tracks.named.symm.subset
  unfold buildStageNames
  cases stage with
  | candidateGeneration =>
    apply mem_append_left
    rw [mem_insertCandidateGeneration]
    obtain ⟨name, mem⟩ := exists_mem_of_ne_nil _ (candidates rfl)
    have both := mem_filter.mp mem
    exact .inr ⟨rfl, name, both.1, by simpa using (Bool.and_eq_true_iff.mp both.2).2⟩
  | synthesis => simp
  | graph => simp

theorem Consistent.runStep (before : job.Consistent registry) (present : job.run = some run)
    (kept : job.KeepsInputs event) (acts : RunStep job run event next) : next.Relying := by
  have fresh := before.fresh
  have relies := before.relies run present
  have tracked := before.tracks.run run present
  obtain rfl := before.gathers.registered
  have gathered := before.gathers.gathered run present
  have failing : Relies job.registry job.ledger { run with phase := .failing } := relies.stop rfl
  have running := StageRow.sets_updateStatus .running
  cases acts with
  | @attempted name write pass phase due unsettled inactive inputs =>
    have analyzer := job.registry.closure_subset _ (job.registry.passNames_subset _ _) due
    have idle := tracked.attempts_not_done analyzer unsettled
    have executed : ((job.write write name (StageRow.updateStatus .running)).execute name).ledger =
        job.ledger.execute name :=
      congrArg (Ledger.execute · name) (ledger_write_unfinished write idle running (by decide))
    exact relying_setRun rfl executed (fresh.execute idle)
      (relies.attempted tracked phase analyzer idle inactive inputs)
  | passedOver => exact relying_setRun rfl rfl fresh { relies with }
  | @analyzerStored name _ _ _ working | @analyzerUnstored name _ _ _ _ working =>
    refine relying_completed _ fresh (before.tracks.listed (tracked.working name working).1)
      (StageRow.sets_completeAnalysis _) (relies.working name working) ?_
    intro ledger grown _ done same
    subst same
    exact (relies.grow grown).leaves name
  | @analyzerFails name message write _ _ working =>
    exact relying_setRun rfl (ledger_write_unfinished write (tracked.working name working).2
      (StageRow.sets_updateError message) (by decide)) fresh (relies.leaves name)
  | @passEnds pass phase =>
    refine relying_setRun rfl rfl fresh (relies.move ?_ ?_ ?_ ?_)
    · rw [phase]
      cases pass <;> decide
    · intro reached
      cases pass with
      | beforeCandidates => exact absurd reached (by decide)
      | afterCandidates => exact .inl (by rw [phase]; decide)
    · intro reached
      cases pass <;> exact absurd reached (by decide)
    · intro stage same
      cases pass <;> cases same
  | @stageSkipped stage phase skips =>
    simp only [JobRun.skips, Bool.or_eq_true, Bool.and_eq_true, decide_eq_true_eq] at skips
    refine relying_setRun rfl rfl fresh (relies.stagePassed (.inl phase) ?_ ?_)
    · rintro rfl listed
      rcases skips with loaded | ⟨_, none⟩
      · exact tracked.loaded _ loaded
      · exact tracked.loaded _ (relies.ready listed none)
    · rintro rfl
      rcases skips with loaded | ⟨other, _⟩
      · exact tracked.loaded _ loaded
      · cases other
  | @stageStarted stage phase due =>
    have idle := tracked.due_not_done phase due
    have executed : ((job.write .stored stage.stageName (StageRow.updateStatus .running)).execute
        stage.stageName).ledger = job.ledger.execute stage.stageName :=
      congrArg (Ledger.execute · stage.stageName)
        (ledger_write_unfinished .stored idle running (by decide))
    exact relying_setRun rfl executed (fresh.execute idle)
      (relies.stageStarted tracked gathered phase due)
  | @stageUnstarted write stage phase due =>
    exact relying_setRun rfl (ledger_write_unfinished write (tracked.due_not_done phase due)
      running (by decide)) fresh failing
  | @stageCompletes write stage phase =>
    obtain ⟨current, candidates⟩ := relies.executing stage phase
    refine relying_completed write fresh (before.listed_executing candidates)
      (StageRow.sets_updateStatus .completed) current ?_
    intro ledger grown recorded done same
    subst same
    have stored : stage ≠ .graph → write.applied = true := by
      intro other
      rcases kept run present with graph | applied
      · rw [phase] at graph
        cases graph
        exact absurd rfl other
      · exact applied
    apply (relies.grow grown).stagePassed (.inr phase)
    · rintro rfl _
      exact recorded (stored (by decide))
    · rintro rfl
      exact recorded (stored (by decide))
  | @stageFails message write stage phase =>
    exact relying_setRun rfl (ledger_write_unfinished write (tracked.executing_not_done phase)
      (stageFails_sets message) (by decide)) fresh failing
  | passFails | errors => exact relying_setRun rfl rfl fresh failing
  | cancels => exact relying_setRun rfl rfl fresh (relies.stop rfl)
  | @endsFailed message =>
    exact relying_withoutRun fresh rfl
      (completedStageSet_endsWith (StageRow.sets_updateError message) (by decide)) ⟨rfl, rfl⟩ rfl
  | endsCancelled =>
    exact relying_withoutRun fresh rfl
      (completedStageSet_endsWith (StageRow.sets_updateStatus .cancelled) (by decide)) ⟨rfl, rfl⟩ rfl
  | completes | crashes => exact relying_withoutRun fresh rfl rfl ⟨rfl, rfl⟩ rfl

theorem Consistent.starts (before : job.Consistent registry) (kept : job.KeepsInputs .starts)
    (taken : job.starts = some next) : next.Relying := by
  unfold Job.starts at taken
  split_ifs at taken
  cases taken
  refine ⟨before.fresh, fun run present => ?_⟩
  cases present
  have ready : PipelineStage.candidateGeneration.stageName ∈
        insertCandidateGeneration job.registry.analyzers →
      job.registry.passNames job.done .afterCandidates = [] →
      PipelineStage.candidateGeneration.stageName ∈ job.done := by
    intro listed none
    rcases mem_insertCandidateGeneration.mp listed with analyzer | ⟨_, dependent⟩
    · exact absurd analyzer (job.registry.unreserved _)
    · rcases kept dependent with done | ⟨name, analyzer, reads, incomplete⟩
      · exact done
      · have due : name ∈ job.registry.passNames job.done .afterCandidates := by
          simp [Registry.passNames, analyzer, reads, incomplete]
        rw [none] at due
        cases due
  refine
    { ready
      generated := fun reached _ listed => ?_
      synthesized := fun reached _ => ?_
      working := fun _ mem => by cases mem
      executing := fun stage phase => ?_ }
  · simp only at reached
    split at reached
    · rename_i complete
      have all : ∀ name ∈ job.registry.analyzers, name ∈ job.done := by simpa using complete
      refine ready listed ?_
      rw [eq_nil_iff_forall_not_mem]
      intro name due
      have analyzer := job.registry.passNames_subset _ _ due
      simp [Registry.passNames, all name analyzer] at due
    · exact absurd reached (by decide)
  · simp only at reached
    split at reached <;> exact absurd reached (by decide)
  · simp only at phase
    split at phase <;> cases phase

theorem ledger_reset (rows : List StageRow) :
    completedStageSet (keptRows rows ++ (resetRows rows).map StageRow.reset) =
      completedStageSet (keptRows rows) := by
  rw [completedStageSet_append, completedStageSet_reset, append_nil]

/-- The reset keeps the completed stages before the first failed one, and by the condition
none of them consumed a stage that is put back. -/
theorem fresh_reset (before : job.Consistent registry) (kept : job.KeepsInputs (.retries write)) :
    { job.ledger with done := { name | name ∈ completedStageSet (keptRows job.rows) } }.Fresh
      job.registry.inputs := by
  have whole := keptRows_append_resetRows job.rows
  have subset : keptRows job.rows ⊆ job.rows := takeWhile_subset _
  refine before.fresh.restrict ?_ ?_
  · intro name stays
    obtain ⟨row, mem, completed, same⟩ := mem_completedStageSet.mp stays
    exact mem_completedStageSet.mpr ⟨row, subset mem, completed, same⟩
  · intro name stays input consumed done
    obtain ⟨row, mem, completed, rfl⟩ := mem_completedStageSet.mp stays
    have keeps := kept row mem completed input consumed
    obtain ⟨source, listed, finished, rfl⟩ := mem_completedStageSet.mp done
    rw [← whole] at listed
    rcases mem_append.mp listed with early | late
    · exact mem_completedStageSet.mpr ⟨source, early, finished, rfl⟩
    · exact absurd (mem_map_of_mem late) keeps

theorem Consistent.retries (before : job.Consistent registry) {rows : List StageRow}
    {status : JobStatus} (kept : job.KeepsInputs (.retries write)) (idle : job.run = none)
    (putBack : retryFromFailure job.status job.rows = some rows) :
    { job with rows, status }.Relying := by
  have nodup : (job.rows.map StageRow.stageName).Nodup :=
    before.tracks.named.nodup_iff.mpr job.registry.buildStageNames_nodup
  rw [retryFromFailure_eq job.status nodup] at putBack
  split at putBack
  · cases putBack
  · cases putBack
    refine ⟨?_, fun run present => ?_⟩
    · have fresh := fresh_reset before kept
      rw [← ledger_reset] at fresh
      exact fresh
    · change job.run = some run at present
      rw [present] at idle
      cases idle

theorem Consistent.step (before : job.Consistent registry) (kept : job.KeepsInputs event)
    (taken : job.step event = some next) : next.Consistent registry := by
  have relying : next.Relying := by
    cases step_cases taken with
    | starts taken => exact before.starts kept taken
    | retries idle putBack => exact before.retries kept idle putBack
    | runs present acts => exact before.runStep present kept acts
  exact ⟨before.tracks.step taken, before.gathers.step taken, relying.1, relying.2⟩

theorem created_consistent {names : List Text}
    (listed : names.Perm (buildStageNames registry.analyzers)) :
    (created registry names).Consistent registry where
  tracks := created_tracks listed
  gathers := created_gathers registry names
  fresh := by
    intro stage done
    obtain ⟨row, mem, completed, _⟩ := mem_completedStageSet.mp done
    obtain ⟨name, _, rfl⟩ := mem_map.mp mem
    cases completed
  relies run present := by cases present

/-- For every registry, every listing of the stages and every history whose steps meet the
condition: a stage recorded completed has every stage it consumed recorded completed, and
none of those was executed again since. -/
theorem completed_stage_fresh (registry : Registry) (names : List Text)
    (listed : names.Perm (buildStageNames registry.analyzers)) (events : List JobEvent)
    (final : Job) (kept : Along step KeepsInputs (created registry names) events)
    (ran : Library.run step (created registry names) events = some final) :
    ∀ stage ∈ completedStageSet final.rows, ∀ input ∈ registry.inputs stage,
      input ∈ completedStageSet final.rows ∧
        final.executions input = final.consumed stage input := by
  have consistent : final.Consistent registry := run_invariant_along
    (fun _state _event _next before holds taken => Consistent.step before holds taken)
    (created_consistent listed) kept ran
  have fresh := consistent.fresh
  rw [consistent.tracks.registered] at fresh
  exact fresh

def retriedGeneration : List JobEvent :=
  candidateGenerationFails ++
    [.retries .stored, .starts, .attempts "classify".toList .stored,
      .analyzerCompletes "classify".toList none .stored]

theorem completed_stage_fresh_retried :
    ∃ final, Library.run step (created production productionStages) retriedGeneration =
        some final ∧
      ∀ stage ∈ completedStageSet final.rows, ∀ input ∈ production.inputs stage,
        input ∈ completedStageSet final.rows ∧
          final.executions input = final.consumed stage input :=
  ⟨_, rfl, completed_stage_fresh production productionStages (by decide) retriedGeneration _
    (by decide) rfl⟩

/-- `alpha` depends on `zeta`, which is listed after it; `mid` depends on neither. -/
def alphaOverZeta : Registry where
  analyzers := ["mid".toList, "zeta".toList, "alpha".toList]
  dependsOn name := if name = "alpha".toList then ["zeta".toList] else []
  distinct := by decide
  registered := by decide
  acyclic := acyclic_of_rank (fun name => if name = "alpha".toList then 1 else 0) (by
    intro name dependency edge
    split_ifs at edge ⊢ <;> simp_all)
  unreserved := by
    intro stage
    cases stage <;> decide

def loneAnalyzer : Registry where
  analyzers := ["classify".toList]
  dependsOn _ := []
  distinct := by decide
  registered := by decide
  acyclic := acyclic_of_rank (fun _ => 0) (by
    intro name dependency edge
    cases edge)
  unreserved := by
    intro stage
    cases stage <;> decide

def finishes (synthesisWrite : Write) : List JobEvent :=
  [.passEnds, .stageSkipped, .passEnds, .stageStarts .stored, .stageCompletes synthesisWrite,
    .stageStarts .stored, .stageCompletes .stored, .completes .stored]

/-- Two jobs that end completed with a stale stage: `alpha` was computed from the first
execution of `zeta`, which a retry put back and ran again; and graph is completed over a
synthesis whose completed-write was lost. -/
theorem completed_job_has_stale_stage :
    (Library.run step
      (created alphaOverZeta ["alpha".toList, "graph".toList, "mid".toList, "synthesis".toList,
        "zeta".toList])
      ([.starts, .attempts "mid".toList .stored, .attempts "zeta".toList .stored,
        .analyzerFails "mid".toList [] .stored,
        .analyzerCompletes "zeta".toList none .stored, .attempts "alpha".toList .stored,
        .analyzerCompletes "alpha".toList none .stored, .passEnds, .ends [] .stored [],
        .retries .stored, .starts, .attempts "mid".toList .stored,
        .attempts "zeta".toList .stored, .analyzerCompletes "mid".toList none .stored,
        .analyzerCompletes "zeta".toList none .stored] ++ finishes .stored)).map
      (fun final => (final.status, completedStageSet final.rows,
        final.executions "zeta".toList, final.consumed "alpha".toList "zeta".toList)) =
      some (.completed, ["alpha".toList, "graph".toList, "mid".toList, "synthesis".toList,
        "zeta".toList], 2, 1) ∧
    (Library.run step
      (created loneAnalyzer ["classify".toList, "graph".toList, "synthesis".toList])
      ([.starts, .attempts "classify".toList .stored,
        .analyzerCompletes "classify".toList none .stored] ++ finishes .lost)).map
      (fun final => (final.status, completedStageSet final.rows)) =
      some (.completed, ["classify".toList, "graph".toList]) := by
  decide

end Job

end CrossCodex.Pipeline
