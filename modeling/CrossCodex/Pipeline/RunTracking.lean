/-
What a live run knows of the stage rows, whatever was lost or put back before it.
-/

import CrossCodex.Pipeline.Executions

namespace CrossCodex.Pipeline

open Library
open Analyzer (Text)
open List

structure Tracked (registry : Registry) (done : Set Text) (run : JobRun) : Prop where
  loaded : ∀ name ∈ run.completed, name ∈ done
  produced : ∀ name ∈ run.outputs, name ∈ done
  settled : ∀ name ∈ registry.analyzers, name ∈ done → name ∈ run.outputs ∨ name ∈ run.failed
  working : ∀ name ∈ run.active, name ∈ registry.analyzers ∧ name ∉ done
  ahead : ∀ stage : PipelineStage, stage.stageName ∈ done →
    stage.stageName ∈ run.completed ∨ stage.next.rank ≤ run.phase.rank
  executing : ∀ stage, run.phase = .executing stage → stage.stageName ∉ run.completed

variable {name : Text} {outputs failed : List Text}

namespace Tracked

variable {registry : Registry} {done : Set Text} {run : JobRun}

variable (tracked : Tracked registry done run) {stage : PipelineStage} {after : Set Text}
include tracked

theorem move {phase : JobPhase} (later : run.phase.rank ≤ phase.rank)
    (executing : ∀ stage, phase = .executing stage → stage.stageName ∉ run.completed) :
    Tracked registry done { run with phase } :=
  { tracked with
    ahead := fun stage recorded => by
      rcases tracked.ahead stage recorded with loaded | passed
      · exact .inl loaded
      · exact .inr (passed.trans later)
    executing }

theorem due_not_done (phase : run.phase = .due stage) (runs : run.skips registry stage = false) :
    stage.stageName ∉ done := by
  intro recorded
  rcases tracked.ahead stage recorded with loaded | passed
  · simp [JobRun.skips, loaded] at runs
  · rw [phase] at passed
    have before := stage.rank_due
    have after := stage.rank_executing
    omega

theorem executing_not_done (phase : run.phase = .executing stage) : stage.stageName ∉ done := by
  intro recorded
  rcases tracked.ahead stage recorded with loaded | passed
  · exact tracked.executing stage phase loaded
  · rw [phase] at passed
    have after := stage.rank_executing
    omega

theorem attempts_not_done (analyzer : name ∈ registry.analyzers)
    (unsettled : run.settled name = false) : name ∉ done := by
  intro recorded
  rcases tracked.settled name analyzer recorded with output | failure
  · simp [JobRun.settled, output] at unsettled
  · simp [JobRun.settled, failure] at unsettled

theorem leaves (working : name ∈ run.active) (grows : done ⊆ after)
    (only : ∀ other ∈ after, other = name ∨ other ∈ done) (moreOutputs : run.outputs ⊆ outputs)
    (moreFailed : run.failed ⊆ failed)
    (held : ∀ other ∈ outputs, other ∈ run.outputs ∨ other ∈ after)
    (left : name ∈ after → name ∈ outputs ∨ name ∈ failed) :
    Tracked registry after
      { run with active := run.active.filter (· ≠ name), outputs := outputs, failed := failed } where
  loaded other mem := grows (tracked.loaded other mem)
  produced other mem := by
    rcases held other mem with earlier | now
    · exact grows (tracked.produced other earlier)
    · exact now
  settled other analyzer recorded := by
    rcases only other recorded with rfl | earlier
    · exact left recorded
    · rcases tracked.settled other analyzer earlier with output | failure
      · exact .inl (moreOutputs output)
      · exact .inr (moreFailed failure)
  working other mem := by
    obtain ⟨active, ne⟩ := mem_filter.mp mem
    refine ⟨(tracked.working other active).1, fun recorded => ?_⟩
    rcases only other recorded with same | earlier
    · exact of_decide_eq_true ne same
    · exact (tracked.working other active).2 earlier
  ahead stage recorded := by
    rcases only _ recorded with same | earlier
    · exact absurd (same ▸ (tracked.working name working).1) (registry.unreserved stage)
    · exact tracked.ahead stage earlier
  executing := tracked.executing

theorem completes (phase : run.phase = .executing stage) (grows : done ⊆ after)
    (only : ∀ other ∈ after, other = stage.stageName ∨ other ∈ done) :
    Tracked registry after { run with phase := stage.next } where
  loaded other mem := grows (tracked.loaded other mem)
  produced other mem := grows (tracked.produced other mem)
  settled other analyzer recorded := by
    rcases only other recorded with rfl | earlier
    · exact absurd analyzer (registry.unreserved stage)
    · exact tracked.settled other analyzer earlier
  working other mem := by
    obtain ⟨analyzer, open_⟩ := tracked.working other mem
    refine ⟨analyzer, fun recorded => ?_⟩
    rcases only other recorded with rfl | earlier
    · exact registry.unreserved stage analyzer
    · exact open_ earlier
  ahead other recorded := by
    rcases only _ recorded with same | earlier
    · rw [PipelineStage.stageName_injective same]
      exact .inr le_rfl
    · rcases tracked.ahead other earlier with loaded | passed
      · exact .inl loaded
      · right
        rw [phase] at passed
        exact passed.trans stage.rank_executing.le
  executing other same := by
    cases stage <;> cases same

end Tracked

namespace Job

variable {registry : Registry} {job next : Job} {run : JobRun} {stage : Text} {write : Write}
  {change : Nat → StageRow → StageRow} {event : JobEvent}

structure Tracks (registry : Registry) (job : Job) : Prop where
  registered : job.registry = registry
  named : (job.rows.map StageRow.stageName).Perm (buildStageNames job.registry.analyzers)
  run : ∀ run, job.run = some run → Tracked job.registry job.ledger.done run

theorem Tracks.written {written : Job} (before : job.Tracks registry)
    (same : written.registry = job.registry)
    (names : written.rows.map StageRow.stageName = job.rows.map StageRow.stageName)
    (tracked : Tracked job.registry written.ledger.done run) :
    (written.setRun run).Tracks registry where
  registered := same.trans before.registered
  named := by
    change (written.rows.map StageRow.stageName).Perm (buildStageNames written.registry.analyzers)
    rw [same, names]
    exact before.named
  run current now := by
    cases now
    change Tracked written.registry written.ledger.done run
    rw [same]
    exact tracked

theorem Tracks.setRun (before : job.Tracks registry)
    (tracked : Tracked job.registry job.ledger.done run) : (job.setRun run).Tracks registry :=
  before.written rfl rfl tracked

theorem Tracks.withoutRun (before : job.Tracks registry) (same : next.registry = job.registry)
    (names : next.rows.map StageRow.stageName = job.rows.map StageRow.stageName)
    (idle : next.run = none) : next.Tracks registry where
  registered := same.trans before.registered
  named := by
    rw [same, names]
    exact before.named
  run current present := by
    rw [idle] at present
    cases present

theorem write_completed_done (job : Job) (write : Write) (stage : Text)
    (sets : StageRow.Sets change .completed) :
    job.ledger.done ⊆ (job.write write stage change).ledger.done ∧
      (∀ other ∈ (job.write write stage change).ledger.done,
        other = stage ∨ other ∈ job.ledger.done) ∧
      (write.applied = true → stage ∈ job.rows.map StageRow.stageName →
        stage ∈ (job.write write stage change).ledger.done) := by
  cases applied : write.applied with
  | false =>
    rw [ledger_write_lost applied]
    exact ⟨subset_rfl, fun _ recorded => .inr recorded, fun written => by cases written⟩
  | true =>
    by_cases listed : stage ∈ job.rows.map StageRow.stageName
    · rw [ledger_write_completed applied listed sets]
      exact ⟨Set.subset_insert _ _, fun _ recorded => recorded, fun _ _ => Set.mem_insert _ _⟩
    · have missing : ∀ name, name ∈ (job.write write stage change).ledger.done ↔
          name ∈ job.ledger.done := by
        intro name
        change name ∈ completedStageSet (if write.applied then _ else _) ↔ name ∈ job.done
        rw [if_pos applied,
          mem_completedStageSet_updateRow (sets.named job.clock) (sets.status job.clock)]
        split
        · rename_i same
          subst same
          refine ⟨fun both => absurd both.2 listed, fun done => ?_⟩
          obtain ⟨row, mem, _, same⟩ := mem_completedStageSet.mp done
          exact absurd (mem_map.mpr ⟨row, mem, same⟩) listed
        · exact Iff.rfl
      exact ⟨fun name => (missing name).mpr, fun name recorded => .inr ((missing name).mp recorded),
        fun _ present => absurd present listed⟩

theorem Tracks.listed (tracks : job.Tracks registry) (analyzer : name ∈ job.registry.analyzers) :
    name ∈ job.rows.map StageRow.stageName := by
  apply tracks.named.symm.subset
  exact mem_append_left _ (mem_insertCandidateGeneration.mpr (.inl analyzer))

section

variable (before : job.Tracks registry)
include before

theorem Tracks.starts (taken : job.starts = some next) : next.Tracks registry := by
  unfold Job.starts at taken
  split_ifs at taken
  cases taken
  refine ⟨before.registered, before.named, fun current present => ?_⟩
  cases present
  exact
    { loaded := fun _ mem => mem
      produced := fun name mem => (mem_filter_done.mp mem).2
      settled := fun name analyzer recorded => .inl (mem_filter_done.mpr ⟨analyzer, recorded⟩)
      working := fun _ mem => by cases mem
      ahead := fun _ recorded => .inl recorded
      executing := fun stage phase => by
        split at phase <;> cases phase }

theorem Tracks.unfinished (write : Write) {status : StageStatus} (idle : stage ∉ job.done)
    (sets : StageRow.Sets change status) (open_ : status ≠ .completed)
    (tracked : Tracked job.registry job.ledger.done run) :
    ((job.write write stage change).setRun run).Tracks registry := by
  refine before.written rfl (write_stageNames write sets) ?_
  rw [ledger_write_unfinished write idle sets open_]
  exact tracked

theorem Tracks.executed (write : Write) (idle : stage ∉ job.done)
    (tracked : Tracked job.registry job.ledger.done run) :
    (((job.write write stage (StageRow.updateStatus .running)).execute stage).setRun
      run).Tracks registry := by
  have sets := StageRow.sets_updateStatus .running
  refine before.written rfl (write_stageNames write sets) ?_
  change Tracked job.registry (job.write write stage _).ledger.done _
  rw [ledger_write_unfinished write idle sets (by decide)]
  exact tracked

theorem Tracks.analyzerCompletes (tracked : Tracked job.registry job.ledger.done run)
    (attempt : Option Text) (write : Write) (working : name ∈ run.active)
    (ends : outputs = name :: run.outputs ∧ failed = run.failed ∧ write.applied = true ∨
      outputs = run.outputs ∧ failed = name :: run.failed) :
    ((job.write write name (StageRow.completeAnalysis attempt)).setRun
      { run with active := run.active.filter (· ≠ name), outputs, failed }).Tracks registry := by
  have sets := StageRow.sets_completeAnalysis attempt
  obtain ⟨grows, only, recorded⟩ := write_completed_done job write name sets
  refine before.written rfl (write_stageNames write sets) ?_
  rcases ends with ⟨rfl, rfl, applied⟩ | ⟨rfl, rfl⟩
  · refine tracked.leaves working grows only (subset_cons_self _ _) (List.Subset.refl _) ?_
      fun _ => .inl mem_cons_self
    intro other mem
    rcases mem_cons.mp mem with rfl | earlier
    · exact .inr (recorded applied (before.listed (tracked.working other working).1))
    · exact .inl earlier
  · exact tracked.leaves working grows only (List.Subset.refl _) (subset_cons_self _ _)
      (fun _ => .inl) fun _ => .inr mem_cons_self

theorem Tracks.runStep (tracked : Tracked job.registry job.ledger.done run)
    (acts : RunStep job run event next) : next.Tracks registry := by
  have failing : Tracked job.registry job.ledger.done { run with phase := .failing } :=
    tracked.move (JobPhase.rank_le_failing _) fun _ same => by cases same
  cases acts with
  | @attempted name write pass phase due unsettled =>
    have analyzer := job.registry.closure_subset _ (job.registry.passNames_subset _ _) due
    have idle := tracked.attempts_not_done analyzer unsettled
    refine before.executed write idle { tracked with working := fun other mem => ?_ }
    rcases mem_cons.mp mem with rfl | earlier
    · exact ⟨analyzer, idle⟩
    · exact tracked.working other earlier
  | passedOver => exact before.written rfl rfl { tracked with }
  | analyzerStored _ working =>
    exact before.analyzerCompletes tracked _ .stored working (.inl ⟨rfl, rfl, rfl⟩)
  | analyzerUnstored _ working =>
    exact before.analyzerCompletes tracked _ _ working (.inr ⟨rfl, rfl⟩)
  | @analyzerFails name message write _ _ working =>
    refine before.unfinished write (tracked.working name working).2
      (StageRow.sets_updateError message) (by decide) ?_
    exact tracked.leaves working subset_rfl (fun _ => .inr) (List.Subset.refl _)
      (subset_cons_self _ _) (fun _ => .inl) fun _ => .inr mem_cons_self
  | @passEnds pass phase =>
    exact before.setRun (tracked.move (phase ▸ (Pass.rank_lt_next pass).le)
      fun _ same => by cases pass <;> cases same)
  | @stageSkipped stage phase =>
    exact before.setRun (tracked.move (phase ▸ (stage.rank_due.trans stage.rank_executing).le)
      fun _ same => by cases stage <;> cases same)
  | @stageStarted stage phase runs =>
    refine before.executed .stored (tracked.due_not_done phase runs)
      (tracked.move (phase ▸ stage.rank_due.le) ?_)
    intro other again loaded
    cases again
    simp [JobRun.skips, loaded] at runs
  | @stageUnstarted write stage phase runs =>
    exact before.unfinished write (tracked.due_not_done phase runs)
      (StageRow.sets_updateStatus .running) (by decide) failing
  | @stageCompletes write stage phase =>
    have sets := StageRow.sets_updateStatus .completed
    obtain ⟨grows, only, _⟩ := write_completed_done job write stage.stageName sets
    exact before.written rfl (write_stageNames write sets) (tracked.completes phase grows only)
  | @stageFails message write stage phase =>
    exact before.unfinished write (tracked.executing_not_done phase) (stageFails_sets message)
      (by decide) failing
  | passFails | errors => exact before.setRun failing
  | cancels =>
    exact before.setRun (tracked.move (JobPhase.rank_le_failing _) fun _ same => by cases same)
  | @endsFailed message =>
    exact before.withoutRun rfl (endsWith_stageNames (StageRow.sets_updateError message)) rfl
  | endsCancelled =>
    exact before.withoutRun rfl (endsWith_stageNames (StageRow.sets_updateStatus .cancelled)) rfl
  | completes | crashes => exact before.withoutRun rfl rfl rfl

end

theorem retryFromFailure_stageNames {status : JobStatus} {rows after : List StageRow}
    (putBack : retryFromFailure status rows = some after) :
    after.map StageRow.stageName = rows.map StageRow.stageName := by
  unfold retryFromFailure resetStagesFrom at putBack
  split at putBack
  · split at putBack
    · cases putBack
    · cases putBack
      rw [map_map]
      apply map_congr_left
      intro row _
      simp only [Function.comp_apply]
      split <;> rfl
  · split at putBack
    · cases putBack
      rfl
    · cases putBack

theorem Tracks.step (before : job.Tracks registry) (taken : job.step event = some next) :
    next.Tracks registry := by
  cases step_cases taken with
  | starts taken => exact before.starts taken
  | retries idle putBack => exact before.withoutRun rfl (retryFromFailure_stageNames putBack) idle
  | runs present acts => exact before.runStep (before.run _ present) acts

theorem step_done (taken : job.step event = some next) (done : name ∈ next.done) :
    name ∈ job.done ∨
      (∃ run attempt write, event = .analyzerCompletes name attempt write ∧
        write.applied = true ∧ job.run = some run ∧ name ∈ run.active) ∨
      ∃ run write, ∃ stage : PipelineStage, event = .stageCompletes write ∧
        job.run = some run ∧ run.phase = .executing stage ∧ name = stage.stageName := by
  obtain ⟨row, mem, completed, rfl⟩ := mem_completedStageSet.mp done
  rcases step_completed_row taken mem completed with kept | completes
  · exact .inl (mem_completedStageSet.mpr ⟨row, kept, completed, rfl⟩)
  · right
    cases completes with
    | analyzer present working applied named recorded =>
      exact .inl ⟨_, _, _, by rw [named], applied, present, named ▸ working⟩
    | stage present executing _ named => exact .inr ⟨_, _, _, rfl, present, executing, named⟩

theorem created_tracks {registry : Registry} {names : List Text}
    (listed : names.Perm (buildStageNames registry.analyzers)) :
    (created registry names).Tracks registry where
  registered := rfl
  named := by
    have same : (names.map StageRow.create).map StageRow.stageName = names := by
      rw [map_map]
      exact map_id _
    change ((names.map StageRow.create).map StageRow.stageName).Perm _
    rw [same]
    exact listed
  run current present := by cases present

end Job

end CrossCodex.Pipeline
