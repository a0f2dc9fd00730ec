/-
Which stages a job has executed: a completed stage was, and a run that reaches its
finalization has executed every stage, in it or before it.
-/

import CrossCodex.Pipeline.Gathering
import CrossCodex.Pipeline.RetryReset

namespace CrossCodex.Pipeline

open Library
open Analyzer (Text)

namespace Job

variable {job next : Job} {run : JobRun} {row : StageRow} {stage : Text} {write : Write}
  {change : Nat → StageRow → StageRow} {status : JobStatus} {left : StageStatus}

/-! ### Where a completed row comes from -/

inductive Completes (job : Job) : JobEvent → StageRow → Prop where
  | analyzer {run : JobRun} {name attempt} {write : Write} {row : StageRow}
      (present : job.run = some run) (working : name ∈ run.active)
      (applied : write.applied = true) (named : row.stageName = name)
      (recorded : row.cacheAttempt = attempt) :
      Completes job (.analyzerCompletes name attempt write) row
  | stage {run : JobRun} {stage} {write : Write} {row : StageRow}
      (present : job.run = some run) (executing : run.phase = .executing stage)
      (applied : write.applied = true) (named : row.stageName = stage.stageName) :
      Completes job (.stageCompletes write) row

theorem mem_write_rows (mem : row ∈ (job.write write stage change).rows) :
    row ∈ job.rows ∨ write.applied = true ∧
      ∃ old ∈ job.rows, old.stageName = stage ∧ row = change job.clock old := by
  unfold Job.write at mem
  split at mem
  · rename_i applied
    obtain ⟨old, present, rfl⟩ := List.mem_map.mp mem
    by_cases named : old.stageName = stage
    · rw [if_pos named]
      exact .inr ⟨applied, old, present, named, rfl⟩
    · rw [if_neg named]
      exact .inl present
  · exact .inl mem

theorem mem_write_completed (mem : row ∈ (job.write write stage change).rows)
    (completed : row.status = .completed) (sets : StageRow.Sets change left)
    (unfinished : left ≠ .completed) : row ∈ job.rows := by
  rcases mem_write_rows mem with kept | ⟨_, old, _, _, rfl⟩
  · exact kept
  · exact absurd ((sets.status _ _).symm.trans completed) unfinished

theorem mem_endsWith_completed {lost : List Text}
    (mem : row ∈ (job.endsWith status change write lost).rows) (completed : row.status = .completed)
    (sets : StageRow.Sets change left) (unfinished : left ≠ .completed) : row ∈ job.rows := by
  unfold Job.endsWith at mem
  split at mem
  · obtain ⟨old, present, rfl⟩ := List.mem_map.mp mem
    split at completed
    · exact absurd ((sets.status _ _).symm.trans completed) unfinished
    · rename_i kept
      rw [if_neg kept]
      exact present
  · exact mem

theorem mem_retried_completed {rows after : List StageRow}
    (putBack : retryFromFailure status rows = some after) (mem : row ∈ after)
    (completed : row.status = .completed) : row ∈ rows := by
  unfold retryFromFailure at putBack
  split at putBack
  · unfold resetStagesFrom at putBack
    split at putBack
    · cases putBack
    · cases putBack
      obtain ⟨old, present, rfl⟩ := List.mem_map.mp mem
      split at completed
      · cases completed
      · rename_i kept
        rw [if_neg kept]
        exact present
  · split at putBack
    · cases putBack
      exact mem
    · cases putBack

variable {event : JobEvent}

inductive PhaseStep (registry : Registry) (run : JobRun) (event : JobEvent) (phase : JobPhase) :
    Prop where
  | stays (open_ : ∀ write, event ≠ .stageCompletes write) (now : phase = run.phase)
  | passEnds {pass} (was : run.phase = .passing pass) (now : phase = pass.next)
      (taken : event = .passEnds)
  | skips {stage : PipelineStage} (was : run.phase = .due stage) (now : phase = stage.next)
      (taken : event = .stageSkipped) (skipped : run.skips registry stage = true)
  | starts {stage : PipelineStage} {write : Write} (was : run.phase = .due stage)
      (now : phase = .executing stage) (taken : event = .stageStarts write)
  | completes {stage : PipelineStage} {write : Write} (was : run.phase = .executing stage)
      (now : phase = stage.next) (taken : event = .stageCompletes write)
  | givesUp (last : phase.rank = 9)

theorem PhaseStep.rank_le {registry : Registry} {phase : JobPhase}
    (moved : PhaseStep registry run event phase) : run.phase.rank ≤ phase.rank := by
  cases moved with
  | stays _ now => rw [now]
  | @passEnds pass was now =>
    rw [was, now]
    exact (Pass.rank_lt_next pass).le
  | @skips stage was now =>
    rw [was, now]
    exact (stage.rank_due.trans stage.rank_executing).le
  | @starts stage _ was now =>
    rw [was, now]
    exact stage.rank_due.le
  | @completes stage _ was now =>
    rw [was, now]
    exact stage.rank_executing.le
  | givesUp last =>
    rw [last]
    exact JobPhase.rank_le_failing _

section

variable (taken : job.step event = some next) {later : JobRun}
include taken

theorem step_completed_row (mem : row ∈ next.rows) (completed : row.status = .completed) :
    row ∈ job.rows ∨ job.Completes event row := by
  cases step_cases taken with
  | starts taken =>
    unfold Job.starts at taken
    split at taken
    · cases taken
      exact .inl mem
    · cases taken
  | retries _ putBack => exact .inl (mem_retried_completed putBack mem completed)
  | runs present acts =>
    cases acts with
    | attempted | stageStarted | stageUnstarted =>
      simp only [setRun_rows, execute_rows] at mem
      exact .inl (mem_write_completed mem completed (StageRow.sets_updateStatus .running) (by decide))
    | analyzerStored _ working | analyzerUnstored _ working =>
      rw [setRun_rows] at mem
      rcases mem_write_rows mem with kept | ⟨applied, old, _, named, rfl⟩
      · exact .inl kept
      · exact .inr (.analyzer present working applied named rfl)
    | @analyzerFails _ message =>
      exact .inl (mem_write_completed mem completed (StageRow.sets_updateError message) (by decide))
    | stageCompletes phase =>
      rcases mem_write_rows mem with kept | ⟨applied, old, _, named, rfl⟩
      · exact .inl kept
      · refine .inr (.stage present phase applied ?_)
        rw [StageRow.updateStatus_stageName, named]
    | @stageFails message =>
      exact .inl (mem_write_completed mem completed (stageFails_sets message) (by decide))
    | @endsFailed message =>
      exact .inl (mem_endsWith_completed mem completed (StageRow.sets_updateError message)
        (by decide))
    | endsCancelled =>
      exact .inl (mem_endsWith_completed mem completed (StageRow.sets_updateStatus .cancelled)
        (by decide))
    | _ => exact .inl mem

theorem step_runStep (present : job.run = some run) : RunStep job run event next := by
  cases step_cases taken with
  | starts taken =>
    unfold Job.starts at taken
    split_ifs at taken with startable
    rw [present] at startable
    cases startable.1
  | retries idle _ =>
    rw [idle] at present
    cases present
  | runs found acts =>
    rw [present] at found
    cases found
    exact acts

theorem step_phase (present : job.run = some run) (continued : next.run = some later) :
    later.completed = run.completed ∧ PhaseStep job.registry run event later.phase := by
  cases step_runStep taken present with
  | passEnds phase =>
    cases continued
    exact ⟨rfl, .passEnds phase rfl rfl⟩
  | stageSkipped phase skipped =>
    cases continued
    exact ⟨rfl, .skips phase rfl rfl skipped⟩
  | stageStarted phase =>
    cases continued
    exact ⟨rfl, .starts phase rfl rfl⟩
  | stageCompletes phase =>
    cases continued
    exact ⟨rfl, .completes phase rfl rfl⟩
  | passFails | stageUnstarted | stageFails | errors | cancels =>
    cases continued
    exact ⟨rfl, .givesUp rfl⟩
  | endsFailed | endsCancelled | completes | crashes => cases continued
  | _ =>
    cases continued
    exact ⟨rfl, .stays (fun _ same => by cases same) rfl⟩

theorem step_rank (present : job.run = some run) (continued : next.run = some later) :
    run.phase.rank ≤ later.phase.rank :=
  (step_phase taken present continued).2.rank_le

theorem completes_of_status (before : job.status ≠ .completed) (after : next.status = .completed) :
    ∃ run write, event = .completes write ∧ job.run = some run ∧ run.phase = .finalizing ∧
      next.executions = job.executions := by
  cases step_cases taken with
  | starts taken =>
    unfold Job.starts at taken
    split at taken
    · cases taken
      cases after
    · cases taken
  | retries _ _ =>
    split at after
    · cases after
    · exact absurd after before
  | runs present acts =>
    cases acts with
    | completes phase => exact ⟨_, _, rfl, present, phase, rfl⟩
    | endsFailed | endsCancelled =>
      unfold Job.endsWith at after
      simp only at after
      split at after
      · cases after
      · exact absurd after before
    | _ => exact absurd after before

end

theorem analyzerCompletes_live {name : Text} {attempt : Option Text}
    (taken : job.step (.analyzerCompletes name attempt write) = some next) : next.run ≠ none := by
  cases step_cases taken with
  | runs _ acts =>
    cases acts <;> simp [Job.setRun]

theorem retries_idle (taken : job.step (.retries write) = some next) :
    job.run = none ∧ next.run = none := by
  cases step_cases taken with
  | retries idle _ => exact ⟨idle, idle⟩
  | runs _ acts => cases acts

structure RunExecuted (executed : Text → Prop) (run : JobRun) : Prop where
  known : ∀ stage ∈ run.completed, executed stage
  produced : ∀ name ∈ run.outputs, executed name
  working : ∀ name ∈ run.active, executed name
  executing : ∀ stage, run.phase = .executing stage → executed stage.stageName
  passed : ∀ stage : PipelineStage, stage ≠ .candidateGeneration →
    stage.next.rank ≤ run.phase.rank → run.phase.rank < 9 → executed stage.stageName

structure Executed (job : Job) : Prop where
  known : ∀ stage, 0 < job.executions stage →
    stage ∈ job.registry.analyzers ∨ ∃ pipelineStage : PipelineStage,
      stage = pipelineStage.stageName
  done : ∀ row ∈ job.rows, row.status = .completed → 0 < job.executions row.stageName
  run : ∀ run, job.run = some run → RunExecuted (fun stage => 0 < job.executions stage) run

theorem step_executions (taken : job.step event = some next) (stage : Text) :
    next.registry = job.registry ∧ (next.executions stage = job.executions stage ∨
      next.executions stage = job.executions stage + 1 ∧
        (stage ∈ job.registry.analyzers ∨
          ∃ pipelineStage : PipelineStage, stage = pipelineStage.stageName)) := by
  have counted : ∀ executed : Text, (executed ∈ job.registry.analyzers ∨
      ∃ pipelineStage : PipelineStage, executed = pipelineStage.stageName) →
      Function.update job.executions executed (job.executions executed + 1) stage =
          job.executions stage ∨
        Function.update job.executions executed (job.executions executed + 1) stage =
          job.executions stage + 1 ∧
        (stage ∈ job.registry.analyzers ∨
          ∃ pipelineStage : PipelineStage, stage = pipelineStage.stageName) := by
    intro executed known
    by_cases same : stage = executed
    · subst same
      exact .inr ⟨Function.update_self .., known⟩
    · exact .inl (Function.update_of_ne same ..)
  cases step_cases taken with
  | starts taken =>
    unfold Job.starts at taken
    split at taken
    · cases taken
      exact ⟨rfl, .inl rfl⟩
    · cases taken
  | retries _ _ => exact ⟨rfl, .inl rfl⟩
  | runs present acts =>
    cases acts with
    | @attempted name _ _ _ due =>
      have known := job.registry.closure_subset _ (job.registry.passNames_subset _ _) due
      exact ⟨rfl, counted name (.inl known)⟩
    | @stageStarted stage => exact ⟨rfl, counted stage.stageName (.inr ⟨stage, rfl⟩)⟩
    | _ => exact ⟨rfl, .inl rfl⟩

theorem step_registry (taken : job.step event = some next) : next.registry = job.registry :=
  (step_executions taken []).1

theorem executed_step (taken : job.step event = some next) {stage : Text}
    (executed : 0 < job.executions stage) : 0 < next.executions stage := by
  rcases (step_executions taken stage).2 with same | ⟨grown, _⟩
  · rw [same]
    exact executed
  · rw [grown]
    omega

namespace RunExecuted

variable {executed later : Text → Prop}

theorem mono (before : RunExecuted executed run) (grows : ∀ stage, executed stage → later stage) :
    RunExecuted later run where
  known stage mem := grows stage (before.known stage mem)
  produced name mem := grows name (before.produced name mem)
  working name mem := grows name (before.working name mem)
  executing stage phase := grows _ (before.executing stage phase)
  passed stage linked reached running := grows _ (before.passed stage linked reached running)

theorem move (before : RunExecuted executed run) {phase : JobPhase}
    (idle : ∀ stage, phase ≠ .executing stage)
    (passed : ∀ stage : PipelineStage, stage ≠ .candidateGeneration →
      stage.next.rank ≤ phase.rank → phase.rank < 9 →
        stage.next.rank ≤ run.phase.rank ∧ run.phase.rank < 9 ∨ executed stage.stageName) :
    RunExecuted executed { run with phase } :=
  { before with
    executing := fun stage same => absurd same (idle stage)
    passed := fun stage linked reached running => by
      rcases passed stage linked reached running with ⟨earlier, going⟩ | now
      · exact before.passed stage linked earlier going
      · exact now }

theorem stagePassed (before : RunExecuted executed run) {stage : PipelineStage}
    (here : run.phase = .due stage ∨ run.phase = .executing stage)
    (done : stage ≠ .candidateGeneration → executed stage.stageName) :
    RunExecuted executed { run with phase := stage.next } := by
  apply before.move
  · intro other same
    cases stage <;> cases same
  · intro other linked reached running
    by_cases same : other = stage
    · exact .inr (same ▸ done (same ▸ linked))
    · left
      rcases here with phase | phase <;> rw [phase] <;> cases stage <;> cases other <;>
        first | exact absurd rfl same | exact absurd rfl linked |
          exact absurd reached (by decide) | exact ⟨by decide, by decide⟩

end RunExecuted

theorem Executed.starts (before : job.Executed) (taken : job.starts = some next) (current : JobRun)
    (present : next.run = some current) :
    RunExecuted (fun stage => 0 < next.executions stage) current := by
  have recorded : ∀ stage ∈ job.done, 0 < job.executions stage := by
    intro stage done
    obtain ⟨row, mem, completed, rfl⟩ := mem_completedStageSet.mp done
    exact before.done row mem completed
  unfold Job.starts at taken
  split at taken
  · cases taken
    cases present
    refine
      { known := recorded
        produced := fun name mem => recorded name (of_decide_eq_true (List.mem_filter.mp mem).2)
        working := fun name mem => by cases mem
        executing := ?_
        passed := ?_ }
    · intro stage phase
      split at phase <;> cases phase
    · intro stage linked reached _
      simp only at reached
      split at reached <;> cases stage <;>
        first | exact absurd rfl linked | exact absurd reached (by decide)
  · cases taken

theorem Executed.runStep (before : RunExecuted (fun stage => 0 < job.executions stage) run)
    (step : RunStep job run event next) (taken : job.step event = some next) (current : JobRun)
    (present : next.run = some current) :
    RunExecuted (fun stage => 0 < next.executions stage) current := by
  have grown := before.mono fun stage => executed_step taken
  cases step with
  | attempted =>
    cases present
    refine { grown with working := ?_ }
    intro other mem
    rcases List.mem_cons.mp mem with rfl | earlier
    · change 0 < Function.update job.executions other _ other
      rw [Function.update_self]
      omega
    · exact grown.working other earlier
  | passedOver =>
    cases present
    exact { grown with }
  | analyzerStored _ working =>
    cases present
    refine { grown with
      working := fun other mem => grown.working other (List.mem_of_mem_filter mem)
      produced := ?_ }
    intro other mem
    rcases List.mem_cons.mp mem with rfl | earlier
    · exact grown.working other working
    · exact grown.produced other earlier
  | analyzerUnstored | analyzerFails =>
    cases present
    exact { grown with
      working := fun other mem => grown.working other (List.mem_of_mem_filter mem) }
  | @passEnds pass =>
    cases present
    apply before.move
    · intro stage
      cases pass <;> simp [Pass.next]
    · intro stage linked reached running
      cases pass <;> cases stage <;>
        first | exact absurd rfl linked | exact absurd reached (by decide)
  | stageSkipped phase skips =>
    cases present
    apply before.stagePassed (.inl phase)
    intro linked
    simp only [JobRun.skips, linked, decide_false, Bool.false_and, Bool.or_false,
      decide_eq_true_eq] at skips
    exact before.known _ skips
  | @stageStarted stage phase =>
    cases present
    refine { grown with executing := ?_, passed := ?_ }
    · intro other same
      cases same
      change 0 < Function.update job.executions _ _ _
      rw [Function.update_self]
      omega
    · intro other linked reached running
      change other.next.rank ≤ (JobPhase.executing stage).rank at reached
      apply grown.passed other linked
      · rw [phase]
        cases stage <;> cases other <;>
          first | exact absurd rfl linked | exact absurd reached (by decide) | decide
      · rw [phase]
        cases stage <;> decide
  | stageCompletes phase =>
    cases present
    exact before.stagePassed (.inr phase) fun _ => before.executing _ phase
  | passFails | stageUnstarted | stageFails | errors | cancels =>
    cases present
    exact before.move (fun _ => by simp) fun _ _ _ running => absurd running (by decide)
  | endsFailed | endsCancelled | completes | crashes => cases present

theorem Executed.step (before : job.Executed) (taken : job.step event = some next) :
    next.Executed where
  known stage executed := by
    rw [step_registry taken]
    rcases (step_executions taken stage).2 with same | ⟨_, known⟩
    · rw [same] at executed
      exact before.known stage executed
    · exact known
  done row mem completed := by
    apply executed_step taken
    rcases step_completed_row taken mem completed with kept | completes
    · exact before.done row kept completed
    · cases completes with
      | analyzer present working _ named =>
        rw [named]
        exact (before.run _ present).working _ working
      | stage present executing _ named =>
        rw [named]
        exact (before.run _ present).executing _ executing
  run current present := by
    cases step_cases taken with
    | starts started => exact before.starts started current present
    | retries idle _ =>
      rw [idle] at present
      cases present
    | runs found acts => exact Executed.runStep (before.run _ found) acts taken current present

theorem created_executed (registry : Registry) (names : List Text) :
    (created registry names).Executed where
  known stage executed := absurd executed (Nat.lt_irrefl 0)
  done row mem completed := by
    obtain ⟨name, _, rfl⟩ := List.mem_map.mp mem
    cases completed
  run current present := by cases present

theorem Executed.finalizing (executed : job.Executed) (gathers : job.Gathers job.registry)
    (present : job.run = some run) (phase : run.phase = .finalizing) {step : Text}
    (linked : step ∈ job.registry.analyzers ∨ step = PipelineStage.synthesis.stageName ∨
      step = PipelineStage.graph.stageName) : 0 < job.executions step := by
  have held := executed.run run present
  rcases linked with analyzer | rfl | rfl
  · apply held.produced
    exact (gathers.gathered run present).complete (by rw [phase]; decide) (by rw [phase]; decide)
      step analyzer
  · exact held.passed .synthesis (by decide) (by rw [phase]; decide) (by rw [phase]; decide)
  · exact held.passed .graph (by decide) (by rw [phase]; decide) (by rw [phase]; decide)

end Job

end CrossCodex.Pipeline
