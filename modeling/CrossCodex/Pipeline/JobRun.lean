/-
The runs of one job (internal/pipeline/executor.go, reporter.go) and RetryJob from failure
between them. One event is one stage transition with its status write, which may be stored,
lost, or stored and reported failed. Within a pass an analyzer is attempted once its
dependencies are settled. An error outside the stages may end a run at any point.
-/

import CrossCodex.Pipeline.Stages
import Mathlib.Data.List.Dedup

namespace CrossCodex.Pipeline

open Analyzer (Text)

inductive Write where
  | stored
  | lost
  /-- Stored, but the caller gets an error. -/
  | unacknowledged
deriving DecidableEq, Repr

def Write.applied : Write → Bool
  | .stored | .unacknowledged => true
  | .lost => false

inductive Pass where
  | beforeCandidates
  | afterCandidates
deriving DecidableEq, Repr

inductive JobPhase where
  | passing (pass : Pass)
  | due (stage : PipelineStage)
  | executing (stage : PipelineStage)
  | finalizing
  | failing
  | cancelling
deriving DecidableEq, Repr

/-- A live executeJob. `completed` is the set it loaded, `outputs` are the analyzers
whose outputs it holds. -/
structure JobRun where
  completed : List Text
  phase : JobPhase
  outputs : List Text
  active : List Text
  failed : List Text
  skipped : List Text

/-- A job with its current run. `executions` counts how often each stage was executed and
`consumed` holds, for the last execution of a stage, the counts of all stages when it
began; the program has neither. -/
structure Job where
  registry : Registry
  rows : List StageRow
  status : JobStatus
  clock : Nat
  run : Option JobRun
  executions : Text → Nat
  consumed : Text → Text → Nat

inductive JobEvent where
  | starts
  | attempts (name : Text) (write : Write)
  | analyzerCompletes (name : Text) (attempt : Option Text) (write : Write)
  | analyzerFails (name message : Text) (write : Write)
  | passEnds
  | stageSkipped
  | stageStarts (write : Write)
  | stageCompletes (write : Write)
  | stageFails (message : Option Text) (write : Write)
  | errors
  | cancels
  | ends (message : Text) (write : Write) (lost : List Text)
  | completes (write : Write)
  | crashes
  | retries (write : Write)

/-- The names a stage takes its input from: an analyzer's dependencies; for synthesis
and graph, the stages before them. -/
def Registry.inputs (registry : Registry) (stage : Text) : List Text :=
  if stage ∈ registry.analyzers then registry.dependsOn stage
  else if stage = PipelineStage.synthesis.stageName then
    insertCandidateGeneration registry.analyzers
  else if stage = PipelineStage.graph.stageName then
    insertCandidateGeneration registry.analyzers ++ [PipelineStage.synthesis.stageName]
  else []

/-- The names and, round by round, their dependencies; as many rounds as there are
analyzers reach the whole closure that Subset walks. -/
def Registry.closure (registry : Registry) : Nat → List Text → List Text
  | 0, names => names
  | rounds + 1, names =>
    registry.closure rounds (names ++ names.flatMap registry.dependsOn).dedup

def Registry.subset (registry : Registry) (names : List Text) : List Text :=
  registry.closure registry.analyzers.length names

/-- The incomplete analyzers of one of the two passes of runAnalysis. -/
def Registry.passNames (registry : Registry) (completed : List Text) : Pass → List Text
  | .beforeCandidates =>
    registry.analyzers.filter fun name =>
      name ∉ completed && name ∉ candidateDependentAnalyzers
  | .afterCandidates =>
    registry.analyzers.filter fun name =>
      name ∉ completed && name ∈ candidateDependentAnalyzers

def Pass.next : Pass → JobPhase
  | .beforeCandidates => .due .candidateGeneration
  | .afterCandidates => .due .synthesis

def PipelineStage.next : PipelineStage → JobPhase
  | .candidateGeneration => .passing .afterCandidates
  | .synthesis => .due .graph
  | .graph => .finalizing

namespace JobRun

def settled (run : JobRun) (name : Text) : Bool :=
  name ∈ run.outputs || name ∈ run.failed || name ∈ run.skipped

def skips (run : JobRun) (registry : Registry) (stage : PipelineStage) : Bool :=
  stage.stageName ∈ run.completed ||
    (stage = .candidateGeneration && registry.passNames run.completed .afterCandidates = [])

def produces (run : JobRun) (name : Text) : JobRun :=
  { run with active := run.active.filter (· ≠ name), outputs := name :: run.outputs }

def loses (run : JobRun) (name : Text) : JobRun :=
  { run with active := run.active.filter (· ≠ name), failed := name :: run.failed }

end JobRun

namespace Job

variable (job : Job) {event : JobEvent}

def done : List Text := completedStageSet job.rows

def setRun (run : JobRun) : Job := { job with run := some run }

def write (job : Job) (write : Write) (stage : Text) (change : Nat → StageRow → StageRow) : Job :=
  { job with
    clock := job.clock + 1
    rows := if write.applied then updateRow job.rows stage (change job.clock) else job.rows }

def execute (stage : Text) : Job :=
  { job with
    executions := Function.update job.executions stage (job.executions stage + 1)
    consumed := Function.update job.consumed stage job.executions }

@[simp] theorem setRun_rows (run : JobRun) : (job.setRun run).rows = job.rows := rfl

@[simp] theorem execute_rows (stage : Text) : (job.execute stage).rows = job.rows := rfl

/-- executeJob loads the stages; with every analyzer complete runAnalysis is skipped. -/
def starts : Option Job :=
  if job.run.isNone ∧ (job.status = .pending ∨ job.status = .running) then
    let incomplete := job.registry.analyzers.filter fun name => name ∉ job.done
    some { job with
      status := .running
      run := some
        { completed := job.done
          phase :=
            if incomplete = [] then .due .synthesis else .passing .beforeCandidates
          outputs := job.registry.analyzers.filter fun name => name ∈ job.done
          active := []
          failed := []
          skipped := [] } }
  else none

section

variable (run : JobRun)

/-- executeAnalyzer up to ReportStageStarted, whose failed write is only a warning. -/
def attempts (pass : Pass) (name : Text) (write : Write) : Option Job :=
  if name ∈ job.registry.subset (job.registry.passNames run.completed pass) ∧
      run.settled name = false ∧ name ∉ run.active ∧
      (job.registry.dependsOn name).all run.settled then
    if (job.registry.dependsOn name).all (· ∈ run.outputs) then
      some (((job.write write name (StageRow.updateStatus .running)).execute name).setRun
        { run with active := name :: run.active })
    else some (job.setRun { run with skipped := name :: run.skipped })
  else none

/-- ReportStageCompleted: the result and the status are one transaction, and an error
fails the analyzer. -/
def analyzerCompletes (name : Text) (attempt : Option Text) (write : Write) : Option Job :=
  if name ∈ run.active then
    let written := job.write write name (StageRow.completeAnalysis attempt)
    some (written.setRun (if write = .stored then run.produces name else run.loses name))
  else none

/-- ReportStageFailed; a done context or a failed write records nothing. -/
def analyzerFails (name message : Text) (write : Write) : Option Job :=
  if name ∈ run.active then
    some ((job.write write name (StageRow.updateError message)).setRun (run.loses name))
  else none

/-- runPass returns; it looks at the failed analyzers only. -/
def passEnds (pass : Pass) : Option Job :=
  if run.active = [] ∧
      (job.registry.subset (job.registry.passNames run.completed pass)).all run.settled then
    some (job.setRun { run with phase := if run.failed = [] then pass.next else .failing })
  else none

def stageSkipped (stage : PipelineStage) : Option Job :=
  if run.skips job.registry stage then some (job.setRun { run with phase := stage.next })
  else none

/-- The running-write of a stage of the pipeline; an error fails the job. -/
def stageStarts (stage : PipelineStage) (write : Write) : Option Job :=
  if run.skips job.registry stage then none
  else
    let written := job.write write stage.stageName (StageRow.updateStatus .running)
    if write = .stored then
      some ((written.execute stage.stageName).setRun { run with phase := .executing stage })
    else some (written.setRun { run with phase := .failing })

/-- The completed-write, whose failure is only a warning. -/
def stageCompletes (stage : PipelineStage) (write : Write) : Job :=
  (job.write write stage.stageName (StageRow.updateStatus .completed)).setRun
    { run with phase := stage.next }

/-- A failed stage of the pipeline, recorded with or without a message. -/
def stageFails (stage : PipelineStage) (message : Option Text) (write : Write) : Job :=
  let change := match message with
    | some text => StageRow.updateError text
    | none => StageRow.updateStatus .failed
  (job.write write stage.stageName change).setRun { run with phase := .failing }

/-- endRunningStages; the writes of the stages in `lost` fail. -/
def endRunningStages (rows : List StageRow) (lost : List Text) (ended : StageRow → StageRow) :
    List StageRow :=
  rows.map fun row =>
    if row.status = .running ∧ row.stageName ∉ lost then ended row else row

/-- failJob and interruptJob: the stages are ended only once the job's own write went
through. -/
def endsWith (status : JobStatus) (ended : Nat → StageRow → StageRow)
    (write : Write) (lost : List Text) : Job :=
  { job with
    clock := job.clock + 1
    status := if write.applied then status else job.status
    rows :=
      if write = .stored then endRunningStages job.rows lost (ended job.clock) else job.rows
    run := none }

/-- RetryJob from failure. A completed job keeps its status. -/
def retries (write : Write) : Option Job :=
  if job.run.isNone then
    match retryFromFailure job.status job.rows with
    | none => none
    | some rows =>
      some { job with
        rows
        status :=
          if write.applied ∧ job.status ≠ .completed then .running else job.status }
  else none

/-- The run can still meet an error or see its context cancelled. -/
def interruptible : Bool :=
  run.active = [] && run.phase ≠ .failing && run.phase ≠ .cancelling

def stepRun : JobEvent → Option Job
  | .attempts name write =>
    match run.phase with
    | .passing pass => job.attempts run pass name write
    | _ => none
  | .analyzerCompletes name attempt write =>
    match run.phase with
    | .passing _ => job.analyzerCompletes run name attempt write
    | _ => none
  | .analyzerFails name message write =>
    match run.phase with
    | .passing _ => job.analyzerFails run name message write
    | _ => none
  | .passEnds =>
    match run.phase with
    | .passing pass => job.passEnds run pass
    | _ => none
  | .stageSkipped =>
    match run.phase with
    | .due stage => job.stageSkipped run stage
    | _ => none
  | .stageStarts write =>
    match run.phase with
    | .due stage => job.stageStarts run stage write
    | _ => none
  | .stageCompletes write =>
    match run.phase with
    | .executing stage => some (job.stageCompletes run stage write)
    | _ => none
  | .stageFails message write =>
    match run.phase with
    | .executing stage => some (job.stageFails run stage message write)
    | _ => none
  | .errors =>
    if interruptible run then some (job.setRun { run with phase := .failing }) else none
  | .cancels =>
    if interruptible run then some (job.setRun { run with phase := .cancelling }) else none
  | .ends message write lost =>
    match run.phase with
    | .failing => some (job.endsWith .failed (StageRow.updateError message) write lost)
    | .cancelling =>
      some (job.endsWith .cancelled (StageRow.updateStatus .cancelled) write lost)
    | _ => none
  | .completes write =>
    match run.phase with
    | .finalizing =>
      some { job with
        status := if write.applied then .completed else job.status
        run := none }
    | _ => none
  | .crashes => some { job with run := none }
  | .starts | .retries _ => none

end

inductive RunStep (job : Job) (run : JobRun) : JobEvent → Job → Prop where
  | attempted {name write pass} (phase : run.phase = .passing pass)
      (due : name ∈ job.registry.subset (job.registry.passNames run.completed pass))
      (unsettled : run.settled name = false) (inactive : name ∉ run.active)
      (inputs : ∀ dependency ∈ job.registry.dependsOn name, dependency ∈ run.outputs) :
      RunStep job run (.attempts name write)
        (((job.write write name (StageRow.updateStatus .running)).execute name).setRun
          { run with active := name :: run.active })
  | passedOver {name write pass} (phase : run.phase = .passing pass)
      (settled : ∀ dependency ∈ job.registry.dependsOn name, run.settled dependency = true)
      (missing : ¬∀ dependency ∈ job.registry.dependsOn name, dependency ∈ run.outputs) :
      RunStep job run (.attempts name write)
        (job.setRun { run with skipped := name :: run.skipped })
  | analyzerStored {name attempt pass}
      (phase : run.phase = .passing pass) (working : name ∈ run.active) :
      RunStep job run (.analyzerCompletes name attempt .stored)
        ((job.write .stored name (StageRow.completeAnalysis attempt)).setRun (run.produces name))
  | analyzerUnstored {name attempt write pass}
      (phase : run.phase = .passing pass) (working : name ∈ run.active)
      (unstored : write ≠ .stored) :
      RunStep job run (.analyzerCompletes name attempt write)
        ((job.write write name (StageRow.completeAnalysis attempt)).setRun (run.loses name))
  | analyzerFails {name message write pass}
      (phase : run.phase = .passing pass) (working : name ∈ run.active) :
      RunStep job run (.analyzerFails name message write)
        ((job.write write name (StageRow.updateError message)).setRun (run.loses name))
  | passEnds {pass} (phase : run.phase = .passing pass) (quiet : run.active = [])
      (settled : ∀ name ∈ job.registry.subset (job.registry.passNames run.completed pass),
        run.settled name = true) (clean : run.failed = []) :
      RunStep job run .passEnds (job.setRun { run with phase := pass.next })
  | passFails {pass} (phase : run.phase = .passing pass) (quiet : run.active = []) :
      RunStep job run .passEnds (job.setRun { run with phase := .failing })
  | stageSkipped {stage} (phase : run.phase = .due stage)
      (skips : run.skips job.registry stage = true) :
      RunStep job run .stageSkipped (job.setRun { run with phase := stage.next })
  | stageStarted {stage} (phase : run.phase = .due stage)
      (runs : run.skips job.registry stage = false) :
      RunStep job run (.stageStarts .stored)
        (((job.write .stored stage.stageName (StageRow.updateStatus .running)).execute
          stage.stageName).setRun { run with phase := .executing stage })
  | stageUnstarted {write stage} (phase : run.phase = .due stage)
      (runs : run.skips job.registry stage = false) (unstored : write ≠ .stored) :
      RunStep job run (.stageStarts write)
        ((job.write write stage.stageName (StageRow.updateStatus .running)).setRun
          { run with phase := .failing })
  | stageCompletes {write stage} (phase : run.phase = .executing stage) :
      RunStep job run (.stageCompletes write) (job.stageCompletes run stage write)
  | stageFails {message write stage} (phase : run.phase = .executing stage) :
      RunStep job run (.stageFails message write) (job.stageFails run stage message write)
  | errors (free : interruptible run = true) :
      RunStep job run .errors (job.setRun { run with phase := .failing })
  | cancels (free : interruptible run = true) :
      RunStep job run .cancels (job.setRun { run with phase := .cancelling })
  | endsFailed {message write lost} (phase : run.phase = .failing) :
      RunStep job run (.ends message write lost)
        (job.endsWith .failed (StageRow.updateError message) write lost)
  | endsCancelled {message write lost} (phase : run.phase = .cancelling) :
      RunStep job run (.ends message write lost)
        (job.endsWith .cancelled (StageRow.updateStatus .cancelled) write lost)
  | completes {write} (phase : run.phase = .finalizing) :
      RunStep job run (.completes write)
        { job with status := if write.applied then .completed else job.status, run := none }
  | crashes : RunStep job run .crashes { job with run := none }

theorem stepRun_cases {job next : Job} {run : JobRun} (taken : job.stepRun run event = some next) :
    RunStep job run event next := by
  -- Every event but the interruptions and the crash is enabled in one phase only.
  cases event with
  | starts | retries _ => cases taken
  | attempts name write =>
    simp only [stepRun, Job.attempts] at taken
    split at taken
    · split_ifs at taken with guard inputs
      · cases taken
        exact .attempted ‹_› guard.1 guard.2.1 guard.2.2.1 (by simpa using inputs)
      · cases taken
        exact .passedOver ‹_› (List.all_eq_true.mp guard.2.2.2) (by simpa using inputs)
    · cases taken
  | analyzerCompletes name attempt write =>
    simp only [stepRun, Job.analyzerCompletes] at taken
    split at taken
    · split_ifs at taken with working stored
      · cases taken
        subst stored
        exact .analyzerStored ‹_› working
      · cases taken
        exact .analyzerUnstored ‹_› working stored
    · cases taken
  | passEnds =>
    simp only [stepRun, Job.passEnds] at taken
    split at taken
    · split_ifs at taken with guard clean
      · cases taken
        exact .passEnds ‹_› guard.1 (List.all_eq_true.mp guard.2) clean
      · cases taken
        exact .passFails ‹_› guard.1
    · cases taken
  | stageStarts write =>
    simp only [stepRun, Job.stageStarts] at taken
    split at taken
    · split_ifs at taken with skips stored
      · cases taken
        subst stored
        exact .stageStarted ‹_› (Bool.eq_false_iff.mpr skips)
      · cases taken
        exact .stageUnstarted ‹_› (Bool.eq_false_iff.mpr skips) stored
    · cases taken
  | completes write =>
    simp only [stepRun] at taken
    split at taken
    · cases taken
      exact .completes ‹_›
    · cases taken
  | _ =>
    simp only [stepRun, Job.analyzerFails, Job.stageSkipped] at taken
    repeat' split at taken
    all_goals cases taken
    all_goals constructor <;> assumption

def step : JobEvent → Option Job
  | .starts => job.starts
  | .retries write => job.retries write
  | event =>
    match job.run with
    | none => none
    | some run => job.stepRun run event

inductive Step (job : Job) : JobEvent → Job → Prop where
  | starts {next : Job} (taken : job.starts = some next) : Step job .starts next
  | retries {write : Write} {rows : List StageRow} (idle : job.run = none)
      (putBack : retryFromFailure job.status job.rows = some rows) :
      Step job (.retries write)
        { job with
          rows
          status :=
            if write.applied ∧ job.status ≠ .completed then .running else job.status }
  | runs {run : JobRun} {event : JobEvent} {next : Job} (present : job.run = some run)
      (acts : RunStep job run event next) : Step job event next

theorem step_cases {job next : Job} (taken : job.step event = some next) : Step job event next := by
  unfold step at taken
  split at taken
  · exact .starts taken
  · unfold Job.retries at taken
    split at taken
    · rename_i idle
      split at taken
      · cases taken
      · cases taken
        exact .retries (Option.isNone_iff_eq_none.mp idle) ‹_›
    · cases taken
  · split at taken
    · cases taken
    · exact .runs ‹_› (stepRun_cases taken)

def created (registry : Registry) (names : List Text) : Job :=
  { registry
    rows := names.map StageRow.create
    status := .pending
    clock := 0
    run := none
    executions := fun _ => 0
    consumed := fun _ _ => 0 }

end Job

end CrossCodex.Pipeline
