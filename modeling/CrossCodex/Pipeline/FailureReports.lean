/-
The runs of one job with the errors they meet (internal/pipeline/executor.go, reporter.go,
result_cache.go, store.go). Every event that can fail carries its error; the text it stores
is computed by the code's own path. A context that is done records no failure: the write is
`lost`.
-/

import CrossCodex.Pipeline.JobErrors

namespace CrossCodex.Pipeline

open Analyzer (Text)

/-- How far executeJob got before the stages: GetJob, then the status write. -/
inductive Startup where
  | loading
  | marking
  | working
deriving DecidableEq, Repr

/-- Where executeJob stood when it met the error it failed with. -/
structure FailurePoint where
  startup : Startup
  phase : JobPhase
deriving DecidableEq, Repr

/-- The config a message at this point is written with: the job is nil until loaded. -/
def FailurePoint.loaded (point : FailurePoint) (config : Option JobConfig) : Option JobConfig :=
  if point.startup = .loading then none else config

inductive Recorder where
  | failJob (point : FailurePoint)
  | reportStageFailed
  | failPipelineStage
  | endRunningStages (point : FailurePoint)
deriving DecidableEq, Repr

/-- A failure that was written to a row: who wrote it, under which trace, for which
error. -/
structure FailureRecord where
  recorder : Recorder
  traceID : Text
  err : Failure

/-- The variables of a live executeJob: `errors` is ExecutionResult's Failed and Errors,
`failing` the error on its way to failJob. -/
structure RunLocals where
  traceID : Text
  startup : Startup
  errors : List (Text × Failure)
  failing : Option (FailurePoint × Failure)

/-- `record` and `records` say which failure the job's and each stage's message was last
written for; the program has neither. -/
structure ReportingJob where
  job : Job
  jobID : Text
  config : Option JobConfig
  errorMessage : Text
  errorClass : JobErrorClass
  locals : RunLocals
  record : Option FailureRecord
  records : Text → Option FailureRecord

/-- The error of a failed write is the one the caller goes on with. -/
inductive ReportEvent where
  | starts (traceID : Text)
  | loads
  | marks (write : Write) (err : Failure)
  | attempts (name : Text) (write : Write)
  | analyzerCompletes (name : Text) (attempt : Option Text) (write : Write) (err : Failure)
  | analyzerFails (name : Text) (err : Failure) (write : Write)
  | probeFails (name message : Text) (cause : Failure) (write : Write)
  | passEnds
  | stageSkipped
  | stageStarts (write : Write) (err : Failure)
  | stageCompletes (write : Write)
  | stageFails (err : Failure) (recorded : Bool) (write : Write)
  | errors (err : Failure)
  | cancels
  | ends (write : Write) (lost : List Text)
  | completes (write : Write)
  | crashes
  | retries (write : Write)

/-- The error of runPass: of each failed analyzer's error only its first StageError. -/
def passFailure (failed : List (Text × Failure)) : Failure :=
  let names := List.intercalate " ".toList (failed.map Prod.fst)
  let failErr := Failure.internal
    ("analysis failed: ".toList ++ Nat.toDigits 10 failed.length ++
      " analyzers failed: [".toList ++ names ++ "]".toList)
  match failed.filterMap fun entry => entry.2.asStageError with
  | [] => failErr
  | first :: rest =>
    let stageErrs := Failure.join
      (List.intercalate ['\n'] ((first :: rest).map Failure.error)) (first :: rest)
    .join (failErr.error ++ ": ".toList ++ stageErrs.error) [failErr, stageErrs]

/-- The error of a stage of the pipeline as the job gets it. Only synthesis.Execute fails
its stage without a message. -/
def stageFailure (stage : PipelineStage) (recorded : Bool) (err : Failure) : Option Failure :=
  match stage, recorded with
  | .candidateGeneration, true => some (.errorf "candidate generation failed".toList err)
  | .synthesis, false => some (.errorf "synthesis.Execute".toList err)
  | .synthesis, true => some err
  | .graph, true => some err
  | .candidateGeneration, false | .graph, false => none

def llmUnavailable (name message : Text) (cause : Failure) : Failure :=
  .stageError name (.known .llmUnavailable) cause message

def resetNames (rows : List StageRow) : List Text :=
  match firstFailed rows with
  | some stage => (rows.map StageRow.stageName).dropWhile (· ≠ stage)
  | none => []

namespace ReportingJob

variable (state : ReportingJob)

def phase : JobPhase := (state.job.run.map JobRun.phase).getD .failing

def point : FailurePoint := ⟨state.locals.startup, state.phase⟩

def stageName : Text :=
  match state.phase with
  | .due stage | .executing stage => stage.stageName
  | _ => []

def fails (err : Failure) : ReportingJob :=
  { state with locals := { state.locals with failing := some (state.point, err) } }

def withJob (job : Job) : ReportingJob := { state with job }

/-- A change of the stages by a run past its start. -/
def works (event : JobEvent) : Option Job :=
  if state.locals.startup = .working then state.job.step event else none

def addError (name : Text) (err : Failure) : ReportingJob :=
  { state with locals := { state.locals with errors := state.locals.errors ++ [(name, err)] } }

def updateJobStatus (write : Write) (jobErr : Option Failure) (record : Option FailureRecord) :
    ReportingJob :=
  if write.applied then
    { state with
      errorMessage := (jobErr.map Failure.error).getD []
      errorClass := (jobErr.map classifyJobError).getD .retryable
      record }
  else state

def recordStage (write : Write) (name : Text) (recorder : Recorder) (err : Failure) :
    ReportingJob :=
  if write.applied then
    { state with
      records :=
        Function.update state.records name (some ⟨recorder, state.locals.traceID, err⟩) }
  else state

def starts (traceID : Text) : Option ReportingJob :=
  (state.job.step .starts).map fun job =>
    { state with
      job, locals := { traceID, startup := .loading, errors := [], failing := none } }

def loads : Option ReportingJob :=
  if state.locals.startup = .loading ∧ state.job.run.any Job.interruptible then
    some { state with locals := { state.locals with startup := .marking } }
  else none

def marks (write : Write) (err : Failure) : Option ReportingJob :=
  if state.locals.startup = .marking ∧ state.job.run.any Job.interruptible then
    let next :=
      if write = .stored then
        some { state with locals := { state.locals with startup := .working } }
      else
        (state.job.step .errors).map fun job =>
          (state.fails (.errorf "updating job status".toList err)).withJob job
    next.map fun next => next.updateJobStatus write none none
  else none

/-- ReportStageCompleted; an error fails the analyzer without a message. -/
def analyzerCompletes (name : Text) (attempt : Option Text) (write : Write) (err : Failure) :
    Option ReportingJob :=
  (state.works (.analyzerCompletes name attempt write)).map fun job =>
    if write = .stored then state.withJob job else (state.addError name err).withJob job

/-- ReportStageFailed, which has no job. -/
def analyzerFails (name : Text) (err : Failure) (write : Write) : Option ReportingJob :=
  let stageErr := tenantFailure state.locals.traceID state.jobID none err
  (state.works (.analyzerFails name stageErr.error write)).map fun job =>
    ((state.addError name err).recordStage write name .reportStageFailed err).withJob job

/-- prepareResultCache, before any analyzer runs: llmUnavailable fails the stage. -/
def probeFails (name message : Text) (cause : Failure) (write : Write) : Option ReportingJob :=
  let err := llmUnavailable name message cause
  let stageErr := tenantFailure state.locals.traceID state.jobID state.config err
  if state.locals.startup = .working ∧ state.phase = .passing .beforeCandidates then
    ((state.job.write write name (StageRow.updateError stageErr.error)).step .errors).map
      fun job => ((state.fails err).recordStage write name .failPipelineStage err).withJob job
  else none

def passEnds : Option ReportingJob :=
  (state.works .passEnds).map fun job =>
    if state.locals.errors = [] then state.withJob job
    else (state.fails (passFailure state.locals.errors)).withJob job

def stageStarts (write : Write) (err : Failure) : Option ReportingJob :=
  (state.works (.stageStarts write)).map fun job =>
    if write = .stored then state.withJob job
    else
      let lead := "updating ".toList ++ state.stageName ++ " stage to running".toList
      (state.fails (.errorf lead err)).withJob job

/-- A failed stage of the pipeline: candidate generation's own record, failPipelineStage,
or the status alone. -/
def stageFails (err : Failure) (recorded : Bool) (write : Write) : Option ReportingJob :=
  let stageErr := tenantFailure state.locals.traceID state.jobID state.config err
  match state.phase with
  | .executing stage =>
    match stageFailure stage recorded err with
    | none => none
    | some jobErr =>
      if recorded then
        (state.works (.stageFails (some stageErr.error) write)).map fun job =>
          ((state.fails jobErr).recordStage write stage.stageName .failPipelineStage
            err).withJob job
      else
        (state.works (.stageFails none write)).map fun job =>
          (state.fails jobErr).withJob job
  | _ => none

/-- An error outside the stages, or a panic. -/
def errors (err : Failure) : Option ReportingJob :=
  (state.job.step .errors).map fun job => (state.fails err).withJob job

def endedRecords (write : Write) (lost : List Text) (record : FailureRecord) :
    Text → Option FailureRecord := fun name =>
  if write = .stored ∧ ∃ row ∈ state.job.rows,
      row.stageName = name ∧ row.status = .running ∧ row.stageName ∉ lost then
    some record
  else state.records name

def failJob (point : FailurePoint) (err : Failure) (write : Write) (lost : List Text) :
    Option ReportingJob :=
  let traceID := state.locals.traceID
  let jobErr := tenantFailure traceID state.jobID (point.loaded state.config) err
  let stageErr := Failure.errorf "did not finish: the job failed".toList jobErr
  (state.job.step (.ends stageErr.error write lost)).map fun job =>
    let records := state.endedRecords write lost ⟨.endRunningStages point, traceID, err⟩
    { state with job, records }.updateJobStatus write (some jobErr)
      (some ⟨.failJob point, traceID, err⟩)

def ends (write : Write) (lost : List Text) : Option ReportingJob :=
  match state.phase, state.locals.failing with
  | .failing, some (point, err) => state.failJob point err write lost
  | .cancelling, _ =>
    (state.job.step (.ends [] write lost)).map fun job =>
      (state.withJob job).updateJobStatus write none none
  | _, _ => none

/-- RetryJob from failure; a completed job's row does not change. -/
def retries (write : Write) : Option ReportingJob :=
  if retryRefusal state.errorClass = [] then
    (state.job.step (.retries write)).map fun job =>
    let records := fun name =>
      if name ∈ resetNames state.job.rows then none else state.records name
    if state.job.status = .completed then { state with job, records }
    else { state with job, records }.updateJobStatus write none none
  else none

def step (state : ReportingJob) : ReportEvent → Option ReportingJob
  | .starts traceID => state.starts traceID
  | .loads => state.loads
  | .marks write err => state.marks write err
  | .attempts name write => (state.works (.attempts name write)).map state.withJob
  | .analyzerCompletes name attempt write err => state.analyzerCompletes name attempt write err
  | .analyzerFails name err write => state.analyzerFails name err write
  | .probeFails name message cause write => state.probeFails name message cause write
  | .passEnds => state.passEnds
  | .stageSkipped => (state.works .stageSkipped).map state.withJob
  | .stageStarts write err => state.stageStarts write err
  | .stageCompletes write => (state.works (.stageCompletes write)).map state.withJob
  | .stageFails err recorded write => state.stageFails err recorded write
  | .errors err => state.errors err
  | .cancels => (state.job.step .cancels).map state.withJob
  | .ends write lost => state.ends write lost
  | .completes write =>
    (state.works (.completes write)).map fun job =>
      (state.withJob job).updateJobStatus write none none
  | .crashes => (state.job.step .crashes).map state.withJob
  | .retries write => state.retries write

def created (jobID : Text) (config : Option JobConfig) (registry : Registry)
    (names : List Text) : ReportingJob :=
  { job := .created registry names
    jobID, config
    errorMessage := []
    errorClass := .retryable
    locals := { traceID := [], startup := .loading, errors := [], failing := none }
    record := none
    records := fun _ => none }

structure JobStage where
  stageName : Text
  status : StageStatus
  error : Option Text
deriving DecidableEq

structure PipelineJob where
  jobID : Text
  status : JobStatus
  error : Option Text
  stages : List JobStage
deriving DecidableEq

def toError (message : Text) : Option Text := if message = [] then none else some message

def stageToProto (row : StageRow) : JobStage :=
  { stageName := row.stageName, status := row.status, error := toError row.errorMessage }

/-- jobToProto, what GetJob and ListJobs answer. -/
def jobToProto : PipelineJob :=
  { jobID := state.jobID
    status := state.job.status
    error := toError state.errorMessage
    stages := state.job.rows.map stageToProto }

def failedJob : FailedJob :=
  { jobID := state.jobID, config := state.config, errorClass := state.errorClass }

def trimPeriod (message : Text) : Text :=
  if ['.'] <:+ message then message.dropLast else message

def refuseRetry : Option Text :=
  let refusal := retryRefusal state.errorClass
  if refusal = [] then none
  else
    let remedy := retryRemedy state.failedJob
    let tail :=
      if remedy ++ ['.'] <:+: state.errorMessage ∨ remedy <:+ state.errorMessage then []
      else ' ' :: remedy
    some ("cannot retry job ".toList ++ state.jobID ++ " from its failure: ".toList ++ refusal ++
      (". It failed with (as recorded then; a command in it may predate this version): ").toList ++
      trimPeriod state.errorMessage ++ ".".toList ++ tail)

end ReportingJob

end CrossCodex.Pipeline
