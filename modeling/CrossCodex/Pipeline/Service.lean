/-
The pipeline service (internal/pipeline/service_impl.go, executor.go). One event is one
critical section of Service.mu, one transaction, or one decision of a run. A refused call is
not enabled. Job IDs are of any type.
-/

import CrossCodex.Library.Run
import Mathlib.Data.List.AList

namespace CrossCodex.Pipeline

open Function

inductive JobStatus where
  | pending
  | running
  | completed
  | failed
  | cancelled
deriving DecidableEq, Repr

/-- A row of jobs, with whether one of its stages is failed or cancelled. -/
structure JobRow where
  status : JobStatus
  stageFailed : Bool
deriving DecidableEq, Repr

/-- The first cause a run's context was cancelled with. -/
inductive Cause where
  | jobCancelled
  | serviceStopping
deriving DecidableEq, Repr

inductive RunPhase where
  | working
  /-- Past the context check of failJob: the next write is `failed`. -/
  | failing
  /-- In interruptJob after CancelJob: the next write is `cancelled`. -/
  | interrupting
  /-- claimCompletion succeeded: the next write is `completed`. -/
  | completing
  | ended
deriving DecidableEq, Repr

/-- An executeJob goroutine together with its `runningJob`. `writes` and
`writeFailed` record what became of its terminal status writes. -/
structure Run (JobId : Type) where
  id : Nat
  job : JobId
  slot : Bool
  cause : Option Cause
  completing : Bool
  cancelled : Bool
  phase : RunPhase
  writes : List JobStatus
  writeFailed : Bool
deriving DecidableEq

/-- A job ID that CreateJob or a new-job RetryJob drew and has not registered yet. -/
inductive CreatePhase where
  | admitted
  | stored
deriving DecidableEq

inductive RetryPhase (JobId : Type) where
  | reserved
  | admitted
  | stagesReset
  | markedRunning
  | creating (newJob : JobId)
  | registered
deriving DecidableEq

/-- A RetryJob call between reserveRetry and its return; `status` is what it read
before it reserved the job. -/
structure RetryCall (JobId : Type) where
  status : JobStatus
  phase : RetryPhase JobId
deriving DecidableEq

structure Dispatcher (JobId : Type) where
  jobs : List JobId
  holdsSlot : Bool
deriving DecidableEq

structure Service (JobId : Type) where
  maxConcurrentJobs : Nat
  /-- Job IDs in the order of created_at. -/
  created : List JobId
  rows : JobId → Option JobRow
  running : AList fun _ : JobId => Nat
  retrying : JobId → Option (RetryCall JobId)
  creates : JobId → Option CreatePhase
  /-- What RetryJob calls have read of a job before reserving it. -/
  reads : List (JobId × JobStatus)
  dispatcher : Option (Dispatcher JobId)
  started : Bool
  stopped : Bool
  semUsed : Nat
  nextRun : Nat
  live : List (Run JobId)
  finished : List (Run JobId)

variable {JobId : Type} [DecidableEq JobId]

namespace Service

variable (s : Service JobId)

/-- checkConcurrencyLimit: a limit of zero is no limit. -/
def underLimit : Bool :=
  s.maxConcurrentJobs = 0 || s.running.keys.length < s.maxConcurrentJobs

def run? (id : Nat) : Option (Run JobId) :=
  s.live.find? fun run => run.id = id

def updateRun (id : Nat) (change : Run JobId → Run JobId) : Service JobId :=
  { s with live := s.live.map fun run => if run.id = id then change run else run }

def newRun (id : Nat) (job : JobId) (slot : Bool) : Run JobId :=
  { id, job, slot, cause := none, completing := false, cancelled := false,
    phase := .working, writes := [], writeFailed := false }

section

variable (job : JobId)

/-- `s.running[job] = rj` and `go s.executeJob(…, rj, …)`. -/
def register (slot : Bool) : Service JobId :=
  { s with
    running := s.running.insert job s.nextRun
    live := newRun s.nextRun job slot :: s.live
    nextRun := s.nextRun + 1 }

/-- UpdateJobStatus: no row, or a completed one, refuses the update. -/
def updateJobStatus (status : JobStatus) : Option (Service JobId) :=
  match s.rows job with
  | none => none
  | some row =>
    if row.status = .completed then none
    else some { s with rows := update s.rows job (some { row with status }) }

/-- CreateJob has drawn a fresh ID and passed checkConcurrencyLimit. -/
def createAdmit : Option (Service JobId) :=
  if s.rows job = none ∧ s.creates job = none ∧ s.underLimit = true then
    some { s with creates := update s.creates job (some .admitted) }
  else none

def storeJob : Service JobId :=
  { s with
    rows := update s.rows job (some ⟨.pending, false⟩)
    created := s.created ++ [job]
    creates := update s.creates job (some .stored) }

def createStore : Option (Service JobId) :=
  if s.creates job = some .admitted then some (s.storeJob job) else none

def createRegister : Option (Service JobId) :=
  if s.creates job = some .stored then
    some ({ s with creates := update s.creates job none }.register job false)
  else none

def createAbort : Option (Service JobId) :=
  if s.creates job ≠ none then
    some { s with creates := update s.creates job none }
  else none

def cancelRun (run : Run JobId) : Run JobId :=
  { run with cause := run.cause.or (some .jobCancelled), cancelled := true }

def cancelJob : Option (Service JobId) :=
  match s.rows job, s.running.lookup job with
  | some _, some id =>
    match s.run? id with
    | none => none
    | some run =>
      if run.completing = false ∧ run.cancelled = false then
        some (s.updateRun id cancelRun)
      else none
  | _, _ => none

def retryRead : Option (Service JobId) :=
  match s.rows job with
  | none => none
  | some row => some { s with reads := (job, row.status) :: s.reads }

def reserveRetry (status : JobStatus) : Option (Service JobId) :=
  if (job, status) ∈ s.reads ∧ s.running.lookup job = none ∧ s.retrying job = none then
    some { s with
      retrying := update s.retrying job (some ⟨status, .reserved⟩) }
  else none

def setRetryPhase (status : JobStatus) (phase : RetryPhase JobId) : Service JobId :=
  { s with retrying := update s.retrying job (some ⟨status, phase⟩) }

def retryAdmit : Option (Service JobId) :=
  match s.retrying job with
  | some ⟨status, .reserved⟩ =>
    if s.underLimit = true then some (s.setRetryPhase job status .admitted) else none
  | _ => none

/-- GetStages and ResetStagesFrom of a retry from failure. A job without a failed
stage is resumed as it is, but only if the call read it as failed or cancelled. -/
def retryReset : Option (Service JobId) :=
  match s.retrying job, s.rows job with
  | some ⟨status, .admitted⟩, some row =>
    if row.stageFailed = true then
      if row.status = .completed then none
      else some ({ s with
        rows := update s.rows job (some { row with stageFailed := false })
        }.setRetryPhase job status .stagesReset)
    else if status = .failed ∨ status = .cancelled then
      some (s.setRetryPhase job status .stagesReset)
    else none
  | _, _ => none

def retryMark : Option (Service JobId) :=
  match s.retrying job with
  | some ⟨status, .stagesReset⟩ =>
    (s.updateJobStatus job .running).map fun marked =>
      marked.setRetryPhase job status .markedRunning
  | _ => none

/-- Registers without looking at the running map again. -/
def retryRegister : Option (Service JobId) :=
  match s.retrying job with
  | some ⟨status, .markedRunning⟩ =>
    some ((s.register job false).setRetryPhase job status .registered)
  | _ => none

/-- The other form of RetryJob draws a new ID and then goes on as CreateJob does. -/
def retryAsNew (job newJob : JobId) : Option (Service JobId) :=
  match s.retrying job with
  | some ⟨status, .admitted⟩ =>
    if s.rows newJob = none ∧ s.creates newJob = none then
      some ({ s with creates := update s.creates newJob (some .admitted)
        }.setRetryPhase job status (.creating newJob))
    else none
  | _ => none

/-- The deferred release: RetryJob returns, with its answer or with an error. -/
def retryReturn : Option (Service JobId) :=
  match s.retrying job with
  | none => none
  | some ⟨_, .markedRunning⟩ => none
  | some ⟨_, .creating newJob⟩ =>
    if s.creates newJob = none then
      some { s with retrying := update s.retrying job none }
    else none
  | some _ => some { s with retrying := update s.retrying job none }

end

def resumable : List JobId :=
  s.created.filter fun job => (s.rows job).map JobRow.status = some .running

def start : Option (Service JobId) :=
  if s.started = false then
    some { s with started := true, dispatcher := some ⟨s.resumable, false⟩ }
  else none

def dispatchSlot : Option (Service JobId) :=
  match s.dispatcher with
  | some ⟨job :: rest, false⟩ =>
    if s.stopped = false ∧ (s.maxConcurrentJobs = 0 ∨ s.semUsed < s.maxConcurrentJobs) then
      some { s with dispatcher := some ⟨job :: rest, true⟩, semUsed := s.semUsed + 1 }
    else none
  | _ => none

/-- Skips a job that is in the running map; does not look at `retrying`. -/
def dispatchNext : Option (Service JobId) :=
  match s.dispatcher with
  | some ⟨job :: rest, true⟩ =>
    if s.running.lookup job = none then
      some ({ s with dispatcher := some ⟨rest, false⟩ }.register job true)
    else some { s with dispatcher := some ⟨rest, false⟩, semUsed := s.semUsed - 1 }
  | _ => none

section

variable (id : Nat) (run : Run JobId)

/-- interruptJob: a cancelled run goes on to write `cancelled`; a run stopped by a
shutdown writes nothing. -/
def interruptRun : Run JobId :=
  match run.cause with
  | some .jobCancelled => { run with phase := .interrupting }
  | _ => { run with phase := .ended }

/-- UpdateJobStatus(running) at the start of a run. -/
def runMark : Option (Service JobId) :=
  match s.run? id with
  | some run => if run.phase = .working then s.updateJobStatus run.job .running else none
  | none => none

/-- A stage of the run's job is recorded failed or cancelled. -/
def runStageFails : Option (Service JobId) :=
  match s.run? id with
  | some run =>
    match s.rows run.job with
    | some row =>
      if row.status = .completed then none
      else some { s with
        rows := update s.rows run.job (some { row with stageFailed := true }) }
    | none => none
  | none => none

/-- A phase returned an error: the deciding context check of executeJob and failJob. -/
def failRun : Run JobId :=
  if run.cause = none then { run with phase := .failing } else interruptRun run

def runFails : Option (Service JobId) :=
  match s.run? id with
  | some run => if run.phase = .working then some (s.updateRun id failRun) else none
  | none => none

/-- The recovery runs failJob on a context without the run's cancellation. A panic
in a terminal write is a write that failed. -/
def panicRun : Run JobId :=
  { run with phase := .failing, writeFailed := run.writeFailed || run.phase ≠ .working }

def runPanics : Option (Service JobId) :=
  match s.run? id with
  | some run => if run.phase ≠ .ended then some (s.updateRun id panicRun) else none
  | none => none

/-- claimCompletion, or interruptJob when the context is done. -/
def claimRun : Run JobId :=
  if run.cause = none then { run with completing := true, phase := .completing }
  else interruptRun run

def runClaims : Option (Service JobId) :=
  match s.run? id with
  | some run => if run.phase = .working then some (s.updateRun id claimRun) else none
  | none => none

def terminalStatus : RunPhase → Option JobStatus
  | .failing => some .failed
  | .interrupting => some .cancelled
  | .completing => some .completed
  | _ => none

def wroteRun (status : JobStatus) (run : Run JobId) : Run JobId :=
  { run with phase := .ended, writes := run.writes ++ [status] }

def writeFailedRun : Run JobId :=
  { run with phase := .ended, writeFailed := true }

/-- The terminal status write; `reaches` is whether the database is reached. -/
def runWrites (reaches : Bool) : Option (Service JobId) :=
  match s.run? id with
  | some run =>
    match terminalStatus run.phase with
    | none => none
    | some status =>
      match if reaches then s.updateJobStatus run.job status else none with
      | some written => some (written.updateRun id (wroteRun status))
      | none => some (s.updateRun id writeFailedRun)
  | none => none

/-- The deferred release: only the run's own entry is removed. A resumed run gives
its semaphore slot back when it returns. -/
def releaseRun : Service JobId :=
  { s with
    live := s.live.filter fun other => other.id ≠ run.id
    finished := run :: s.finished
    running := if s.running.lookup run.job = some run.id then s.running.erase run.job
      else s.running
    semUsed := if run.slot then s.semUsed - 1 else s.semUsed }

def runReleases : Option (Service JobId) :=
  match s.run? id with
  | some run => if run.phase = .ended then some (s.releaseRun run) else none
  | none => none

def stopRun : Run JobId :=
  { run with cause := run.cause.or (some .serviceStopping) }

end

def stop : Option (Service JobId) :=
  some { s with
    stopped := true
    running := ∅
    live := s.live.map fun run =>
      if s.running.lookup run.job = some run.id then stopRun run else run }

end Service

inductive ServiceEvent (JobId : Type) where
  | createAdmit (job : JobId)
  | createStore (job : JobId)
  | createRegister (job : JobId)
  | createAbort (job : JobId)
  | cancelJob (job : JobId)
  | retryRead (job : JobId)
  | reserveRetry (job : JobId) (status : JobStatus)
  | retryAdmit (job : JobId)
  | retryReset (job : JobId)
  | retryMark (job : JobId)
  | retryRegister (job : JobId)
  | retryAsNew (job newJob : JobId)
  | retryReturn (job : JobId)
  | start
  | dispatchSlot
  | dispatchNext
  | runMark (id : Nat)
  | runStageFails (id : Nat)
  | runFails (id : Nat)
  | runPanics (id : Nat)
  | runClaims (id : Nat)
  | runWrites (id : Nat) (reaches : Bool)
  | runReleases (id : Nat)
  | stop
deriving DecidableEq

def Service.step (s : Service JobId) : ServiceEvent JobId → Option (Service JobId)
  | .createAdmit job => s.createAdmit job
  | .createStore job => s.createStore job
  | .createRegister job => s.createRegister job
  | .createAbort job => s.createAbort job
  | .cancelJob job => s.cancelJob job
  | .retryRead job => s.retryRead job
  | .reserveRetry job status => s.reserveRetry job status
  | .retryAdmit job => s.retryAdmit job
  | .retryReset job => s.retryReset job
  | .retryMark job => s.retryMark job
  | .retryRegister job => s.retryRegister job
  | .retryAsNew job newJob => s.retryAsNew job newJob
  | .retryReturn job => s.retryReturn job
  | .start => s.start
  | .dispatchSlot => s.dispatchSlot
  | .dispatchNext => s.dispatchNext
  | .runMark id => s.runMark id
  | .runStageFails id => s.runStageFails id
  | .runFails id => s.runFails id
  | .runPanics id => s.runPanics id
  | .runClaims id => s.runClaims id
  | .runWrites id reaches => s.runWrites id reaches
  | .runReleases id => s.runReleases id
  | .stop => s.stop

/-- A service process that has just been built over whatever the database holds. -/
structure Service.Initial (s : Service JobId) : Prop where
  running : s.running = ∅
  retrying : ∀ job, s.retrying job = none
  creates : ∀ job, s.creates job = none
  reads : s.reads = []
  dispatcher : s.dispatcher = none
  semUsed : s.semUsed = 0
  live : s.live = []
  finished : s.finished = []
  stored : ∀ job, job ∈ s.created ↔ s.rows job ≠ none

end CrossCodex.Pipeline
