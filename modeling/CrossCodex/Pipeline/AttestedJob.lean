/-
The runs of one attested job (internal/pipeline/executor.go): loadStoredLinks, createLayout,
attestAnalyzers, the links of synthesis and graph, finalizeAttestation, around the stages of
JobRun. An event is one such step; the retries of one write count as one write that is
stored, lost, or stored and reported failed. The key and the cache setting may change
between runs, and cache rows at any time. `runs`, `seals` and `completedIn` are no part of
the program.
-/

import CrossCodex.Library.Fallible
import CrossCodex.Pipeline.AttestationChain
import CrossCodex.Pipeline.CacheRecords
import CrossCodex.Pipeline.JobRun

namespace CrossCodex.Pipeline

open Library ResultCache Function

/-- Job identifiers are canonical UUIDs. -/
structure JobIdentity where
  tenantID : Text
  jobID : Text
  config : Bytes
  canonical : canonicalAttempt jobID = true

def JobIdentity.subject (identity : JobIdentity) (sha256 : Bytes → Text) : Artifact :=
  ⟨jobURI identity.tenantID identity.jobID, resultDigest sha256 identity.config⟩

structure StoredAttestation where
  layout : Option SignedLayout
  links : Text → Option Envelope
  bundle : Option Bundle
  checkpoints : Objects

/-- The jobExecution of a live run. `unlinked` is set once attestAnalyzers has read what it
signs, `linked` while the executing stage's link is stored, `failure` once a step failed. -/
structure Execution where
  key : Text
  wired : Bool
  loaded : Bool
  layout : Option SignedLayout
  links : List SignedLink
  stored : List (AttemptRef × Text)
  cacheRuns : List (Text × AnalyzerCacheRun)
  unlinked : Option (List Link)
  linked : Bool
  finalized : Bool
  failure : Option AttestationFailure

def Execution.start (key : Text) (wired : Bool) : Execution where
  key := key
  wired := wired
  loaded := false
  layout := none
  links := []
  stored := []
  cacheRuns := []
  unlinked := none
  linked := false
  finalized := false
  failure := none

/-- An attempt's record was signed, in this run of the job. -/
structure Seal where
  run : Nat
  record : Manifest
  deriving DecidableEq

structure AttestedJob where
  identity : JobIdentity
  job : Job
  results : Text → Option Bytes
  tables : Tables
  stored : StoredAttestation
  execution : Option Execution
  runs : Nat
  seals : List Seal
  completedIn : Text → Option Nat

inductive AttestedEvent where
  | begins (key : Text) (wired : Bool)
  | acts (event : JobEvent)
  /-- A signature, or a read of the database or of object storage, fails. -/
  | fails (failure : AttestationFailure)
  | loadsLinks
  | createsLayout (expires : Nat) (put : Write)
  | sealsAttempt (record : Manifest) (put : Write)
  | analyzerCompletes (name : Text) (run : AnalyzerCacheRun) (result : Bytes) (write : Write)
  | readsRecords
  | linksAnalyzer (put : Write)
  | linksStage (result : Bytes) (put : Write)
  | finalizes (now : Nat) (put : Write)
  | rewritesTables (tables : Tables)
  | repoints (name : Text) (attempt : Option Text)

/-- The stage events a run admits: analysis follows the layout, synthesis and graph follow
the analyzers' links, a linked stage completes after its link is stored, and the job after
the bundle. -/
def Execution.admits (execution : Execution) (phase : JobPhase) : JobEvent → Bool
  | .errors | .cancels | .crashes | .ends _ _ _ | .stageFails _ _ => true
  | .attempts _ _ | .analyzerFails _ _ _ | .passEnds =>
    execution.failure.isNone && execution.layout.isSome
  | .stageSkipped | .stageStarts _ =>
    execution.failure.isNone && execution.layout.isSome &&
      (phase = .due .candidateGeneration || execution.unlinked = some [])
  | .stageCompletes _ =>
    execution.failure.isNone && (phase = .executing .candidateGeneration || execution.linked)
  | .completes _ => execution.failure.isNone && execution.finalized
  | .starts | .retries _ | .analyzerCompletes _ _ _ => false

def Execution.after (execution : Execution) : JobEvent → Execution
  | .stageCompletes _ => { execution with linked := false }
  | _ => execution

structure Execution.Continues (execution later : Execution) : Prop where
  key : later.key = execution.key
  loaded : later.loaded = execution.loaded
  layout : later.layout = execution.layout
  links : later.links = execution.links
  failure : later.failure = execution.failure
  finalized : later.finalized = execution.finalized

theorem Execution.continues_after (execution : Execution) (event : JobEvent) :
    execution.Continues (execution.after event) := by
  cases event <;> exact ⟨rfl, rfl, rfl, rfl, rfl, rfl⟩

namespace AttestedJob

variable (sha256 : Bytes → Text) (state : AttestedJob)

def registry : Registry := state.job.registry

def subject : Artifact := state.identity.subject sha256

def checkpointsOf (key : Text) : CacheCheckpoints where
  tenantID := state.identity.tenantID
  jobID := state.identity.jobID
  configDigest := resultDigest sha256 state.identity.config
  key := key
  analyzers := state.registry.analyzers

variable (execution : Execution)

def view : CacheView where
  sha256 := sha256
  wired := execution.wired
  tables := state.tables
  objects := state.stored.checkpoints

def pointer (name : Text) : Option Text :=
  (state.job.rows.find? fun row => row.stageName = name).bind StageRow.cacheAttempt

def setExecution : AttestedJob :=
  { state with execution := some execution }

def failWith (failure : AttestationFailure) : AttestedJob :=
  state.setExecution { execution with failure := some failure }

def putLink (step : Text) (put : Write) (raw : Envelope) : AttestedJob :=
  { state with
    stored := { state.stored with
      links := if put.applied then update state.stored.links step (some raw)
        else state.stored.links } }

def storedLink (key : Text) (step : Text) : Except AttestationFailure (List SignedLink) :=
  match state.stored.links step with
  | none => .error .invalid
  | some raw =>
    match raw.verify key with
    | .error _ => .error .invalid
    | .ok link =>
      if link.step = step ∧ state.subject sha256 ∈ link.materials then
        .ok [⟨raw, link.step, link.products⟩]
      else .error .invalid

def loadStoredLinks (key : Text) (completed : List Text) :
    Except AttestationFailure (List SignedLink) :=
  gatherEach (state.storedLink sha256 key) (linkedPipelineStages.filter fun step => step ∈ completed)

def resultDigests : Except AttestationFailure (List (Text × Text)) :=
  gatherEach
    (fun name =>
      match state.results name with
      | none => .error .invalid
      | some data => .ok [(name, resultDigest sha256 data)])
    state.registry.analyzers

def cacheRecords : Except AttestationFailure (List (Text × AnalyzerCacheRecord)) :=
  gatherEach
    (fun name =>
      match (state.view sha256 execution).cacheRecordOf (state.checkpointsOf sha256 execution.key)
          execution.stored (execution.cacheRuns.lookup name) name (state.pointer name) with
      | .error failure => .error failure
      | .ok record => .ok [(name, record)])
    state.registry.analyzers

def analyzerLink (digest : Text → Text) (record : Text → Text) (name : Text) : Link where
  step := name
  materials := (state.registry.dependsOn name).map (fun dep => ⟨outputURI dep, digest dep⟩) ++
    [⟨cacheManifestURI name, record name⟩]
  products := [⟨outputURI name, digest name⟩]

/-- What attestAnalyzers signs, in the order of the DAG. -/
def analyzerLinks : Except AttestationFailure (List Link) :=
  match state.resultDigests sha256 with
  | .error failure => .error failure
  | .ok digests =>
    match state.cacheRecords sha256 execution with
    | .error failure => .error failure
    | .ok records =>
      .ok (state.registry.analyzers.map (state.analyzerLink
        (fun name => (digests.lookup name).getD [])
        (fun name => ((records.lookup name).map AnalyzerCacheRecord.digest).getD [])))

def stageLink (result : Bytes) : PipelineStage → Option Link
  | .candidateGeneration => none
  | .synthesis => some
      { step := synthesisStep
        materials := (execution.links.filter fun link =>
          link.step ∈ state.registry.analyzers).flatMap SignedLink.products
        products := [⟨outputURI synthesisStep, resultDigest sha256 result⟩] }
  | .graph => some
      { step := graphStep
        materials := ((execution.links.reverse.find? fun link =>
          link.step = synthesisStep).map SignedLink.products).getD []
        products := [] }

def signs (link : Link) : SignedLink :=
  createLink execution.key (state.subject sha256) link.step link.materials link.products

def keepsLink (link : Link) : Execution :=
  { execution with links := execution.links ++ [state.signs sha256 execution link] }

/-- createLink: the signed link is stored, and then kept for the bundle. -/
def createsLink (link : Link) (put : Write) (proceed : Execution → Execution) : AttestedJob :=
  let written := state.putLink link.step put (state.signs sha256 execution link).raw
  if put = .stored then written.setExecution (proceed (state.keepsLink sha256 execution link))
  else written.failWith execution .storage

def begins (key : Text) (wired : Bool) : Option AttestedJob :=
  match state.job.starts with
  | none => none
  | some job =>
    some { state with
      job
      execution := some (Execution.start key wired)
      runs := state.runs + 1 }

/-- A stage event of JobRun; the execution ends with its run. -/
def actsIn (run : JobRun) (event : JobEvent) : Option AttestedJob :=
  if execution.admits run.phase event then
    match state.job.step event with
    | none => none
    | some job =>
      some { state with
        job
        execution := if job.run.isSome then some (execution.after event) else none }
  else none

def loadsLinks (run : JobRun) : Option AttestedJob :=
  if execution.failure = none ∧ execution.loaded = false then
    match state.loadStoredLinks sha256 execution.key run.completed with
    | .error failure => some (state.failWith execution failure)
    | .ok links =>
      some (state.setExecution { execution with loaded := true, links := links })
  else none

def storesLayout (expires : Nat) (put : Write) : AttestedJob :=
  let layout : SignedLayout :=
    ⟨execution.key, state.registry.layoutSteps (state.subject sha256).uri, expires⟩
  let written := { state with
    stored := { state.stored with
      layout := if put.applied then some layout else state.stored.layout } }
  if put = .stored then written.setExecution { execution with layout := some layout }
  else written.failWith execution .storage

def createsLayout (expires : Nat) (put : Write) : Option AttestedJob :=
  if execution.failure = none ∧ execution.loaded = true ∧ execution.layout = none then
    some (state.storesLayout sha256 execution expires put)
  else none

def storesCheckpoint (record : Manifest) (link : Link) (put : Write) : AttestedJob :=
  let key := (state.checkpointsOf sha256 execution.key).keyOf record.analyzer record.attempt
  { state with
    stored := { state.stored with
      checkpoints := if put.applied then
          (key, Envelope.signed execution.key link) :: state.stored.checkpoints
        else state.stored.checkpoints }
    seals := ⟨state.runs, record⟩ :: state.seals
    execution := some { execution with
      stored := if put = .stored then (record.ref, record.digest sha256) :: execution.stored
        else execution.stored } }

/-- The attempt is new: no checkpoint of it was signed or stored. -/
def FreshAttempt (record : Manifest) : Prop :=
  (state.checkpointsOf sha256 execution.key).keyOf record.analyzer record.attempt ∉
      state.stored.checkpoints.map Prod.fst ∧
    record.ref ∉ state.seals.map fun sealed => sealed.record.ref

instance decidableFreshAttempt (execution : Execution) (record : Manifest) :
    Decidable (state.FreshAttempt sha256 execution record) := by
  unfold FreshAttempt
  infer_instance

/-- seal: Checkpoint with Sign under the job's lock, then Store. -/
def sealsAttempt (run : JobRun) (record : Manifest) (put : Write) : Option AttestedJob :=
  if execution.failure = none ∧ execution.wired = true ∧ record.analyzer ∈ run.active ∧
      record.jobID = state.identity.jobID ∧ state.FreshAttempt sha256 execution record then
    match state.tables.checkpoint state.identity.tenantID sha256 record with
    | .error _ => none
    | .ok digest =>
      match (state.checkpointsOf sha256 execution.key).sign state.identity.tenantID record.ref
          digest with
      | none => none
      | some link => some (state.storesCheckpoint sha256 execution record link put)
  else none

/-- The attempt a completing analyzer names is one this run sealed and stored, with the
statistics it reports. -/
def sealedBy (name : Text) (run : AnalyzerCacheRun) : Bool :=
  match run.attempt with
  | none => true
  | some attempt =>
    state.seals.any fun sealed =>
      sealed.run = state.runs && sealed.record.ref = ⟨state.identity.jobID, name, attempt⟩ &&
        sealed.record.stats.getLast? = run.stats && run.stats.isSome &&
        ((execution.stored.map Prod.fst).contains sealed.record.ref)

/-- ReportStageCompleted: the result and the status are one transaction. -/
def storesResult (execution : Execution) (job : Job) (name : Text) (run : AnalyzerCacheRun)
    (result : Bytes) (write : Write) : AttestedJob :=
  { state with
    job
    results := if write.applied then update state.results name (some result) else state.results
    completedIn := if write.applied then update state.completedIn name (some state.runs)
      else state.completedIn
    execution := some { execution with
      cacheRuns := if write = .stored then (name, run) :: execution.cacheRuns
        else execution.cacheRuns } }

def analyzerCompletes (execution : Execution) (name : Text) (run : AnalyzerCacheRun)
    (result : Bytes) (write : Write) : Option AttestedJob :=
  if execution.failure = none ∧ execution.layout.isSome ∧ state.sealedBy execution name run then
    match state.job.step (.analyzerCompletes name run.attempt write) with
    | none => none
    | some job => some (state.storesResult execution job name run result write)
  else none

def readsRecords (run : JobRun) : Option AttestedJob :=
  if execution.failure = none ∧ execution.layout.isSome ∧ execution.unlinked = none ∧
      run.phase = .due .synthesis then
    match state.analyzerLinks sha256 execution with
    | .error failure => some (state.failWith execution failure)
    | .ok links => some (state.setExecution { execution with unlinked := some links })
  else none

def linksAnalyzer (run : JobRun) (put : Write) : Option AttestedJob :=
  if execution.failure = none ∧ run.phase = .due .synthesis then
    match execution.unlinked with
    | some (link :: rest) =>
      some (state.createsLink sha256 execution link put fun execution =>
        { execution with unlinked := some rest })
    | _ => none
  else none

def linksStage (run : JobRun) (result : Bytes) (put : Write) : Option AttestedJob :=
  match run.phase with
  | .executing stage =>
    match state.stageLink sha256 execution result stage with
    | none => none
    | some link =>
      if execution.failure = none ∧ execution.linked = false then
        some (state.createsLink sha256 execution link put fun execution =>
          { execution with linked := true })
      else none
  | _ => none

def storesBundle (put : Write) : AttestedJob :=
  match marshalBundle execution.layout (execution.links.map SignedLink.raw) with
  | none => state.failWith execution .signing
  | some bundle =>
    let written := { state with
      stored := { state.stored with
        bundle := if put.applied then some bundle else state.stored.bundle } }
    if put = .stored then written.setExecution { execution with finalized := true }
    else written.failWith execution .storage

def finalizes (run : JobRun) (now : Nat) (put : Write) : Option AttestedJob :=
  if execution.failure = none ∧ execution.finalized = false ∧ run.phase = .finalizing then
    match verifyChain execution.key now execution.layout (execution.links.map SignedLink.raw)
        (state.subject sha256) with
    | .error _ => some (state.failWith execution .invalid)
    | .ok _ => some (state.storesBundle execution put)
  else none

/-- An update of the cache_attempt column. -/
def repoints (name : Text) (attempt : Option Text) : AttestedJob :=
  { state with
    job := { state.job with
      rows := updateRow state.job.rows name fun row => { row with cacheAttempt := attempt } } }

def stepRun (run : JobRun) : AttestedEvent → Option AttestedJob
  | .acts event => state.actsIn execution run event
  | .fails failure =>
    if execution.failure = none ∧ run.active = [] ∧ failure ≠ .invalid then
      some (state.failWith execution failure)
    else none
  | .loadsLinks => state.loadsLinks sha256 execution run
  | .createsLayout expires put => state.createsLayout sha256 execution expires put
  | .sealsAttempt record put => state.sealsAttempt sha256 execution run record put
  | .analyzerCompletes name cacheRun result write =>
    state.analyzerCompletes execution name cacheRun result write
  | .readsRecords => state.readsRecords sha256 execution run
  | .linksAnalyzer put => state.linksAnalyzer sha256 execution run put
  | .linksStage result put => state.linksStage sha256 execution run result put
  | .finalizes now put => state.finalizes sha256 execution run now put
  | .begins _ _ | .rewritesTables _ | .repoints _ _ => none

def step : AttestedEvent → Option AttestedJob
  | .begins key wired => state.begins key wired
  | .rewritesTables tables => some { state with tables }
  | .repoints name attempt => some (state.repoints name attempt)
  | .acts (.retries write) =>
    match state.job.step (.retries write) with
    | none => none
    | some job => some { state with job }
  | event =>
    match state.execution, state.job.run with
    | some execution, some run => state.stepRun sha256 execution run event
    | _, _ => none

inductive RunStep (execution : Execution) (run : JobRun) : AttestedEvent → AttestedJob → Prop where
  | acts {event job} (admitted : execution.admits run.phase event = true)
      (taken : state.job.step event = some job) :
      RunStep execution run (.acts event)
        { state with
          job
          execution := if job.run.isSome then some (execution.after event) else none }
  | fails {failure} (free : execution.failure = none)
      (idle : run.active = []) (fault : failure ≠ .invalid) :
      RunStep execution run (.fails failure) (state.failWith execution failure)
  | linksUnloaded {failure} (free : execution.failure = none) (unloaded : execution.loaded = false)
      (read : state.loadStoredLinks sha256 execution.key run.completed = .error failure) :
      RunStep execution run .loadsLinks (state.failWith execution failure)
  | loadsLinks {links} (free : execution.failure = none) (unloaded : execution.loaded = false)
      (read : state.loadStoredLinks sha256 execution.key run.completed = .ok links) :
      RunStep execution run .loadsLinks
        (state.setExecution { execution with loaded := true, links := links })
  | createsLayout {expires put} (free : execution.failure = none)
      (loaded : execution.loaded = true) (absent : execution.layout = none) :
      RunStep execution run (.createsLayout expires put)
        (state.storesLayout sha256 execution expires put)
  | sealsAttempt {record : Manifest} {put : Write} {digest : Text} {link : Link}
      (free : execution.failure = none) (working : record.analyzer ∈ run.active)
      (own : record.jobID = state.identity.jobID)
      (fresh : state.FreshAttempt sha256 execution record)
      (checked : state.tables.checkpoint state.identity.tenantID sha256 record = .ok digest)
      (signs : (state.checkpointsOf sha256 execution.key).sign state.identity.tenantID
        record.ref digest = some link) :
      RunStep execution run (.sealsAttempt record put)
        (state.storesCheckpoint sha256 execution record link put)
  | analyzerCompletes {name cacheRun result write job} (free : execution.failure = none)
      (laid : execution.layout.isSome = true)
      (sealedRun : state.sealedBy execution name cacheRun = true)
      (taken : state.job.step (.analyzerCompletes name cacheRun.attempt write) = some job) :
      RunStep execution run (.analyzerCompletes name cacheRun result write)
        (state.storesResult execution job name cacheRun result write)
  | recordsUnread {failure} (free : execution.failure = none) (phase : run.phase = .due .synthesis)
      (read : state.analyzerLinks sha256 execution = .error failure) :
      RunStep execution run .readsRecords (state.failWith execution failure)
  | readsRecords {links} (free : execution.failure = none)
      (laid : execution.layout.isSome = true) (phase : run.phase = .due .synthesis)
      (unread : execution.unlinked = none)
      (read : state.analyzerLinks sha256 execution = .ok links) :
      RunStep execution run .readsRecords
        (state.setExecution { execution with unlinked := some links })
  | linksAnalyzer {link rest put}
      (free : execution.failure = none) (phase : run.phase = .due .synthesis)
      (due : execution.unlinked = some (link :: rest)) :
      RunStep execution run (.linksAnalyzer put)
        (state.createsLink sha256 execution link put fun execution =>
          { execution with unlinked := some rest })
  | linksStage {stage link result put}
      (free : execution.failure = none) (phase : run.phase = .executing stage)
      (unlinked : execution.linked = false)
      (signs : state.stageLink sha256 execution result stage = some link) :
      RunStep execution run (.linksStage result put)
        (state.createsLink sha256 execution link put fun execution =>
          { execution with linked := true })
  | chainRefused {now put failure}
      (free : execution.failure = none) (phase : run.phase = .finalizing)
      (verified : verifyChain execution.key now execution.layout
        (execution.links.map SignedLink.raw) (state.subject sha256) = .error failure) :
      RunStep execution run (.finalizes now put) (state.failWith execution .invalid)
  | finalizes {now put recorded}
      (free : execution.failure = none) (unfinished : execution.finalized = false)
      (phase : run.phase = .finalizing)
      (verified : verifyChain execution.key now execution.layout
        (execution.links.map SignedLink.raw) (state.subject sha256) = .ok recorded) :
      RunStep execution run (.finalizes now put) (state.storesBundle execution put)

inductive Step : AttestedEvent → AttestedJob → Prop where
  | begins {key wired job} (started : state.job.starts = some job) :
      Step (.begins key wired)
        { state with
          job
          execution := some (Execution.start key wired)
          runs := state.runs + 1 }
  | retries {write job} (taken : state.job.step (.retries write) = some job) :
      Step (.acts (.retries write)) { state with job }
  | rewritesTables {tables} : Step (.rewritesTables tables) { state with tables }
  | repoints {name attempt} :
      Step (.repoints name attempt) (state.repoints name attempt)
  | runs {execution run event next}
      (live : state.execution = some execution) (present : state.job.run = some run)
      (acts : state.RunStep sha256 execution run event next) : Step event next

variable {sha256 state} {next : AttestedJob} {event : AttestedEvent}

theorem stepRun_cases {execution : Execution} {run : JobRun}
    (taken : state.stepRun sha256 execution run event = some next) :
    state.RunStep sha256 execution run event next := by
  cases event with
  | begins key wired | rewritesTables tables | repoints name attempt => cases taken
  | acts event =>
    simp only [stepRun, actsIn] at taken
    split at taken
    · split at taken
      · cases taken
      · cases taken
        exact .acts ‹_› ‹_›
    · cases taken
  | analyzerCompletes name cacheRun result write =>
    simp only [stepRun, AttestedJob.analyzerCompletes] at taken
    split at taken
    · rename_i guard
      split at taken
      · cases taken
      cases taken
      exact .analyzerCompletes guard.1 guard.2.1 guard.2.2 ‹_›
    · cases taken
  | _ =>
    -- Each way through the tests that is not refused is one constructor.
    simp only [stepRun, AttestedJob.loadsLinks, AttestedJob.createsLayout,
      AttestedJob.sealsAttempt, AttestedJob.readsRecords, AttestedJob.linksAnalyzer,
      AttestedJob.linksStage, AttestedJob.finalizes] at taken
    repeat' split at taken
    all_goals cases taken
    all_goals constructor <;> tauto

theorem step_cases (taken : state.step sha256 event = some next) :
    state.Step sha256 event next := by
  unfold step at taken
  split at taken
  case h_5 =>
    split at taken
    · exact .runs ‹_› ‹_› (stepRun_cases taken)
    · cases taken
  all_goals try unfold AttestedJob.begins at taken
  all_goals repeat' split at taken
  all_goals cases taken
  all_goals constructor <;> assumption

theorem createsLink_job (link : Link) (put : Write) (proceed : Execution → Execution) :
    (state.createsLink sha256 execution link put proceed).job = state.job := by
  unfold createsLink
  dsimp only
  split <;> rfl

theorem storesLayout_job (expires : Nat) (put : Write) :
    (state.storesLayout sha256 execution expires put).job = state.job := by
  unfold storesLayout
  dsimp only
  split <;> rfl

theorem storesBundle_job (put : Write) : (state.storesBundle execution put).job = state.job := by
  unfold storesBundle
  repeat' split
  all_goals rfl

theorem createsLink_cases {execution : Execution} {link : Link} {put : Write}
    {proceed : Execution → Execution} :
    (put = .stored ∧ state.createsLink sha256 execution link put proceed =
        (state.putLink link.step .stored (state.signs sha256 execution link).raw).setExecution
          (proceed (state.keepsLink sha256 execution link))) ∨
      put ≠ .stored ∧ state.createsLink sha256 execution link put proceed =
        (state.putLink link.step put (state.signs sha256 execution link).raw).failWith execution
          .storage := by
  by_cases kept : put = .stored
  · left
    subst kept
    exact ⟨rfl, rfl⟩
  · right
    exact ⟨kept, if_neg kept⟩

def created (identity : JobIdentity) (registry : Registry) (names : List Text)
    (tables : Tables) : AttestedJob where
  identity := identity
  job := Job.created registry names
  results _ := none
  tables := tables
  stored := ⟨none, fun _ => none, none, []⟩
  execution := none
  runs := 0
  seals := []
  completedIn _ := none

end AttestedJob

end CrossCodex.Pipeline
