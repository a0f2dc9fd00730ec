/-
The gateway's job handlers (internal/gateway/jobs.go, mappings.go) over the pipeline's and
the results store. Every query runs in a session with row policies. JSON, collation, floats
and catalogs belong to the host.
-/

import CrossCodex.Oscal.Catalog
import CrossCodex.Pipeline.JobErrors
import CrossCodex.Tenant.Context

namespace CrossCodex.Gateway

open Analyzer (Text)
open Database (JobRow ChildRow Session SummaryName completed)
open Library (Table)
open Pipeline (JobErrorClass JobStatus)
open Tenant (Context)

structure Identity where
  subject : Text
  tenantID : Text
  roles : List Text
deriving DecidableEq

def isAdmin (identity : Identity) : Bool :=
  identity.roles.any fun role => Oscal.trimSpace role = "admin".toList

inductive Wiring where
  | inProcess
  | connect
deriving DecidableEq

structure JobData where
  config : Text
  createdAt : Nat
  updatedAt : Nat
  errorMessage : Text
  errorClass : JobErrorClass
deriving DecidableEq

structure StageData where
  status : Text
  startedAt : Option Nat
  completedAt : Option Nat
  retryCount : Nat
  errorMessage : Text
  cacheAttempt : Text
deriving DecidableEq

structure SummaryData (Score : Type) where
  consensus : Text
  confidence : Score
  viability : Score
deriving DecidableEq

structure Running where
  cancelled : Bool
  completing : Bool
deriving DecidableEq

abbrev Job := JobRow JobData

structure State (Score : Type) where
  jobs : Table Text Job
  stages : Table (Text × Text) (ChildRow StageData)
  summaries : Table (Text × SummaryName) (ChildRow (SummaryData Score))
  results : Table (Text × Text) (ChildRow Text)
  running : Table Text Running
  retrying : List Text

structure JobStage where
  stageName : Text
  status : Option JobStatus
  retryCount : Nat
  startedAt : Option Nat
  completedAt : Option Nat
  error : Option Text
deriving DecidableEq

structure JobProgress (Score : Type) where
  totalSteps : Nat
  completedSteps : Nat
  failedSteps : Nat
  cancelledSteps : Nat
  completionPercentage : Score
deriving DecidableEq

structure CacheRecord where
  summary : Text
  producerJobIDs : List Text
deriving DecidableEq

structure CacheSummary where
  summary : Text
  producerJobIDs : List Text
  otherProducerJobs : Nat
deriving DecidableEq

/-- A status this build does not know is unspecified, `none`. -/
structure PipelineJob (Score : Type) where
  jobID : Text
  error : Option Text
  status : Option JobStatus
  config : Text
  createdAt : Nat
  updatedAt : Nat
  createdBy : Text
  progress : JobProgress Score
  stages : List JobStage
  cacheSummaries : List CacheSummary
deriving DecidableEq

structure JobPage (Score : Type) where
  jobs : List (PipelineJob Score)
  nextPageToken : Option Int
  totalCount : Nat
deriving DecidableEq

structure Mapping (Score : Type) where
  jobID : Text
  sourceID : Text
  targetID : Text
  relationshipType : Text
  confidence : Score
  viability : Option Score
deriving DecidableEq

abbrev Cursor := Text × Text × Text

structure MappingPage (Score : Type) where
  mappings : List (Mapping Score)
  next : Option Cursor
  analysis : Option Text
deriving DecidableEq

inductive RetryRefusal where
  | stopping
  | running
  | retrying
  | cannotSucceed
  | emptyTargetCatalog
  | resultCacheCorrupt
  | nothingFailed
  | config (reason : Text)
deriving DecidableEq

inductive Failure where
  | invalidArgument
  | unauthenticated
  | jobNotFound
  | notOwner
  | notRunning
  | completing (jobID : Text)
  | retryRefused (jobID : Text) (refusal : RetryRefusal)
  | resourceExhausted (limit : Nat)
  | notCompleted (jobID status : Text)
  | corruptResult
deriving DecidableEq

/-- A job resumed in place, from a stage on if one has to be reset; or a new job. -/
inductive RetryAnswer where
  | resumed (jobID : Text) (fromStage : Option Text)
  | started (newJobID config createdBy : Text)
deriving DecidableEq

structure Host (Score : Type) where
  transport : Text → Option Text
  decodeConfig : Text → Text
  percentage : Nat → Nat → Score
  cacheRecords : Text → Job → List (Text × StageData) → List CacheRecord
  collates : Text → Text → Bool
  before : Cursor → Cursor → Bool
  atLeast : Score → Score → Bool
  positive : Score → Bool
  decodeMatches : Text → Option (List (Mapping Score))
  analysis : Text → Text → Option Text
  relationshipTypes : List Text
  noCache : Text → Bool
  retryConfig : Text → Text → Except Text Text
  newJobID : Text
  maxConcurrentJobs : Nat

variable {Score : Type}

section

variable (host : Host Score) (state : State Score) (session : Session)

/-- SELECT ... FROM jobs WHERE job_id = $1 AND tenant_id = $2. -/
def getRow (jobID : Text) : Option Job :=
  (state.jobs.lookup jobID).filter session.sees

def getStages (jobID : Text) : List (Text × StageData) :=
  ((state.stages.entries.filter fun entry =>
    entry.1.1 = jobID && session.seesChild entry.2).map fun entry =>
      (entry.1.2, entry.2.contents)).insertionSort fun first second =>
        host.collates first.1 second.1

/-- JobsCreatedBy: nothing without a user. -/
def jobsCreatedBy (jobIDs : List Text) : List Text :=
  match session.user with
  | none => []
  | some user => jobIDs.filter fun jobID =>
    (getRow state session jobID).any fun row => row.createdBy = user

def statusText : JobStatus → Text
  | .pending => "pending".toList
  | .running => "running".toList
  | .completed => completed
  | .failed => "failed".toList
  | .cancelled => "cancelled".toList

def statusOf (text : Text) : Option JobStatus :=
  [.pending, .running, .completed, .failed, .cancelled].find? fun status =>
    statusText status = text

def stageToProto (stage : Text × StageData) : JobStage where
  stageName := stage.1
  status := statusOf stage.2.status
  retryCount := stage.2.retryCount
  startedAt := stage.2.startedAt
  completedAt := stage.2.completedAt
  error := if stage.2.errorMessage = [] then none else some stage.2.errorMessage

def stagesIn (status : JobStatus) (stages : List (Text × StageData)) : Nat :=
  stages.countP fun stage => stage.2.status = statusText status

def jobToProto (jobID : Text) (row : Job) (stages : List (Text × StageData))
    (cacheSummaries : List CacheSummary) : PipelineJob Score where
  jobID := jobID
  error := if row.contents.errorMessage = [] then none else some row.contents.errorMessage
  status := statusOf row.status
  config := host.decodeConfig row.contents.config
  createdAt := row.contents.createdAt
  updatedAt := row.contents.updatedAt
  createdBy := row.createdBy
  progress :=
    { totalSteps := stages.length
      completedSteps := stagesIn .completed stages
      failedSteps := stagesIn .failed stages
      cancelledSteps := stagesIn .cancelled stages
      completionPercentage := host.percentage (stagesIn .completed stages) stages.length }
  stages := stages.map stageToProto
  cacheSummaries := cacheSummaries

/-- Reused jobs the caller created are named, the others counted. -/
def cacheSummaries (jobID : Text) (row : Job) (stages : List (Text × StageData)) :
    List CacheSummary :=
  (host.cacheRecords jobID row stages).map fun record =>
    let owned := jobsCreatedBy state session record.producerJobIDs
    { summary := record.summary
      producerJobIDs := record.producerJobIDs.filter fun producer => producer ∈ owned
      otherProducerJobs := record.producerJobIDs.countP fun producer => producer ∉ owned }

namespace Backend

def getJob (jobID : Text) (includeCacheSummaries : Bool) : Except Failure (PipelineJob Score) :=
  match getRow state session jobID with
  | none => .error .jobNotFound
  | some row =>
    let stages := getStages host state session jobID
    .ok (jobToProto host jobID row stages
      (if includeCacheSummaries then cacheSummaries host state session jobID row stages else []))

/-- A page size that is not positive stands for 50; an offset that is not positive for 0. -/
structure ListRequest where
  status : Option JobStatus
  pageSize : Int
  offset : Int
deriving DecidableEq

def ListRequest.limit (request : ListRequest) : Nat :=
  if 0 < request.pageSize then request.pageSize.toNat else 50

def listedRows (status : Option JobStatus) : List (Sigma fun _ : Text => Job) :=
  (state.jobs.entries.filter fun entry =>
    session.sees entry.2 && (status.all fun wanted => entry.2.status = statusText wanted))
    |>.insertionSort fun first second =>
      second.2.contents.createdAt ≤ first.2.contents.createdAt

def listJobs (request : ListRequest) : JobPage Score :=
  let rows := listedRows state session request.status
  { jobs := ((rows.drop request.offset.toNat).take request.limit).map fun entry =>
      jobToProto host entry.1 entry.2 (getStages host state session entry.1) []
    nextPageToken :=
      if request.offset + request.limit < rows.length then some (request.offset + request.limit)
      else none
    totalCount := rows.length }

def cancelJob (jobID : Text) : Except Failure Unit :=
  match getRow state session jobID with
  | none => .error .jobNotFound
  | some _ =>
    match state.running.lookup jobID with
    | none => .error .notRunning
    | some entry =>
      if entry.completing then .error (.completing jobID)
      else if entry.cancelled then .error .notRunning
      else .ok ()

def retryReserved (jobID : Text) : Option RetryRefusal :=
  match state.running.lookup jobID with
  | some entry => some (if entry.cancelled then .stopping else .running)
  | none => if jobID ∈ state.retrying then some .retrying else none

def retryRefused (row : Job) (fromFailure : Bool) : Option RetryRefusal :=
  if Pipeline.retryRefusal row.contents.errorClass ≠ [] ∧ fromFailure then some .cannotSucceed
  else if row.contents.errorClass = .emptyTargetCatalog ∧ ¬fromFailure then
    some .emptyTargetCatalog
  else if row.contents.errorClass = .resultCacheCorrupt ∧ ¬fromFailure ∧
      ¬host.noCache row.contents.config then
    some .resultCacheCorrupt
  else none

/-- checkConcurrencyLimit counts the running jobs of all users. -/
def limitReached : Bool :=
  0 < host.maxConcurrentJobs && host.maxConcurrentJobs ≤ state.running.entries.length

def stopped (status : Text) : Bool :=
  status = statusText .failed || status = statusText .cancelled

def resumeJob (jobID : Text) (row : Job) (stages : List (Text × StageData)) :
    Except Failure RetryAnswer :=
  match stages.find? fun stage => stopped stage.2.status with
  | some stage => .ok (.resumed jobID (some stage.1))
  | none =>
    if stopped row.status then .ok (.resumed jobID none)
    else .error (.retryRefused jobID .nothingFailed)

def jobCreator : Text := session.user.getD (session.tenant.getD [])

def restartJob (jobID : Text) (row : Job) : Except Failure RetryAnswer :=
  match host.retryConfig row.tenantID row.contents.config with
  | .error reason => .error (.retryRefused jobID (.config reason))
  | .ok config => .ok (.started host.newJobID config (jobCreator session))

def retryJob (jobID : Text) (fromFailure : Bool) : Except Failure RetryAnswer :=
  match getRow state session jobID with
  | none => .error .jobNotFound
  | some row =>
    match (retryReserved state jobID).or (retryRefused host row fromFailure) with
    | some refusal => .error (.retryRefused jobID refusal)
    | none =>
      if limitReached host state then .error (.resourceExhausted host.maxConcurrentJobs)
      else if fromFailure then resumeJob jobID row (getStages host state session jobID)
      else restartJob host session jobID row

end Backend

inductive Stage where
  | synthesized
  | analyzer
deriving DecidableEq

/-- A filter without a job reads across the completed jobs. -/
structure Filter (Score : Type) where
  jobID : Text
  stage : Stage
  controlID : Text
  minConfidence : Score
  includeNonViable : Bool
  relationshipTypes : List Text
  pageSize : Nat
  after : Option Cursor
deriving DecidableEq

def relationshipAnalyzer : Text := "relationship".toList

def paginate (rows : List (Mapping Score)) (size : Nat) (analysis : Option Text) :
    MappingPage Score :=
  if rows.length ≤ size then ⟨rows, none, analysis⟩
  else ⟨rows.take size, (rows.take size).getLast?.map fun last =>
    (last.jobID, last.sourceID, last.targetID), analysis⟩

def Filter.concerns (filter : Filter Score) (sourceID targetID : Text) : Bool :=
  filter.controlID = [] || sourceID = filter.controlID || targetID = filter.controlID

def selects (filter : Filter Score) (key : Text × SummaryName) (row : ChildRow (SummaryData Score)) :
    
    Bool :=
  session.seesChild row && key.2.2.2 = relationshipAnalyzer &&
    (if filter.jobID = [] then
      (getRow state session key.1).any fun job => job.status = completed
    else key.1 = filter.jobID) &&
    filter.concerns key.2.1 key.2.2.1 &&
    host.atLeast row.contents.confidence filter.minConfidence &&
    (filter.includeNonViable || host.positive row.contents.viability) &&
    row.contents.consensus ∈ filter.relationshipTypes &&
    host.before (filter.after.getD ([], [], [])) (key.1, key.2.1, key.2.2.1)

def listSynthesized (filter : Filter Score) : List (Mapping Score) :=
  (((state.summaries.entries.filter fun entry =>
    selects host state session filter entry.1 entry.2).map fun entry =>
      { jobID := entry.1.1, sourceID := entry.1.2.1, targetID := entry.1.2.2.1
        relationshipType := entry.2.contents.consensus
        confidence := entry.2.contents.confidence
        viability := some entry.2.contents.viability : Mapping Score }).insertionSort
    fun first second => host.before (first.jobID, first.sourceID, first.targetID)
      (second.jobID, second.sourceID, second.targetID)).take (filter.pageSize + 1)

/-- compareKey within one job. -/
def keyBefore (first second : Text × Text) : Bool :=
  first.1 < second.1 || (first.1 = second.1 && first.2 ≤ second.2)

def Mapping.pair (mapping : Mapping Score) : Text × Text := (mapping.sourceID, mapping.targetID)

def selectMatches (filter : Filter Score) (found : List (Mapping Score)) : List (Mapping Score) :=
  ((found.filter fun mapping => host.atLeast mapping.confidence filter.minConfidence &&
    mapping.relationshipType ∈ filter.relationshipTypes &&
    filter.concerns mapping.sourceID mapping.targetID).map fun mapping =>
      { mapping with jobID := filter.jobID, viability := none }).insertionSort
    fun first second => keyBefore first.pair second.pair

def listAnalyzer (filter : Filter Score) : Except Failure (List (Mapping Score)) :=
  match (state.results.lookup (filter.jobID, relationshipAnalyzer)).filter session.seesChild with
  | none => .ok []
  | some row =>
    match host.decodeMatches row.contents with
    | none => .error .corruptResult
    | some found =>
      let selected := selectMatches host filter found
      if (selected.map Mapping.pair).Nodup then
        .ok ((selected.filter fun mapping => filter.after.all fun cursor =>
          !keyBefore mapping.pair cursor.2).take (filter.pageSize + 1))
      else .error .corruptResult

/-- requireCompleted: the config of the named job. -/
def requireCompleted (jobID : Text) : Except Failure Text :=
  match getRow state session jobID with
  | none => .error .jobNotFound
  | some row =>
    if row.status = completed then .ok row.contents.config
    else .error (.notCompleted jobID row.status)

def listRows (filter : Filter Score) : Except Failure (List (Mapping Score)) :=
  match filter.stage with
  | .synthesized => .ok (listSynthesized host state session filter)
  | .analyzer => listAnalyzer host state session filter

def listMappings (tenantID : Text) (filter : Filter Score) : Except Failure (MappingPage Score) :=
  if filter.jobID = [] then
    (listRows host state session filter).map fun rows => paginate rows filter.pageSize none
  else
    match requireCompleted state session filter.jobID with
    | .error failure => .error failure
    | .ok config =>
      (listRows host state session filter).map fun rows =>
        paginate rows filter.pageSize (host.analysis tenantID config)

end

variable (host : Host Score) (wiring : Wiring) (identity : Identity) (state : State Score)

/-- The context the auth interceptor gives a request. -/
def callerContext : Option Context :=
  (Tenant.withTenant Tenant.background identity.tenantID).map fun context =>
    Tenant.withUser context identity.subject

def pipelineContext : Option Context :=
  match wiring with
  | .inProcess => callerContext identity
  | .connect =>
    (((callerContext identity).bind Tenant.clientHeaders).bind
      (Tenant.carried host.transport)).bind Tenant.serverContext

def pipelineSession : Except Failure Session :=
  match (pipelineContext host wiring identity).bind Tenant.beginTx with
  | none => .error .unauthenticated
  | some session => .ok session

def resultsSession : Except Failure Session :=
  match (callerContext identity).bind Tenant.beginTx with
  | none => .error .unauthenticated
  | some session => .ok session

/-- The check GetJob and authorizeJobOwner make on the job the pipeline returned. -/
def checkOwner (job : PipelineJob Score) : Except Failure Unit :=
  if isAdmin identity || job.createdBy = identity.subject then .ok () else .error .notOwner

/-- Cache summaries are read after the caller is shown to own the job or be an admin. -/
def getJob (jobID : Text) (includeCacheSummaries : Bool) : Except Failure (PipelineJob Score) := do
  if jobID = [] then throw .invalidArgument
  let session ← pipelineSession host wiring identity
  let job ← Backend.getJob host state session jobID false
  checkOwner identity job
  if includeCacheSummaries then Backend.getJob host state session jobID true else pure job

/-- The page is filtered; its count and token are the pipeline's. -/
def listJobs (request : Backend.ListRequest) : Except Failure (JobPage Score) := do
  let session ← pipelineSession host wiring identity
  let page := Backend.listJobs host state session request
  if isAdmin identity then pure page
  else pure { page with jobs := page.jobs.filter fun job => job.createdBy = identity.subject }

def authorizeJobOwner (session : Session) (jobID : Text) : Except Failure Unit :=
  if isAdmin identity then .ok ()
  else Backend.getJob host state session jobID false >>= checkOwner identity

def cancelJob (jobID : Text) : Except Failure Unit := do
  if jobID = [] then throw .invalidArgument
  let session ← pipelineSession host wiring identity
  authorizeJobOwner host identity state session jobID
  Backend.cancelJob state session jobID

def retryJob (jobID : Text) (fromFailure : Bool) : Except Failure RetryAnswer := do
  if jobID = [] then throw .invalidArgument
  let session ← pipelineSession host wiring identity
  authorizeJobOwner host identity state session jobID
  Backend.retryJob host state session jobID fromFailure

/-- No ownership check: the results store is asked with the caller's context. -/
def listJobMappings (filter : Filter Score) : Except Failure (MappingPage Score) := do
  if filter.jobID = [] then throw .invalidArgument
  let session ← resultsSession identity
  listMappings host state session identity.tenantID filter

/-- The synthesized mappings of a control across jobs; the next token is dropped. -/
def getControlMappings (controlID : Text) (minConfidence : Score) (pageSize : Nat) :
    Except Failure (List (Mapping Score)) := do
  if controlID = [] then throw .invalidArgument
  let session ← resultsSession identity
  let page ← listMappings host state session identity.tenantID
    { jobID := [], stage := .synthesized, controlID, minConfidence, includeNonViable := false
      relationshipTypes := host.relationshipTypes, pageSize, after := none }
  pure page.mappings

end CrossCodex.Gateway
