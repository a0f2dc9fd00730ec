/-
The errors of a job and what the tenant is told of them (internal/pipeline/errors.go,
internal/analysis/errors.go). Leaves other than the sentinels ClassifyJobError looks for are
`internal`.
-/

import CrossCodex.Pipeline.CandidateGeneration

namespace CrossCodex.Pipeline

open Analyzer (Text)

inductive Sentinel where
  | attestationInvalid
  | analyzersChanged
  | missingCatalogID
  | emptyTargetCatalog
  | corrupt
  | unavailable
  | llmUnavailable
  | outputTruncated
deriving DecidableEq, Repr

def Sentinel.text : Sentinel → Text
  | .attestationInvalid => "attestation does not verify".toList
  | .analyzersChanged => "the enabled analyzers changed since the job was created".toList
  | .missingCatalogID =>
    ("job config has no usable catalog_id " ++
      "(missing, empty, or a catalog field of the wrong type)").toList
  | .emptyTargetCatalog => "target catalog has no control with a statement".toList
  | .corrupt => "cached result failed its integrity check".toList
  | .unavailable => "result cache unavailable".toList
  | .llmUnavailable =>
    "the model gateway did not complete a probe request before analysis".toList
  | .outputTruncated => "model gave no answer within max_tokens".toList

inductive Failure where
  | known (sentinel : Sentinel)
  | internal (text : Text)
  /-- An error with `Unwrap() error`, such as fmt.Errorf with one `%w`. -/
  | wrap (text : Text) (inner : Failure)
  /-- An error with `Unwrap() []error`: errors.Join, or fmt.Errorf with several `%w`. -/
  | join (text : Text) (inners : List Failure)
  | stageError (analyzer : Text) (sentinel cause : Failure) (message : Text)
  | tenantError (sentinel : Failure) (message : Text)
  | jobFailure (message : Text) (err : Failure)

namespace Failure

def error : Failure → Text
  | .known sentinel => sentinel.text
  | .internal text | .wrap text _ | .join text _ => text
  | .stageError _ _ _ message | .tenantError _ message | .jobFailure message _ => message

/-- `fmt.Errorf("<lead>: %w", err)`. -/
def errorf (lead : Text) (err : Failure) : Failure := .wrap (lead ++ ": ".toList ++ err.error) err

mutual

/-- errors.Is. A StageError unwraps to its sentinel alone, never to its cause. -/
def is (target : Sentinel) : Failure → Bool
  | .known sentinel => sentinel = target
  | .internal _ => false
  | .wrap _ inner => inner.is target
  | .join _ inners => isAny target inners
  | .stageError _ sentinel _ _ => sentinel.is target
  | .tenantError sentinel _ => sentinel.is target
  | .jobFailure _ err => err.is target

def isAny (target : Sentinel) : List Failure → Bool
  | [] => false
  | inner :: rest => inner.is target || isAny target rest

end

mutual

/-- `errors.AsType[*analysis.StageError]`: the first one, depth first. -/
def asStageError : Failure → Option Failure
  | .stageError analyzer sentinel cause message =>
    some (.stageError analyzer sentinel cause message)
  | .known _ | .internal _ => none
  | .wrap _ inner => inner.asStageError
  | .join _ inners => asStageErrorAny inners
  | .tenantError sentinel _ => sentinel.asStageError
  | .jobFailure _ err => err.asStageError

def asStageErrorAny : List Failure → Option Failure
  | [] => none
  | inner :: rest => inner.asStageError.or (asStageErrorAny rest)

end

mutual

def tenantMessages : Failure → List Text
  | .stageError _ _ _ message => [message]
  | .tenantError _ message => [message]
  | .wrap _ inner => inner.tenantMessages
  | .jobFailure _ err => err.tenantMessages
  | .join _ inners => tenantMessagesAll inners
  | .known _ | .internal _ => []

def tenantMessagesAll : List Failure → List Text
  | [] => []
  | inner :: rest => inner.tenantMessages ++ tenantMessagesAll rest

end

mutual

/-- The same tree with every text that was not written for the tenant taken out, and no
cause below a StageError. -/
def redact : Failure → Failure
  | .known sentinel => .known sentinel
  | .internal _ => .internal []
  | .wrap _ inner => .wrap [] inner.redact
  | .join _ inners => .join [] (redactAll inners)
  | .stageError analyzer sentinel _ message =>
    .stageError analyzer sentinel.redact (.internal []) message
  | .tenantError sentinel message => .tenantError sentinel.redact message
  | .jobFailure message err => .jobFailure message err.redact

def redactAll : List Failure → List Failure
  | [] => []
  | inner :: rest => inner.redact :: redactAll rest

end

mutual

theorem is_redact (target : Sentinel) (err : Failure) : err.redact.is target = err.is target := by
  match err with
  | .known _ | .internal _ => rfl
  | .wrap _ inner => exact is_redact target inner
  | .join _ inners => exact isAny_redactAll target inners
  | .stageError _ sentinel _ _ => exact is_redact target sentinel
  | .tenantError sentinel _ => exact is_redact target sentinel
  | .jobFailure _ inner => exact is_redact target inner

theorem isAny_redactAll (target : Sentinel) (inners : List Failure) :
    isAny target (redactAll inners) = isAny target inners := by
  match inners with
  | [] => rfl
  | inner :: rest =>
    unfold redactAll isAny
    rw [is_redact target inner, isAny_redactAll target rest]

end

mutual

theorem tenantMessages_redact (err : Failure) : err.redact.tenantMessages = err.tenantMessages := by
  match err with
  | .known _ | .internal _ | .stageError .. | .tenantError .. => rfl
  | .wrap _ inner => exact tenantMessages_redact inner
  | .join _ inners => exact tenantMessagesAll_redactAll inners
  | .jobFailure _ inner => exact tenantMessages_redact inner

theorem tenantMessagesAll_redactAll (inners : List Failure) :
    tenantMessagesAll (redactAll inners) = tenantMessagesAll inners := by
  match inners with
  | [] => rfl
  | inner :: rest =>
    unfold redactAll tenantMessagesAll
    rw [tenantMessages_redact inner, tenantMessagesAll_redactAll rest]

end

end Failure

inductive JobErrorClass where
  | retryable
  | attestationInvalid
  | analyzersChanged
  | missingCatalog
  | emptyTargetCatalog
  | resultCacheUnavailable
  | resultCacheCorrupt
  | llmUnavailable
  | llmOutputTruncated
deriving DecidableEq, Repr

def JobErrorClass.text : JobErrorClass → Text
  | .retryable => []
  | .attestationInvalid => "attestation_invalid".toList
  | .analyzersChanged => "analyzers_changed".toList
  | .missingCatalog => "missing_catalog".toList
  | .emptyTargetCatalog => "empty_target_catalog".toList
  | .resultCacheUnavailable => "result_cache_unavailable".toList
  | .resultCacheCorrupt => "result_cache_corrupt".toList
  | .llmUnavailable => "llm_unavailable".toList
  | .llmOutputTruncated => "llm_output_truncated".toList

def classifyJobError (err : Failure) : JobErrorClass :=
  if err.is .attestationInvalid then .attestationInvalid
  else if err.is .analyzersChanged then .analyzersChanged
  else if err.is .missingCatalogID then .missingCatalog
  else if err.is .emptyTargetCatalog then .emptyTargetCatalog
  -- Corrupt before unavailable: a retry cannot fix the first.
  else if err.is .corrupt then .resultCacheCorrupt
  else if err.is .unavailable then .resultCacheUnavailable
  else if err.is .llmUnavailable then .llmUnavailable
  else if err.is .outputTruncated then .llmOutputTruncated
  else .retryable

theorem classifyJobError_redact (err : Failure) :
    classifyJobError err.redact = classifyJobError err := by
  simp only [classifyJobError, Failure.is_redact]

def retryRefusal : JobErrorClass → Text
  | .attestationInvalid =>
    ("its attestation does not verify, " ++
      "and a retry reads the same stored attestation").toList
  | .analyzersChanged =>
    ("the enabled analyzers changed since it was created, " ++
      "and a retry checks them again").toList
  | .missingCatalog => "its config names no catalog to analyse".toList
  | .emptyTargetCatalog =>
    ("its target catalog has no control with a statement, " ++
      "and a retry reads the same catalog").toList
  | .resultCacheCorrupt =>
    ("a cached result failed its integrity check, or a stage run's cache record " ++
      "did not match what the stage wrote, and a retry reads the same cache").toList
  | .retryable | .resultCacheUnavailable | .llmUnavailable | .llmOutputTruncated => []

structure JobConfig where
  stored : StoredConfig
  noCache : Bool

/-- The job as a message describes it; `config` is `none` when the job could not be
loaded or its config does not decode. -/
structure FailedJob where
  jobID : Text
  config : Option JobConfig
  errorClass : JobErrorClass

def FailedJob.catalogs (job : FailedJob) : Option Catalogs :=
  extractCatalogs (job.config.map JobConfig.stored)

def FailedJob.noCache (job : FailedJob) : Bool := job.config.any JobConfig.noCache

def jobCommand (cats : Catalogs) (noCache : Bool) (source target : Text) : Text :=
  "crosscodex run start --source ".toList ++ source ++ " --target ".toList ++ target ++
    (if cats.bidirectional then " --bidirectional".toList else []) ++
    (if noCache then " --no-cache".toList else [])

def placeholderCommand : Text :=
  "crosscodex run start --source <source-catalog-id> --target <target-catalog-id>".toList

def newJobCommand (job : FailedJob) : Text :=
  match job.catalogs with
  | none => placeholderCommand
  | some cats => jobCommand cats job.noCache cats.sourceID cats.targetID

def noCacheCommand (job : FailedJob) : Text :=
  match job.catalogs with
  | none => placeholderCommand ++ " --no-cache".toList
  | some cats => jobCommand cats true cats.sourceID cats.targetID

def otherTargetRemedy (job : FailedJob) (cats : Catalogs) : Text :=
  ("Importing the target again with control statements gives it a new catalog ID, " ++
    "so start a new job with that catalog or another target: ").toList ++
    jobCommand cats job.noCache cats.sourceID "<catalog-id>".toList

def retryRemedy (job : FailedJob) : Text :=
  match job.catalogs, job.errorClass with
  | some cats, .emptyTargetCatalog => otherTargetRemedy job cats
  | _, .resultCacheCorrupt =>
    ("Start a new job with --no-cache, " ++
      "which recomputes and replaces the cached results: ").toList ++ noCacheCommand job
  | _, _ => "Start a new job: ".toList ++ newJobCommand job

/-- TraceReference; the trace ID is empty with tracing off. -/
def traceReference (traceID jobID : Text) : Text :=
  if traceID ≠ [] then "trace ID ".toList ++ traceID
  else
    "job ID ".toList ++ jobID ++ " (tracing is off, so there is no trace ID)".toList

def internalErrorMessage (traceID : Text) (failed : FailedJob) : Text :=
  let opening (className : Text) :=
    "job ".toList ++ failed.jobID ++
      " failed because of an internal error (error class ".toList ++ className
  let advice :=
    if retryRefusal failed.errorClass = [] then
      let className :=
        if failed.errorClass = .retryable then "retryable".toList else failed.errorClass.text
      opening className ++ "). Resume it with \"crosscodex run retry --from-failure ".toList ++
        failed.jobID ++
        "\", which keeps its completed stages, or start a new job: ".toList ++
        newJobCommand failed ++ ".".toList
    else
      opening failed.errorClass.text ++
        "), which a retry from its failure cannot fix. ".toList ++ retryRemedy failed ++
        ".".toList
  advice ++ " If it fails again, give your operator ".toList ++
    traceReference traceID failed.jobID ++ ".".toList

/-- `config` is that of the loaded job, `none` when it could not be loaded. -/
def tenantJobMessage (traceID jobID : Text) (config : Option JobConfig) (err : Failure) : Text :=
  match err.tenantMessages with
  | [] =>
    internalErrorMessage traceID { jobID, config, errorClass := classifyJobError err }
  | first :: rest => List.intercalate " ".toList (first :: rest)

def tenantFailure (traceID jobID : Text) (config : Option JobConfig) (err : Failure) : Failure :=
  .jobFailure (tenantJobMessage traceID jobID config err) err

theorem classifyJobError_tenantFailure (traceID jobID : Text) (config : Option JobConfig)
    (err : Failure) :
    classifyJobError (tenantFailure traceID jobID config err) = classifyJobError err := by
  simp only [classifyJobError, tenantFailure, Failure.is]

theorem tenantJobMessage_congr {first second : Failure}
    (messages : first.tenantMessages = second.tenantMessages)
    (classes : classifyJobError first = classifyJobError second) (traceID jobID : Text)
    (config : Option JobConfig) :
    tenantJobMessage traceID jobID config first =
      tenantJobMessage traceID jobID config second := by
  unfold tenantJobMessage
  rw [messages, classes]

end CrossCodex.Pipeline
