/-
The GenerateWork functions of the five analyzers and the engine loop that calls them.
Prompts, hardening and hashing are parameters: they decide payloads and errors, never a task
ID.
-/

import CrossCodex.Analyzer.TaskId
import CrossCodex.Library.Fallible
import Mathlib.Algebra.Order.Field.Rat

namespace CrossCodex.Analyzer

open Library

structure ChatMessage where
  role : Text
  content : Text
deriving DecidableEq

inductive Value where
  | string (text : Text)
  | number (value : ℚ)
  | messages (list : List ChatMessage)
deriving DecidableEq

inductive Payload where
  | struct (fields : List (String × Value))
  | analysisResult (resultID resultType : Text) (attributes : List (String × Text))
      (confidence : ℚ)
deriving DecidableEq

structure Task where
  taskID : Text
  taskType : Text
  payload : Payload
  preBuiltResult : Bool
deriving DecidableEq

structure Control where
  controlId : Text
  catalogId : Text
  identifier : Text
  statement : Text
  parts : List (String × Text)
deriving DecidableEq

/-- `GetParts()[key]`: the empty text when the key is missing. -/
def Control.part (control : Control) (key : String) : Text :=
  (control.parts.lookup key).getD []

/-- Sections and withdrawn controls are answered without a model. -/
def Control.sectionOrWithdrawn (control : Control) : Bool :=
  control.part "class" = "compliance-section".toList ||
    control.part "status" = "withdrawn".toList

structure PromptSpec where
  name : Text
  version : Text
  system : Text
  user : Text
  fewShot : Text

structure Environment where
  tenant : Except Text Text
  resolve : Text → Except Text PromptSpec
  substitutePlaceholders : Text → List (String × Text) → Except Text Text
  promptText : Text → Nat → Text
  promptValue : Text → Text
  cleanForEmbedding : Text → Text
  trimSpace : Text → Text
  contentHash : List ChatMessage → Text
  textHash : Text → Text
  quote : Text → Text
  guidance : Text → List (String × Text)

/-- `fmt.Errorf("<context>: %w", err)`. -/
def wrapError {Result : Type} (context : Text) : Except Text Result → Except Text Result
  | .ok result => .ok result
  | .error cause => .error (context ++ ": ".toList ++ cause)

@[simp] theorem wrapError_eq_ok {Result : Type} {context : Text}
    {outcome : Except Text Result} {result : Result} :
    wrapError context outcome = .ok result ↔ outcome = .ok result := by
  cases outcome <;> simp [wrapError]

variable (env : Environment)

/-- Both templates of a prompt; `subject` ends the error context. -/
def renderMessages (caller subject : Text) (spec : PromptSpec)
    (vars : List (String × Text)) : Except Text (List ChatMessage) := do
  let systemMsg ← wrapError (caller ++ ": substituting system template".toList ++ subject)
    (env.substitutePlaceholders spec.system vars)
  let userMsg ← wrapError (caller ++ ": substituting user template".toList ++ subject)
    (env.substitutePlaceholders spec.user vars)
  return [⟨"system".toList, systemMsg⟩, ⟨"user".toList, userMsg⟩]

def resolvePrompt (caller promptName : Text) : Except Text PromptSpec :=
  wrapError (caller ++ ": resolving prompt ".toList ++ env.quote promptName)
    (env.resolve promptName)

structure ClassifyConfig where
  model : Text
  temperature : ℚ
  maxTokens : Nat
  maxTextLength : Nat

def Classify.generateWork (cfg : ClassifyConfig) (input : Control) : Except Text (List Task) := do
  let caller := "classify.GenerateWork".toList
  let _tenantID ← wrapError caller env.tenant
  let taskID := subjectTaskID "classify".toList input.controlId
  if input.sectionOrWithdrawn then
    return [{
      taskID
      taskType := "classify".toList
      payload := .analysisResult taskID "classification".toList
        [("control_id", input.controlId), ("type", "None".toList), ("level", "None".toList),
          ("skipped", "true".toList)] 1
      preBuiltResult := true }]
  let text := env.promptText input.statement cfg.maxTextLength
  let spec ← resolvePrompt env caller "classify".toList
  let messages ← renderMessages env caller [] spec
    [("requirement", text), ("few_shot_examples", spec.fewShot)]
  return [{
    taskID
    taskType := "classify".toList
    payload := .struct
      [("control_id", .string input.controlId), ("model", .string cfg.model),
        ("temperature", .number cfg.temperature), ("max_tokens", .number cfg.maxTokens),
        ("prompt_name", .string spec.name), ("prompt_version", .string spec.version),
        ("content_hash", .string (env.contentHash messages)), ("messages", .messages messages)]
    preBuiltResult := false }]

structure EmbeddingConfig where
  models : List Text
  batchSize : Nat
  maxChars : Nat

def prepareText (statement ancestorTitle : Text) (maxChars : Nat) : Text :=
  let text := if ancestorTitle ≠ [] then '[' :: ancestorTitle ++ "] ".toList ++ statement
    else statement
  let cleaned := env.cleanForEmbedding text
  if 0 < maxChars ∧ maxChars < cleaned.length then cleaned.take maxChars else cleaned

def Embedding.skips (input : Control) : Bool :=
  input.sectionOrWithdrawn || env.trimSpace input.statement = []

def Embedding.generateWork (cfg : EmbeddingConfig) (input : Control) : Except Text (List Task) := do
  let _tenantID ← wrapError "embedding.GenerateWork".toList env.tenant
  if Embedding.skips env input then
    return [{
      taskID := subjectTaskID "embedding".toList input.controlId
      taskType := "embedding".toList
      payload := .analysisResult (subjectTaskID "embedding".toList input.controlId)
        "embedding".toList
        [("control_id", input.controlId), ("skipped", "true".toList)] 1
      preBuiltResult := true }]
  let text := prepareText env input.statement (input.part "ancestor_title") cfg.maxChars
  return cfg.models.map fun model => {
    taskID := subjectTaskID "embedding".toList (input.controlId ++ '-' :: model)
    taskType := "embedding".toList
    payload := .struct
      [("control_id", .string input.controlId), ("model", .string model),
        ("text", .string text), ("batch_size", .number cfg.batchSize),
        ("content_hash", .string (env.textHash text))]
    preBuiltResult := false }

structure PanelConfig where
  models : List Text
  samplesPerModel : Nat
  samplingTemperature : ℚ
  maxTokens : Nat

def PanelConfig.temperature (cfg : PanelConfig) : ℚ :=
  if cfg.samplesPerModel ≤ 1 then 0 else cfg.samplingTemperature

/-- The models × samples loop the panel analyzers share. `subjectFields` are the
payload fields that name the subject, `extraFields` those after the content hash. -/
def panelTasks (analyzerName subject : Text) (cfg : PanelConfig) (spec : PromptSpec)
    (contentHash : Text) (messages : List ChatMessage)
    (subjectFields extraFields : List (String × Value)) : List Task :=
  cfg.models.flatMap fun model =>
    (List.range cfg.samplesPerModel).map fun sample => {
      taskID := controlTaskID analyzerName subject model sample
      taskType := analyzerName
      payload := .struct (subjectFields ++
        [("model", .string model), ("sample_index", .number sample),
          ("temperature", .number cfg.temperature), ("max_tokens", .number cfg.maxTokens),
          ("prompt_name", .string spec.name), ("prompt_version", .string spec.version),
          ("content_hash", .string contentHash)] ++ extraFields ++
        [("messages", .messages messages)])
      preBuiltResult := false }

structure ArtifactsConfig extends PanelConfig where
  maxTextChars : Nat

/-- Task IDs of this analyzer are built from the identifier, not from the control ID. -/
def Artifacts.generateWork (cfg : ArtifactsConfig)
    (parameters : Text → Option Text) (input : Control) : Except Text (List Task) := do
  let caller := "artifacts.GenerateWork".toList
  let _tenantID ← wrapError caller env.tenant
  if input.sectionOrWithdrawn then
    return [{
      taskID := skipTaskID "artifacts".toList input.identifier
      taskType := "artifacts".toList
      payload := .struct [("control_id", .string input.identifier),
        ("skipped", .string "true".toList)]
      preBuiltResult := true }]
  let spec ← resolvePrompt env caller "artifacts".toList
  let vars := env.guidance "artifacts".toList ++
    [("few_shot_examples", spec.fewShot),
      ("control_id", env.promptValue input.identifier),
      ("framework", env.promptValue ((parameters "framework".toList).getD [])),
      ("ancestor_title", env.promptValue (input.part "ancestor_title")),
      ("requirement_text", env.promptText input.statement cfg.maxTextChars)]
  let messages ← renderMessages env caller (" for ".toList ++ input.identifier) spec vars
  return panelTasks "artifacts".toList input.identifier cfg.toPanelConfig spec
    (env.contentHash messages) messages [("control_id", .string input.identifier)] []

structure CandidatePair where
  sourceControlID : Text
  targetControlID : Text
  score : ℚ
deriving DecidableEq

structure PairConfig extends PanelConfig where
  maxSourceChars : Nat
  maxTargetChars : Nat

def pairEndVars (parameters : Text → Option Text) (side : String)
    (controlID : Text) : List (String × Text) :=
  ["framework", "type", "level", "ancestor"].map fun field =>
    (side ++ "_" ++ field,
      env.promptValue
        ((parameters (side.toList ++ '_' :: field.toList ++ '_' :: controlID)).getD []))

/-- Why a pair without statement text is refused: the key is absent, or its text
is blank once hardened. -/
def missingTextReason (parameters : Text → Option Text) (missingKey : Text) : Text :=
  match parameters missingKey with
  | none => "no ".toList ++ env.quote missingKey ++ " parameter".toList
  | some _ =>
    "parameter ".toList ++ env.quote missingKey ++
      (" has no statement text after removing whitespace and format characters; " ++
        "give the control a statement in the catalog and re-import it").toList

/-- One turn of the pair loop of relationship and requires. -/
def pairTasks (analyzerName : Text) (scoreField : String)
    (cfg : PairConfig) (parameters : Text → Option Text) (spec : PromptSpec)
    (pair : CandidatePair) : Except Text (List Task) :=
  let caller := analyzerName ++ ".GenerateWork".toList
  let subject := pairSubject pair.sourceControlID pair.targetControlID
  let sourceKey := "source_text_".toList ++ pair.sourceControlID
  let targetKey := "target_text_".toList ++ pair.targetControlID
  let sourceText := env.promptText ((parameters sourceKey).getD []) cfg.maxSourceChars
  let targetText := env.promptText ((parameters targetKey).getD []) cfg.maxTargetChars
  if sourceText = [] ∨ targetText = [] then
    .error (caller ++ ": pair ".toList ++ subject ++ ": ".toList ++
      missingTextReason env parameters (if sourceText = [] then sourceKey else targetKey) ++
      ": candidate control has no statement text".toList)
  else do
    let vars := env.guidance analyzerName ++
      [("few_shot_examples", spec.fewShot),
        ("source_id", env.promptValue pair.sourceControlID),
        ("target_id", env.promptValue pair.targetControlID),
        ("source_text", sourceText), ("target_text", targetText)] ++
      pairEndVars env parameters "source" pair.sourceControlID ++
      pairEndVars env parameters "target" pair.targetControlID
    let messages ← renderMessages env caller (" for ".toList ++ subject) spec vars
    return panelTasks analyzerName subject cfg.toPanelConfig spec (env.contentHash messages)
      messages
      [("source_control_id", .string pair.sourceControlID),
        ("target_control_id", .string pair.targetControlID)]
      [(scoreField, .number pair.score)]

/-- GenerateWork of relationship and requires; `pairs` is what the candidate reader
returns for the job. -/
def pairGenerateWork (analyzerName : Text) (scoreField : String)
    (cfg : PairConfig) (parameters : Text → Option Text)
    (pairs : Except Text (List CandidatePair)) : Except Text (List Task) := do
  let caller := analyzerName ++ ".GenerateWork".toList
  let _tenantID ← wrapError caller env.tenant
  if (parameters "job_id".toList).getD [] = [] then
    .error (caller ++ ": job_id is required in AnalyzerConfig.Parameters".toList)
  else do
    let found ← wrapError (caller ++ ": fetching candidates".toList) pairs
    if found = [] then
      return []
    let spec ← resolvePrompt env caller analyzerName
    gatherEach (pairTasks env analyzerName scoreField cfg parameters spec) found

def Relationship.generateWork :=
  pairGenerateWork env "relationship".toList "similarity_score"

def Requires.generateWork :=
  pairGenerateWork env "requires".toList "aggregate_score"

inductive StageName where
  | classify
  | embedding
  | artifacts
  | relationship
  | requires
deriving DecidableEq

/-- What the engine passes to the analyzers of one job: the controls of every
catalog, the candidate pairs the readers return, and each configuration. -/
structure StageInput where
  env : Environment
  parameters : Text → Option Text
  classify : ClassifyConfig
  embedding : EmbeddingConfig
  artifacts : ArtifactsConfig
  relationship : PairConfig
  requires : PairConfig
  controls : List Control
  relationshipPairs : Except Text (List CandidatePair)
  requiresPairs : Except Text (List CandidatePair)

/-- The tasks the engine collects for a stage: one GenerateWork call per control,
or a single call for the analyzers that read candidate pairs. -/
def stageTasks (input : StageInput) : StageName → Except Text (List Task)
  | .classify => gatherEach (Classify.generateWork input.env input.classify) input.controls
  | .embedding => gatherEach (Embedding.generateWork input.env input.embedding) input.controls
  | .artifacts =>
    gatherEach (Artifacts.generateWork input.env input.artifacts input.parameters)
      input.controls
  | .relationship =>
    Relationship.generateWork input.env input.relationship input.parameters
      input.relationshipPairs
  | .requires =>
    Requires.generateWork input.env input.requires input.parameters input.requiresPairs

end CrossCodex.Analyzer
