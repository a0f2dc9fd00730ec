/-
The request a worker sends for a task and the cache identity an analyzer derives from the
same payload (internal/worker/payload.go and handler.go, internal/analyzer/cacheidentity.go,
pkg/llmclient). A message is taken as delivered with the task's own type.
-/

import CrossCodex.Library.Fallible
import CrossCodex.ResultCache.Json
import CrossCodex.Tenant.Context

namespace CrossCodex.Worker

open Library
open ResultCache (Text Bytes Json quote decimal distinctSum distinctSum_injective)
open Tenant (validTenantID)

/-- A float64. A finite one has the magnitude `whole + fraction / 2^1074` and a sign, zero
included. -/
inductive Number where
  | nan
  | infinite (negative : Bool)
  | finite (negative : Bool) (whole fraction : Nat)
deriving DecidableEq

/-- A structpb.Value; one of no kind reads like a null. -/
inductive Value where
  | null
  | bool (value : Bool)
  | number (value : Number)
  | string (text : Text)
  | list (items : List Value)
  | struct (fields : List (Text × Value))

abbrev Fields := List (Text × Value)

def stringValue : Option Value → Text
  | some (.string text) => text
  | _ => []

def numberValue : Option Value → Number
  | some (.number value) => value
  | _ => .finite false 0 0

variable (fields : Fields)

def field? (key : String) : Option Value := fields.lookup key.toList

def getStringField (key : String) : Text := stringValue (field? fields key)

def getNumberField (key : String) : Number := numberValue (field? fields key)

/-- What both sides read of `temperature`: absent, or a number. -/
def temperatureField : Option Number :=
  (field? fields "temperature").map fun value => numberValue (some value)

structure ChatMessage where
  role : Text
  content : Text
deriving DecidableEq

inductive MessagesError where
  | notList
  | notStruct (index : Nat)
  | missingRole (index : Nat)
  | invalidRole (index : Nat) (role : Text)
deriving DecidableEq

def decodeMessage (index : Nat) : Value → Except MessagesError ChatMessage
  | .struct fields =>
    let role := getStringField fields "role"
    if role = [] then .error (.missingRole index)
    else if role ∉ ["system".toList, "user".toList, "assistant".toList] then
      .error (.invalidRole index role)
    else .ok ⟨role, getStringField fields "content"⟩
  | _ => .error (.notStruct index)

def decodeMessages : Nat → List Value → Except MessagesError (List ChatMessage)
  | _, [] => .ok []
  | index, item :: rest => do
    let message ← decodeMessage index item
    let messages ← decodeMessages (index + 1) rest
    return message :: messages

def messagesFromPayload : Value → Except MessagesError (List ChatMessage)
  | .list items => decodeMessages 0 items
  | _ => .error .notList

structure Task where
  taskType : Text
  preBuiltResult : Bool
  /-- `none` for a payload that is not a struct. -/
  payload : Option Fields

def ChatMessage.json (message : ChatMessage) : Json :=
  .obj [("role".toList, .str message.role), ("content".toList, .str message.content)]

inductive Content where
  | messages (list : List ChatMessage)
  | text (text : Text)

def Content.json : Content → Json
  | .messages list => .arr (list.map ChatMessage.json)
  | .text input => .str input

structure Identity where
  taskType : Text
  modelAlias : Text
  temperature : Option Number
  maxTokens : Nat
  sample : Nat
  contentHash : Text

structure CacheRequest where
  sourceControlID : Text
  targetControlID : Text
  identity : Identity

/-- Neither or both of messages and text make no request. -/
def requestContent : Option Content :=
  let text := getStringField fields "text"
  match field? fields "messages" with
  | some value =>
    if text = [] then (messagesFromPayload value).toOption.map Content.messages else none
  | none => if text = [] then none else some (.text text)

def wholeNumber : Number → Option Nat
  | .finite negative whole 0 =>
    if (negative ∧ whole ≠ 0) ∨ 2147483647 < whole then none else some whole
  | _ => none

section Requests

variable (sha256 : Bytes → Text)

def contentHash (content : Content) : Text := sha256 content.json.marshal

def recomputeContentHash (fields : Fields) : Option Text := do
  let content ← requestContent fields
  let claimed := getStringField fields "content_hash"
  if claimed ≠ [] ∧ contentHash sha256 content ≠ claimed then none
  else some (contentHash sha256 content)

def payloadCacheRequest (task : Task) (sourceField targetField : String) : Option CacheRequest :=
  if task.preBuiltResult then none
  else do
    let fields ← task.payload
    let hash ← recomputeContentHash sha256 fields
    let source := getStringField fields sourceField
    let target := getStringField fields targetField
    if source = [] ∨ target = [] then none
    else do
      let maxTokens ← wholeNumber (getNumberField fields "max_tokens")
      let sample ← wholeNumber (getNumberField fields "sample_index")
      return ⟨source, target, ⟨task.taskType, getStringField fields "model",
        temperatureField fields, maxTokens, sample, hash⟩⟩

structure TenantOverride where
  defaultModel : Option Text
  embeddingModel : Option Text

structure LLMConfig where
  gatewayURL : Text
  defaultModel : Text
  embeddingModel : Text
  allowedModels : List Text
  tenantOverrides : List (Text × TenantOverride)

structure LLMTenantConfig where
  defaultModel : Text
  embeddingModel : Text

def LLMConfig.forTenant (config : LLMConfig) (tenantID : Text) : LLMTenantConfig :=
  let override := (config.tenantOverrides.lookup tenantID).getD ⟨none, none⟩
  ⟨override.defaultModel.getD config.defaultModel,
    override.embeddingModel.getD config.embeddingModel⟩

/-- The last four are not sent. -/
structure CompletionRequest where
  model : Text
  messages : List ChatMessage
  maxTokens : Int
  temperature : Option Number
  tenantID : Text
  jobID : Text
  promptName : Text
  promptVersion : Text

structure EmbeddingRequest where
  model : Text
  input : List Text
  tenantID : Text
  jobID : Text

inductive ClientError where
  | invalidRequest
  | modelNotAllowed
  | marshal
deriving DecidableEq

inductive Refusal where
  | invalidTenant
  | unsupportedTaskType (truncated : Text)
  | invalidPayload
  | llmCall (cause : ClientError)
deriving DecidableEq

structure Sent where
  url : Text
  body : Text
deriving DecidableEq

/-- The configuration of the worker and of its client. What Go leaves to the platform, the
text of a float and the conversion of one no int can hold, is fixed with it. -/
structure Config where
  llm : LLMConfig
  client : LLMConfig
  formatFloat : Number → Text
  outsideInt : Number → Int

def orDefault (model fallback : Text) : Text := if model = [] then fallback else model

def renderMember (member : String × Text) : Text := quote member.1.toList ++ ':' :: member.2

def renderObject (members : List (String × Text)) : Text :=
  '\x7b' :: ((separated ',' renderMember members).drop 1 ++ ['\x7d'])

namespace Config

variable (worker : Config)

def isModelAllowed (model : Text) : Bool :=
  worker.client.allowedModels.isEmpty || worker.client.allowedModels.contains model

/-- The checks of prepareCompletionRequest and prepareEmbeddingRequest, with the model they
settle on. -/
def prepare (fallback tenantID model : Text) (noInput : Bool) : Except ClientError Text :=
  if ¬ validTenantID tenantID then .error .invalidRequest
  else if noInput then .error .invalidRequest
  else if worker.isModelAllowed (orDefault model fallback) then .ok (orDefault model fallback)
  else .error .modelNotAllowed

def prepareCompletionRequest (request : CompletionRequest) : Except ClientError Text :=
  worker.prepare worker.client.defaultModel request.tenantID request.model request.messages.isEmpty

def prepareEmbeddingRequest (request : EmbeddingRequest) : Except ClientError Text :=
  worker.prepare worker.client.embeddingModel request.tenantID request.model request.input.isEmpty

/-- No JSON number is NaN or infinite. -/
def marshalTemperature : Option Number → Except ClientError (List (String × Text))
  | none => .ok []
  | some (.finite negative whole fraction) =>
    .ok [("temperature", worker.formatFloat (.finite negative whole fraction))]
  | some _ => .error .marshal

def endpoint (path : String) : Text :=
  (worker.client.gatewayURL.reverse.dropWhile (· = '/')).reverse ++ path.toList

def complete (request : CompletionRequest) : Except ClientError Sent := do
  let model ← worker.prepareCompletionRequest request
  let temperature ← worker.marshalTemperature request.temperature
  let maxTokens := if request.maxTokens = 0 then [] else [("max_tokens", decimal request.maxTokens)]
  return ⟨worker.endpoint "/v1/chat/completions", renderObject ([("model", quote model),
    ("messages", (Content.messages request.messages).json.render)] ++ maxTokens ++ temperature)⟩

def embed (request : EmbeddingRequest) : Except ClientError Sent := do
  let model ← worker.prepareEmbeddingRequest request
  return ⟨worker.endpoint "/v1/embeddings", renderObject
    [("model", quote model), ("input", (Json.arr (request.input.map Json.str)).render)]⟩

def toInt : Number → Int
  | .finite negative whole fraction =>
    if 2 ^ 63 ≤ whole then worker.outsideInt (.finite negative whole fraction)
    else if negative then -whole
    else whole
  | other => worker.outsideInt other

variable (fields : Fields)

def extractCompletionRequest (tenantID jobID : Text) : Except Refusal CompletionRequest :=
  match (field? fields "messages").map messagesFromPayload with
  | some (.ok messages) =>
    let expected := getStringField fields "content_hash"
    if expected ≠ [] ∧ contentHash sha256 (.messages messages) ≠ expected then
      .error .invalidPayload
    else .ok {
      model := getStringField fields "model"
      messages
      maxTokens := worker.toInt (getNumberField fields "max_tokens")
      temperature := temperatureField fields
      tenantID
      jobID
      promptName := getStringField fields "prompt_name"
      promptVersion := getStringField fields "prompt_version" }
  | _ => .error .invalidPayload

def extractEmbeddingRequest (tenantID jobID : Text) : Except Refusal EmbeddingRequest :=
  let text := getStringField fields "text"
  if text = [] then .error .invalidPayload
  else .ok ⟨getStringField fields "model", [text], tenantID, jobID⟩

def handleCompletion (tenantID jobID : Text) : Except Refusal Sent := do
  let request ← worker.extractCompletionRequest sha256 fields tenantID jobID
  let model := orDefault request.model (worker.llm.forTenant tenantID).defaultModel
  (worker.complete { request with model }).mapError .llmCall

def handleEmbedding (tenantID jobID : Text) : Except Refusal Sent := do
  let request ← extractEmbeddingRequest fields tenantID jobID
  let model := orDefault request.model (worker.llm.forTenant tenantID).embeddingModel
  (worker.embed { request with model }).mapError .llmCall

def execute (tenantID jobID : Text) (task : Task) : Except Refusal Sent :=
  if ¬ validTenantID tenantID then .error .invalidTenant
  else match task.payload with
  | none => .error .invalidPayload
  | some fields =>
    if task.taskType ∈ ["classify", "relate", "requires", "artifacts"].map String.toList then
      worker.handleCompletion sha256 fields tenantID jobID
    else if task.taskType = "embed".toList then worker.handleEmbedding fields tenantID jobID
    else .error (.unsupportedTaskType (task.taskType.take 64))

end Config

variable {sha256}

theorem ChatMessage.json_injective : Function.Injective ChatMessage.json := by
  rintro ⟨role, content⟩ ⟨otherRole, otherContent⟩ same
  simp only [json, Json.obj.injEq, List.cons.injEq, Prod.mk.injEq, Json.str.injEq, true_and,
    and_true] at same
  rw [same.1, same.2]

theorem Content.json_injective : Function.Injective Content.json := by
  intro content other same
  cases content with
  | messages list =>
    cases other with
    | messages others => rw [ChatMessage.json_injective.list_map (Json.arr.inj same)]
    | text _ => cases same
  | text input =>
    cases other with
    | messages _ => cases same
    | text other => rw [Json.str.inj same]

def Content.list? : Content → Option (List ChatMessage)
  | .messages list => some list
  | .text _ => none

def Content.input : Content → Text
  | .messages _ => []
  | .text input => input

structure Reads (sha256 : Bytes → Text) (content : Content) (identity : Identity)
    (fields : Fields) : Prop where
  messages : (field? fields "messages").map messagesFromPayload = content.list?.map Except.ok
  text : getStringField fields "text" = content.input
  model : getStringField fields "model" = identity.modelAlias
  temperature : temperatureField fields = identity.temperature
  maxTokens : wholeNumber (getNumberField fields "max_tokens") = some identity.maxTokens
  hash : contentHash sha256 content = identity.contentHash
  unclaimed : ¬(getStringField fields "content_hash" ≠ [] ∧
    contentHash sha256 content ≠ getStringField fields "content_hash")

theorem requestContent_reads {fields : Fields} {content : Content}
    (read : requestContent fields = some content) :
    (field? fields "messages").map messagesFromPayload = content.list?.map Except.ok ∧
      getStringField fields "text" = content.input := by
  unfold requestContent at read
  cases present : field? fields "messages" with
  | none =>
    simp only [present, Option.ite_none_left_eq_some, Option.some.injEq] at read
    obtain ⟨_, rfl⟩ := read
    exact ⟨rfl, rfl⟩
  | some value =>
    simp only [present, Option.ite_none_right_eq_some, Option.map_eq_some_iff] at read
    obtain ⟨empty, list, decoded, rfl⟩ := read
    cases outcome : messagesFromPayload value with
    | error cause =>
      rw [outcome] at decoded
      cases decoded
    | ok messages =>
      rw [outcome] at decoded
      cases decoded
      exact ⟨by rw [Option.map_some, outcome]; rfl, empty⟩

theorem payloadCacheRequest_reads {task : Task} {sourceField targetField : String}
    {request : CacheRequest}
    (cached : payloadCacheRequest sha256 task sourceField targetField = some request) :
    task.taskType = request.identity.taskType ∧ ∃ fields content,
      task.payload = some fields ∧ Reads sha256 content request.identity fields := by
  simp only [payloadCacheRequest, recomputeContentHash, Option.bind_eq_bind,
    Option.bind_eq_some_iff, Option.pure_def, Option.ite_none_left_eq_some,
    Option.some.injEq] at cached
  obtain ⟨_, fields, payload, _, ⟨content, read, unclaimed, rfl⟩, _, maxTokens, whole, sample, _,
    rfl⟩ := cached
  obtain ⟨messages, text⟩ := requestContent_reads read
  exact ⟨rfl, fields, content, payload, messages, text, rfl, rfl, whole, rfl, unclaimed⟩

namespace Config

theorem toInt_of_wholeNumber {worker : Config} {number : Number} {whole : Nat}
    (read : wholeNumber number = some whole) : worker.toInt number = whole := by
  unfold wholeNumber at read
  split at read
  · rename_i negative magnitude
    rw [Option.ite_none_left_eq_some, not_or, not_and, not_not] at read
    obtain ⟨⟨unsigned, small⟩, equal⟩ := read
    cases equal
    rw [toInt, if_neg (by omega)]
    cases negative with
    | false => rfl
    | true => rw [unsigned rfl]; rfl
  · cases read

variable {worker : Config} {fields others : Fields} {content : Content} {identity : Identity}
  (reads : Reads sha256 content identity fields) (otherReads : Reads sha256 content identity others)
  (tenantID jobID otherJobID : Text)
include reads otherReads

theorem handleCompletion_eq :
    worker.handleCompletion sha256 fields tenantID jobID =
      worker.handleCompletion sha256 others tenantID otherJobID := by
  unfold handleCompletion extractCompletionRequest
  rw [reads.messages, otherReads.messages]
  cases content with
  | text input => rfl
  | messages list =>
    simp only [Content.list?, Option.map_some, if_neg reads.unclaimed, if_neg otherReads.unclaimed,
      ok_bind, reads.model, otherReads.model, reads.temperature, otherReads.temperature,
      toInt_of_wholeNumber reads.maxTokens, toInt_of_wholeNumber otherReads.maxTokens]
    rfl

theorem handleEmbedding_eq :
    worker.handleEmbedding fields tenantID jobID =
      worker.handleEmbedding others tenantID otherJobID := by
  unfold handleEmbedding extractEmbeddingRequest
  rw [reads.text, otherReads.text, reads.model, otherReads.model]
  cases content.input with
  | nil => rfl
  | cons first rest => rfl

end Config

end Requests

/-- Two tasks with one cache identity: a worker refuses both for one reason, or sends the
same body to the same endpoint for both, whatever jobs they are of. -/
theorem equal_identity_equal_request (sha256 : Bytes → Text) (injective : Function.Injective sha256)
    (worker : Config) (tenantID jobID otherJobID : Text) (task other : Task)
    (sourceField targetField otherSourceField otherTargetField : String)
    (request otherRequest : CacheRequest)
    (cached : payloadCacheRequest sha256 task sourceField targetField = some request) (otherCached :
      payloadCacheRequest sha256 other otherSourceField otherTargetField = some otherRequest)
    (same : request.identity = otherRequest.identity) :
    worker.execute sha256 tenantID jobID task = worker.execute sha256 tenantID otherJobID other := by
  obtain ⟨kind, fields, content, payload, reads⟩ := payloadCacheRequest_reads cached
  obtain ⟨otherKind, otherFields, otherContent, otherPayload, otherReads⟩ :=
    payloadCacheRequest_reads otherCached
  have contents : content = otherContent := by
    apply Content.json_injective
    apply Json.marshal_injective
    apply injective
    exact reads.hash.trans ((congrArg Identity.contentHash same).trans otherReads.hash.symm)
  subst contents
  unfold Config.execute
  rw [same] at reads kind
  simp only [payload, otherPayload, kind, otherKind,
    Config.handleCompletion_eq reads otherReads tenantID jobID otherJobID,
    Config.handleEmbedding_eq reads otherReads tenantID jobID otherJobID]

def sampleTask (promptName : Text) : Task where
  taskType := "classify".toList
  preBuiltResult := false
  payload := some [("control".toList, .string ['a']), ("prompt_name".toList, .string promptName),
    ("messages".toList, .list [.struct [("role".toList, .string "user".toList)]])]

def sampleConfig : Config where
  llm := ⟨[], [], [], [], []⟩
  client := ⟨"gateway/".toList, ['m'], [], [], []⟩
  formatFloat _ := []
  outsideInt _ := 0

theorem equal_identity_equal_request_of_prompts :
    let sent := sampleConfig.execute distinctSum "acme".toList ['j'] (sampleTask ['p'])
    sent.toOption.map Sent.url = some "gateway/v1/chat/completions".toList ∧
      sent = sampleConfig.execute distinctSum "acme".toList ['k'] (sampleTask ['q']) :=
  ⟨by decide, equal_identity_equal_request distinctSum distinctSum_injective sampleConfig _ _ _ _ _
    "control" "control" "control" "control" _ _ rfl rfl rfl⟩

end CrossCodex.Worker
