/-
Subjects of the message bus (pkg/natsbus/subjects.go). A string is the list of its bytes, each
as a character.
-/

import CrossCodex.Library.Fallible
import CrossCodex.Pipeline.CacheCheckpoints
import CrossCodex.Tenant.Context

namespace CrossCodex.NatsBus

open Analyzer (Text)
open Tenant (validTenantID)
open Pipeline (canonicalAttempt)
open Library List

inductive SubjectError where
  | invalidTenant
  | empty (label : String)
  | delimiter (label : String)
  | jobIDTooLong (bytes : Nat)
  | unknownTaskType
  | notUUID
  | notAbandoned
deriving DecidableEq

def taskTypes : List Text :=
  ["classify".toList, "relate".toList, "requires".toList, "artifacts".toList, "embed".toList]

def subjectPrefix : Text := "crosscodex".toList

def validateToken (token : Text) (label : String) : Except SubjectError Unit :=
  if token = [] then .error (.empty label)
  else if token.any (· ∈ ".*>".toList) then .error (.delimiter label)
  else .ok ()

def maxJobIDLength : Nat := 128

def validateJobID (jobID : Text) : Except SubjectError Unit := do
  validateToken jobID "job ID"
  if maxJobIDLength < jobID.length then .error (.jobIDTooLong jobID.length) else .ok ()

/-- `token` is the outcome of the check of the one token a caller supplies. -/
def buildSubject (tenantID : Text) (token : Except SubjectError Unit) (parts : List Text) :
    Except SubjectError Text :=
  if validTenantID tenantID then do
    token
    .ok (['.'].intercalate (subjectPrefix :: parts))
  else .error .invalidTenant

def pipelineStageSubject (tenantID jobID stage : Text) : Except SubjectError Text :=
  buildSubject tenantID (validateJobID jobID)
    ["pipeline".toList, tenantID, jobID, "stage".toList, stage]

def pipelineStateSubject (tenantID jobID : Text) : Except SubjectError Text :=
  buildSubject tenantID (validateJobID jobID) ["pipeline".toList, tenantID, jobID, "state".toList]

def workSubject (tenantID taskType jobID : Text) : Except SubjectError Text :=
  buildSubject tenantID (validateJobID jobID) ["work".toList, tenantID, taskType, jobID]

def resultSubject (tenantID taskType jobID : Text) : Except SubjectError Text :=
  buildSubject tenantID (validateJobID jobID) ["results".toList, tenantID, taskType, jobID]

def auditSubject (tenantID auditType jobID : Text) : Except SubjectError Text :=
  buildSubject tenantID (validateJobID jobID) ["audit".toList, tenantID, auditType, jobID]

def feedbackSubject (tenantID edgeID : Text) : Except SubjectError Text :=
  buildSubject tenantID (validateToken edgeID "edge ID") ["feedback".toList, tenantID, edgeID]

def catalogParsedSubject (tenantID catalogID : Text) : Except SubjectError Text :=
  buildSubject tenantID (validateToken catalogID "catalog ID")
    ["catalog".toList, tenantID, catalogID, "parsed".toList]

structure AbandonedCollection where
  tenantID : Text
  taskType : Text
  jobID : Text
  collectionID : Text
deriving DecidableEq

/-- What `uuid.Parse` accepts and `String` gives back unchanged is a canonical UUID. -/
def abandonedSubject (c : AbandonedCollection) : Except SubjectError Text := do
  validateToken c.taskType "task type"
  if c.taskType ∈ taskTypes then
    validateToken c.collectionID "collection ID"
    if canonicalAttempt c.collectionID then
      buildSubject c.tenantID (validateJobID c.jobID)
        ["control".toList, c.tenantID, c.taskType, c.jobID, c.collectionID, "abandoned".toList]
    else .error .notUUID
  else .error .unknownTaskType

def parseAbandonedSubject (subject : Text) : Except SubjectError AbandonedCollection :=
  match subject.splitOn '.' with
  | [root, category, tenantID, taskType, jobID, collectionID, last] =>
    if root = subjectPrefix ∧ category = "control".toList ∧ last = "abandoned".toList then do
      let c : AbandonedCollection := ⟨tenantID, taskType, jobID, collectionID⟩
      let _ ← abandonedSubject c
      .ok c
    else .error .notAbandoned
  | _ => .error .notAbandoned

/-- A builder with its arguments other than the tenant. -/
inductive Call where
  | pipelineStage (jobID stage : Text)
  | pipelineState (jobID : Text)
  | work (taskType jobID : Text)
  | result (taskType jobID : Text)
  | audit (auditType jobID : Text)
  | feedback (edgeID : Text)
  | catalogParsed (catalogID : Text)
  | abandoned (taskType jobID collectionID : Text)

namespace Call

def build (tenantID : Text) : Call → Except SubjectError Text
  | .pipelineStage jobID stage => pipelineStageSubject tenantID jobID stage
  | .pipelineState jobID => pipelineStateSubject tenantID jobID
  | .work taskType jobID => workSubject tenantID taskType jobID
  | .result taskType jobID => resultSubject tenantID taskType jobID
  | .audit auditType jobID => auditSubject tenantID auditType jobID
  | .feedback edgeID => feedbackSubject tenantID edgeID
  | .catalogParsed catalogID => catalogParsedSubject tenantID catalogID
  | .abandoned taskType jobID collectionID =>
    abandonedSubject ⟨tenantID, taskType, jobID, collectionID⟩

/-- The tokens around the tenant. Stages, audit types and most task types are not checked and
may be several. -/
def tokens : Call → Text × List Text
  | .pipelineStage jobID stage =>
    ("pipeline".toList, jobID :: "stage".toList :: stage.splitOn '.')
  | .pipelineState jobID => ("pipeline".toList, [jobID, "state".toList])
  | .work taskType jobID => ("work".toList, taskType.splitOn '.' ++ [jobID])
  | .result taskType jobID => ("results".toList, taskType.splitOn '.' ++ [jobID])
  | .audit auditType jobID => ("audit".toList, auditType.splitOn '.' ++ [jobID])
  | .feedback edgeID => ("feedback".toList, [edgeID])
  | .catalogParsed catalogID => ("catalog".toList, [catalogID, "parsed".toList])
  | .abandoned taskType jobID collectionID =>
    ("control".toList, [taskType, jobID, collectionID, "abandoned".toList])

end Call

/-- How the server matches the tokens of a filter: `*` stands for one token, a last `>` for one
or more. -/
def tokensMatch : List Text → List Text → Bool
  | [], [] => true
  | filter :: filters, token :: tokens =>
    filters = [] && filter = ['>'] || (filter = ['*'] || filter = token) && tokensMatch filters tokens
  | _, _ => false

theorem validateToken_ok {token : Text} {label : String}
    (valid : validateToken token label = .ok ()) : '.' ∉ token := by
  intro mem
  unfold validateToken at valid
  split_ifs at valid with none delimiter
  exact delimiter (any_eq_true.mpr ⟨'.', mem, by decide⟩)

theorem validateJobID_ok {jobID : Text} (valid : validateJobID jobID = .ok ()) : '.' ∉ jobID := by
  obtain ⟨_, checked, _⟩ := bind_eq_ok.mp valid
  exact validateToken_ok checked

theorem validTenantID_ok {tenantID : Text} (valid : validTenantID tenantID = true) :
    '.' ∉ tenantID := by
  intro mem
  simp only [validTenantID, Bool.and_eq_true, all_eq_true] at valid
  exact absurd (valid.2 '.' mem) (by decide)

theorem splitOn_first {token next : Text} {rest : List Text} (plain : '.' ∉ token) :
    (['.'].intercalate (token :: next :: rest)).splitOn '.' =
      token :: (['.'].intercalate (next :: rest)).splitOn '.' := by
  rw [intercalate_cons_cons, append_assoc, singleton_append, splitOn_append_cons_self,
    splitOn_eq_singleton plain, singleton_append]

theorem splitOn_pair {text token : Text} (plain : '.' ∉ token) :
    (['.'].intercalate [text, token]).splitOn '.' = text.splitOn '.' ++ [token] := by
  rw [intercalate_cons_cons, append_assoc, singleton_append, splitOn_append_cons_self,
    intercalate_singleton, splitOn_eq_singleton plain]

theorem buildSubject_tokens {tenantID category next subject : Text} {rest : List Text}
    {token : Except SubjectError Unit} (plain : '.' ∉ category)
    (built : buildSubject tenantID token (category :: tenantID :: next :: rest) = .ok subject) :
    validTenantID tenantID = true ∧ token = .ok () ∧ subject.splitOn '.' =
      subjectPrefix :: category :: tenantID :: (['.'].intercalate (next :: rest)).splitOn '.' := by
  unfold buildSubject at built
  split at built
  · rename_i valid
    obtain ⟨_, checked, made⟩ := bind_eq_ok.mp built
    cases made
    refine ⟨valid, checked, ?_⟩
    rw [splitOn_first (by decide), splitOn_first plain, splitOn_first (validTenantID_ok valid)]
  · cases built

variable {c : AbandonedCollection}

theorem abandonedSubject_eq_ok {subject : Text} (built : abandonedSubject c = .ok subject) :
    '.' ∉ c.taskType ∧ '.' ∉ c.collectionID ∧
      buildSubject c.tenantID (validateJobID c.jobID)
        ["control".toList, c.tenantID, c.taskType, c.jobID, c.collectionID, "abandoned".toList] =
          .ok subject := by
  obtain ⟨_, typed, rest⟩ := bind_eq_ok.mp built
  split at rest
  · obtain ⟨_, named, made⟩ := bind_eq_ok.mp rest
    split at made
    · exact ⟨validateToken_ok typed, validateToken_ok named, made⟩
    · cases made
  · cases rest

theorem Call.tokens_of_build {call : Call} {tenantID subject : Text}
    (built : call.build tenantID = .ok subject) : validTenantID tenantID = true ∧
      subject.splitOn '.' = subjectPrefix :: call.tokens.1 :: tenantID :: call.tokens.2 := by
  cases call with
  | pipelineStage jobID stage =>
    obtain ⟨valid, checked, split⟩ := buildSubject_tokens (by decide) built
    rw [splitOn_first (validateJobID_ok checked), splitOn_first (by decide),
      intercalate_singleton] at split
    exact ⟨valid, split⟩
  | feedback edgeID =>
    obtain ⟨valid, checked, split⟩ := buildSubject_tokens (by decide) built
    rw [intercalate_singleton, splitOn_eq_singleton (validateToken_ok checked)] at split
    exact ⟨valid, split⟩
  | pipelineState jobID =>
    obtain ⟨valid, checked, split⟩ := buildSubject_tokens (by decide) built
    rw [splitOn_first (validateJobID_ok checked)] at split
    exact ⟨valid, split⟩
  | catalogParsed catalogID =>
    obtain ⟨valid, checked, split⟩ := buildSubject_tokens (by decide) built
    rw [splitOn_first (validateToken_ok checked)] at split
    exact ⟨valid, split⟩
  | abandoned taskType jobID collectionID =>
    obtain ⟨typed, named, made⟩ := abandonedSubject_eq_ok built
    obtain ⟨valid, checked, split⟩ := buildSubject_tokens (by decide) made
    rw [splitOn_first typed, splitOn_first (validateJobID_ok checked), splitOn_first named] at split
    exact ⟨valid, split⟩
  | work | result | audit =>
    obtain ⟨valid, checked, split⟩ := buildSubject_tokens (by decide) built
    rw [splitOn_pair (validateJobID_ok checked)] at split
    exact ⟨valid, split⟩

theorem splitOn_inj {text other : Text} : text.splitOn '.' = other.splitOn '.' ↔ text = other := by
  refine ⟨fun same => ?_, congrArg _⟩
  rw [← @intercalate_splitOn _ text _ _ '.', same, intercalate_splitOn]

theorem Call.tokens_injective : Function.Injective Call.tokens := by
  intro call other same
  have categories := congrArg Prod.fst same
  have rest := congrArg Prod.snd same
  clear same
  cases call <;> cases other <;> try exact absurd categories (by dsimp only [tokens]; decide)
  case pipelineStage.pipelineState | pipelineState.pipelineStage =>
    exact absurd (cons.inj (cons.inj rest).2).1 (by decide)
  case pipelineStage.pipelineStage =>
    obtain ⟨jobs, later⟩ := cons.inj rest
    rw [jobs, splitOn_inj.mp (cons.inj later).2]
  case pipelineState.pipelineState | feedback.feedback | catalogParsed.catalogParsed =>
    rw [(cons.inj rest).1]
  case abandoned.abandoned =>
    obtain ⟨types, later⟩ := cons.inj rest
    obtain ⟨jobs, last⟩ := cons.inj later
    rw [types, jobs, (cons.inj last).1]
  case work.work | result.result | audit.audit =>
    obtain ⟨types, jobs⟩ := append_inj' rest rfl
    rw [splitOn_inj.mp types, singleton_inj.mp jobs]

theorem parseAbandonedSubject_eq_ok {subject : Text} :
    parseAbandonedSubject subject = .ok c ↔ abandonedSubject c = .ok subject := by
  constructor
  · intro parsed
    unfold parseAbandonedSubject at parsed
    split at parsed
    · rename_i root category tenantID taskType jobID collectionID last tokens
      split at parsed
      · rename_i shape
        obtain ⟨rfl, rfl, rfl⟩ := shape
        obtain ⟨made, built, same⟩ := bind_eq_ok.mp parsed
        cases same
        obtain ⟨_, split⟩ := @Call.tokens_of_build (.abandoned taskType jobID collectionID) _ _ built
        rw [built, splitOn_inj.mp (split.trans tokens.symm)]
      · cases parsed
    · cases parsed
  · intro built
    obtain ⟨_, split⟩ :=
      @Call.tokens_of_build (.abandoned c.taskType c.jobID c.collectionID) _ _ built
    unfold parseAbandonedSubject
    rw [split]
    dsimp only [Call.tokens]
    rw [if_pos ⟨rfl, rfl, rfl⟩]
    exact bind_eq_ok.mpr ⟨subject, built, rfl⟩

/-- A subject says which builder made it and from which arguments, no filter for another tenant
matches it, and exactly the subjects of abandoned collections are parsed, each to its own. -/
theorem subjects_identify :
    (∀ tenantID otherID call other subject, Call.build tenantID call = .ok subject →
        Call.build otherID other = .ok subject → tenantID = otherID ∧ call = other) ∧
      (∀ tenantID otherID call subject, Call.build tenantID call = .ok subject →
        validTenantID otherID = true → otherID ≠ tenantID → ∀ root category rest,
          tokensMatch (root :: category :: otherID :: rest) (subject.splitOn '.') = false) ∧
      ∀ subject c, parseAbandonedSubject subject = .ok c ↔ abandonedSubject c = .ok subject := by
  refine ⟨?_, ?_, fun subject c => parseAbandonedSubject_eq_ok⟩
  · intro tenantID otherID call other subject built otherBuilt
    obtain ⟨_, split⟩ := Call.tokens_of_build built
    rw [(Call.tokens_of_build otherBuilt).2] at split
    obtain ⟨category, later⟩ := cons.inj (cons.inj split).2
    obtain ⟨tenant, rest⟩ := cons.inj later
    exact ⟨tenant.symm, Call.tokens_injective (Prod.ext category rest).symm⟩
  · intro tenantID otherID call subject built valid differs root category rest
    rw [(Call.tokens_of_build built).2]
    have wild : otherID ≠ ['*'] ∧ otherID ≠ ['>'] := by
      constructor <;> rintro rfl <;> cases valid
    simp [tokensMatch, wild, differs]

theorem subjects_identify_feedback :
    tokensMatch ["crosscodex".toList, ['*'], "other".toList, ['>']]
      ("crosscodex.feedback.acme.e1".toList.splitOn '.') = false :=
  subjects_identify.2.1 "acme".toList "other".toList (.feedback "e1".toList) _ rfl rfl
    (by decide) _ _ _

end CrossCodex.NatsBus
