/-
Signed cache checkpoints (internal/pipeline/cache_checkpoints.go). An object carries a link
under one key's signature or is something that no key verifies.
-/

import CrossCodex.ResultCache.Store

namespace CrossCodex.Pipeline

open ResultCache

structure Artifact where
  uri : Text
  digest : Text
  deriving DecidableEq

structure Link where
  step : Text
  materials : List Artifact
  products : List Artifact
  deriving DecidableEq

/-- Why an object does not verify. `tooLarge` is refused before it is read. -/
inductive VerifyFailure where
  | untrustedKey
  | verificationFailed
  | tooLarge
  | other
  deriving DecidableEq, Repr

inductive Envelope where
  | signed (key : Text) (link : Link)
  | broken (failure : VerifyFailure)
  deriving DecidableEq

def Envelope.verify (trusted : Text) : Envelope → Except VerifyFailure Link
  | .signed key link => if key = trusted then .ok link else .error .untrustedKey
  | .broken failure => .error failure

variable {link : Link} {envelope : Envelope} {attempt : Text}

theorem Envelope.verify_eq_ok {trusted : Text} :
    envelope.verify trusted = .ok link ↔ envelope = .signed trusted link := by
  cases envelope with
  | broken failure => simp [verify]
  | signed key content =>
    by_cases same : key = trusted
    · simp [verify, same]
    · simp [verify, same]

def cacheCheckpointStep : Text := "result-cache-checkpoint".toList

def checkpointDir (tenantID jobID analyzerName : Text) : Text :=
  "attestations/".toList ++ tenantID ++ "/".toList ++ jobID ++ "/cache-checkpoints/".toList ++
    analyzerName ++ "/".toList

def checkpointKey (tenantID jobID analyzerName attempt : Text) : Text :=
  checkpointDir tenantID jobID analyzerName ++ attempt ++ ".json".toList

def checkpointURI (tenantID jobID analyzerName attempt : Text) : Text :=
  "result-cache:".toList ++ tenantID ++ "/".toList ++ jobID ++ "/".toList ++ analyzerName ++
    "/".toList ++ attempt

def jobURI (tenantID jobID : Text) : Text := "job:".toList ++ tenantID ++ "/".toList ++ jobID

/-- The text of a UUID as `uuid.UUID.String` writes it. -/
def canonicalAttempt (attempt : Text) : Bool :=
  attempt.length = 36 &&
    (attempt.zipIdx.all fun (character, position) =>
      if position ∈ [8, 13, 18, 23] then character == '-' else hexLower character)

theorem plain_of_canonical (canonical : canonicalAttempt attempt = true) {character : Char}
    (mem : character ∈ attempt) : character = '-' ∨ hexLower character = true := by
  unfold canonicalAttempt at canonical
  rw [Bool.and_eq_true, List.all_eq_true] at canonical
  obtain ⟨position, here, rfl⟩ := List.getElem_of_mem mem
  have shape := canonical.2 (attempt[position], position)
    (List.mk_mem_zipIdx_iff_getElem?.mpr (List.getElem?_eq_getElem here))
  simp only at shape
  split at shape
  · exact .inl (beq_iff_eq.mp shape)
  · exact .inr shape

theorem length_of_canonical (canonical : canonicalAttempt attempt = true) :
    attempt.length = 36 := by
  unfold canonicalAttempt at canonical
  rw [Bool.and_eq_true, decide_eq_true_eq] at canonical
  exact canonical.1

def pathSegment (id : Text) : Bool :=
  id ≠ [] && id ≠ ".".toList && id ≠ "..".toList &&
    id.all fun character => character ≠ '/' && character ≠ '\x5c' && character ≠ '\x00'

def attemptOf (dir key : Text) : Option Text :=
  match key.dropPrefix? dir with
  | none => none
  | some name =>
    match name.reverse.dropPrefix? ".json".toList.reverse with
    | none => none
    | some attempt =>
      if canonicalAttempt attempt.reverse then some attempt.reverse else none

/-- The checkpoints of one attested job: `key` is its attestor's key, `configDigest`
the content digest of the job's configuration. -/
structure CacheCheckpoints where
  tenantID : Text
  jobID : Text
  configDigest : Text
  key : Text
  analyzers : List Text
  deriving DecidableEq

inductive CheckpointFailure where
  | untrustedKey
  | corrupt
  | other
  deriving DecidableEq, Repr

namespace CacheCheckpoints

variable (checkpoints : CacheCheckpoints)

def subject : Artifact := ⟨jobURI checkpoints.tenantID checkpoints.jobID, checkpoints.configDigest⟩

def checkRef (tenantID : Text) (ref : AttemptRef) : Bool :=
  tenantID = checkpoints.tenantID && ref.jobID = checkpoints.jobID &&
    ref.analyzer ∈ checkpoints.analyzers && canonicalAttempt ref.attempt

def checkpointLink (tenantID : Text) (ref : AttemptRef) (digest : Text) : Link where
  step := cacheCheckpointStep
  materials := [checkpoints.subject]
  products := [⟨checkpointURI tenantID ref.jobID ref.analyzer ref.attempt, digest⟩]

/-- The signed link, or `none` when the reference or the digest is refused. -/
def sign (tenantID : Text) (ref : AttemptRef) (digest : Text) : Option Link :=
  if checkpoints.checkRef tenantID ref && validDigest digest then
    some (checkpoints.checkpointLink tenantID ref digest)
  else none

def verifyCheckpoint (envelope : Envelope) (tenantID : Text) (ref : AttemptRef) :
    Except CheckpointFailure Text :=
  match envelope.verify checkpoints.key with
  | .error .untrustedKey => .error .untrustedKey
  | .error .verificationFailed => .error .corrupt
  | .error .tooLarge => .error .corrupt
  | .error .other => .error .other
  | .ok link =>
    match link.products with
    | [product] =>
      if link.step = cacheCheckpointStep ∧
          product.uri = checkpointURI tenantID ref.jobID ref.analyzer ref.attempt ∧
          validDigest product.digest ∧
          (link.materials.any fun material => material.uri = jobURI tenantID ref.jobID) then
        .ok product.digest
      else .error .corrupt
    | _ => .error .corrupt

variable {checkpoints} {ref : AttemptRef} {tenantID : Text} {digest : Text}

theorem sign_eq_some (signs : checkpoints.sign tenantID ref digest = some link) :
    link = checkpoints.checkpointLink tenantID ref digest := by
  unfold sign at signs
  split at signs
  · exact (Option.some.inj signs).symm
  · cases signs

theorem accepted_of_sign (signs : checkpoints.sign tenantID ref digest = some link) :
    canonicalAttempt ref.attempt = true ∧ validDigest digest = true := by
  unfold sign at signs
  split at signs
  · rename_i accepted
    simp only [checkRef, Bool.and_eq_true] at accepted
    exact ⟨accepted.1.2, accepted.2⟩
  · cases signs

theorem verifyCheckpoint_eq_ok
    (accepted : checkpoints.verifyCheckpoint envelope tenantID ref = .ok digest) :
    ∃ link, envelope = .signed checkpoints.key link ∧ link.step = cacheCheckpointStep ∧
      ∃ product, link.products = [product] ∧ product.digest = digest ∧
        product.uri = checkpointURI tenantID ref.jobID ref.analyzer ref.attempt := by
  unfold verifyCheckpoint at accepted
  split at accepted
  · cases accepted
  · cases accepted
  · cases accepted
  · cases accepted
  · rename_i link verified
    split at accepted
    · rename_i product single
      split at accepted
      · rename_i bound
        cases accepted
        exact ⟨link, Envelope.verify_eq_ok.mp verified, bound.1, product, single, rfl, bound.2.1⟩
      · cases accepted
    · cases accepted

end CacheCheckpoints

/-- Objects by key; the first binding of a key counts. -/
abbrev Objects := List (Text × Envelope)

def listAttempts (objects : Objects) (tenantID jobID analyzerName : Text) : List Text :=
  (objects.map Prod.fst).dedup.filterMap (attemptOf (checkpointDir tenantID jobID analyzerName))

end CrossCodex.Pipeline
