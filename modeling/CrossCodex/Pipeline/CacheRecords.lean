/-
The result-cache record an analyzer's link pins (internal/pipeline/attest_cache.go,
cache_checkpoints.go). A read that fails is an event of the runs, not a case here.
-/

import CrossCodex.Pipeline.CacheCheckpoints

namespace CrossCodex.Pipeline

open ResultCache List

/-- `stats` is `none` where the source has a zero Mode. -/
structure Summary where
  attempt : Text
  attested : Bool
  stats : Option Stats
  deriving DecidableEq

def summarizeSigned (sha256 : Bytes → Text) (manifest : Manifest) (attempt digest : Text) :
    Summary :=
  if manifest.attempt = attempt ∧ manifest.digest sha256 = digest then
    ⟨attempt, true, manifest.stats.getLast?⟩
  else ⟨attempt, false, none⟩

/-- VerifiedSummaries of one signed attempt. -/
def verifiedSummary (sha256 : Bytes → Text) (tables : Tables) (tenantID : Text)
    (ref : AttemptRef) (digest : Text) : Except CacheError Summary :=
  if attemptProblems ref.attempt ≠ [] then .error .invalidEntry
  else
    match tables.readManifest tenantID ref with
    | .error failure => .error failure
    | .ok manifest => .ok (summarizeSigned sha256 manifest ref.attempt digest)

inductive OwnCheckpointFailure where
  | invalidAttempt
  | notFound
  | unverified (failure : CheckpointFailure)
  deriving DecidableEq

namespace CacheCheckpoints

variable (checkpoints : CacheCheckpoints)

def refOf (analyzerName attempt : Text) : AttemptRef :=
  ⟨checkpoints.jobID, analyzerName, attempt⟩

def keyOf (analyzerName attempt : Text) : Text :=
  checkpointKey checkpoints.tenantID checkpoints.jobID analyzerName attempt

def ownCheckpoint (objects : Objects) (analyzerName attempt : Text) :
    Except OwnCheckpointFailure Text :=
  if canonicalAttempt attempt = false then .error .invalidAttempt
  else
    match objects.lookup (checkpoints.keyOf analyzerName attempt) with
    | none => .error .notFound
    | some envelope =>
      match checkpoints.verifyCheckpoint envelope checkpoints.tenantID
          (checkpoints.refOf analyzerName attempt) with
      | .error failure => .error (.unverified failure)
      | .ok digest => .ok digest

/-- The attempts that were listed, with the digest each verified checkpoint signs. Those
of an untrusted key are passed over; any other that does not verify fails the read. -/
def readAttempts (objects : Objects) (analyzerName : Text) :
    List Text → Except CheckpointFailure (List (Text × Text))
  | [] => .ok []
  | attempt :: rest =>
    match objects.lookup (checkpoints.keyOf analyzerName attempt) with
    | none => readAttempts objects analyzerName rest
    | some envelope =>
      match checkpoints.verifyCheckpoint envelope checkpoints.tenantID
          (checkpoints.refOf analyzerName attempt) with
      | .error .untrustedKey => readAttempts objects analyzerName rest
      | .error failure => .error failure
      | .ok digest =>
        match readAttempts objects analyzerName rest with
        | .error failure => .error failure
        | .ok signed => .ok ((attempt, digest) :: signed)

def verified (objects : Objects) (analyzerName : Text) :
    Except CheckpointFailure (List (Text × Text)) :=
  if analyzerName ∉ checkpoints.analyzers then .error .other
  else if pathSegment checkpoints.jobID = false then .ok []
  else
    checkpoints.readAttempts objects analyzerName
      (listAttempts objects checkpoints.tenantID checkpoints.jobID analyzerName)

end CacheCheckpoints

/-- The error classes of a failed attestation; `other` is an error that names none. -/
inductive AttestationFailure where
  | signing
  | storage
  | invalid
  | other
  deriving DecidableEq, Repr

structure AnalyzerCacheRun where
  stats : Option Stats
  attempt : Option Text
  deriving DecidableEq

structure AnalyzerCacheRecord where
  digest : Text
  mode : Text
  reason : Text
  attempt : Text
  deriving DecidableEq

def cacheModeOff : Text := "off".toList

def cacheModeUnrecorded : Text := "unrecorded".toList

/-- What VerifiedSummaries is asked with: the cache rows, if this daemon has a cache
store wired, and the stored checkpoints. -/
structure CacheView where
  sha256 : Bytes → Text
  wired : Bool
  tables : Tables
  objects : Objects

namespace CacheView

variable (view : CacheView) (checkpoints : CacheCheckpoints)

def noCacheRecordDigest : Text := Manifest.digest view.sha256 ⟨[], [], [], [], [], []⟩

def unrecorded : AnalyzerCacheRecord where
  digest := view.noCacheRecordDigest
  mode := cacheModeUnrecorded
  reason := ("the stage completed in an earlier run that recorded no result-cache attempt: " ++
    "the cache was disabled or off then").toList
  attempt := []

/-- The stage was completed by this run; `stored` are the checkpoints this run stored. -/
def runRecord (stored : List (AttemptRef × Text)) (name : Text) (run : AnalyzerCacheRun) :
    Except AttestationFailure AnalyzerCacheRecord :=
  match run.attempt with
  | none =>
    match run.stats with
    | none =>
      .ok ⟨view.noCacheRecordDigest, cacheModeOff,
        "the result cache is not wired on this daemon".toList, []⟩
    | some stats => .ok ⟨view.noCacheRecordDigest, stats.mode.text, stats.reason, []⟩
  | some attempt =>
    match stored.lookup (checkpoints.refOf name attempt) with
    | none => .error .other
    | some digest =>
      .ok ⟨digest, (run.stats.map fun stats => stats.mode.text).getD [],
        (run.stats.map Stats.reason).getD [], attempt⟩

/-- The loop of checkNoSignedCompletion over the verified attempts, in their order. -/
def scanSigned (name : Text) : List (Text × Text) → Except AttestationFailure Unit
  | [] => .ok ()
  | (attempt, digest) :: rest =>
    match verifiedSummary view.sha256 view.tables checkpoints.tenantID
        (checkpoints.refOf name attempt) digest with
    | .error _ => .error .storage
    | .ok summary =>
      if summary.attested ∧ summary.stats.isSome then .error .invalid
      else scanSigned name rest

def sortAttempts (signed : List (Text × Text)) : List (Text × Text) :=
  signed.insertionSort fun first second => first.1 ≤ second.1

def checkNoSignedCompletion (name : Text) : Except AttestationFailure Unit :=
  match checkpoints.verified view.objects name with
  | .error .corrupt => .error .invalid
  | .error _ => .error .storage
  | .ok signed =>
    if signed = [] then .ok ()
    else if view.wired = false then .error .other
    else view.scanSigned checkpoints name (sortAttempts signed)

/-- The stage was completed by an earlier run; `pointer` is its cache_attempt column. -/
def earlierRecord (name : Text) (pointer : Option Text) :
    Except AttestationFailure AnalyzerCacheRecord :=
  let attempt := pointer.getD []
  if attempt = [] then
    match view.checkNoSignedCompletion checkpoints name with
    | .error failure => .error failure
    | .ok () => .ok view.unrecorded
  else
    match checkpoints.ownCheckpoint view.objects name attempt with
    | .error _ => .error .invalid
    | .ok digest =>
      if view.wired = false then .error .other
      else
        match verifiedSummary view.sha256 view.tables checkpoints.tenantID
            (checkpoints.refOf name attempt) digest with
        | .error _ => .error .storage
        | .ok summary =>
          if summary.attested = false then .error .invalid
          else
            match summary.stats with
            | none => .error .invalid
            | some stats => .ok ⟨digest, stats.mode.text, stats.reason, attempt⟩

def cacheRecordOf (stored : List (AttemptRef × Text)) (run : Option AnalyzerCacheRun)
    (name : Text) (pointer : Option Text) : Except AttestationFailure AnalyzerCacheRecord :=
  match run with
  | some run => view.runRecord checkpoints stored name run
  | none => view.earlierRecord checkpoints name pointer

end CacheView

variable {attempt tenantID : Text} {analyzerName key : Text}

theorem attemptOf_checkpointKey {jobID : Text} (canonical : canonicalAttempt attempt = true) :
    attemptOf (checkpointDir tenantID jobID analyzerName)
      (checkpointKey tenantID jobID analyzerName attempt) = some attempt := by
  have outer : (checkpointKey tenantID jobID analyzerName attempt).dropPrefix?
      (checkpointDir tenantID jobID analyzerName) = some (attempt ++ ".json".toList) := by
    unfold checkpointKey
    rw [append_assoc]
    exact dropPrefix?_append_of_beq _ (beq_self_eq_true _)
  have inner : (attempt ++ ".json".toList).reverse.dropPrefix? ".json".toList.reverse =
      some attempt.reverse := by
    rw [reverse_append]
    exact dropPrefix?_append_of_beq _ (beq_self_eq_true _)
  simp only [attemptOf, outer, inner, reverse_reverse, canonical, if_true]

theorem attemptOf_eq_some {dir : Text} (found : attemptOf dir key = some attempt) :
    canonicalAttempt attempt = true ∧ key = dir ++ attempt ++ ".json".toList := by
  unfold attemptOf at found
  split at found
  · cases found
  rename_i name outer
  split at found
  · cases found
  rename_i reversed inner
  split at found
  · rename_i canonical
    cases found
    refine ⟨canonical, ?_⟩
    obtain ⟨front, rfl, same⟩ := dropPrefix?_eq_some_iff.mp outer
    obtain ⟨tail, split, ends⟩ := dropPrefix?_eq_some_iff.mp inner
    rw [eq_of_beq same, append_assoc, append_cancel_left_eq]
    rw [eq_of_beq ends] at split
    rw [← reverse_reverse name, split, reverse_append, reverse_reverse]
  · cases found

theorem mem_listAttempts {objects : Objects} {jobID : Text} :
    attempt ∈ listAttempts objects tenantID jobID analyzerName ↔
      canonicalAttempt attempt = true ∧
        checkpointKey tenantID jobID analyzerName attempt ∈ objects.map Prod.fst := by
  simp only [listAttempts, mem_filterMap, mem_dedup]
  constructor
  · rintro ⟨key, mem, found⟩
    obtain ⟨canonical, rfl⟩ := attemptOf_eq_some found
    exact ⟨canonical, mem⟩
  · rintro ⟨canonical, mem⟩
    exact ⟨_, mem, attemptOf_checkpointKey canonical⟩

theorem mem_keys_of_lookup {objects : Objects} {envelope : Envelope}
    (found : objects.lookup key = some envelope) : key ∈ objects.map Prod.fst :=
  mem_map.mpr ⟨(key, envelope), mem_of_lookup_eq_some found, rfl⟩

variable {signed : List (Text × Text)} {digest : Text} {ref : AttemptRef}

namespace CacheCheckpoints

variable {checkpoints : CacheCheckpoints} {objects : Objects} {name : Text}

def Signs (checkpoints : CacheCheckpoints) (objects : Objects) (name attempt digest : Text) :
    Prop :=
  ∃ envelope, objects.lookup (checkpoints.keyOf name attempt) = some envelope ∧
    checkpoints.verifyCheckpoint envelope checkpoints.tenantID (checkpoints.refOf name attempt) =
      .ok digest

theorem ownCheckpoint_eq_ok :
    checkpoints.ownCheckpoint objects name attempt = .ok digest ↔
      canonicalAttempt attempt = true ∧ checkpoints.Signs objects name attempt digest := by
  unfold ownCheckpoint Signs
  cases canonicalAttempt attempt with
  | false => simp
  | true =>
    cases found : objects.lookup (checkpoints.keyOf name attempt) with
    | none => simp
    | some envelope =>
      cases verified : checkpoints.verifyCheckpoint envelope checkpoints.tenantID
          (checkpoints.refOf name attempt) <;> simp [verified]

theorem mem_readAttempts {attempts : List Text}
    (read : checkpoints.readAttempts objects name attempts = .ok signed) :
    (attempt, digest) ∈ signed ↔
      attempt ∈ attempts ∧ checkpoints.Signs objects name attempt digest := by
  induction attempts generalizing signed with
  | nil =>
    cases read
    simp
  | cons first rest ih =>
    have passes : ∀ signed, checkpoints.readAttempts objects name rest = .ok signed →
        (¬∃ digest, checkpoints.Signs objects name first digest) →
        ((attempt, digest) ∈ signed ↔
          attempt ∈ first :: rest ∧ checkpoints.Signs objects name attempt digest) := by
      intro signed read unsigned
      rw [ih read]
      constructor
      · rintro ⟨listed, signs⟩
        exact ⟨mem_cons_of_mem _ listed, signs⟩
      · rintro ⟨listed, signs⟩
        rcases mem_cons.mp listed with rfl | later
        · exact absurd ⟨digest, signs⟩ unsigned
        · exact ⟨later, signs⟩
    simp only [readAttempts] at read
    split at read
    · rename_i absent
      apply passes signed read
      rintro ⟨other, envelope, found, _⟩
      rw [absent] at found
      cases found
    rename_i envelope found
    split at read
    · rename_i untrusted
      apply passes signed read
      rintro ⟨other, again, same, verified⟩
      rw [found] at same
      cases same
      rw [untrusted] at verified
      cases verified
    · cases read
    · rename_i own verified
      split at read
      · cases read
      rename_i later readLater
      cases read
      rw [mem_cons, ih readLater, Prod.mk.injEq]
      constructor
      · rintro (⟨rfl, rfl⟩ | ⟨listed, signs⟩)
        · exact ⟨mem_cons_self, envelope, found, verified⟩
        · exact ⟨mem_cons_of_mem _ listed, signs⟩
      · rintro ⟨listed, signs⟩
        rcases mem_cons.mp listed with rfl | later
        · obtain ⟨again, same, accepted⟩ := signs
          rw [found] at same
          cases same
          rw [verified] at accepted
          cases accepted
          exact .inl ⟨rfl, rfl⟩
        · exact .inr ⟨later, signs⟩

theorem mem_verified (segment : pathSegment checkpoints.jobID = true)
    (read : checkpoints.verified objects name = .ok signed) :
    (attempt, digest) ∈ signed ↔
      canonicalAttempt attempt = true ∧ checkpoints.Signs objects name attempt digest := by
  unfold verified at read
  split at read
  · cases read
  split at read
  · rename_i refused
    rw [segment] at refused
    cases refused
  rw [mem_readAttempts read, mem_listAttempts]
  constructor
  · rintro ⟨⟨canonical, _⟩, signs⟩
    exact ⟨canonical, signs⟩
  · rintro ⟨canonical, envelope, found, verified⟩
    exact ⟨⟨canonical, mem_keys_of_lookup found⟩, envelope, found, verified⟩

theorem verified_ok (known : name ∈ checkpoints.analyzers)
    (sound : ∀ attempt envelope, canonicalAttempt attempt = true →
      objects.lookup (checkpoints.keyOf name attempt) = some envelope →
        ∃ digest, checkpoints.verifyCheckpoint envelope checkpoints.tenantID
          (checkpoints.refOf name attempt) = .ok digest) :
    ∃ signed, checkpoints.verified objects name = .ok signed := by
  have reads : ∀ attempts : List Text,
      (∀ attempt ∈ attempts, canonicalAttempt attempt = true) →
      ∃ signed, checkpoints.readAttempts objects name attempts = .ok signed := by
    intro attempts
    induction attempts with
    | nil => exact fun _ => ⟨[], rfl⟩
    | cons attempt rest ih =>
      intro canonical
      obtain ⟨later, read⟩ := ih fun other mem => canonical other (mem_cons_of_mem _ mem)
      simp only [readAttempts]
      cases found : objects.lookup (checkpoints.keyOf name attempt) with
      | none => exact ⟨later, read⟩
      | some envelope =>
        obtain ⟨digest, verified⟩ :=
          sound attempt envelope (canonical attempt mem_cons_self) found
        simp only [verified, read]
        exact ⟨_, rfl⟩
  unfold verified
  rw [if_neg (not_not.mpr known)]
  split
  · exact ⟨[], rfl⟩
  · exact reads _ fun attempt mem => (mem_listAttempts.mp mem).1

theorem verifyCheckpoint_checkpointLink (own : ref.jobID = checkpoints.jobID)
    (valid : validDigest digest = true) :
    checkpoints.verifyCheckpoint
      (.signed checkpoints.key (checkpoints.checkpointLink checkpoints.tenantID ref digest))
      checkpoints.tenantID ref = .ok digest := by
  simp [verifyCheckpoint, Envelope.verify, checkpointLink, subject, valid, own]

theorem keyOf_injective {first second other : Text}
    (canonical : canonicalAttempt first = true) (again : canonicalAttempt second = true)
    (same : checkpoints.keyOf name first = checkpoints.keyOf other second) :
    name = other ∧ first = second := by
  obtain ⟨front, rfl⟩ := append_inj' (append_cancel_right same)
    ((length_of_canonical canonical).trans (length_of_canonical again).symm)
  exact ⟨append_cancel_left (append_cancel_right front), rfl⟩

end CacheCheckpoints

/-! ### What a record rests on -/

namespace CacheView

variable {view : CacheView} {checkpoints : CacheCheckpoints} {name : Text} {summary : Summary}
  {stats : Stats}

/-- The rows of the attempt are readable and have this digest, and hold these statistics. -/
def Holds (view : CacheView) (checkpoints : CacheCheckpoints) (name attempt digest : Text)
    (stats : Option Stats) : Prop :=
  ∃ manifest, view.tables.readManifest checkpoints.tenantID (checkpoints.refOf name attempt) =
      .ok manifest ∧
    manifest.digest view.sha256 = digest ∧ manifest.stats.getLast? = stats

theorem attempt_of_readManifest {tables : Tables} {manifest : Manifest}
    (read : tables.readManifest tenantID ref = .ok manifest) : manifest.attempt = ref.attempt := by
  simp only [Tables.readManifest] at read
  split at read
  · cases read
    rfl
  · cases read

theorem verifiedSummary_attested
    (read : verifiedSummary view.sha256 view.tables checkpoints.tenantID
      (checkpoints.refOf name attempt) digest = .ok summary) :
    summary.attested = true ↔ view.Holds checkpoints name attempt digest summary.stats := by
  unfold verifiedSummary at read
  split at read
  · cases read
  split at read
  · cases read
  rename_i manifest rows
  cases read
  unfold summarizeSigned
  constructor
  · intro attested
    split at attested
    · rename_i matched
      exact ⟨manifest, rows, matched.2, by rw [if_pos matched]⟩
    · cases attested
  · rintro ⟨again, same, matched, _⟩
    rw [rows] at same
    cases same
    rw [if_pos ⟨attempt_of_readManifest rows, matched⟩]

theorem verifiedSummary_of_holds {stats : Option Stats}
    (holds : view.Holds checkpoints name attempt digest stats)
    (read : verifiedSummary view.sha256 view.tables checkpoints.tenantID
      (checkpoints.refOf name attempt) digest = .ok summary) :
    summary.attested = true ∧ summary.stats = stats := by
  obtain ⟨manifest, rows, matched, last⟩ := holds
  unfold verifiedSummary at read
  rw [rows] at read
  split at read
  · cases read
  · cases read
    unfold summarizeSigned
    rw [if_pos ⟨attempt_of_readManifest rows, matched⟩]
    exact ⟨rfl, last⟩

theorem scanSigned_eq_ok :
    view.scanSigned checkpoints name signed = .ok () →
      ∀ attempt digest stats, (attempt, digest) ∈ signed →
        ¬view.Holds checkpoints name attempt digest (some stats) := by
  induction signed with
  | nil =>
    intro _ attempt digest stats mem
    cases mem
  | cons first rest ih =>
    intro scanned attempt digest stats mem holds
    obtain ⟨other, otherDigest⟩ := first
    simp only [scanSigned] at scanned
    split at scanned
    · cases scanned
    rename_i summary read
    split at scanned
    · cases scanned
    rename_i incomplete
    rcases mem_cons.mp mem with same | later
    · cases same
      obtain ⟨attested, found⟩ := verifiedSummary_of_holds holds read
      exact incomplete ⟨attested, by rw [found]; rfl⟩
    · exact ih scanned attempt digest stats later holds

theorem holds_of_scanSigned_invalid
    (scanned : view.scanSigned checkpoints name signed = .error .invalid) :
    ∃ attempt digest stats, (attempt, digest) ∈ signed ∧
      view.Holds checkpoints name attempt digest (some stats) := by
  induction signed with
  | nil => cases scanned
  | cons first rest ih =>
    obtain ⟨attempt, digest⟩ := first
    simp only [scanSigned] at scanned
    split at scanned
    · cases scanned
    rename_i summary read
    split at scanned
    · rename_i complete
      have holds := (verifiedSummary_attested read).mp complete.1
      obtain ⟨stats, found⟩ := Option.isSome_iff_exists.mp complete.2
      exact ⟨attempt, digest, stats, mem_cons_self, found ▸ holds⟩
    · obtain ⟨later, laterDigest, stats, mem, holds⟩ := ih scanned
      exact ⟨later, laterDigest, stats, mem_cons_of_mem _ mem, holds⟩

/-- A null pointer is refused as invalid only over a stored object that does not verify or
over a signed completion whose rows are there. -/
theorem checkNoSignedCompletion_ne_invalid (segment : pathSegment checkpoints.jobID = true)
    (known : name ∈ checkpoints.analyzers)
    (sound : ∀ attempt envelope, canonicalAttempt attempt = true →
      view.objects.lookup (checkpoints.keyOf name attempt) = some envelope →
        ∃ digest, checkpoints.verifyCheckpoint envelope checkpoints.tenantID
          (checkpoints.refOf name attempt) = .ok digest)
    (incomplete : ∀ attempt digest stats, canonicalAttempt attempt = true →
      checkpoints.Signs view.objects name attempt digest →
        ¬view.Holds checkpoints name attempt digest (some stats)) :
    view.checkNoSignedCompletion checkpoints name ≠ .error .invalid := by
  obtain ⟨signed, read⟩ := CacheCheckpoints.verified_ok known sound
  intro refused
  simp only [checkNoSignedCompletion, read] at refused
  split at refused
  · cases refused
  split at refused
  · cases refused
  obtain ⟨attempt, digest, stats, mem, holds⟩ := holds_of_scanSigned_invalid refused
  have listed := (perm_insertionSort _ signed).mem_iff.mp mem
  obtain ⟨canonical, signs⟩ := (CacheCheckpoints.mem_verified segment read).mp listed
  exact incomplete attempt digest stats canonical signs holds

theorem earlierRecord_ne_invalid (canonical : canonicalAttempt attempt = true)
    (signs : checkpoints.Signs view.objects name attempt digest)
    (holds : view.Holds checkpoints name attempt digest (some stats)) :
    view.earlierRecord checkpoints name (some attempt) ≠ .error .invalid := by
  have given : attempt ≠ [] := by
    intro empty
    have long := length_of_canonical canonical
    rw [empty] at long
    cases long
  have own := CacheCheckpoints.ownCheckpoint_eq_ok.mpr ⟨canonical, signs⟩
  intro refused
  simp only [earlierRecord, Option.getD_some, if_neg given, own] at refused
  split at refused
  · cases refused
  split at refused
  · cases refused
  rename_i summary read
  obtain ⟨attested, found⟩ := verifiedSummary_of_holds holds read
  simp only [attested, found, Bool.true_eq_false, if_false] at refused
  cases refused

theorem checkNoSignedCompletion_eq_ok (segment : pathSegment checkpoints.jobID = true)
    (accepted : view.checkNoSignedCompletion checkpoints name = .ok ())
    (canonical : canonicalAttempt attempt = true)
    (signs : checkpoints.Signs view.objects name attempt digest) :
    ¬view.Holds checkpoints name attempt digest (some stats) := by
  unfold checkNoSignedCompletion at accepted
  split at accepted
  · cases accepted
  · cases accepted
  rename_i signed read
  have mem := (CacheCheckpoints.mem_verified segment read).mpr ⟨canonical, signs⟩
  split at accepted
  · rename_i none
    rw [none] at mem
    cases mem
  split at accepted
  · cases accepted
  apply scanSigned_eq_ok accepted
  exact (perm_insertionSort _ _).mem_iff.mpr mem

/-- A record of an earlier run's stage is the verified record of the attempt its pointer
names, or unrecorded for an empty pointer. -/
theorem earlierRecord_eq_ok {pointer : Option Text} {record : AnalyzerCacheRecord}
    (accepted : view.earlierRecord checkpoints name pointer = .ok record) :
    (∃ attempt digest stats, pointer = some attempt ∧
        record = ⟨digest, stats.mode.text, stats.reason, attempt⟩ ∧
        canonicalAttempt attempt = true ∧
        checkpoints.Signs view.objects name attempt digest ∧
        view.Holds checkpoints name attempt digest (some stats)) ∨
      pointer.getD [] = [] ∧ record = view.unrecorded ∧
        view.checkNoSignedCompletion checkpoints name = .ok () := by
  simp only [earlierRecord] at accepted
  split at accepted
  · rename_i empty
    split at accepted
    · cases accepted
    rename_i checked
    cases accepted
    exact .inr ⟨empty, rfl, checked⟩
  rename_i given
  split at accepted
  · cases accepted
  rename_i digest own
  split at accepted
  · cases accepted
  split at accepted
  · cases accepted
  rename_i summary read
  split at accepted
  · cases accepted
  rename_i attested
  split at accepted
  · cases accepted
  rename_i stats found
  cases accepted
  cases pointer with
  | none => exact absurd rfl given
  | some attempt =>
    obtain ⟨canonical, signs⟩ := CacheCheckpoints.ownCheckpoint_eq_ok.mp own
    have holds := (verifiedSummary_attested read).mp (Bool.not_eq_false _ ▸ attested)
    rw [found] at holds
    exact .inl ⟨attempt, digest, stats, rfl, rfl, canonical, signs, holds⟩

end CacheView

end CrossCodex.Pipeline
