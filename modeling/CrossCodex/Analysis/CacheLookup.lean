/-
One analyzer's use of the result cache in one execution (internal/analysis/cache.go). The
result struct is any type; the JSON decoder, CacheableResult and SHA-256 are parameters.
lookupCached is cut where it accesses the database or object storage: a phase holds the
locals alive before the next access, and tables and objects may change in between.
-/

import CrossCodex.Pipeline.CacheCheckpoints

namespace CrossCodex.Analysis

open ResultCache Pipeline

structure CacheServices (Result : Type) where
  sha256 : Bytes → Text
  /-- `utf8.Valid` and `json.Valid`. -/
  jsonText : Bytes → Bool
  /-- The string field "model" of a result, empty when absent. -/
  model : Result → Text
  deployment : Result → Text
  marshal : Result → Option Bytes
  /-- Exactly one JSON object that is a result struct. -/
  unmarshal : Bytes → Option Result
  cacheableResult : Text → Result → Bool

section Codec

variable {Result : Type} (services : CacheServices Result)

def encodeResult (result : Result) : Except CacheError Bytes :=
  if services.model result = [] then .error .invalidEntry
  else
    match services.marshal result with
    | none => .error .other
    | some data => .ok data

def decodeResult (data : Bytes) : Except CacheError Result :=
  match services.unmarshal data with
  | none => .error .corrupt
  | some result => if services.model result = [] then .error .corrupt else .ok result

end Codec

structure CachedTask where
  observed : Text
  deployment : Text
  lookupKey : Text
  source : Text
  target : Text
  deriving DecidableEq

structure StageCache where
  name : Text
  tenantID : Text
  jobID : Text
  attempt : Text
  mode : Mode
  lookupBatchSize : Nat
  checkpoints : CacheCheckpoints
  cacheable : Bool
  byTask : List (Text × CachedTask)
  stats : Stats
  hits : List HitEntry
  writes : List ManifestEntry
  recorded : Bool
  uncertain : Bool
  deriving DecidableEq

namespace StageCache

variable (sc : StageCache)

def records : Bool := sc.mode ≠ .disabled

def lookups : Bool := sc.cacheable && sc.mode = .enabled && sc.byTask.length > 0

def puts : Bool := sc.cacheable && sc.byTask.length > 0

def ref : AttemptRef := ⟨sc.jobID, sc.name, sc.attempt⟩

/-- The attempt's record as the engine made it, never as the database holds it. -/
def expected : Manifest where
  tenantID := sc.tenantID
  jobID := sc.jobID
  analyzer := sc.name
  attempt := sc.attempt
  entries := if sc.recorded then sc.writes ++ sc.hits.map HitEntry.entry else sc.writes
  stats := if sc.recorded then [sc.stats] else []

/-- A worker's result of one task, `none` when the task failed or answered nothing. -/
structure Answer (Result : Type) where
  taskID : Text
  result : Option Result

variable {Result : Type} (services : CacheServices Result)

/-- The entry putResults hands to the store for one result, if it stores it at all:
the model and deployment that answered must be the observed ones. -/
def putEntry (answer : Answer Result) : Option Entry :=
  match sc.byTask.lookup answer.taskID, answer.result with
  | some task, some result =>
    if services.model result = [] ∨ services.model result ≠ task.observed then none
    else if services.deployment result ≠ task.deployment then none
    else if services.cacheableResult sc.name result = false then none
    else
      match encodeResult services result with
      | .error _ => none
      | .ok data =>
        some { jobID := sc.jobID
               analyzer := sc.name
               attempt := sc.attempt
               taskID := answer.taskID
               cacheKey := task.lookupKey
               result := data
               responseModel := services.model result
               sourceCatalogID := task.source
               targetCatalogID := task.target }
  | _, _ => none

def sortHits : StageCache :=
  { sc with hits := sc.hits.insertionSort fun a b => a.taskID ≤ b.taskID }

def count (tasks dispatched : Nat) : StageCache :=
  { sc with stats := { sc.stats with tasks := tasks, hits := sc.hits.length, dispatched := dispatched } }

def stageRecord : StageRecord where
  jobID := sc.jobID
  analyzer := sc.name
  attempt := sc.attempt
  hits := sc.hits
  stats := sc.stats

variable {sc services}

theorem putEntry_ref {answer : Answer Result} {entry : Entry}
    (stores : sc.putEntry services answer = some entry) : entry.ref = sc.ref := by
  unfold putEntry at stores
  split at stores
  · split at stores
    · cases stores
    split at stores
    · cases stores
    split at stores
    · cases stores
    split at stores
    · cases stores
    cases stores
    rfl
  · cases stores

theorem mem_expected_write {entry : ManifestEntry} (mem : entry ∈ sc.expected.entries)
    (write : entry.role = .write) : entry ∈ sc.writes := by
  simp only [expected] at mem
  split at mem
  · rcases List.mem_append.mp mem with own | reused
    · exact own
    · obtain ⟨hit, _recorded, rfl⟩ := List.mem_map.mp reused
      cases write
  · exact mem

end StageCache

open List

structure FoundRow (Result : Type) where
  key : Text
  hit : Hit
  result : Result

structure LookupLocals (Result : Type) where
  batches : List (List Text)
  signed : SignedDigests
  verified : List Text
  found : List (FoundRow Result)

structure BatchLocals where
  batch : List Text
  /-- The producer of each key of the batch, as Producers returned it. -/
  producers : List (Text × Text)

structure Served (Result : Type) where
  taskID : Text
  key : Text
  hit : Hit
  result : Result

inductive LookupFailure where
  | unavailable
  | corrupt
  deriving DecidableEq, Repr

inductive LookupPhase (Result : Type) where
  | idle
  | producers (locals : LookupLocals Result)
  /-- `Verified` still has to list the directories of these producers. -/
  | listing (locals : LookupLocals Result) (here : BatchLocals) (pending : List Text)
      (loaded : SignedDigests)
  /-- `Verified` still has to read these attempts' objects of one producer. -/
  | reading (locals : LookupLocals Result) (here : BatchLocals) (producer : Text)
      (attempts : List Text) (pending : List Text) (loaded : SignedDigests)
  | snapshot (locals : LookupLocals Result) (here : BatchLocals)
  | served (results : List (Served Result))
  | failed (failure : LookupFailure)

/-- The slices `keys[start:start+size]` of the batch loop. The engine refuses a
size below one before it looks anything up. -/
def batches (size : Nat) (keys : List Text) : List (List Text) :=
  (range ((keys.length + size - 1) / size)).map fun index =>
    (keys.drop (index * size)).take size

def BatchLocals.batchSigned (here : BatchLocals) (signed : SignedDigests) : SignedDigests :=
  signed.filter fun entry => entry.1.jobID ∈ here.producers.map Prod.snd

def sortRefs (refs : List AttemptRef) : List AttemptRef :=
  refs.insertionSort fun a b => a.jobID ++ '\x00' :: a.attempt ≤ b.jobID ++ '\x00' :: b.attempt

section Lookup

variable {Result : Type} (services : CacheServices Result) {signed : SignedDigests}
  {row : FoundRow Result} {snapshot : Snapshot}

def checkRow (snapshot : Snapshot) (signed : SignedDigests) (key : Text) :
    Except CacheError (FoundRow Result) :=
  match snapshot.verify services.sha256 key signed with
  | .error failure => .error failure
  | .ok hit =>
    match decodeResult services hit.result with
    | .error failure => .error failure
    | .ok result => .ok ⟨key, hit, result⟩

/-- The loop over the snapshot's keys: a miss is skipped, a corrupt row is noted so
that every one is reported, and anything else stops the lookup. -/
def checkRows (snapshot : Snapshot) (signed : SignedDigests) :
    List Text → List (FoundRow Result) → List Text →
      Except LookupFailure (List (FoundRow Result))
  | [], found, badKeys => if badKeys = [] then .ok found else .error .corrupt
  | key :: rest, found, badKeys =>
    match checkRow services snapshot signed key with
    | .ok row => checkRows snapshot signed rest (row :: found) badKeys
    | .error .untrusted => checkRows snapshot signed rest found badKeys
    | .error .corrupt => checkRows snapshot signed rest found (key :: badKeys)
    | .error _ => .error .unavailable

namespace StageCache

variable (sc : StageCache)

def lookupKeys : List Text :=
  (sc.byTask.map fun entry => entry.2.lookupKey).dedup.insertionSort (· ≤ ·)

def startLookup : LookupPhase Result :=
  .producers ⟨batches sc.lookupBatchSize sc.lookupKeys, [], [], []⟩

def serve (found : List (FoundRow Result)) : List (Served Result) :=
  (sc.byTask.map Prod.fst).dedup.insertionSort (· ≤ ·) |>.filterMap fun taskID =>
    match sc.byTask.lookup taskID with
    | none => none
    | some task =>
      match found.find? fun row => row.key = task.lookupKey with
      | none => none
      | some row => some ⟨taskID, task.lookupKey, row.hit, row.result⟩

def hitEntry (served : Served Result) : HitEntry where
  taskID := served.taskID
  cacheKey := served.key
  resultDigest := resultDigest services.sha256 served.hit.result
  producerJobID := served.hit.producerJobID

/-- After `Verified`, or where every producer had been verified before. -/
def afterVerified (locals : LookupLocals Result) (here : BatchLocals) : LookupPhase Result :=
  if here.batchSigned locals.signed = [] then .producers locals else .snapshot locals here

def readProducers (tables : Tables) (locals : LookupLocals Result) (batch : List Text)
    (rest : List (List Text)) : LookupPhase Result :=
  let producers := tables.producers sc.tenantID sc.name batch
  let unverified := ((producers.map Prod.snd).filter fun job => job ∉ locals.verified).dedup
    |>.insertionSort (· ≤ ·)
  let locals := { locals with batches := rest, verified := locals.verified ++ unverified }
  if unverified = [] then afterVerified locals ⟨batch, producers⟩
  else if sc.checkpoints.tenantID = sc.tenantID ∧ sc.name ∈ sc.checkpoints.analyzers then
    .listing locals ⟨batch, producers⟩ unverified []
  else .failed .unavailable

def listProducer (objects : Objects) (locals : LookupLocals Result) (here : BatchLocals)
    (producer : Text) (pending : List Text) (loaded : SignedDigests) : LookupPhase Result :=
  -- A producer that cannot be a key segment has no checkpoint.
  if pathSegment producer then
    .reading locals here producer (listAttempts objects sc.tenantID producer sc.name) pending loaded
  else .listing locals here pending loaded

def readCheckpoint (objects : Objects) (locals : LookupLocals Result) (here : BatchLocals)
    (producer attempt : Text) (attempts pending : List Text) (loaded : SignedDigests) :
    LookupPhase Result :=
  match objects.lookup (checkpointKey sc.tenantID producer sc.name attempt) with
  | none => .reading locals here producer attempts pending loaded
  | some envelope =>
    match sc.checkpoints.verifyCheckpoint envelope sc.tenantID ⟨producer, sc.name, attempt⟩ with
    | .error .untrustedKey => .reading locals here producer attempts pending loaded
    | .error .corrupt => .failed .corrupt
    | .error .other => .failed .unavailable
    | .ok digest =>
      .reading locals here producer attempts pending ((⟨producer, sc.name, attempt⟩, digest) :: loaded)

def readSnapshot (tables : Tables) (locals : LookupLocals Result) (here : BatchLocals) :
    Except CacheError Snapshot :=
  tables.lookupVerifiable sc.tenantID sc.name here.batch
    (sortRefs ((here.batchSigned locals.signed).map Prod.fst))

def checkSnapshot (locals : LookupLocals Result) (here : BatchLocals) :
    Except CacheError Snapshot → LookupPhase Result
  | .error .corrupt => .failed .corrupt
  | .error _ => .failed .unavailable
  | .ok snapshot =>
    match checkRows services snapshot (here.batchSigned locals.signed) snapshot.keys
        locals.found [] with
    | .error failure => .failed failure
    | .ok found => .producers { locals with found := found }

def nextLookup (tables : Tables) (objects : Objects) : LookupPhase Result → Option (LookupPhase Result)
  | .idle => none
  | .producers locals =>
    match locals.batches with
    | [] => some (.served (sc.serve locals.found))
    | batch :: rest => some (sc.readProducers tables locals batch rest)
  | .listing locals here pending loaded =>
    match pending with
    | [] => some (afterVerified { locals with signed := loaded ++ locals.signed } here)
    | producer :: pending => some (sc.listProducer objects locals here producer pending loaded)
  | .reading locals here producer attempts pending loaded =>
    match attempts with
    | [] => some (.listing locals here pending loaded)
    | attempt :: attempts =>
      some (sc.readCheckpoint objects locals here producer attempt attempts pending loaded)
  | .snapshot locals here =>
    some (checkSnapshot services locals here (sc.readSnapshot tables locals here))
  | .served _ => none
  | .failed _ => none

end StageCache

namespace LookupPhase

def digests : LookupPhase Result → SignedDigests
  | .producers locals => locals.signed
  | .listing locals _ _ loaded => loaded ++ locals.signed
  | .reading locals _ _ _ _ loaded => loaded ++ locals.signed
  | .snapshot locals _ => locals.signed
  | _ => []

def found : LookupPhase Result → List (FoundRow Result)
  | .producers locals => locals.found
  | .listing locals _ _ _ => locals.found
  | .reading locals _ _ _ _ _ => locals.found
  | .snapshot locals _ => locals.found
  | _ => []

def results : LookupPhase Result → List (Served Result)
  | .served results => results
  | _ => []

end LookupPhase

theorem checkRow_eq_ok {key : Text} (accepted : checkRow services snapshot signed key = .ok row) :
    row.key = key ∧ snapshot.verify services.sha256 key signed = .ok row.hit ∧
      decodeResult services row.hit.result = .ok row.result := by
  unfold checkRow at accepted
  split at accepted
  · cases accepted
  rename_i hit verified
  split at accepted
  · cases accepted
  rename_i result decoded
  cases accepted
  exact ⟨rfl, verified, decoded⟩

theorem mem_checkRows {keys badKeys : List Text} {found rows : List (FoundRow Result)}
    (accepted : checkRows services snapshot signed keys found badKeys = .ok rows)
    (mem : row ∈ rows) : row ∈ found ∨ checkRow services snapshot signed row.key = .ok row := by
  induction keys generalizing found badKeys with
  | nil =>
    simp only [checkRows] at accepted
    split at accepted
    · cases accepted
      exact .inl mem
    · cases accepted
  | cons key rest ih =>
    simp only [checkRows] at accepted
    split at accepted
    · rename_i first checked
      rcases ih accepted with earlier | later
      · rcases mem_cons.mp earlier with rfl | before
        · exact .inr (by rw [(checkRow_eq_ok services checked).1]; exact checked)
        · exact .inl before
      · exact .inr later
    · exact ih accepted
    · exact ih accepted
    · cases accepted

namespace StageCache

variable {services} {sc : StageCache} {tables : Tables} {objects : Objects}
  {phase next : LookupPhase Result}

inductive Advance (services : CacheServices Result) (sc : StageCache) (tables : Tables)
    (objects : Objects) (phase next : LookupPhase Result) : Prop where
  | quiet (digests : next.digests ⊆ phase.digests) (found : next.found ⊆ phase.found)
      (results : next.results = [])
  | accepted (entry : AttemptRef × Text) (object : Text × Envelope) (stored : object ∈ objects)
      (verified : sc.checkpoints.verifyCheckpoint object.2 sc.tenantID entry.1 = .ok entry.2)
      (digests : next.digests = entry :: phase.digests) (found : next.found = phase.found)
      (results : next.results = [])
  | checked (locals : LookupLocals Result) (here : BatchLocals) (snapshot : Snapshot)
      (rows : List (FoundRow Result)) (before : phase = .snapshot locals here)
      (read : sc.readSnapshot tables locals here = .ok snapshot)
      (rowsChecked : checkRows services snapshot (here.batchSigned locals.signed) snapshot.keys
        locals.found [] = .ok rows)
      (after : next = .producers { locals with found := rows })
  | served (locals : LookupLocals Result) (before : phase = .producers locals)
      (after : next = .served (sc.serve locals.found))

theorem Advance.failed {failure : LookupFailure} :
    Advance services sc tables objects phase (.failed failure) :=
  .quiet (nil_subset _) (nil_subset _) rfl

variable {locals : LookupLocals Result} {here : BatchLocals}

theorem Advance.afterVerified (digests : locals.signed ⊆ phase.digests)
    (found : locals.found ⊆ phase.found) :
    Advance services sc tables objects phase (afterVerified locals here) := by
  unfold StageCache.afterVerified
  split
  · exact .quiet digests found rfl
  · exact .quiet digests found rfl

theorem Advance.readProducers {batch : List Text} {rest : List (List Text)} :
    Advance services sc tables objects (.producers locals)
      (sc.readProducers tables locals batch rest) := by
  simp only [StageCache.readProducers]
  split
  · exact .afterVerified (List.Subset.refl _) (List.Subset.refl _)
  · split
    · exact .quiet (List.Subset.refl _) (List.Subset.refl _) rfl
    · exact .failed

theorem Advance.readCheckpoint {producer attempt : Text} {attempts pending : List Text}
    {loaded : SignedDigests} :
    Advance services sc tables objects
      (.reading locals here producer (attempt :: attempts) pending loaded)
      (sc.readCheckpoint objects locals here producer attempt attempts pending loaded) := by
  unfold StageCache.readCheckpoint
  split
  · exact .quiet (List.Subset.refl _) (List.Subset.refl _) rfl
  · rename_i envelope stored
    split
    · exact .quiet (List.Subset.refl _) (List.Subset.refl _) rfl
    · exact .failed
    · exact .failed
    · rename_i digest verified
      exact .accepted (⟨producer, sc.name, attempt⟩, digest) _ (mem_of_lookup_eq_some stored)
        verified rfl rfl rfl

theorem Advance.checkSnapshot :
    Advance services sc tables objects (.snapshot locals here)
      (checkSnapshot services locals here (sc.readSnapshot tables locals here)) := by
  cases read : sc.readSnapshot tables locals here with
  | error failure => cases failure <;> exact .failed
  | ok snapshot =>
    simp only [StageCache.checkSnapshot]
    split
    · exact .failed
    · rename_i rows rowsChecked
      exact .checked locals here snapshot rows rfl read rowsChecked rfl

theorem nextLookup_cases (advances : sc.nextLookup services tables objects phase = some next) :
    Advance services sc tables objects phase next := by
  cases phase with
  | idle | served _ | failed _ => cases advances
  | producers locals =>
    simp only [nextLookup] at advances
    split at advances
    · cases advances
      exact .served locals rfl rfl
    · cases advances
      exact .readProducers
  | listing locals here pending loaded =>
    simp only [nextLookup] at advances
    split at advances
    · cases advances
      exact .afterVerified (List.Subset.refl _) (List.Subset.refl _)
    · cases advances
      unfold listProducer
      split <;> exact .quiet (List.Subset.refl _) (List.Subset.refl _) rfl
  | reading locals here producer attempts pending loaded =>
    simp only [nextLookup] at advances
    split at advances
    · cases advances
      exact .quiet (List.Subset.refl _) (List.Subset.refl _) rfl
    · cases advances
      exact .readCheckpoint
  | snapshot locals here =>
    cases advances
    exact .checkSnapshot

theorem mem_serve {found : List (FoundRow Result)} {served : Served Result}
    (mem : served ∈ sc.serve found) :
    ∃ task, sc.byTask.lookup served.taskID = some task ∧ served.key = task.lookupKey ∧
      ∃ row ∈ found, row.key = served.key ∧ row.hit = served.hit ∧ row.result = served.result := by
  simp only [serve, mem_filterMap] at mem
  obtain ⟨taskID, _listed, answered⟩ := mem
  split at answered
  · cases answered
  rename_i task known
  split at answered
  · cases answered
  rename_i row cached
  cases answered
  have keyed := find?_some cached
  rw [decide_eq_true_eq] at keyed
  exact ⟨task, known, rfl, row, mem_of_find?_eq_some cached, keyed, rfl, rfl⟩

end StageCache

end Lookup

end CrossCodex.Analysis
