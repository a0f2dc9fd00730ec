/-
Cache manifests and the digest that a checkpoint signs, and the tables of the result cache
with the store's operations, each one transaction. SHA-256 is a parameter. The row lists
inside the mismatch error are not modelled. Tables are arbitrary, so that any edit by a
database writer yields tables again. Maps are association lists whose first binding of a key
counts.
-/

import CrossCodex.ResultCache.Json
import Mathlib.Data.List.Dedup
import Mathlib.Data.List.Sort

namespace CrossCodex.ResultCache

open List

/-- What `errors.Is` can tell about an error of the cache. -/
inductive CacheError where
  | untrusted
  | invalidEntry
  | corrupt
  | jobNotRunning
  | unknownJob
  | other
  deriving DecidableEq, Repr

inductive Mode where
  | enabled | bypassed | disabled | skipped
  deriving DecidableEq, Repr

def Mode.text : Mode → Text
  | .enabled => "enabled".toList
  | .bypassed => "bypassed".toList
  | .disabled => "disabled".toList
  | .skipped => "skipped".toList

inductive Role where
  | hit | write
  deriving DecidableEq, Repr

def Role.text : Role → Text
  | .hit => "hit".toList
  | .write => "write".toList

structure ModelIdentity where
  observed : Text
  deployment : Text
  revision : Text
  deriving DecidableEq

/-- A Go map from alias to model identity, in the key order it is marshalled in. -/
structure ModelMap where
  entries : List (Text × ModelIdentity)
  sorted : (entries.map Prod.fst).Pairwise (· < ·)
  deriving DecidableEq

def ModelMap.empty : ModelMap := ⟨[], List.Pairwise.nil⟩

structure Stats where
  mode : Mode
  reason : Text
  /-- `none` is Go's nil map. -/
  models : Option ModelMap
  tasks : Int
  hits : Int
  dispatched : Int
  deriving DecidableEq

structure HitEntry where
  taskID : Text
  cacheKey : Text
  resultDigest : Text
  producerJobID : Text
  deriving DecidableEq

structure ManifestEntry where
  taskID : Text
  role : Role
  cacheKey : Text
  resultDigest : Text
  producerJobID : Text
  deriving DecidableEq

structure AttemptRef where
  jobID : Text
  analyzer : Text
  attempt : Text
  deriving DecidableEq

structure Manifest where
  tenantID : Text
  jobID : Text
  analyzer : Text
  attempt : Text
  entries : List ManifestEntry
  stats : List Stats
  deriving DecidableEq

namespace Manifest

def ref (manifest : Manifest) : AttemptRef :=
  ⟨manifest.jobID, manifest.analyzer, manifest.attempt⟩

end Manifest

def compareEntries (a b : ManifestEntry) : Ordering :=
  (compare a.taskID b.taskID).then <|
  (compare a.role.text b.role.text).then <|
  (compare a.cacheKey b.cacheKey).then <|
  (compare a.resultDigest b.resultDigest).then <|
  compare a.producerJobID b.producerJobID

def canonicalEntries (entries : List ManifestEntry) : List ManifestEntry :=
  entries.insertionSort fun a b => compareEntries a b ≠ .gt

theorem canonicalEntries_perm (entries : List ManifestEntry) :
    (canonicalEntries entries).Perm entries :=
  perm_insertionSort _ entries

def canonicalStat (stats : Stats) : Stats :=
  { stats with models := some (stats.models.getD .empty) }

def canonicalStats (stats : List Stats) : List Stats := stats.map canonicalStat

def ManifestEntry.json (entry : ManifestEntry) : Json :=
  .obj [("task_id".toList, .str entry.taskID), ("role".toList, .str entry.role.text),
    ("cache_key".toList, .str entry.cacheKey), ("result_digest".toList, .str entry.resultDigest),
    ("producer_job_id".toList, .str entry.producerJobID)]

def ModelIdentity.json (model : ModelIdentity) : Json :=
  .obj [("observed".toList, .str model.observed), ("deployment".toList, .str model.deployment),
    ("revision".toList, .str model.revision)]

def ModelMap.json (models : ModelMap) : Json :=
  .obj (models.entries.map fun entry => (entry.1, entry.2.json))

/-- Statistics with their models map, which `canonicalStat` has made present. -/
def Stats.json (stats : Stats) : Json :=
  .obj [("mode".toList, .str stats.mode.text), ("reason".toList, .str stats.reason),
    ("models".toList, (stats.models.getD .empty).json), ("tasks".toList, .int stats.tasks),
    ("hits".toList, .int stats.hits), ("dispatched".toList, .int stats.dispatched)]

namespace Manifest

def json (manifest : Manifest) : Json :=
  .obj [("tenant_id".toList, .str manifest.tenantID), ("job_id".toList, .str manifest.jobID),
    ("analyzer".toList, .str manifest.analyzer), ("attempt".toList, .str manifest.attempt),
    ("entries".toList, .arr ((canonicalEntries manifest.entries).map ManifestEntry.json)),
    ("stats".toList, .arr ((canonicalStats manifest.stats).map Stats.json))]

def encoded (manifest : Manifest) : Bytes := manifest.json.marshal

end Manifest

theorem Role.text_injective : Function.Injective Role.text := by
  intro role other same
  cases role <;> cases other <;> first | rfl | exact absurd same (by decide)

theorem Mode.text_injective : Function.Injective Mode.text := by
  intro mode other same
  cases mode <;> cases other <;> first | rfl | exact absurd same (by decide)

theorem ManifestEntry.json_injective : Function.Injective ManifestEntry.json := by
  rintro ⟨task, role, key, digest, producer⟩ ⟨task', role', key', digest', producer'⟩ same
  simp only [json, Json.obj.injEq, cons.injEq, Prod.mk.injEq, Json.str.injEq, true_and,
    and_true] at same
  obtain ⟨rfl, roles, rfl, rfl, rfl⟩ := same
  rw [Role.text_injective roles]

theorem ModelIdentity.json_injective : Function.Injective ModelIdentity.json := by
  rintro ⟨observed, deployment, revision⟩ ⟨observed', deployment', revision'⟩ same
  simp only [json, Json.obj.injEq, cons.injEq, Prod.mk.injEq, Json.str.injEq, true_and,
    and_true] at same
  obtain ⟨rfl, rfl, rfl⟩ := same
  rfl

theorem ModelMap.json_injective : Function.Injective ModelMap.json := by
  rintro ⟨entries, sorted⟩ ⟨others, othersSorted⟩ same
  have pairs : Function.Injective fun entry : Text × ModelIdentity => (entry.1, entry.2.json) := by
    rintro ⟨name, model⟩ ⟨otherName, otherModel⟩ equal
    simp only [Prod.mk.injEq] at equal
    rw [equal.1, ModelIdentity.json_injective equal.2]
  have equal := pairs.list_map (Json.obj.inj same)
  subst equal
  rfl

theorem canonicalStat_eq_of_json {stats other : Stats} (same : stats.json = other.json) :
    canonicalStat stats = canonicalStat other := by
  obtain ⟨mode, reason, models, tasks, hits, dispatched⟩ := stats
  obtain ⟨mode', reason', models', tasks', hits', dispatched'⟩ := other
  simp only [Stats.json, Json.obj.injEq, cons.injEq, Prod.mk.injEq, Json.str.injEq,
    Json.int.injEq, true_and, and_true] at same
  obtain ⟨modes, rfl, maps, rfl, rfl, rfl⟩ := same
  simp only [canonicalStat, Mode.text_injective modes, ModelMap.json_injective maps]

theorem canonicalStats_eq_of_json {stats others : List Stats}
    (same : (canonicalStats stats).map Stats.json = (canonicalStats others).map Stats.json) :
    canonicalStats stats = canonicalStats others := by
  induction stats generalizing others with
  | nil =>
    cases others with
    | nil => rfl
    | cons other others => cases same
  | cons head stats ih =>
    cases others with
    | nil => cases same
    | cons other others =>
      simp only [canonicalStats, map_cons, cons.injEq] at same ih ⊢
      exact ⟨canonicalStat_eq_of_json same.1, ih same.2⟩

theorem Manifest.encoded_eq_iff {manifest other : Manifest} :
    manifest.encoded = other.encoded ↔
      manifest.tenantID = other.tenantID ∧ manifest.ref = other.ref ∧
        canonicalEntries manifest.entries = canonicalEntries other.entries ∧
        canonicalStats manifest.stats = canonicalStats other.stats := by
  constructor
  · intro same
    have fields := Json.marshal_injective same
    simp only [json, Json.obj.injEq, cons.injEq, Prod.mk.injEq, Json.str.injEq,
      Json.arr.injEq, true_and, and_true] at fields
    obtain ⟨tenant, job, analyzer, attempt, entries, stats⟩ := fields
    refine ⟨tenant, ?_, ManifestEntry.json_injective.list_map entries,
      canonicalStats_eq_of_json stats⟩
    simp only [ref, job, analyzer, attempt]
  · rintro ⟨tenant, names, entries, stats⟩
    simp only [ref, AttemptRef.mk.injEq] at names
    simp only [encoded, json, tenant, names.1, names.2.1, names.2.2, entries, stats]

def digestLabel : Text := ['s', 'h', 'a', '2', '5', '6', ':']

section Digests

variable (sha256 : Bytes → Text)

/-- `sha256` returns the lowercase hexadecimal form of the sum. -/
def resultDigest (result : Bytes) : Text := digestLabel ++ sha256 result

theorem resultDigest_inj {sha256 : Bytes → Text} {result other : Bytes} :
    resultDigest sha256 result = resultDigest sha256 other ↔ sha256 result = sha256 other := by
  simp only [resultDigest, append_cancel_left_eq]

namespace Manifest

def digest (manifest : Manifest) : Text := resultDigest sha256 manifest.encoded

def written (manifest : Manifest) (key : Text) : List Text :=
  (manifest.entries.filter fun entry => entry.cacheKey = key ∧ entry.role = .write).map
    ManifestEntry.resultDigest

theorem mem_written {manifest : Manifest} {key digest : Text} :
    digest ∈ manifest.written key ↔
      ∃ entry ∈ manifest.entries,
        entry.cacheKey = key ∧ entry.role = .write ∧ entry.resultDigest = digest := by
  simp only [written, mem_map, mem_filter, decide_eq_true_eq, and_assoc]

theorem mem_entries_iff_of_encoded_eq {manifest other : Manifest}
    (same : manifest.encoded = other.encoded) (entry : ManifestEntry) :
    entry ∈ manifest.entries ↔ entry ∈ other.entries := by
  have entries := (encoded_eq_iff.mp same).2.2.1
  rw [← (canonicalEntries_perm manifest.entries).mem_iff, entries,
    (canonicalEntries_perm other.entries).mem_iff]

end Manifest

/-- Whether the rows the database holds are the ones the executor recorded. -/
def matchRecord (expected stored : Manifest) : Except CacheError Unit :=
  if expected.digest sha256 = stored.digest sha256 then .ok () else .error .corrupt

end Digests

theorem mem_of_lookup_eq_some {Key Value : Type} [BEq Key] [LawfulBEq Key] {key : Key} {value : Value}
    {entries : List (Key × Value)} (found : entries.lookup key = some value) :
    (key, value) ∈ entries := by
  obtain ⟨before, after, rfl, _first⟩ := lookup_eq_some_iff.mp found
  exact mem_append_right _ mem_cons_self

structure Hit where
  cacheKey : Text
  result : Bytes
  responseModel : Text
  producerJobID : Text
  producerAttempt : Text
  deriving DecidableEq

/-- The signed manifest digest of each attempt whose checkpoint was verified. -/
abbrev SignedDigests := List (AttemptRef × Text)

structure Snapshot where
  analyzer : Text
  hits : List (Text × Hit)
  manifests : List (AttemptRef × Manifest)

namespace Snapshot

def keys (snapshot : Snapshot) : List Text :=
  (snapshot.hits.map Prod.fst).dedup.insertionSort (· ≤ ·)

def storing (snapshot : Snapshot) (hit : Hit) : AttemptRef :=
  ⟨hit.producerJobID, snapshot.analyzer, hit.producerAttempt⟩

variable (sha256 : Bytes → Text)

def verify (snapshot : Snapshot) (key : Text) (signed : SignedDigests) :
    Except CacheError Hit :=
  match snapshot.hits.lookup key with
  | none => .error .untrusted
  | some hit =>
    if signed.any fun entry =>
        entry.1.jobID = hit.producerJobID ∧ entry.1.analyzer ≠ snapshot.analyzer then
      .error .invalidEntry
    else
      match signed.lookup (snapshot.storing hit) with
      | none => .error .untrusted
      | some digest =>
        match snapshot.manifests.lookup (snapshot.storing hit) with
        | none => .error .invalidEntry
        | some manifest =>
          if manifest.digest sha256 ≠ digest then .error .corrupt
          else if resultDigest sha256 hit.result ∉ manifest.written key then .error .corrupt
          else .ok hit

theorem verify_eq_ok {sha256 : Bytes → Text} {snapshot : Snapshot} {key : Text}
    {signed : SignedDigests} {hit : Hit} (verified : snapshot.verify sha256 key signed = .ok hit) :
    snapshot.hits.lookup key = some hit ∧
      ∃ manifest, snapshot.manifests.lookup (snapshot.storing hit) = some manifest ∧
        signed.lookup (snapshot.storing hit) = some (manifest.digest sha256) ∧
        resultDigest sha256 hit.result ∈ manifest.written key := by
  simp only [verify] at verified
  split at verified
  · cases verified
  rename_i row found
  split at verified
  · cases verified
  split at verified
  · cases verified
  rename_i digest vouched
  split at verified
  · cases verified
  rename_i manifest read
  split at verified
  · cases verified
  rename_i unchanged
  split at verified
  · cases verified
  rename_i written
  cases verified
  rw [not_not] at unchanged written
  exact ⟨found, manifest, read, by rw [unchanged]; exact vouched, written⟩

end Snapshot

inductive Problem where
  | empty (field : String)
  | attemptTooLong (bytes : Nat)
  | attemptNotText
  | badKey (key : Text)
  | badDigest (digest : Text)
  | resultNotJSON
  | negativeCount
  | countOverflow
  | hitsInMode (mode : Mode)
  | hitsAndDispatchedExceedTasks
  | hitCount (entries : Nat) (stats : Int)
  | duplicateHit (hit : HitEntry)
  | otherAnalyzer (ref : AttemptRef)
  | otherTenant (tenantID : Text)
  deriving DecidableEq

def invalid (problems : List Problem) : Except CacheError Unit :=
  if problems = [] then .ok () else .error .invalidEntry

def byteLength (text : Text) : Nat := (text.map Char.utf8Size).sum

def maxAttemptBytes : Nat := 64

def attemptProblems (attempt : Text) : List Problem :=
  if attempt = [] then [.empty "attempt"]
  else if byteLength attempt > maxAttemptBytes then [.attemptTooLong (byteLength attempt)]
  else if '\x00' ∈ attempt then [.attemptNotText]
  else []

def hexLower (character : Char) : Bool :=
  character.isDigit || ('a' ≤ character && character ≤ 'f')

def validKey (key : Text) : Bool :=
  byteLength key = 64 && key.all hexLower

def validDigest (digest : Text) : Bool :=
  match digest.dropPrefix? digestLabel with
  | some rest => validKey rest
  | none => false

def emptyFields (fields : List (String × Text)) : List Problem :=
  (fields.filter fun field => field.2 = []).map fun field => .empty field.1

structure Entry where
  jobID : Text
  analyzer : Text
  attempt : Text
  taskID : Text
  cacheKey : Text
  result : Bytes
  responseModel : Text
  sourceCatalogID : Text
  targetCatalogID : Text
  deriving DecidableEq

def Entry.ref (entry : Entry) : AttemptRef := ⟨entry.jobID, entry.analyzer, entry.attempt⟩

/-- `jsonText` is `utf8.Valid` and `json.Valid` of the standard library. -/
def Entry.problems (jsonText : Bytes → Bool) (entry : Entry) : List Problem :=
  emptyFields [("job_id", entry.jobID), ("analyzer", entry.analyzer), ("task_id", entry.taskID),
    ("response_model", entry.responseModel), ("source_catalog_id", entry.sourceCatalogID),
    ("target_catalog_id", entry.targetCatalogID)] ++
  attemptProblems entry.attempt ++
  (if validKey entry.cacheKey then [] else [.badKey entry.cacheKey]) ++
  (if entry.result = [] then [.empty "result"]
    else if jsonText entry.result then [] else [.resultNotJSON])

def maxInt32 : Int := 2147483647

def statsProblems (stats : Stats) : List Problem :=
  (if stats.tasks < 0 ∨ stats.hits < 0 ∨ stats.dispatched < 0 then [.negativeCount] else []) ++
  (if stats.tasks > maxInt32 ∨ stats.hits > maxInt32 ∨ stats.dispatched > maxInt32 then
    [.countOverflow] else []) ++
  (if stats.mode ≠ .enabled ∧ stats.hits ≠ 0 then [.hitsInMode stats.mode] else []) ++
  (if stats.hits + stats.dispatched > stats.tasks then [.hitsAndDispatchedExceedTasks] else [])

structure StageRecord where
  jobID : Text
  analyzer : Text
  attempt : Text
  hits : List HitEntry
  stats : Stats
  deriving DecidableEq

def StageRecord.ref (record : StageRecord) : AttemptRef :=
  ⟨record.jobID, record.analyzer, record.attempt⟩

def HitEntry.problems (hit : HitEntry) : List Problem :=
  emptyFields [("task_id", hit.taskID)] ++
  (if validKey hit.cacheKey then [] else [.badKey hit.cacheKey]) ++
  (if validDigest hit.resultDigest then [] else [.badDigest hit.resultDigest]) ++
  emptyFields [("producer_job_id", hit.producerJobID)]

def hitsProblems (seen : List HitEntry) : List HitEntry → List Problem
  | [] => []
  | hit :: rest =>
    (if hit ∈ seen then [.duplicateHit hit] else []) ++ hit.problems ++
      hitsProblems (hit :: seen) rest

def StageRecord.problems (record : StageRecord) : List Problem :=
  emptyFields [("job_id", record.jobID), ("analyzer", record.analyzer)] ++
  attemptProblems record.attempt ++ statsProblems record.stats ++
  (if (record.hits.length : Int) = record.stats.hits then []
    else [.hitCount record.hits.length record.stats.hits]) ++
  hitsProblems [] record.hits

def attemptRefsProblems (analyzer : Text) (refs : List AttemptRef) : List Problem :=
  refs.flatMap fun ref =>
    emptyFields [("job_id", ref.jobID)] ++
    (if ref.analyzer = analyzer then [] else [.otherAnalyzer ref]) ++
    attemptProblems ref.attempt

def checkpointProblems (tenantID : Text) (expected : Manifest) : List Problem :=
  (if expected.tenantID = tenantID then [] else [.otherTenant expected.tenantID]) ++
  emptyFields [("job_id", expected.jobID), ("analyzer", expected.analyzer)] ++
  attemptProblems expected.attempt

structure ResultRow where
  tenantID : Text
  analyzer : Text
  cacheKey : Text
  result : Bytes
  responseModel : Text
  jobID : Text
  producerAttempt : Text
  sourceCatalogID : Text
  targetCatalogID : Text
  deriving DecidableEq

structure EntryRow where
  tenantID : Text
  ref : AttemptRef
  entry : ManifestEntry
  deriving DecidableEq

/-- A row of job_cache_stats. The models column holds any JSON, so it may not
decode into a models map. -/
structure StatsRow where
  tenantID : Text
  ref : AttemptRef
  stats : Stats
  decodes : Bool
  deriving DecidableEq

structure Tables where
  results : List ResultRow
  entries : List EntryRow
  stats : List StatsRow
  deriving DecidableEq

def Tables.empty : Tables := ⟨[], [], []⟩

/-- INSERT … ON CONFLICT DO NOTHING: every column is part of the key. -/
def insertEntry (entries : List EntryRow) (row : EntryRow) : List EntryRow :=
  if row ∈ entries then entries else entries ++ [row]

section Writes

variable (sha256 : Bytes → Text)

def Entry.row (tenantID : Text) (entry : Entry) : ResultRow where
  tenantID := tenantID
  analyzer := entry.analyzer
  cacheKey := entry.cacheKey
  result := entry.result
  responseModel := entry.responseModel
  jobID := entry.jobID
  producerAttempt := entry.attempt
  sourceCatalogID := entry.sourceCatalogID
  targetCatalogID := entry.targetCatalogID

def Entry.write (entry : Entry) : ManifestEntry where
  taskID := entry.taskID
  role := .write
  cacheKey := entry.cacheKey
  resultDigest := resultDigest sha256 entry.result
  producerJobID := []

/-- The two statements of `Put`: the cached row is replaced, the write is added. -/
def Tables.put (tables : Tables) (tenantID : Text) (entry : Entry) : Tables :=
  { tables with
    results := (tables.results.filter fun row =>
      ¬(row.tenantID = tenantID ∧ row.analyzer = entry.analyzer ∧ row.cacheKey = entry.cacheKey)) ++
        [entry.row tenantID]
    entries := insertEntry tables.entries ⟨tenantID, entry.ref, entry.write sha256⟩ }

end Writes

def HitEntry.entry (hit : HitEntry) : ManifestEntry where
  taskID := hit.taskID
  role := .hit
  cacheKey := hit.cacheKey
  resultDigest := hit.resultDigest
  producerJobID := hit.producerJobID

/-- The statements of `RecordStage`: its hits and one statistics row. -/
def Tables.recordStage (tables : Tables) (tenantID : Text) (record : StageRecord) : Tables :=
  { tables with
    entries := (record.hits.map fun hit => (⟨tenantID, record.ref, hit.entry⟩ : EntryRow)).foldl
      insertEntry tables.entries
    stats := tables.stats ++ [⟨tenantID, record.ref, canonicalStat record.stats, true⟩] }

def ResultRow.hit (row : ResultRow) : Hit where
  cacheKey := row.cacheKey
  result := row.result
  responseModel := row.responseModel
  producerJobID := row.jobID
  producerAttempt := row.producerAttempt

namespace Tables

variable (tables : Tables) (tenantID : Text)

/-- The cached rows of an analyzer under some keys; a later row of one key wins. -/
def readHits (analyzer : Text) (keys : List Text) : List (Text × Hit) :=
  ((tables.results.filter fun row =>
    row.tenantID = tenantID ∧ row.analyzer = analyzer ∧ row.cacheKey ∈ keys).map fun row =>
      (row.cacheKey, row.hit)).reverse

def producers (analyzer : Text) (keys : List Text) : List (Text × Text) :=
  (tables.readHits tenantID analyzer keys).map fun entry => (entry.1, entry.2.producerJobID)

/-- One attempt's manifest; a models column that does not decode fails the read. -/
def readManifest (ref : AttemptRef) : Except CacheError Manifest :=
  let rows := tables.stats.filter fun row => row.tenantID = tenantID ∧ row.ref = ref
  if rows.all StatsRow.decodes then
    .ok { tenantID := tenantID
          jobID := ref.jobID
          analyzer := ref.analyzer
          attempt := ref.attempt
          entries := canonicalEntries ((tables.entries.filter fun row =>
            row.tenantID = tenantID ∧ row.ref = ref).map EntryRow.entry)
          stats := rows.map StatsRow.stats }
  else .error .other

def readManifests : List AttemptRef → Except CacheError (List (AttemptRef × Manifest))
  | [] => .ok []
  | ref :: rest =>
    match tables.readManifest tenantID ref with
    | .error failure => .error failure
    | .ok manifest =>
      match readManifests rest with
      | .error failure => .error failure
      | .ok manifests => .ok ((ref, manifest) :: manifests)

/-- Rows and manifests of one REPEATABLE READ transaction. -/
def lookupVerifiable (analyzer : Text) (keys : List Text) (attempts : List AttemptRef) :
    Except CacheError Snapshot :=
  if attemptRefsProblems analyzer attempts ≠ [] then .error .invalidEntry
  else if keys = [] then .ok ⟨analyzer, [], []⟩
  else
    let hits := tables.readHits tenantID analyzer keys
    let stored := attempts.dedup.filter fun ref =>
      hits.any fun entry => entry.2.producerJobID = ref.jobID
    match tables.readManifests tenantID stored with
    | .error failure => .error failure
    | .ok manifests => .ok ⟨analyzer, hits, manifests⟩

/-- What `Checkpoint` decides under the job lock: the digest it passes to be
signed. The digest is the executor's own, not the one of the rows. -/
def checkpoint (sha256 : Bytes → Text) (expected : Manifest) : Except CacheError Text :=
  if checkpointProblems tenantID expected ≠ [] then .error .invalidEntry
  else
    match tables.readManifest tenantID expected.ref with
    | .error failure => .error failure
    | .ok stored =>
      match matchRecord sha256 expected stored with
      | .error failure => .error failure
      | .ok () => .ok (expected.digest sha256)

variable {tables tenantID}

theorem checkpoint_eq_ok {sha256 : Bytes → Text} {expected : Manifest} {digest : Text}
    (accepted : tables.checkpoint tenantID sha256 expected = .ok digest) :
    digest = expected.digest sha256 ∧ expected.tenantID = tenantID := by
  unfold checkpoint at accepted
  split at accepted
  · cases accepted
  rename_i wellFormed
  split at accepted
  · cases accepted
  split at accepted
  · cases accepted
  cases accepted
  refine ⟨rfl, ?_⟩
  rw [not_not] at wellFormed
  by_contra other
  simp only [checkpointProblems, if_neg other, cons_append] at wellFormed
  cases wellFormed

theorem readHits_row {analyzer key : Text} {keys : List Text} {hit : Hit}
    (found : (tables.readHits tenantID analyzer keys).lookup key = some hit) :
    ∃ row ∈ tables.results, row.tenantID = tenantID ∧ row.analyzer = analyzer ∧
      row.cacheKey = key ∧ row.hit = hit := by
  have mem := mem_of_lookup_eq_some found
  simp only [readHits, mem_reverse, mem_map, mem_filter, decide_eq_true_eq,
    Prod.mk.injEq] at mem
  obtain ⟨row, ⟨stored, tenant, name, _asked⟩, keyed, same⟩ := mem
  exact ⟨row, stored, tenant, name, keyed, same⟩

theorem readManifests_ref {refs : List AttemptRef} {manifests : List (AttemptRef × Manifest)}
    (read : tables.readManifests tenantID refs = .ok manifests) {entry : AttemptRef × Manifest}
    (mem : entry ∈ manifests) : entry.2.ref = entry.1 ∧ entry.2.tenantID = tenantID := by
  induction refs generalizing manifests with
  | nil =>
    cases read
    cases mem
  | cons ref rest ih =>
    simp only [readManifests] at read
    split at read
    · cases read
    rename_i manifest first
    split at read
    · cases read
    rename_i later readLater
    cases read
    rcases mem_cons.mp mem with rfl | tail
    · simp only [readManifest] at first
      split at first
      · cases first
        exact ⟨rfl, rfl⟩
      · cases first
    · exact ih readLater tail

theorem lookupVerifiable_eq_ok {analyzer : Text} {keys : List Text}
    {attempts : List AttemptRef} {snapshot : Snapshot}
    (read : tables.lookupVerifiable tenantID analyzer keys attempts = .ok snapshot) :
    snapshot.analyzer = analyzer ∧
      (∀ key hit, snapshot.hits.lookup key = some hit →
        ∃ row ∈ tables.results, row.tenantID = tenantID ∧ row.analyzer = analyzer ∧
          row.cacheKey = key ∧ row.hit = hit) ∧
      ∀ entry ∈ snapshot.manifests, entry.2.ref = entry.1 ∧ entry.2.tenantID = tenantID := by
  unfold lookupVerifiable at read
  split at read
  · cases read
  split at read
  · cases read
    refine ⟨rfl, ?_, ?_⟩
    · intro key hit found
      cases found
    · intro entry mem
      cases mem
  · simp only at read
    split at read
    · cases read
    rename_i manifests readManifests
    cases read
    exact ⟨rfl, fun key hit found => readHits_row found,
      fun entry mem => readManifests_ref readManifests mem⟩

end Tables

end CrossCodex.ResultCache
