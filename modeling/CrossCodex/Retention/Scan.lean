/-
The retention engine (pkg/retention). A Scan advances by single actions (a query, a listing,
a Put, a Get, one DELETE), and others may act in between. Scans that change data hold one
advisory lock. Payloads stand for their SHA-256. Reports and audit records are left out.
-/

import CrossCodex.Analyzer.TaskId
import CrossCodex.Library.Run
import CrossCodex.Library.Upsert

namespace CrossCodex.Retention

open Analyzer (Text)
open Library (Table)

inductive DataClass where
  | jobResults
  | catalogs
  | embeddings
  | attestation
deriving DecidableEq, Repr

def DataClass.name : DataClass → Text
  | .jobResults => "job_results".toList
  | .catalogs => "catalogs".toList
  | .embeddings => "embeddings".toList
  | .attestation => "attestation".toList

inductive Store where
  | postgres
  | object
deriving DecidableEq, Repr

structure Candidate where
  store : Store
  dataClass : DataClass
  id : Text
  tenantID : Text
  createdAt : Nat
  objectKey : Text
deriving DecidableEq

/-- The retention of a class for a tenant; `none` keeps it for ever. -/
structure Policy where
  retention : DataClass → Text → Option Nat

def Policy.expired (policy : Policy) (dataClass : DataClass) (tenantID : Text)
    (createdAt now : Nat) : Bool :=
  match policy.retention dataClass tenantID with
  | none => false
  | some duration => createdAt + duration < now

/-- What a hold applies to. An empty field matches everything. -/
structure HoldScope where
  createdBefore : Option Nat
  tenantID : Text
  jobID : Text
deriving DecidableEq

structure Hold where
  name : Text
  scope : HoldScope
  createdAt : Nat
  expiresAt : Option Nat
  releasedAt : Option Nat
deriving DecidableEq

def Hold.activeAt (hold : Hold) (now : Nat) : Bool :=
  hold.releasedAt = none && hold.expiresAt.all fun expires => now < expires

/-- The fields of a scope other than the job. -/
def HoldScope.matches (scope : HoldScope) (candidate : Candidate) : Bool :=
  (scope.createdBefore.all fun limit => candidate.createdAt < limit) &&
    (scope.tenantID = [] || candidate.tenantID = scope.tenantID)

def Hold.covers (hold : Hold) (candidate : Candidate) : Bool :=
  hold.scope.matches candidate &&
    (hold.scope.jobID = [] || candidate.id = hold.scope.jobID)

def held (holds : List Hold) (candidate : Candidate) : Bool :=
  holds.any fun hold => hold.covers candidate

/-- The holds a tenant sees: its own, and those of no tenant. -/
def Hold.visibleTo (hold : Hold) (tenantID : Text) : Bool :=
  hold.scope.tenantID = tenantID || hold.scope.tenantID = []

inductive TableName where
  | jobs
  | jobStages
  | voteSummaries
  | analysisResults
  | relationshipCandidates
  | requiresCandidates
  | llmResultCache
  | jobCacheEntries
  | jobCacheStats
  | catalogs
  | classifications
  | embeddings
  | controls
deriving DecidableEq, Repr

inductive Column where
  | jobID
  | catalogID
  | sourceCatalogID
  | targetCatalogID
deriving DecidableEq, Repr

/-- A row of any of the tables. A column its table lacks is empty; `status` and
`createdBy` are those of a job. -/
structure Row where
  table : TableName
  tenantID : Text
  jobID : Text
  catalogID : Text
  sourceCatalogID : Text
  targetCatalogID : Text
  status : Text
  createdBy : Text
  createdAt : Nat
  content : Text
deriving DecidableEq

def Row.column (row : Row) : Column → Text
  | .jobID => row.jobID
  | .catalogID => row.catalogID
  | .sourceCatalogID => row.sourceCatalogID
  | .targetCatalogID => row.targetCatalogID

/-- The rows `WHERE column = id` selects under the row policy of the tenant. -/
def Row.selected (row : Row) (tenantID id : Text) (source : TableName × Column) : Bool :=
  row.table = source.1 && row.tenantID = tenantID && row.column source.2 = id

structure DbAggregate where
  parentTable : TableName
  parentPK : Column
  children : List (TableName × Column)

def dbAggregates : DataClass → Option DbAggregate
  | .jobResults => some {
      parentTable := .jobs
      parentPK := .jobID
      children := [(.jobStages, .jobID), (.voteSummaries, .jobID), (.analysisResults, .jobID),
        (.relationshipCandidates, .jobID), (.requiresCandidates, .jobID), (.llmResultCache, .jobID),
        (.jobCacheEntries, .jobID), (.jobCacheStats, .jobID)] }
  | .catalogs => some {
      parentTable := .catalogs
      parentPK := .catalogID
      children := [(.classifications, .catalogID), (.embeddings, .catalogID),
        (.controls, .catalogID), (.llmResultCache, .sourceCatalogID),
        (.llmResultCache, .targetCatalogID)] }
  | .embeddings => none
  | .attestation => none

/-- The DELETE statements of a purge, in their order. -/
def DbAggregate.statements (aggregate : DbAggregate) : List (TableName × Column) :=
  aggregate.children ++ [(aggregate.parentTable, aggregate.parentPK)]

/-- The sets of rows an archived document is built from; the parent comes first. -/
def dbAggregateQueries : DataClass → Option (List (TableName × Column))
  | .jobResults => some
      [(.jobs, .jobID), (.jobStages, .jobID), (.voteSummaries, .jobID), (.analysisResults, .jobID),
        (.relationshipCandidates, .jobID), (.requiresCandidates, .jobID), (.jobCacheEntries, .jobID),
        (.jobCacheStats, .jobID)]
  | .catalogs => some [(.catalogs, .catalogID), (.classifications, .catalogID),
      (.controls, .catalogID)]
  | .embeddings => none
  | .attestation => none

def dbAggregateParentKeys : DataClass → Option TableName
  | .jobResults => some .jobs
  | .catalogs => some .catalogs
  | .embeddings => none
  | .attestation => none

/-- What the archive holds under a key: the bytes of an object, or a document with the
rows of each table. -/
inductive Payload where
  | object (bytes : Text)
  | aggregate (fields : List (TableName × List Row))
deriving DecidableEq

def Payload.rows : Payload → List Row
  | .object _ => []
  | .aggregate fields => fields.flatMap Prod.snd

structure Object where
  bytes : Text
  lastModified : Nat
deriving DecidableEq

/-! ### A scan and the world around it -/

structure Scan where
  tenantID : Text
  userID : Text
  policy : Policy
  now : Nat
  dryRun : Bool

inductive Collector where
  | jobs
  | catalogs
  | objects (dataClass : DataClass)
deriving DecidableEq, Repr

inductive Stage where
  | reading
  | storing (payload : Payload)
  | verifying (payload : Payload)
  | deleting (payload : Payload) (statements : List (TableName × Column)) (removed : List Row)
  | deletingObject (payload : Payload)

inductive Phase where
  | idle
  | loading (scan : Scan)
  | collecting (scan : Scan) (holds : List Hold) (collectors : List Collector)
      (found : List Candidate)
  | choosing (scan : Scan) (holds : List Hold) (candidates : List Candidate)
  | handling (scan : Scan) (holds : List Hold) (candidate : Candidate) (rest : List Candidate)
      (stage : Stage)

/-- Objects and archived payloads are kept by tenant and key. `readBack` lists what the
archive returned intact. -/
structure World where
  clock : Nat
  holds : List Hold
  rows : List Row
  objects : Table (Text × Text) Object
  archive : Table (Text × Text) Payload
  readBack : List Payload
  phase : Phase

inductive Event where
  | passes (time : Nat)
  | createsHold (hold : Hold)
  | releasesHold (tenantID name : Text)
  | rewrites (removed added : List Row)
  | puts (tenantID key : Text) (object : Object)
  | removes (tenantID key : Text)
  | begins (tenantID userID : Text) (policy : Policy) (dryRun : Bool)
  | advances
  | stores (kept : Payload)
  | fails
  | aborts

namespace World

variable (world : World)

/-- HoldStore.Active, in a transaction of the tenant. -/
def active (tenantID : Text) (now : Nat) : List Hold :=
  world.holds.filter fun hold => hold.visibleTo tenantID && hold.activeAt now

def collectJobs (scan : Scan) : List Candidate :=
  (world.rows.filter fun row =>
      row.table = .jobs && row.tenantID = scan.tenantID &&
        (scan.userID = [] || row.createdBy = scan.userID) && row.status = "completed".toList &&
        scan.policy.expired .jobResults row.tenantID row.createdAt scan.now).map fun row =>
    { store := .postgres, dataClass := .jobResults, id := row.jobID, tenantID := row.tenantID,
      createdAt := row.createdAt, objectKey := [] }

def collectCatalogs (scan : Scan) : List Candidate :=
  (world.rows.filter fun row =>
      row.table = .catalogs && row.tenantID = scan.tenantID &&
        scan.policy.expired .catalogs row.tenantID row.createdAt scan.now).map fun row =>
    { store := .postgres, dataClass := .catalogs, id := row.catalogID, tenantID := row.tenantID,
      createdAt := row.createdAt, objectKey := [] }

def classPrefix (dataClass : DataClass) : Text := dataClass.name ++ "/".toList

def collectObjects (scan : Scan) (dataClass : DataClass) : List Candidate :=
  (world.objects.entries.filter fun entry =>
      entry.1.1 = scan.tenantID && (classPrefix dataClass).isPrefixOf entry.1.2 &&
        scan.policy.expired dataClass scan.tenantID entry.2.lastModified scan.now).map fun entry =>
    { store := .object, dataClass, id := entry.1.2, tenantID := scan.tenantID,
      createdAt := entry.2.lastModified, objectKey := entry.1.2 }

def collect (scan : Scan) : Collector → List Candidate
  | .jobs => world.collectJobs scan
  | .catalogs => world.collectCatalogs scan
  | .objects dataClass => world.collectObjects scan dataClass

def collectors : List Collector := [.jobs, .catalogs, .objects .attestation]

/-- The document of a row aggregate; `none` when the class has none or its parent row is
missing. -/
def serialize (candidate : Candidate) : Option Payload :=
  match dbAggregateQueries candidate.dataClass, dbAggregateParentKeys candidate.dataClass with
  | some sources, some parent =>
    let fields := sources.map fun source =>
      (source.1, world.rows.filter fun row => row.selected candidate.tenantID candidate.id source)
    if fields.any fun field => field.1 = parent && field.2 ≠ [] then some (.aggregate fields)
    else none
  | _, _ => none

def read (candidate : Candidate) : Option Payload :=
  match candidate.store with
  | .object =>
    (world.objects.lookup (candidate.tenantID, candidate.objectKey)).map
      fun object => .object object.bytes
  | .postgres => world.serialize candidate

def archiveKey (candidate : Candidate) : Text :=
  match candidate.store with
  | .object => candidate.objectKey
  | .postgres => "db/".toList ++ candidate.dataClass.name ++ "/".toList ++ candidate.id ++
      ".json".toList

/-- How the purge of an archived candidate starts; `none` for a class it refuses. -/
def purgeStage (candidate : Candidate) (payload : Payload) : Option Stage :=
  match candidate.store with
  | .object => some (.deletingObject payload)
  | .postgres =>
    (dbAggregates candidate.dataClass).map fun aggregate =>
      .deleting payload aggregate.statements []

/-- One action of the stage a candidate is in. -/
def handle (scan : Scan) (holds : List Hold) (candidate : Candidate)
    (rest : List Candidate) : Stage → World
  | .reading =>
    match world.read candidate with
    | none => { world with phase := .choosing scan holds rest }
    | some payload =>
      { world with phase := .handling scan holds candidate rest (.storing payload) }
  | .storing payload =>
    { world with
      archive := world.archive.insert (candidate.tenantID, archiveKey candidate) payload
      phase := .handling scan holds candidate rest (.verifying payload) }
  | .verifying payload =>
    if world.archive.lookup (candidate.tenantID, archiveKey candidate) = some payload then
      match purgeStage candidate payload with
      | none =>
        { world with
          readBack := payload :: world.readBack, phase := .choosing scan holds rest }
      | some stage =>
        { world with
          readBack := payload :: world.readBack
          phase := .handling scan holds candidate rest stage }
    else { world with phase := .choosing scan holds rest }
  | .deleting _ [] _ => { world with phase := .choosing scan holds rest }
  | .deleting payload (source :: more) removed =>
    let gone := world.rows.filter fun row => row.selected candidate.tenantID candidate.id source
    { world with
      rows := world.rows.filter fun row =>
        !row.selected candidate.tenantID candidate.id source
      phase := .handling scan holds candidate rest (.deleting payload more (removed ++ gone)) }
  | .deletingObject _ =>
    { world with
      objects := world.objects.erase (candidate.tenantID, candidate.objectKey)
      phase := .choosing scan holds rest }

def advance : Option World :=
  match world.phase with
  | .idle => none
  | .loading scan =>
    some { world with
      phase := .collecting scan (world.active scan.tenantID scan.now) collectors [] }
  | .collecting scan holds [] found => some { world with phase := .choosing scan holds found }
  | .collecting scan holds (collector :: more) found =>
    some { world with
      phase := .collecting scan holds more (found ++ world.collect scan collector) }
  | .choosing _ _ [] => some { world with phase := .idle }
  | .choosing scan holds (candidate :: rest) =>
    if held holds candidate || scan.dryRun then
      some { world with phase := .choosing scan holds rest }
    else some { world with phase := .handling scan holds candidate rest .reading }
  | .handling scan holds candidate rest stage =>
    some (world.handle scan holds candidate rest stage)

/-- A rolled back purge leaves the rows it had removed. -/
def restored : List Row :=
  match world.phase with
  | .handling _ _ _ _ (.deleting _ _ removed) => world.rows ++ removed
  | _ => world.rows

/-- The next action of the scan, when it fails: an error of a candidate is reported and
the next one follows, an error before that ends the scan. -/
def fail : Option World :=
  match world.phase with
  | .loading _ => some { world with phase := .idle }
  | .collecting _ _ (_ :: _) _ => some { world with phase := .idle }
  | .handling scan holds _ rest _ =>
    some { world with rows := world.restored, phase := .choosing scan holds rest }
  | _ => none

def store (kept : Payload) : Option World :=
  match world.phase with
  | .handling scan holds candidate rest (.storing payload) =>
    some { world with
      archive := world.archive.insert (candidate.tenantID, archiveKey candidate) kept
      phase := .handling scan holds candidate rest (.verifying payload) }
  | _ => none

/-- The hold is released if it is the tenant's own active hold of that name. -/
def release (tenantID name : Text) : List Hold :=
  world.holds.map fun hold =>
    if hold.name = name ∧ hold.scope.tenantID = tenantID ∧ hold.releasedAt = none then
      { hold with releasedAt := some world.clock }
    else hold

def step : Event → Option World
  | .passes time => some { world with clock := world.clock + time }
  | .createsHold hold =>
    if hold.createdAt = world.clock ∧ hold.releasedAt = none ∧
        ∀ other ∈ world.holds, other.releasedAt = none → other.name ≠ hold.name then
      some { world with holds := world.holds ++ [hold] }
    else none
  | .releasesHold tenantID name => some { world with holds := world.release tenantID name }
  | .rewrites removed added =>
    some { world with rows := (world.rows.filter fun row => row ∉ removed) ++ added }
  | .puts tenantID key object =>
    some { world with objects := world.objects.insert (tenantID, key) object }
  | .removes tenantID key => some { world with objects := world.objects.erase (tenantID, key) }
  | .begins tenantID userID policy dryRun =>
    match world.phase with
    | .idle =>
      some { world with
        phase := .loading { tenantID, userID, policy, now := world.clock, dryRun } }
    | _ => none
  | .advances => world.advance
  | .stores kept => world.store kept
  | .fails => world.fail
  | .aborts => some { world with rows := world.restored, phase := .idle }

end World

/-- A row or an object: what a purge can take. -/
inductive Piece where
  | row (row : Row)
  | object (tenantID key : Text) (object : Object)
deriving DecidableEq

/-- The job a row belongs to, if its table is one of a job's. -/
def Row.job (row : Row) : Option Text :=
  match row.table with
  | .jobs | .jobStages | .voteSummaries | .analysisResults | .relationshipCandidates
  | .requiresCandidates | .llmResultCache | .jobCacheEntries | .jobCacheStats => some row.jobID
  | .catalogs | .classifications | .embeddings | .controls => none

theorem Row.jobID_of_job {row : Row} {jobID : Text} (belongs : row.job = some jobID) :
    row.jobID = jobID := by
  unfold Row.job at belongs
  split at belongs <;> first | exact Option.some.inj belongs | cases belongs

/-- What the keys of a job's attestation objects begin with (internal/pipeline/executor.go:
attestationKey). -/
def attestationPrefix (tenantID jobID : Text) : Text :=
  "attestations/".toList ++ tenantID ++ "/".toList ++ jobID ++ "/".toList

def Piece.OfJob (jobID : Text) : Piece → Prop
  | .row stored => stored.job = some jobID
  | .object tenantID key _ => attestationPrefix tenantID jobID <+: key

/-- Cached results are purged with their catalogs as well as with their job. -/
def Piece.cached : Piece → Bool
  | .row stored => stored.table = .llmResultCache
  | .object _ _ _ => false

namespace World

def Has (world : World) : Piece → Prop
  | .row row => row ∈ world.rows
  | .object tenantID key object => world.objects.lookup (tenantID, key) = some object

instance (world : World) : ∀ piece, Decidable (world.Has piece)
  | .row row => inferInstanceAs (Decidable (row ∈ world.rows))
  | .object tenantID key object =>
    inferInstanceAs (Decidable (world.objects.lookup (tenantID, key) = some object))

/-- The scan, working on the candidate, takes the piece. -/
structure Purges (world next : World) (scan : Scan) (candidate : Candidate) (piece : Piece) :
    Prop where
  works : world.step .advances = some next
  handles : ∃ holds rest stage, world.phase = .handling scan holds candidate rest stage
  had : world.Has piece
  gone : ¬next.Has piece

theorem Purges.cases {world next : World} {scan : Scan} {candidate : Candidate} {piece : Piece}
    (purges : world.Purges next scan candidate piece) :
    (∃ row, piece = .row row ∧ ∃ holds rest payload source more removed,
      world.phase = .handling scan holds candidate rest (.deleting payload (source :: more) removed) ∧
        row.selected candidate.tenantID candidate.id source = true) ∨
      (∃ object, piece = .object candidate.tenantID candidate.objectKey object ∧
        ∃ holds rest payload,
          world.phase = .handling scan holds candidate rest (.deletingObject payload)) := by
  obtain ⟨works, ⟨holds, rest, stage, phase⟩, had, gone⟩ := purges
  have next_eq : world.handle scan holds candidate rest stage = next := by
    have advanced : world.advance = some next := works
    rw [advance, phase] at advanced
    exact Option.some.inj advanced
  subst next_eq
  cases stage with
  | reading =>
    simp only [handle] at gone
    split at gone <;> exact absurd had gone
  | storing payload => exact absurd had gone
  | verifying payload =>
    simp only [handle] at gone
    split at gone
    · split at gone <;> exact absurd had gone
    · exact absurd had gone
  | deleting payload statements removed =>
    cases statements with
    | nil => exact absurd had gone
    | cons source more =>
      cases piece with
      | object tenantID key object => exact absurd had gone
      | row row =>
        left
        refine ⟨row, rfl, holds, rest, payload, source, more, removed, phase, ?_⟩
        by_contra unselected
        apply gone
        apply List.mem_filter.mpr
        rw [Bool.not_eq_true] at unselected
        exact ⟨had, by rw [unselected]; rfl⟩
  | deletingObject payload =>
    right
    cases piece with
    | row row => exact absurd had gone
    | object tenantID key object =>
      by_cases same : (tenantID, key) = (candidate.tenantID, candidate.objectKey)
      · cases same
        exact ⟨object, rfl, holds, rest, payload, phase⟩
      · exfalso
        apply gone
        change (world.objects.erase _).lookup _ = _
        rw [AList.lookup_erase_ne same]
        exact had

end World

/-! ### How a scan proceeds -/

/-- The statements left are statements of the candidate's class, and only an object of the
store is deleted as one. -/
def Stage.Fits (candidate : Candidate) : Stage → Prop
  | .deleting _ statements _ =>
    candidate.store = .postgres ∧
      ∃ aggregate, dbAggregates candidate.dataClass = some aggregate ∧
        ∀ source ∈ statements, source ∈ aggregate.statements
  | .deletingObject _ => candidate.store = .object
  | _ => True

inductive Phase.Next (world : World) : Phase → Phase → Prop
  | stays (phase : Phase) : Next world phase phase
  | stops (phase : Phase) : Next world phase .idle
  | begins (scan : Scan) (now : scan.now = world.clock) : Next world .idle (.loading scan)
  | loads (scan : Scan) :
      Next world (.loading scan)
        (.collecting scan (world.active scan.tenantID scan.now) World.collectors [])
  | collects (scan : Scan) (holds : List Hold) (collector : Collector) (more : List Collector)
      (found : List Candidate) :
      Next world (.collecting scan holds (collector :: more) found)
        (.collecting scan holds more (found ++ world.collect scan collector))
  | collected (scan : Scan) (holds : List Hold) (found : List Candidate) :
      Next world (.collecting scan holds [] found) (.choosing scan holds found)
  | passesOver (scan : Scan) (holds : List Hold) (candidate : Candidate) (rest : List Candidate) :
      Next world (.choosing scan holds (candidate :: rest)) (.choosing scan holds rest)
  | takes (scan : Scan) (holds : List Hold) (candidate : Candidate) (rest : List Candidate)
      (spared : held holds candidate = false) :
      Next world (.choosing scan holds (candidate :: rest))
        (.handling scan holds candidate rest .reading)
  | works (scan : Scan) (holds : List Hold) (candidate : Candidate) (rest : List Candidate)
      (stage after : Stage) (fits : stage.Fits candidate → after.Fits candidate) :
      Next world (.handling scan holds candidate rest stage)
        (.handling scan holds candidate rest after)
  | leaves (scan : Scan) (holds : List Hold) (candidate : Candidate) (rest : List Candidate)
      (stage : Stage) :
      Next world (.handling scan holds candidate rest stage) (.choosing scan holds rest)

namespace World

theorem purgeStage_fits {candidate : Candidate} {payload : Payload} {stage : Stage}
    (starts : purgeStage candidate payload = some stage) : stage.Fits candidate := by
  unfold purgeStage at starts
  split at starts
  · rename_i stored
    cases starts
    exact stored
  · rename_i stored
    obtain ⟨aggregate, found, rfl⟩ := Option.map_eq_some_iff.mp starts
    exact ⟨stored, aggregate, found, fun _ mem => mem⟩

theorem handle_phase (world : World) (scan : Scan) (holds : List Hold) (candidate : Candidate)
    (rest : List Candidate) (stage : Stage) :
    Phase.Next world (.handling scan holds candidate rest stage)
      (world.handle scan holds candidate rest stage).phase := by
  cases stage with
  | reading =>
    simp only [handle]
    split
    · exact .leaves scan holds candidate rest _
    · exact .works scan holds candidate rest _ _ fun _ => trivial
  | storing payload => exact .works scan holds candidate rest _ _ fun _ => trivial
  | verifying payload =>
    simp only [handle]
    split
    · split
      · exact .leaves scan holds candidate rest _
      · rename_i stage starts
        exact .works scan holds candidate rest _ _ fun _ => purgeStage_fits starts
    · exact .leaves scan holds candidate rest _
  | deleting payload statements removed =>
    cases statements with
    | nil => exact .leaves scan holds candidate rest _
    | cons source more =>
      apply Phase.Next.works scan holds candidate rest
      intro fits
      obtain ⟨stored, aggregate, found, all⟩ := fits
      exact ⟨stored, aggregate, found, fun other later => all other (List.mem_cons_of_mem _ later)⟩
  | deletingObject payload => exact .leaves scan holds candidate rest _

theorem advance_phase {world next : World} (works : world.advance = some next) :
    Phase.Next world world.phase next.phase := by
  unfold advance at works
  split at works
  · cases works
  · rename_i scan phase
    cases works
    rw [phase]
    exact .loads scan
  · rename_i scan holds found phase
    cases works
    rw [phase]
    exact .collected scan holds found
  · rename_i scan holds collector more found phase
    cases works
    rw [phase]
    exact .collects scan holds collector more found
  · cases works
    exact .stops _
  · rename_i scan holds candidate rest phase
    rw [phase]
    split at works
    · cases works
      exact .passesOver scan holds candidate rest
    · rename_i taken
      cases works
      rw [Bool.or_eq_true, not_or, Bool.not_eq_true] at taken
      exact .takes scan holds candidate rest taken.1
  · rename_i scan holds candidate rest stage phase
    cases works
    rw [phase]
    exact world.handle_phase scan holds candidate rest stage

theorem step_phase {world next : World} {event : Event} (stepped : world.step event = some next) :
    Phase.Next world world.phase next.phase := by
  cases event with
  | passes time => cases stepped; exact .stays _
  | createsHold hold =>
    simp only [step] at stepped
    split at stepped
    · cases stepped; exact .stays _
    · cases stepped
  | releasesHold tenantID name => cases stepped; exact .stays _
  | rewrites removed added => cases stepped; exact .stays _
  | puts tenantID key object => cases stepped; exact .stays _
  | removes tenantID key => cases stepped; exact .stays _
  | begins tenantID userID policy dryRun =>
    simp only [step] at stepped
    split at stepped
    · rename_i phase
      cases stepped
      rw [phase]
      exact .begins _ rfl
    · cases stepped
  | advances => exact advance_phase stepped
  | stores kept =>
    simp only [step, store] at stepped
    split at stepped
    · rename_i scan holds candidate rest payload phase
      cases stepped
      rw [phase]
      exact .works scan holds candidate rest _ _ fun _ => trivial
    · cases stepped
  | fails =>
    simp only [step, fail] at stepped
    split at stepped
    · cases stepped; exact .stops _
    · cases stepped; exact .stops _
    · rename_i scan holds candidate rest stage phase
      cases stepped
      rw [phase]
      exact .leaves scan holds candidate rest stage
    · cases stepped
  | aborts => cases stepped; exact .stops _

end World

end CrossCodex.Retention
