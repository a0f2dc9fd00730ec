/-
Backup points (pkg/backup). SHA-256, JSON, float64 division and JetStream belong to the
host. Keys are kept in parts; the stores do not change during a capture, and storage works.
-/

import CrossCodex.ResultCache.Store
import CrossCodex.Tenant.Context

namespace CrossCodex.Backup

open Analyzer (Text)
open Library (Table)
open ResultCache (byteLength hexLower)
open Tenant (validTenantID)

/-- A throughput is in units of 2^-1074, of which every finite float64 is a multiple; one
that is not finite is `none`. A time that is not set is zero. -/
structure CaptureStats where
  start : Nat
  finish : Nat
  bytes : Int
  throughput : Option Int
deriving DecidableEq

structure PostgresCapture where
  backupName : Text
  startLSN : Nat
  finishLSN : Nat
  timeline : Nat
  stats : CaptureStats
deriving DecidableEq

structure ObjectEntry where
  key : Text
  sha256 : Text
  size : Int
deriving DecidableEq

structure StreamFile where
  name : Text
  sha256 : Text
  size : Int
deriving DecidableEq

structure StreamState where
  firstSeq : Nat
  lastSeq : Nat
  msgs : Nat
deriving DecidableEq

structure StreamCapture where
  stream : Text
  files : List StreamFile
  state : StreamState
deriving DecidableEq

structure Manifest where
  schemaVersion : Int
  id : Text
  startedAt : Nat
  finishedAt : Nat
  postgres : PostgresCapture
  tenants : Table Text (List ObjectEntry)
  objectStats : CaptureStats
  streams : List StreamCapture
  natsStats : CaptureStats

def schemaVersion : Int := 1

def maxManifestBytes : Nat := 256 * 1024 * 1024

/-- YYYYMMDDTHHMMSSZ-xxxxxxxx. -/
def validPointID (id : Text) : Bool :=
  id.length = 25 && id.zipIdx.all fun (character, position) =>
    if position = 8 then character = 'T'
    else if position = 15 then character = 'Z'
    else if position = 16 then character = '-'
    else if position < 16 then character.isDigit
    else hexLower character

def hexDigest (sum : Text) : Bool := sum.length = 64 && sum.all hexLower

/-- base_ and 24 hex digits. -/
def walgBackupName (name : Text) : Bool :=
  match name.dropPrefix? "base_".toList with
  | none => false
  | some rest => rest.length = 24 &&
      rest.all fun character => character.isDigit || ('A' ≤ character && character ≤ 'F')

/-- A key ValidateKey accepts and path.Clean leaves as it is. -/
def canonicalKey (key : Text) : Bool :=
  key ≠ [] && key.head? ≠ some '/' && '\x00' ∉ key && '\x5c' ∉ key &&
    !("..".toList.isPrefixOf key) &&
    (key.splitOn '/').all fun segment => segment ∉ [[], ".".toList, "..".toList]

def auditStreamNames : List Text :=
  ["AUDIT_LLM".toList, "AUDIT_DECISIONS".toList, "AUDIT_EVENTS".toList]

def snapshotMetaFile : Text := "backup.json".toList
def snapshotDataFile : Text := "stream.arc.s2".toList
def snapshotLegacyDataFile : Text := "stream.tar.s2".toList

def snapshotFileNames : List Text := [snapshotMetaFile, snapshotDataFile, snapshotLegacyDataFile]

def CaptureStats.valid (stats : CaptureStats) : Bool :=
  stats.start ≠ 0 && stats.start ≤ stats.finish && 0 ≤ stats.bytes &&
    stats.throughput.any fun rate => 0 ≤ rate

def PostgresCapture.valid (capture : PostgresCapture) : Bool :=
  walgBackupName capture.backupName && capture.timeline ≠ 0 &&
    capture.startLSN ≤ capture.finishLSN && capture.stats.valid

def validEntries (tenantID : Text) (entries : List ObjectEntry) : Bool :=
  validTenantID tenantID && (entries.map ObjectEntry.key).Nodup &&
    entries.all fun entry =>
      canonicalKey entry.key && hexDigest entry.sha256 && 0 ≤ entry.size

def StreamState.valid (state : StreamState) : Bool :=
  state.msgs = 0 || (state.firstSeq ≠ 0 && state.firstSeq ≤ state.lastSeq &&
    state.msgs ≤ state.lastSeq - state.firstSeq + 1)

def StreamCapture.valid (capture : StreamCapture) : Bool :=
  capture.stream ∈ auditStreamNames && (capture.files.map StreamFile.name).Nodup &&
    (capture.files.all fun file =>
      file.name ∈ snapshotFileNames && hexDigest file.sha256 && 0 ≤ file.size) &&
    snapshotMetaFile ∈ capture.files.map StreamFile.name &&
    decide (snapshotDataFile ∈ capture.files.map StreamFile.name) !=
      decide (snapshotLegacyDataFile ∈ capture.files.map StreamFile.name) &&
    capture.state.valid

def Manifest.valid (manifest : Manifest) : Bool :=
  manifest.schemaVersion = Backup.schemaVersion && validPointID manifest.id &&
    manifest.startedAt ≠ 0 && manifest.startedAt ≤ manifest.finishedAt &&
    manifest.postgres.valid &&
    (manifest.tenants.entries.all fun entry => validEntries entry.1 entry.2) &&
    manifest.objectStats.valid && (manifest.streams.map StreamCapture.stream).Nodup &&
    manifest.streams.all StreamCapture.valid && manifest.natsStats.valid

/-- `replay` is the state JetStream reports after restoring a stream from snapshot files, if
it accepts them; `rate` divides bytes by a duration. -/
structure Host where
  sha256 : Text → Text
  marshal : Manifest → Text
  unmarshal : Text → Option Manifest
  replay : Text → List (Text × Text) → Option StreamState
  rate : Int → Nat → Option Int

variable (host : Host)

def Host.encode (manifest : Manifest) : Option Text :=
  if manifest.valid then some (host.marshal manifest) else none

def Host.decode (data : Text) : Option Manifest :=
  if maxManifestBytes < byteLength data then none
  else (host.unmarshal data).filter Manifest.valid

inductive RepoKey where
  | point (id name : Text)
  | blob (sum : Text)
  | streamFile (id stream name : Text)
deriving DecidableEq

abbrev Repository := Table RepoKey Text

def manifestName : Text := "manifest.json".toList
def inProgressName : Text := "IN_PROGRESS".toList

inductive OpenFailure where
  | notFound
  | refused
deriving DecidableEq

namespace Repository

variable (repo : Repository)

def openKey (key : RepoKey) : Except OpenFailure Text :=
  match repo.lookup key with
  | none => .error .notFound
  | some content => .ok content

def openBlob (sum : Text) : Except OpenFailure Text :=
  if hexDigest sum then repo.openKey (.blob sum) else .error .refused

def validStreamFileRef (id stream name : Text) : Bool :=
  validPointID id && stream ∈ auditStreamNames && name ∈ snapshotFileNames

def openStreamFile (id stream name : Text) : Except OpenFailure Text :=
  if validStreamFileRef id stream name then repo.openKey (.streamFile id stream name)
  else .error .refused

def pointsWith (wanted : Text) : List Text :=
  repo.keys.filterMap fun key =>
    match key with
    | .point id name => if name = wanted then some id else none
    | _ => none

/-- The complete points; `none` if an entry under points/ has no valid ID. -/
def complete : Option (List Text) :=
  if (repo.pointsWith manifestName ++ repo.pointsWith inProgressName).all validPointID then
    some (repo.pointsWith manifestName)
  else none

end Repository

inductive LoadFailure where
  | pointID
  | missing
  | invalid
deriving DecidableEq

variable (repo : Repository)

def loadManifest (id : Text) : Except LoadFailure Manifest :=
  if validPointID id then
    match repo.lookup (.point id manifestName) with
    | none => .error .missing
    | some data =>
      match host.decode data with
      | none => .error .invalid
      | some manifest => if manifest.id = id then .ok manifest else .error .invalid
  else .error .pointID

structure WALGBackup where
  name : Text
  startLSN : Nat
  finishLSN : Nat
  compressedSize : Int
  timeline : Option Nat
deriving DecidableEq

structure Window where
  start : Nat
  finish : Nat
deriving DecidableEq

def newStats (window : Window) (bytes : Int) : CaptureStats :=
  { start := window.start, finish := window.finish, bytes
    throughput :=
      if window.start < window.finish then host.rate bytes (window.finish - window.start)
      else some 0 }

/-- What a run finds: the listings of base backups before and after its own, the tenants,
their objects, and what JetStream returns as snapshots. -/
structure RunInput where
  id : Text
  startedAt : Nat
  finishedAt : Nat
  before : List WALGBackup
  after : List WALGBackup
  postgresWindow : Window
  tenants : List Text
  objects : Table (Text × Text) Text
  objectWindow : Window
  streamNames : List Text
  snapshot : Text → Option (StreamState × List (Text × Text))
  natsWindow : Window

def findNewBackup (before after : List WALGBackup) : Option WALGBackup :=
  match after.filter fun backup => backup.name ∉ before.map WALGBackup.name with
  | [backup] => some backup
  | _ => none

def capturePostgres (input : RunInput) : Option PostgresCapture :=
  match findNewBackup input.before input.after with
  | none => none
  | some backup => backup.timeline.map fun timeline =>
    { backupName := backup.name, startLSN := backup.startLSN, finishLSN := backup.finishLSN,
      timeline, stats := newStats host input.postgresWindow backup.compressedSize }

/-- A blob that is stored already is not stored again. -/
def snapshotObject (key content : Text) : Option (Repository × ObjectEntry) :=
  if hexDigest (host.sha256 content) then
    some (if RepoKey.blob (host.sha256 content) ∈ repo then repo
      else repo.insert (.blob (host.sha256 content)) content,
      ⟨key, host.sha256 content, byteLength content⟩)
  else none

def snapshotEach (host : Host) : Repository → List (Text × Text) →
    Option (Repository × List ObjectEntry)
  | repo, [] => some (repo, [])
  | repo, (key, content) :: rest =>
    match snapshotObject host repo key content with
    | none => none
    | some (repo, entry) =>
      match snapshotEach host repo rest with
      | none => none
      | some (repo, entries) => some (repo, entry :: entries)

def tenantObjects (objects : Table (Text × Text) Text) (tenantID : Text) : List (Text × Text) :=
  ((objects.entries.filter fun entry => entry.1.1 = tenantID).map
    fun entry => (entry.1.2, entry.2)).insertionSort fun first second => first.1 ≤ second.1

def totalBytes (sizes : List Int) : Int := sizes.foldl (· + ·) 0

def snapshotObjects (host : Host) (objects : Table (Text × Text) Text) :
    Repository → Table Text (List ObjectEntry) → Int → List Text →
      Option (Repository × Table Text (List ObjectEntry) × Int)
  | repo, out, total, [] => some (repo, out, total)
  | repo, out, total, tenantID :: rest =>
    match snapshotEach host repo (tenantObjects objects tenantID) with
    | none => none
    | some (repo, entries) =>
      snapshotObjects host objects repo (out.insert tenantID entries)
        (total + totalBytes (entries.map ObjectEntry.size)) rest

def uploadFiles (host : Host) (id stream : Text) : Repository → List (Text × Text) →
    Option (Repository × List StreamFile)
  | repo, [] => some (repo, [])
  | repo, (name, content) :: rest =>
    if Repository.validStreamFileRef id stream name then
      match uploadFiles host id stream
          (repo.insert (.streamFile id stream name) content) rest with
      | none => none
      | some (repo, files) =>
        some (repo, ⟨name, host.sha256 content, byteLength content⟩ :: files)
    else none

def snapshotStreams (host : Host) (id : Text)
    (snapshot : Text → Option (StreamState × List (Text × Text))) :
    Repository → List Text → Option (Repository × List StreamCapture)
  | repo, [] => some (repo, [])
  | repo, stream :: rest =>
    match snapshot stream with
    | none => none
    | some (state, contents) =>
      match uploadFiles host id stream repo contents with
      | none => none
      | some (repo, files) =>
        match snapshotStreams host id snapshot repo rest with
        | none => none
        | some (repo, captures) => some (repo, ⟨stream, files, state⟩ :: captures)

/-- Service.Run: the repository with the committed point, and its manifest. -/
def run (input : RunInput) : Option (Repository × Manifest) :=
  if validPointID input.id then
    match capturePostgres host input with
    | none => none
    | some postgres =>
      match snapshotObjects host input.objects
          (repo.insert (.point input.id inProgressName) []) ∅ 0 input.tenants with
      | none => none
      | some (repo, tenants, total) =>
        match snapshotStreams host input.id input.snapshot repo input.streamNames with
        | none => none
        | some (repo, streams) =>
          let manifest : Manifest :=
            { schemaVersion, id := input.id, startedAt := input.startedAt,
              finishedAt := input.finishedAt, postgres, tenants,
              objectStats := newStats host input.objectWindow total,
              streams,
              natsStats := newStats host input.natsWindow (totalBytes
                (streams.flatMap fun capture => capture.files.map StreamFile.size)) }
          match host.encode manifest with
          | none => none
          | some data =>
            some ((repo.insert (.point input.id manifestName) data).erase
              (.point input.id inProgressName), manifest)
  else none

inductive Issue where
  | invalidManifest
  | baseBackupMissing (name : Text)
  | blobMissing (sum tenantID key : Text)
  | blobMismatch (sum tenantID key : Text)
  | fileMissing (stream name : Text)
  | fileMismatch (stream name : Text)
deriving DecidableEq

def objectEntries (tenants : Table Text (List ObjectEntry)) : List (Text × ObjectEntry) :=
  (tenants.keys.insertionSort fun first second => first ≤ second).flatMap fun tenantID =>
    ((tenants.lookup tenantID).getD []).map fun entry => (tenantID, entry)

def firstReferences : List (Text × ObjectEntry) → List (Text × ObjectEntry)
  | [] => []
  | reference :: rest =>
    reference :: (firstReferences rest).filter fun other =>
      other.2.sha256 ≠ reference.2.sha256

/-- What a read of a content finds wrong with it; `none` stands for a read that fails. -/
def contentIssues (opened : Except OpenFailure Text) (sum : Text) (size : Int)
    (missing mismatch : Issue) : Option (List Issue) :=
  match opened with
  | .error .notFound => some [missing]
  | .error .refused => none
  | .ok content =>
    if host.sha256 content ≠ sum ∨ byteLength content ≠ size then some [mismatch] else some []

def blobIssues (reference : Text × ObjectEntry) : Option (List Issue) :=
  contentIssues host (repo.openBlob reference.2.sha256) reference.2.sha256 reference.2.size
    (.blobMissing reference.2.sha256 reference.1 reference.2.key)
    (.blobMismatch reference.2.sha256 reference.1 reference.2.key)

def fileIssues (id stream : Text) (file : StreamFile) : Option (List Issue) :=
  contentIssues host (repo.openStreamFile id stream file.name) file.sha256 file.size
    (.fileMissing stream file.name) (.fileMismatch stream file.name)

def gather {Item : Type} (issues : Item → Option (List Issue)) : List Item → Option (List Issue)
  | [] => some []
  | item :: rest =>
    match issues item with
    | none => none
    | some here =>
      match gather issues rest with
      | none => none
      | some later => some (here ++ later)

def verifyObjects (tenants : Table Text (List ObjectEntry)) : Option (List Issue) :=
  gather (blobIssues host repo) ((firstReferences (objectEntries tenants)).insertionSort
    fun first second => first.2.sha256 ≤ second.2.sha256)

def verifyStreams (id : Text) (streams : List StreamCapture) : Option (List Issue) :=
  gather (fun file => fileIssues host repo id file.1 file.2)
    (streams.flatMap fun capture => capture.files.map fun file => (capture.stream, file))

/-- The issues of a point, with its manifest if it decodes; `none` when a read fails. -/
def verifyPoint (walgBackups : List Text) (id : Text) : Option (List Issue × Option Manifest) :=
  match loadManifest host repo id with
  | .error .invalid => some ([.invalidManifest], none)
  | .error _ => none
  | .ok manifest =>
    match verifyObjects host repo manifest.tenants,
        verifyStreams host repo id manifest.streams with
    | some objects, some streams =>
      some ((if manifest.postgres.backupName ∈ walgBackups then []
        else [.baseBackupMissing manifest.postgres.backupName]) ++ objects ++ streams,
        some manifest)
    | _, _ => none

def verify (walgBackups : List Text) (id : Text) : Option (List Issue × Option Manifest) :=
  match repo.complete with
  | none => none
  | some ids => if id ∈ ids then verifyPoint host repo walgBackups id else none

/-- The stores a point is restored into; a stream is the files it was restored from. -/
structure Target where
  objects : Table (Text × Text) Text
  streams : Table Text (List (Text × Text))

inductive Refusal where
  | notVerifiable
  | failedVerification (issues : List Issue)
  | objectsPresent (tenantID : Text)
  | streamPresent (stream : Text)
deriving DecidableEq

inductive RestoreFailure where
  | unreadable
  | checksum
  | snapshotRefused (stream : Text)
  | stateMismatch (stream : Text)
deriving DecidableEq

inductive Outcome where
  | restored
  | refused (refusal : Refusal)
  | failed (failure : RestoreFailure)
deriving DecidableEq

def preflightObjects (tenants : Table Text (List ObjectEntry))
    (objects : Table (Text × Text) Text) : Option Text :=
  (tenants.keys.insertionSort fun first second => first ≤ second).find? fun tenantID =>
    objects.keys.any fun key => key.1 = tenantID

def preflightStreams (captures : List StreamCapture) (streams : Table Text (List (Text × Text))) :
    Option Text :=
  (captures.map StreamCapture.stream).find? fun stream => stream ∈ streams

def checkedContent (opened : Except OpenFailure Text) (sum : Text) (size : Int) :
    Except RestoreFailure Text :=
  match opened with
  | .error _ => .error .unreadable
  | .ok content =>
    if host.sha256 content ≠ sum ∨ byteLength content ≠ size then .error .checksum
    else .ok content

def restoreObjects (host : Host) (repo : Repository) :
    Table (Text × Text) Text → List (Text × ObjectEntry) →
      Option RestoreFailure × Table (Text × Text) Text
  | objects, [] => (none, objects)
  | objects, (tenantID, entry) :: rest =>
    match checkedContent host (repo.openBlob entry.sha256) entry.sha256 entry.size with
    | .error failure => (some failure, objects)
    | .ok content => restoreObjects host repo (objects.insert (tenantID, entry.key) content) rest

def downloadFiles (host : Host) (repo : Repository) (id stream : Text) :
    List StreamFile → Except RestoreFailure (List (Text × Text))
  | [] => .ok []
  | file :: rest =>
    match checkedContent host (repo.openStreamFile id stream file.name) file.sha256
        file.size with
    | .error failure => .error failure
    | .ok content =>
      match downloadFiles host repo id stream rest with
      | .error failure => .error failure
      | .ok contents => .ok ((file.name, content) :: contents)

/-- The state is compared after the stream has been created. -/
def restoreStreams (host : Host) (repo : Repository) (id : Text) :
    Table Text (List (Text × Text)) → List StreamCapture →
      Option RestoreFailure × Table Text (List (Text × Text))
  | streams, [] => (none, streams)
  | streams, capture :: rest =>
    match downloadFiles host repo id capture.stream capture.files with
    | .error failure => (some failure, streams)
    | .ok contents =>
      match host.replay capture.stream contents with
      | none => (some (.snapshotRefused capture.stream), streams)
      | some state =>
        if state ≠ capture.state then
          (some (.stateMismatch capture.stream), streams.insert capture.stream contents)
        else restoreStreams host repo id (streams.insert capture.stream contents) rest

/-- The part of Restore that writes. -/
def restorePoint (id : Text) (manifest : Manifest) (target : Target) : Outcome × Target :=
  match restoreObjects host repo target.objects (objectEntries manifest.tenants) with
  | (some failure, objects) => (.failed failure, { target with objects })
  | (none, objects) =>
    match restoreStreams host repo id target.streams manifest.streams with
    | (some failure, streams) => (.failed failure, { objects, streams })
    | (none, streams) => (.restored, { objects, streams })

def restore (walgBackups : List Text) (id : Text) (target : Target) : Outcome × Target :=
  match verify host repo walgBackups id with
  | none => (.refused .notVerifiable, target)
  | some (issues, none) => (.refused (.failedVerification issues), target)
  | some (issues, some manifest) =>
    if issues ≠ [] then (.refused (.failedVerification issues), target)
    else
      match preflightObjects manifest.tenants target.objects with
      | some tenantID => (.refused (.objectsPresent tenantID), target)
      | none =>
        match preflightStreams manifest.streams target.streams with
        | some stream => (.refused (.streamPresent stream), target)
        | none => restorePoint host repo id manifest target

end CrossCodex.Backup
