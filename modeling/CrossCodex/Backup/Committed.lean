/-
A point that a run commits verifies, and a point that verifies can be restored. Capture
keeps a blob that is there already, so it has to be the captured object.
-/

import CrossCodex.Backup.Verified

namespace CrossCodex.Backup

open Analyzer (Text)
open Library (Table firstRow insertNew lastRow upsertAll)
open ResultCache (byteLength)
open List

variable {host : Host} {repo next : Repository} {entry : ObjectEntry} {id : Text} {stream : Text}
  {file : StreamFile}

theorem intact_guarded {valid : Bool} {key : RepoKey} {sum : Text} {size : Int} :
    Intact host (if valid then repo.openKey key else .error .refused) sum size ↔
      valid = true ∧ ∃ content, repo.lookup key = some content ∧ Matches host content sum size := by
  rw [Intact, Repository.openKey]
  cases valid with
  | false => simp
  | true =>
    cases repo.lookup key with
    | none => simp
    | some content => simp

theorem blobIntact_iff :
    BlobIntact host repo entry ↔ hexDigest entry.sha256 = true ∧
      ∃ content, repo.lookup (.blob entry.sha256) = some content ∧
        Matches host content entry.sha256 entry.size :=
  intact_guarded

theorem fileIntact_iff :
    FileIntact host repo id stream file ↔
      Repository.validStreamFileRef id stream file.name = true ∧
        ∃ content, repo.lookup (.streamFile id stream file.name) = some content ∧
          Matches host content file.sha256 file.size :=
  intact_guarded

/-! ### The capture of objects -/

def entryOf (host : Host) (item : Text × Text) : ObjectEntry :=
  ⟨item.1, host.sha256 item.2, byteLength item.2⟩

def blobOf (host : Host) (item : Text × Text) : RepoKey × Text :=
  (.blob (host.sha256 item.2), item.2)

theorem snapshotEach_eq {items : List (Text × Text)} {entries : List ObjectEntry}
    (done : snapshotEach host repo items = some (next, entries)) :
    next = insertNew repo (items.map (blobOf host)) ∧ entries = items.map (entryOf host) ∧
      ∀ item ∈ items, hexDigest (host.sha256 item.2) = true := by
  induction items generalizing repo entries with
  | nil =>
    cases done
    exact ⟨rfl, rfl, fun _ mem => (not_mem_nil mem).elim⟩
  | cons item rest ih =>
    simp only [snapshotEach, snapshotObject] at done
    by_cases named : hexDigest (host.sha256 item.2) = true
    · rw [if_pos named] at done
      simp only at done
      split at done
      · cases done
      · next final later finished =>
        cases done
        obtain ⟨stored, rfl, digests⟩ := ih finished
        exact ⟨stored, rfl, forall_mem_cons.mpr ⟨named, digests⟩⟩
    · rw [if_neg named] at done
      cases done

variable {objects : Table (Text × Text) Text}

def tenantEntries (host : Host) (objects : Table (Text × Text) Text) (tenantID : Text) :
    List ObjectEntry :=
  (tenantObjects objects tenantID).map (entryOf host)

theorem snapshotObjects_eq {tenants : List Text} {out all : Table Text (List ObjectEntry)}
    {before total : Int}
    (done : snapshotObjects host objects repo out before tenants = some (next, all, total)) :
    next = insertNew repo ((tenants.flatMap (tenantObjects objects)).map (blobOf host)) ∧
    all = upsertAll out (tenants.map fun tenantID =>
      (tenantID, tenantEntries host objects tenantID)) ∧
    total = tenants.foldl (fun total tenantID => total +
      totalBytes ((tenantEntries host objects tenantID).map ObjectEntry.size)) before ∧
    ∀ item ∈ tenants.flatMap (tenantObjects objects), hexDigest (host.sha256 item.2) = true := by
  induction tenants generalizing repo out before with
  | nil =>
    cases done
    exact ⟨rfl, rfl, rfl, fun _ mem => (not_mem_nil mem).elim⟩
  | cons tenantID rest ih =>
    simp only [snapshotObjects] at done
    split at done
    · cases done
    · next middle entries finished =>
      obtain ⟨rfl, rfl, named⟩ := snapshotEach_eq finished
      obtain ⟨stored, recorded, counted, others⟩ := ih done
      refine ⟨?_, recorded, counted, ?_⟩
      · rw [stored, flatMap_cons, map_append, insertNew, insertNew,
          insertNew, foldl_append]
      · rw [flatMap_cons, forall_mem_append]
        exact ⟨named, others⟩

def fileOf (host : Host) (item : Text × Text) : StreamFile :=
  ⟨item.1, host.sha256 item.2, byteLength item.2⟩

theorem uploadFiles_eq {contents : List (Text × Text)} {files : List StreamFile}
    (done : uploadFiles host id stream repo contents = some (next, files)) :
    next = upsertAll repo
      (contents.map fun item => (.streamFile id stream item.1, item.2)) ∧
    files = contents.map (fileOf host) ∧
    ∀ item ∈ contents, Repository.validStreamFileRef id stream item.1 = true := by
  induction contents generalizing repo files with
  | nil =>
    cases done
    exact ⟨rfl, rfl, fun _ mem => (not_mem_nil mem).elim⟩
  | cons item rest ih =>
    simp only [uploadFiles] at done
    split at done
    · next named =>
      split at done
      · cases done
      · next final later finished =>
        cases done
        obtain ⟨stored, rfl, others⟩ := ih finished
        exact ⟨stored, rfl, forall_mem_cons.mpr ⟨named, others⟩⟩
    · cases done

abbrev Snapshot := Text × StreamState × List (Text × Text)

def snapshotsOf (snapshot : Text → Option (StreamState × List (Text × Text)))
    (names : List Text) : List Snapshot :=
  names.filterMap fun stream => (snapshot stream).map (stream, ·)

def captureOf (host : Host) (taken : Snapshot) : StreamCapture :=
  ⟨taken.1, taken.2.2.map (fileOf host), taken.2.1⟩

def filesOf (id : Text) (taken : Snapshot) : List (RepoKey × Text) :=
  taken.2.2.map fun item => (.streamFile id taken.1 item.1, item.2)

theorem snapshotStreams_eq {snapshot : Text → Option (StreamState × List (Text × Text))}
    {names : List Text} {captures : List StreamCapture}
    (done : snapshotStreams host id snapshot repo names = some (next, captures)) :
    next = upsertAll repo ((snapshotsOf snapshot names).flatMap (filesOf id)) ∧
    captures = (snapshotsOf snapshot names).map (captureOf host) ∧
    ∀ taken ∈ snapshotsOf snapshot names, ∀ item ∈ taken.2.2,
      Repository.validStreamFileRef id taken.1 item.1 = true := by
  induction names generalizing repo captures with
  | nil =>
    cases done
    exact ⟨rfl, rfl, fun _ mem => (not_mem_nil mem).elim⟩
  | cons stream rest ih =>
    simp only [snapshotStreams] at done
    split at done
    · cases done
    · next state contents found =>
      split at done
      · cases done
      · next middle files uploaded =>
        split at done
        · cases done
        · next final later finished =>
          cases done
          obtain ⟨rfl, rfl, named⟩ := uploadFiles_eq uploaded
          obtain ⟨stored, rfl, others⟩ := ih finished
          have first : snapshotsOf snapshot (stream :: rest) =
              (stream, state, contents) :: snapshotsOf snapshot rest := by
            rw [snapshotsOf, filterMap_cons, found]
            rfl
          rw [first, forall_mem_cons]
          refine ⟨?_, rfl, named, others⟩
          rw [stored, flatMap_cons, upsertAll, upsertAll, upsertAll,
            foldl_append]
          rfl

variable {manifest : Manifest} {input : RunInput}

def RunInput.snapshots (input : RunInput) : List Snapshot :=
  snapshotsOf input.snapshot input.streamNames

def RunInput.recorded (input : RunInput) (host : Host) (postgres : PostgresCapture) :
    Manifest where
  schemaVersion := schemaVersion
  id := input.id
  startedAt := input.startedAt
  finishedAt := input.finishedAt
  postgres := postgres
  tenants := upsertAll ∅ (input.tenants.map fun tenantID =>
    (tenantID, tenantEntries host input.objects tenantID))
  objectStats := newStats host input.objectWindow (input.tenants.foldl (fun total tenantID =>
    total + totalBytes ((tenantEntries host input.objects tenantID).map ObjectEntry.size)) 0)
  streams := input.snapshots.map (captureOf host)
  natsStats := newStats host input.natsWindow (totalBytes
    (input.snapshots.flatMap fun taken =>
      (captureOf host taken).files.map StreamFile.size))

def RunInput.captured (input : RunInput) : List (Text × Text) :=
  input.tenants.flatMap (tenantObjects input.objects)

structure Commits (host : Host) (repo next : Repository) (input : RunInput)
    (postgres : PostgresCapture) : Prop where
  named : validPointID input.id = true
  pushed : capturePostgres host input = some postgres
  valid : (input.recorded host postgres).valid = true
  digests : ∀ item ∈ input.captured, hexDigest (host.sha256 item.2) = true
  files : ∀ taken ∈ input.snapshots, ∀ item ∈ taken.2.2,
    Repository.validStreamFileRef input.id taken.1 item.1 = true
  stored : next =
    ((upsertAll (insertNew (repo.insert (.point input.id inProgressName) [])
      (input.captured.map (blobOf host)))
      (input.snapshots.flatMap (filesOf input.id))).insert
        (.point input.id manifestName) (host.marshal (input.recorded host postgres))).erase
          (.point input.id inProgressName)

theorem run_commits (done : run host repo input = some (next, manifest)) :
    ∃ postgres, manifest = input.recorded host postgres ∧
      Commits host repo next input postgres := by
  rw [run] at done
  split at done
  · next named =>
    split at done
    · cases done
    · next postgres pushed =>
      split at done
      · cases done
      · next uploaded tenants total stored =>
        split at done
        · cases done
        · next filled streams snapshotted =>
          obtain ⟨rfl, rfl, rfl, digests⟩ := snapshotObjects_eq stored
          obtain ⟨rfl, rfl, files⟩ := snapshotStreams_eq snapshotted
          simp only [Host.encode, flatMap_map] at done
          split at done
          · cases done
          · next data encoded =>
            obtain ⟨rfl, rfl⟩ := Prod.mk.inj (Option.some.inj done)
            split at encoded
            · next valid =>
              cases encoded
              exact ⟨postgres, rfl, named, pushed, valid, digests, files, rfl⟩
            · cases encoded
  · cases done

theorem mem_of_findNewBackup {before after : List WALGBackup} {backup : WALGBackup}
    (found : findNewBackup before after = some backup) : backup ∈ after := by
  rw [findNewBackup] at found
  split at found
  · next fresh =>
    cases found
    apply mem_of_mem_filter
    rw [fresh]
    exact mem_singleton_self _
  · cases found

theorem capturePostgres_listed {postgres : PostgresCapture}
    (pushed : capturePostgres host input = some postgres) :
    postgres.backupName ∈ input.after.map WALGBackup.name := by
  rw [capturePostgres] at pushed
  split at pushed
  · cases pushed
  · next backup found =>
    obtain ⟨timeline, _, rfl⟩ := Option.map_eq_some_iff.mp pushed
    exact mem_map_of_mem (mem_of_findNewBackup found)

/-- Points are named by crosscodexd, as every run names its own. -/
def Repository.WellNamed (repo : Repository) : Prop :=
  ∀ id name, RepoKey.point id name ∈ repo → name = manifestName ∨ name = inProgressName →
    validPointID id = true

theorem mem_pointsWith {name : Text} :
    id ∈ repo.pointsWith name ↔ RepoKey.point id name ∈ repo := by
  rw [Repository.pointsWith, mem_filterMap]
  constructor
  · rintro ⟨key, listed, found⟩
    cases key with
    | point owner entry =>
      simp only [Option.ite_none_right_eq_some, Option.some.injEq] at found
      obtain ⟨rfl, rfl⟩ := found
      exact listed
    | blob sum => cases found
    | streamFile owner stream entry => cases found
  · intro listed
    exact ⟨_, listed, if_pos rfl⟩

theorem Repository.WellNamed.complete (named : repo.WellNamed) :
    repo.complete = some (repo.pointsWith manifestName) := by
  rw [Repository.complete, if_pos]
  rw [all_eq_true]
  intro id listed
  rcases mem_append.mp listed with committed | begun
  · exact named id _ (mem_pointsWith.mp committed) (Or.inl rfl)
  · exact named id _ (mem_pointsWith.mp begun) (Or.inr rfl)

theorem manifestName_ne_inProgressName : manifestName ≠ inProgressName := by decide

theorem Manifest.distinctFiles (valid : manifest.valid = true) {capture : StreamCapture}
    (mem : capture ∈ manifest.streams) : (capture.files.map StreamFile.name).Nodup := by
  simp only [Manifest.valid, Bool.and_eq_true, all_eq_true] at valid
  have checked := valid.1.2 capture mem
  simp only [StreamCapture.valid, Bool.and_eq_true, decide_eq_true_eq] at checked
  exact checked.1.1.1.1.2

/-- No blob stored under the hash of an object to be captured has been damaged. -/
def Repository.Undamaged (repo : Repository) (host : Host) (input : RunInput) : Prop :=
  ∀ item ∈ input.captured, ∀ stored,
    repo.lookup (.blob (host.sha256 item.2)) = some stored →
      host.sha256 stored = host.sha256 item.2

/-- The JSON form of what a run records is read back as it was written. -/
def RunInput.RoundTrips (input : RunInput) (host : Host) : Prop :=
  ∀ postgres, capturePostgres host input = some postgres →
    host.unmarshal (host.marshal (input.recorded host postgres)) =
      some (input.recorded host postgres)

/-- The JSON form of what a run records is no larger than the decoder takes. -/
def RunInput.Fits (input : RunInput) (host : Host) : Prop :=
  ∀ postgres, capturePostgres host input = some postgres →
    byteLength (host.marshal (input.recorded host postgres)) ≤ maxManifestBytes

theorem mem_recorded_entries {postgres : PostgresCapture} {reference : Text × ObjectEntry} :
    reference ∈ objectEntries (input.recorded host postgres).tenants ↔
      reference.1 ∈ input.tenants ∧
        reference.2 ∈ tenantEntries host input.objects reference.1 := by
  obtain ⟨tenantID, entry⟩ := reference
  rw [mem_objectEntries]
  change (∃ entries, (upsertAll ∅ _).lookup tenantID = _ ∧ _) ↔ _
  simp only [lookup_upsertAll_empty]
  cases written : lastRow (input.tenants.map fun tenantID =>
      (tenantID, tenantEntries host input.objects tenantID)) tenantID with
  | none =>
    have absent : tenantID ∉ input.tenants := by
      simpa [Function.comp_def] using Library.lastRow_eq_none.mp written
    simp [absent]
  | some entries =>
    obtain ⟨other, listed, same⟩ := mem_map.mp (Library.mem_of_lastRow written)
    cases same
    simp [listed]

namespace Commits

variable {postgres : PostgresCapture} (commits : Commits host repo next input postgres)
include commits

theorem lookup_other {key : RepoKey} (marker : key ≠ .point input.id inProgressName)
    (own : key ≠ .point input.id manifestName) :
    next.lookup key =
      (lastRow (input.snapshots.flatMap
        (filesOf input.id)) key).or ((repo.lookup key).or
          (firstRow (input.captured.map (blobOf host)) key)) := by
  rw [commits.stored, AList.lookup_erase_ne marker, AList.lookup_insert_ne own,
    Library.lookup_upsertAll, Library.lookup_insertNew, AList.lookup_insert_ne marker]

theorem lookup_manifest : next.lookup (.point input.id manifestName) =
    some (host.marshal (input.recorded host postgres)) := by
  rw [commits.stored, AList.lookup_erase_ne, AList.lookup_insert]
  intro same
  exact manifestName_ne_inProgressName (RepoKey.point.inj same).2

section

variable (collisionFree : Function.Injective host.sha256) {item : Text × Text}
  (captured : item ∈ input.captured)
include collisionFree captured

theorem lookup_blob :
    next.lookup (.blob (host.sha256 item.2)) =
      some ((repo.lookup (.blob (host.sha256 item.2))).getD item.2) := by
  have none : lastRow (input.snapshots.flatMap
      (filesOf input.id)) (.blob (host.sha256 item.2)) = none := by
    rw [Library.lastRow_eq_none]
    simp [filesOf]
  have first : firstRow (input.captured.map (blobOf host))
      (.blob (host.sha256 item.2)) = some item.2 := by
    have listed : blobOf host item ∈ input.captured.map (blobOf host) := mem_map_of_mem captured
    cases found : firstRow (input.captured.map (blobOf host))
        (.blob (host.sha256 item.2)) with
    | none => exact absurd (mem_map_of_mem listed) (Library.firstRow_eq_none.mp found)
    | some content =>
      obtain ⟨other, _, same⟩ := mem_map.mp (Library.mem_of_firstRow found)
      obtain ⟨sums, rfl⟩ := Prod.mk.inj same
      rw [collisionFree (RepoKey.blob.inj sums)]
  rw [commits.lookup_other (by simp) (by simp), none, first, Option.none_or]
  cases repo.lookup (.blob (host.sha256 item.2)) <;> rfl

theorem blobIntact_iff_undamaged :
    BlobIntact host next (entryOf host item) ↔ ∀ stored,
      repo.lookup (.blob (host.sha256 item.2)) = some stored →
        host.sha256 stored = host.sha256 item.2 := by
  rw [blobIntact_iff]
  simp only [entryOf, commits.digests item captured, true_and,
    commits.lookup_blob collisionFree captured, Option.some.injEq, exists_eq_left']
  cases repo.lookup (.blob (host.sha256 item.2)) with
  | none => simp [Matches]
  | some stored =>
    simp only [Option.getD_some, Option.some.injEq, forall_eq', Matches]
    refine ⟨And.left, fun same => ⟨same, ?_⟩⟩
    rw [collisionFree same]

end

theorem filesIntact : ∀ capture ∈ (input.recorded host postgres).streams,
    ∀ file ∈ capture.files, FileIntact host next input.id capture.stream file := by
  have nodup : ((input.snapshots.flatMap
      (filesOf input.id)).map Prod.fst).Nodup := by
    have streams := Manifest.stream_nodup commits.valid
    rw [RunInput.recorded, map_map, Nodup, pairwise_map] at streams
    rw [map_flatMap, nodup_flatMap]
    constructor
    · intro taken mem
      have names := Manifest.distinctFiles commits.valid (mem_map_of_mem mem)
      rw [captureOf, map_map] at names
      have keyed := names.map (f := RepoKey.streamFile input.id taken.1) fun _ _ same => by
        cases same
        rfl
      rw [map_map] at keyed
      rw [filesOf, map_map]
      exact keyed
    · refine streams.imp fun apart key first second => ?_
      simp only [filesOf, map_map, mem_map, Function.comp_apply] at first second
      obtain ⟨_, _, rfl⟩ := first
      obtain ⟨_, _, same⟩ := second
      exact apart (RepoKey.streamFile.inj same).2.1.symm
  intro capture mem file listed
  obtain ⟨taken, inRun, rfl⟩ := mem_map.mp mem
  obtain ⟨item, inside, rfl⟩ := mem_map.mp listed
  have written : (RepoKey.streamFile input.id taken.1 item.1, item.2) ∈
      input.snapshots.flatMap (filesOf input.id) :=
    mem_flatMap.mpr ⟨taken, inRun, mem_map_of_mem inside⟩
  refine fileIntact_iff.mpr ⟨commits.files taken inRun item inside, item.2, ?_, rfl, rfl⟩
  rw [captureOf, fileOf, commits.lookup_other (by simp) (by simp),
    Library.lastRow_eq_firstRow nodup, Library.firstRow_of_mem nodup written, Option.some_or]

theorem wellNamed (named : repo.WellNamed) : next.WellNamed := by
  intro id name present kind
  by_cases own : id = input.id
  · rw [own]
    exact commits.named
  · have apart : ∀ other, RepoKey.point id name ≠ .point input.id other :=
      fun _ same => own (RepoKey.point.inj same).1
    apply named id name _ kind
    rw [← AList.lookup_isSome, commits.lookup_other (apart _) (apart _),
      Library.lastRow_eq_none.mpr (by simp [filesOf]),
      Library.firstRow_eq_none.mpr (by simp [blobOf]), Option.none_or, Option.or_none,
      AList.lookup_isSome] at present
    exact present

theorem loadManifest_iff (json : input.RoundTrips host) :
    loadManifest host next input.id = .ok manifest ↔
      input.Fits host ∧ manifest = input.recorded host postgres := by
  simp only [loadManifest, commits.named, commits.lookup_manifest, Host.decode,
    json postgres commits.pushed, if_true]
  by_cases small : byteLength (host.marshal (input.recorded host postgres)) ≤ maxManifestBytes
  · have fits : input.Fits host := by
      intro other pushed
      cases commits.pushed.symm.trans pushed
      exact small
    rw [if_neg (not_lt.mpr small), Option.filter_some, if_pos commits.valid]
    simp only [show (input.recorded host postgres).id = input.id from rfl, if_true,
      Except.ok.injEq, fits, true_and]
    exact eq_comm
  · rw [if_pos (not_le.mp small)]
    simp only [reduceCtorEq, false_iff]
    intro holds
    exact small (holds.1 postgres commits.pushed)

variable (collisionFree : Function.Injective host.sha256)
include collisionFree

theorem undamaged
    (intact : ∀ reference ∈ firstReferences (objectEntries (input.recorded host postgres).tenants),
      BlobIntact host next reference.2) : repo.Undamaged host input := by
  intro item captured stored held
  obtain ⟨tenantID, inTenants, inside⟩ := mem_flatMap.mp captured
  have recorded : (tenantID, entryOf host item) ∈
      objectEntries (input.recorded host postgres).tenants :=
    mem_recorded_entries.mpr ⟨inTenants, mem_map_of_mem inside⟩
  obtain ⟨first, listed, shares⟩ := exists_firstReference recorded
  have sum : first.2.sha256 = host.sha256 item.2 := shares
  obtain ⟨_, content, found, sums, _⟩ := blobIntact_iff.mp (intact first listed)
  rw [sum, commits.lookup_blob collisionFree captured, held] at found
  cases found
  exact sums.trans sum

theorem blobs (undamaged : repo.Undamaged host input) {reference : Text × ObjectEntry}
    (recorded : reference ∈ objectEntries (input.recorded host postgres).tenants) :
    BlobIntact host next reference.2 := by
  obtain ⟨inTenants, listed⟩ := mem_recorded_entries.mp recorded
  obtain ⟨item, inside, made⟩ := mem_map.mp listed
  have captured : item ∈ input.captured := mem_flatMap.mpr ⟨_, inTenants, inside⟩
  rw [← made, commits.blobIntact_iff_undamaged collisionFree captured]
  exact undamaged item captured

theorem verify_iff (json : input.RoundTrips host) {walgBackups : List Text} (named : repo.WellNamed)
    (kept : input.after.map WALGBackup.name ⊆ walgBackups) :
    Backup.verify host next walgBackups input.id = some ([], some manifest) ↔
      (repo.Undamaged host input ∧ input.Fits host) ∧
        manifest = input.recorded host postgres := by
  have listed : input.id ∈ next.pointsWith manifestName := by
    rw [mem_pointsWith, ← AList.lookup_isSome, commits.lookup_manifest]
    rfl
  rw [verify_passes_iff]
  constructor
  · rintro ⟨_, verifies⟩
    obtain ⟨small, rfl⟩ := (commits.loadManifest_iff json).mp verifies.loaded
    exact ⟨⟨commits.undamaged collisionFree verifies.blobs, small⟩, rfl⟩
  · rintro ⟨⟨undamaged, small⟩, rfl⟩
    refine ⟨⟨_, (commits.wellNamed named).complete, listed⟩, ?_, ?_, ?_, commits.filesIntact⟩
    · exact (commits.loadManifest_iff json).mpr ⟨small, rfl⟩
    · exact kept (capturePostgres_listed commits.pushed)
    · intro reference first
      exact commits.blobs collisionFree undamaged (mem_of_mem_firstReferences first)

end Commits

theorem oneSize_recorded (collisionFree : Function.Injective host.sha256)
    {postgres : PostgresCapture} : (input.recorded host postgres).OneSize := by
  intro first inFirst second inSecond shares
  obtain ⟨item, _, made⟩ := mem_map.mp (mem_recorded_entries.mp inFirst).2
  obtain ⟨other, _, madeOther⟩ := mem_map.mp (mem_recorded_entries.mp inSecond).2
  rw [← made, ← madeOther] at shares ⊢
  exact congrArg (fun content => (byteLength content : Int)) (collisionFree shares)

/-- A committed point verifies exactly if the run found its blobs undamaged and its manifest
fits the decoder's limit. A point that verifies meets no checksum failure exactly if it gives
each blob one size, and is restored exactly if, further, JetStream takes its files back to the
recorded states. A refused restore changes nothing. -/
theorem verified_backup_restores (host : Host) (collisionFree : Function.Injective host.sha256) :
    (∀ repo input next manifest, run host repo input = some (next, manifest) →
      manifest.OneSize ∧
      ∀ walgBackups, repo.WellNamed → input.after.map WALGBackup.name ⊆ walgBackups →
        input.RoundTrips host →
          ((∃ found, verify host next walgBackups manifest.id = some ([], some found)) ↔
            repo.Undamaged host input ∧ input.Fits host)) ∧
    (∀ repo walgBackups id manifest,
      verify host repo walgBackups id = some ([], some manifest) →
        ((restore host repo walgBackups id ⟨∅, ∅⟩).1 ≠ .failed .checksum ↔ manifest.OneSize) ∧
        ((∃ target, restore host repo walgBackups id ⟨∅, ∅⟩ = (.restored, target) ∧
            target.Reproduces host manifest) ↔
          manifest.OneSize ∧ Replays host repo id manifest.streams)) ∧
    (∀ repo walgBackups id target after refusal,
      restore host repo walgBackups id target = (.refused refusal, after) → after = target) := by
  refine ⟨?_, ?_, ?_⟩
  · intro repo input next manifest done
    obtain ⟨postgres, rfl, commits⟩ := run_commits done
    refine ⟨oneSize_recorded collisionFree, ?_⟩
    intro walgBackups named kept json
    constructor
    · rintro ⟨found, passes⟩
      exact ((commits.verify_iff collisionFree json named kept).mp passes).1
    · intro holds
      exact ⟨_, (commits.verify_iff collisionFree json named kept).mpr ⟨holds, rfl⟩⟩
  · intro repo walgBackups id manifest passes
    exact ⟨restore_ne_checksum_iff passes, restore_reproduces_iff passes⟩
  · intro repo walgBackups id target after refusal outcome
    exact restore_refused_unchanged outcome

/-- A hash without collisions that is a hex digest on the two contents used here. -/
def sampleHash (content : Text) : Text := List.replicate 63 '0' ++ content

theorem sampleHash_injective : Function.Injective sampleHash :=
  fun _ _ same => append_cancel_left same

def sampleID : Text := "20260101T000000Z-0123abcd".toList

def sampleBackup : WALGBackup where
  name := "base_000000010000000000000001".toList
  startLSN := 1
  finishLSN := 2
  compressedSize := 10
  timeline := some 1

def sampleStats (bytes : Int) : CaptureStats := ⟨1, 2, bytes, some bytes⟩

def samplePostgres : PostgresCapture where
  backupName := sampleBackup.name
  startLSN := 1
  finishLSN := 2
  timeline := 1
  stats := sampleStats 10

def sampleManifest : Manifest where
  schemaVersion := 1
  id := sampleID
  startedAt := 1
  finishedAt := 2
  postgres := samplePostgres
  tenants := (∅ : Table Text (List ObjectEntry)).insert "acme".toList
    [⟨['k'], sampleHash ['a'], 1⟩]
  objectStats := sampleStats 1
  streams := [⟨"AUDIT_LLM".toList,
    [⟨snapshotMetaFile, sampleHash ['b'], 1⟩, ⟨snapshotDataFile, sampleHash ['a'], 1⟩],
    ⟨1, 1, 1⟩⟩]
  natsStats := sampleStats 2

def sampleHost (manifest : Manifest) : Host where
  sha256 := sampleHash
  marshal _ := ['m']
  unmarshal _ := some manifest
  replay _ _ := some ⟨1, 1, 1⟩
  rate bytes _ := some bytes

def sampleInput : RunInput where
  id := sampleID
  startedAt := 1
  finishedAt := 2
  before := []
  after := [sampleBackup]
  postgresWindow := ⟨1, 2⟩
  tenants := ["acme".toList]
  objects := (∅ : Table (Text × Text) Text).insert ("acme".toList, ['k']) ['a']
  objectWindow := ⟨1, 2⟩
  streamNames := ["AUDIT_LLM".toList]
  snapshot _ := some (⟨1, 1, 1⟩, [(snapshotMetaFile, ['b']), (snapshotDataFile, ['a'])])
  natsWindow := ⟨1, 2⟩

def sampleRun (repo : Repository) : Repository :=
  ((run (sampleHost sampleManifest) repo sampleInput).map Prod.fst).getD ∅

/-- The first run commits, its point verifies and is restored; a tenant with an object is
refused. -/
theorem first_backup_restores :
    (∃ found, verify (sampleHost sampleManifest) (sampleRun ∅) [sampleBackup.name] sampleID =
        some ([], some found)) ∧
      (∃ target, restore (sampleHost sampleManifest) (sampleRun ∅) [sampleBackup.name] sampleID
          ⟨∅, ∅⟩ = (.restored, target) ∧
        target.Reproduces (sampleHost sampleManifest) sampleManifest) ∧
      ∃ refusal after, restore (sampleHost sampleManifest) (sampleRun ∅) [sampleBackup.name]
        sampleID ⟨sampleInput.objects, ∅⟩ = (.refused refusal, after) ∧
          after = ⟨sampleInput.objects, ∅⟩ := by
  have holds := verified_backup_restores (sampleHost sampleManifest) sampleHash_injective
  have ran : run (sampleHost sampleManifest) ∅ sampleInput =
      some (sampleRun ∅, sampleManifest) := rfl
  have named : (∅ : Repository).WellNamed :=
    fun _ _ present => absurd present (AList.notMem_empty _)
  have undamaged : (∅ : Repository).Undamaged (sampleHost sampleManifest) sampleInput := by
    intro _ _ stored found
    cases found
  have json : sampleInput.RoundTrips (sampleHost sampleManifest) := by
    intro postgres pushed
    cases pushed
    rfl
  have small : sampleInput.Fits (sampleHost sampleManifest) := by
    intro postgres _
    change 1 ≤ _
    decide
  obtain ⟨oneSize, verified⟩ := holds.1 ∅ sampleInput _ _ ran
  have replays : Replays (sampleHost sampleManifest) (sampleRun ∅) sampleID
      sampleManifest.streams := by
    intro capture mem
    cases mem_singleton.mp mem
    rfl
  have passes : verify (sampleHost sampleManifest) (sampleRun ∅) [sampleBackup.name] sampleID =
      some ([], some sampleManifest) := rfl
  refine ⟨(verified _ named (List.Subset.refl _) json).mpr ⟨undamaged, small⟩,
    (holds.2.1 _ _ _ _ passes).2.mpr ⟨oneSize, replays⟩, ?_⟩
  have refused : restore (sampleHost sampleManifest) (sampleRun ∅) [sampleBackup.name] sampleID
      ⟨sampleInput.objects, ∅⟩ =
        (.refused (.objectsPresent "acme".toList), ⟨sampleInput.objects, ∅⟩) := rfl
  exact ⟨_, _, refused, holds.2.2 _ _ _ _ _ _ refused⟩

/-- What an aborted run left: its marker, and a blob that has been damaged since. -/
def damagedRepository : Repository :=
  upsertAll ∅ [(.point "20251231T000000Z-0123abcd".toList inProgressName, []),
    (.blob (sampleHash ['a']), ['x'])]

/-- A manifest that gives one blob two sizes, the right one first. -/
def resizedManifest : Manifest :=
  { sampleManifest with
    tenants := (∅ : Table Text (List ObjectEntry)).insert "acme".toList
      [⟨['k'], sampleHash ['a'], 1⟩, ⟨['l'], sampleHash ['a'], 2⟩]
    objectStats := sampleStats 3
    streams := []
    natsStats := sampleStats 0 }

def resizedRepository : Repository :=
  upsertAll ∅ [(.point sampleID manifestName, ['m']), (.blob (sampleHash ['a']), ['a'])]

/-- A run commits a point over a damaged blob and the point does not verify; a manifest with
two sizes for a blob verifies and its restore meets a checksum failure. -/
theorem backup_not_restorable :
    Function.Injective (sampleHost sampleManifest).sha256 ∧
      run (sampleHost sampleManifest) damagedRepository sampleInput =
        some (sampleRun damagedRepository, sampleManifest) ∧
      verify (sampleHost sampleManifest) (sampleRun damagedRepository) [sampleBackup.name]
          sampleID =
        some ([.blobMismatch (sampleHash ['a']) "acme".toList ['k']], some sampleManifest) ∧
      verify (sampleHost resizedManifest) resizedRepository [sampleBackup.name] sampleID =
        some ([], some resizedManifest) ∧
      (restore (sampleHost resizedManifest) resizedRepository [sampleBackup.name] sampleID
        ⟨∅, ∅⟩).1 = .failed .checksum := by
  refine ⟨sampleHash_injective, rfl, rfl, rfl, rfl⟩

end CrossCodex.Backup
