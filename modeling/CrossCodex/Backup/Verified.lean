/-
What a verification without issues says about the repository, and that a restore of a
verified point goes through and leaves what the manifest records.
-/

import CrossCodex.Backup.Point

namespace CrossCodex.Backup

open Analyzer (Text)
open Library (Table upsertAll lastRow)
open ResultCache (byteLength)
open List

variable {host : Host} {repo : Repository}

def Matches (host : Host) (content sum : Text) (size : Int) : Prop :=
  host.sha256 content = sum ∧ (byteLength content : Int) = size

def Intact (host : Host) (opened : Except OpenFailure Text) (sum : Text) (size : Int) : Prop :=
  ∃ content, opened = .ok content ∧ Matches host content sum size

variable {opened : Except OpenFailure Text} {tenants : Table Text (List ObjectEntry)}
  {tenantID sum : Text} {size : Int} {entry : ObjectEntry}

theorem contentIssues_eq_nil {missing mismatch : Issue} :
    contentIssues host opened sum size missing mismatch = some [] ↔
      Intact host opened sum size := by
  rcases opened with failure | content
  · cases failure <;> simp [contentIssues, Intact]
  · by_cases recorded : host.sha256 content = sum ∧ (byteLength content : Int) = size
    · simp [contentIssues, Intact, Matches, recorded.1, recorded.2]
    · have differs : host.sha256 content ≠ sum ∨ (byteLength content : Int) ≠ size := by
        rw [Ne, Ne, ← not_and_or]
        exact recorded
      simp [contentIssues, Intact, Matches, differs, recorded]

def contentOf : Except OpenFailure Text → Text
  | .ok content => content
  | .error _ => []

theorem Intact.matches (intact : Intact host opened sum size) :
    Matches host (contentOf opened) sum size := by
  obtain ⟨content, rfl, recorded⟩ := intact
  exact recorded

theorem checkedContent_of_intact (intact : Intact host opened sum size) :
    checkedContent host opened sum size = .ok (contentOf opened) := by
  obtain ⟨content, rfl, recorded⟩ := intact
  simp [checkedContent, contentOf, recorded.1, recorded.2]

theorem gather_eq_nil {Item : Type} {issues : Item → Option (List Issue)} {items : List Item} :
    gather issues items = some [] ↔ ∀ item ∈ items, issues item = some [] := by
  induction items with
  | nil => simp [gather]
  | cons item rest ih =>
    rw [forall_mem_cons, ← ih, gather]
    cases issues item with
    | none => simp
    | some here =>
      cases gather issues rest with
      | none => simp
      | some later => simp

theorem mem_objectEntries :
    (tenantID, entry) ∈ objectEntries tenants ↔
      ∃ entries, tenants.lookup tenantID = some entries ∧ entry ∈ entries := by
  constructor
  · intro listed
    obtain ⟨owner, _, inOwner⟩ := mem_flatMap.mp listed
    obtain ⟨found, mem, same⟩ := mem_map.mp inOwner
    cases same
    cases held : tenants.lookup tenantID with
    | none => rw [held] at mem; cases mem
    | some entries =>
      rw [held] at mem
      exact ⟨entries, rfl, mem⟩
  · intro recorded
    obtain ⟨entries, held, mem⟩ := recorded
    have known : tenantID ∈ tenants.keys := by
      apply AList.lookup_isSome.mp
      rw [held]
      rfl
    apply mem_flatMap.mpr
    refine ⟨tenantID, (mem_insertionSort _).mpr known, ?_⟩
    rw [held]
    exact mem_map_of_mem mem

variable {references : List (Text × ObjectEntry)} {reference : Text × ObjectEntry}

theorem mem_of_mem_firstReferences (first : reference ∈ firstReferences references) :
    reference ∈ references := by
  induction references with
  | nil => cases first
  | cons head rest ih =>
    rcases mem_cons.mp first with rfl | later
    · exact mem_cons_self
    · exact mem_cons_of_mem _ (ih (mem_of_mem_filter later))

theorem exists_firstReference (mem : reference ∈ references) :
    ∃ first ∈ firstReferences references, first.2.sha256 = reference.2.sha256 := by
  induction references with
  | nil => cases mem
  | cons head rest ih =>
    by_cases same : head.2.sha256 = reference.2.sha256
    · exact ⟨head, mem_cons_self, same⟩
    · rcases mem_cons.mp mem with rfl | later
      · exact absurd rfl same
      · obtain ⟨first, listed, shares⟩ := ih later
        refine ⟨first, mem_cons_of_mem _ (mem_filter.mpr ⟨listed, ?_⟩), shares⟩
        exact decide_eq_true fun equal => same (equal.symm.trans shares)

def BlobIntact (host : Host) (repo : Repository) (entry : ObjectEntry) : Prop :=
  Intact host (repo.openBlob entry.sha256) entry.sha256 entry.size

def FileIntact (host : Host) (repo : Repository) (id stream : Text) (file : StreamFile) : Prop :=
  Intact host (repo.openStreamFile id stream file.name) file.sha256 file.size

theorem verifyObjects_eq_nil :
    verifyObjects host repo tenants = some [] ↔
      ∀ reference ∈ firstReferences (objectEntries tenants), BlobIntact host repo reference.2 := by
  rw [verifyObjects, gather_eq_nil]
  constructor
  · intro passes reference first
    exact contentIssues_eq_nil.mp (passes reference ((mem_insertionSort _).mpr first))
  · intro intact reference sorted
    exact contentIssues_eq_nil.mpr (intact reference ((mem_insertionSort _).mp sorted))

variable {id : Text}

theorem verifyStreams_eq_nil {streams : List StreamCapture} :
    verifyStreams host repo id streams = some [] ↔
      ∀ capture ∈ streams, ∀ file ∈ capture.files, FileIntact host repo id capture.stream file := by
  rw [verifyStreams, gather_eq_nil]
  constructor
  · intro passes capture mem file listed
    have inAll : (capture.stream, file) ∈ streams.flatMap fun capture =>
        capture.files.map fun file => (capture.stream, file) :=
      mem_flatMap.mpr ⟨capture, mem, mem_map_of_mem listed⟩
    exact contentIssues_eq_nil.mp (passes _ inAll)
  · intro intact item inAll
    obtain ⟨capture, mem, inFiles⟩ := mem_flatMap.mp inAll
    obtain ⟨file, listed, rfl⟩ := mem_map.mp inFiles
    exact contentIssues_eq_nil.mpr (intact capture mem file listed)

structure Verifies (host : Host) (repo : Repository) (walgBackups : List Text) (id : Text)
    (manifest : Manifest) : Prop where
  loaded : loadManifest host repo id = .ok manifest
  baseBackup : manifest.postgres.backupName ∈ walgBackups
  blobs : ∀ reference ∈ firstReferences (objectEntries manifest.tenants),
    BlobIntact host repo reference.2
  files : ∀ capture ∈ manifest.streams, ∀ file ∈ capture.files,
    FileIntact host repo id capture.stream file

variable {manifest : Manifest} {walgBackups : List Text} {captures : List StreamCapture}
  {files : List StreamFile}

theorem verifyPoint_passes_iff :
    verifyPoint host repo walgBackups id = some ([], some manifest) ↔
      Verifies host repo walgBackups id manifest := by
  constructor
  · intro passes
    rw [verifyPoint] at passes
    split at passes
    · cases passes
    · cases passes
    · next found loaded =>
      split at passes
      · next objects streams checkedObjects checkedStreams =>
        obtain ⟨noIssue, same⟩ := Prod.mk.inj (Option.some.inj passes)
        cases same
        obtain ⟨base, none⟩ := append_eq_nil_iff.mp noIssue
        obtain ⟨present, rfl⟩ := append_eq_nil_iff.mp base
        subst none
        refine ⟨loaded, ?_, verifyObjects_eq_nil.mp checkedObjects,
          verifyStreams_eq_nil.mp checkedStreams⟩
        by_contra missing
        rw [if_neg missing] at present
        cases present
      · cases passes
  · intro verifies
    rw [verifyPoint, verifies.loaded]
    simp only [verifyObjects_eq_nil.mpr verifies.blobs, verifyStreams_eq_nil.mpr verifies.files,
      if_pos verifies.baseBackup, append_nil]

theorem verify_passes_iff :
    verify host repo walgBackups id = some ([], some manifest) ↔
      (∃ ids, repo.complete = some ids ∧ id ∈ ids) ∧
        Verifies host repo walgBackups id manifest := by
  rw [← verifyPoint_passes_iff, verify]
  cases repo.complete with
  | none => simp
  | some ids =>
    by_cases listed : id ∈ ids
    · simp [listed]
    · simp [listed]

theorem loadManifest_valid (loaded : loadManifest host repo id = .ok manifest) :
    manifest.valid = true := by
  rw [loadManifest] at loaded
  split at loaded
  · split at loaded
    · cases loaded
    · split at loaded
      · cases loaded
      · next found decoded =>
        split at loaded
        · cases loaded
          rw [Host.decode] at decoded
          split at decoded
          · cases decoded
          · exact (Option.filter_eq_some_iff.mp decoded).2
        · cases loaded
  · cases loaded

theorem Manifest.entry_unique (valid : manifest.valid = true) {first second : ObjectEntry}
    (inFirst : (tenantID, first) ∈ objectEntries manifest.tenants)
    (inSecond : (tenantID, second) ∈ objectEntries manifest.tenants)
    (sameKey : first.key = second.key) : first = second := by
  obtain ⟨entries, held, firstMember⟩ := mem_objectEntries.mp inFirst
  obtain ⟨others, heldAgain, secondMember⟩ := mem_objectEntries.mp inSecond
  cases held.symm.trans heldAgain
  simp only [Manifest.valid, Bool.and_eq_true, all_eq_true] at valid
  have checked := valid.1.1.1.1.2 _ (AList.mem_lookup_iff.mp held)
  simp only [validEntries, Bool.and_eq_true, decide_eq_true_eq] at checked
  exact inj_on_of_nodup_map checked.1.2 firstMember secondMember sameKey

theorem Manifest.stream_nodup (valid : manifest.valid = true) :
    (manifest.streams.map StreamCapture.stream).Nodup := by
  simp only [Manifest.valid, Bool.and_eq_true, decide_eq_true_eq] at valid
  exact valid.1.1.2

/-- Entries that share a blob record one size for it. -/
def Manifest.OneSize (manifest : Manifest) : Prop :=
  ∀ first ∈ objectEntries manifest.tenants, ∀ second ∈ objectEntries manifest.tenants,
    first.2.sha256 = second.2.sha256 → first.2.size = second.2.size

theorem Verifies.blobIntact (verifies : Verifies host repo walgBackups id manifest)
    (oneSize : manifest.OneSize) (mem : reference ∈ objectEntries manifest.tenants) :
    BlobIntact host repo reference.2 := by
  obtain ⟨first, listed, shares⟩ := exists_firstReference mem
  have intact := verifies.blobs first listed
  have sizes := oneSize first (mem_of_mem_firstReferences listed) reference mem shares
  rw [BlobIntact, shares, sizes] at intact
  exact intact

theorem Verifies.oneSize_iff (verifies : Verifies host repo walgBackups id manifest) :
    manifest.OneSize ↔
      ∀ reference ∈ objectEntries manifest.tenants, BlobIntact host repo reference.2 := by
  constructor
  · intro oneSize reference mem
    exact verifies.blobIntact oneSize mem
  · intro intact first inFirst second inSecond shares
    have firstSize := (intact first inFirst).matches.2
    have secondSize := (intact second inSecond).matches.2
    rw [shares] at firstSize
    exact firstSize.symm.trans secondSize

/-- Whatever size an entry records, the blob it names is there and has the hash. -/
theorem Verifies.hashed (verifies : Verifies host repo walgBackups id manifest)
    (mem : reference ∈ objectEntries manifest.tenants) :
    ∃ content, repo.openBlob reference.2.sha256 = .ok content ∧
      host.sha256 content = reference.2.sha256 := by
  obtain ⟨first, listed, shares⟩ := exists_firstReference mem
  obtain ⟨content, opened, recorded⟩ := verifies.blobs first listed
  rw [shares] at opened recorded
  exact ⟨content, opened, recorded.1⟩

def objectWrite (repo : Repository) (reference : Text × ObjectEntry) : (Text × Text) × Text :=
  ((reference.1, reference.2.key), contentOf (repo.openBlob reference.2.sha256))

theorem restoreObjects_of_intact (objects : Table (Text × Text) Text)
    (intact : ∀ reference ∈ references, BlobIntact host repo reference.2) :
    restoreObjects host repo objects references =
      (none, upsertAll objects (references.map (objectWrite repo))) := by
  induction references generalizing objects with
  | nil => rfl
  | cons reference rest ih =>
    rw [forall_mem_cons] at intact
    obtain ⟨tenantID, entry⟩ := reference
    simp only [restoreObjects, checkedContent_of_intact intact.1]
    exact ih _ intact.2

theorem restoreObjects_checksum (objects : Table (Text × Text) Text)
    (hashed : ∀ reference ∈ references, ∃ content,
      repo.openBlob reference.2.sha256 = .ok content ∧ host.sha256 content = reference.2.sha256)
    (broken : ∃ reference ∈ references, ¬ BlobIntact host repo reference.2) :
    (restoreObjects host repo objects references).1 = some .checksum := by
  induction references generalizing objects with
  | nil =>
    obtain ⟨_, mem, _⟩ := broken
    cases mem
  | cons reference rest ih =>
    rw [forall_mem_cons] at hashed
    rw [exists_mem_cons_iff] at broken
    obtain ⟨tenantID, entry⟩ := reference
    by_cases intact : BlobIntact host repo entry
    · simp only [restoreObjects, checkedContent_of_intact intact]
      exact ih _ hashed.2 (broken.resolve_left fun fails => fails intact)
    · obtain ⟨content, opened, sum⟩ := hashed.1
      have size : (byteLength content : Int) ≠ entry.size :=
        fun same => intact ⟨content, opened, sum, same⟩
      simp only [restoreObjects, opened, checkedContent, if_pos (Or.inr size)]

def snapshotOf (repo : Repository) (id stream : Text) (files : List StreamFile) :
    List (Text × Text) :=
  files.map fun file => (file.name, contentOf (repo.openStreamFile id stream file.name))

theorem downloadFiles_of_intact {id stream : Text}
    (intact : ∀ file ∈ files, FileIntact host repo id stream file) :
    downloadFiles host repo id stream files = .ok (snapshotOf repo id stream files) := by
  induction files with
  | nil => rfl
  | cons file rest ih =>
    rw [forall_mem_cons] at intact
    simp only [downloadFiles, checkedContent_of_intact intact.1, ih intact.2]
    rfl

/-- JetStream takes the stored files of every stream back to the recorded state. -/
def Replays (host : Host) (repo : Repository) (id : Text) (captures : List StreamCapture) : Prop :=
  ∀ capture ∈ captures,
    host.replay capture.stream (snapshotOf repo id capture.stream capture.files) =
      some capture.state

def streamWrite (repo : Repository) (id : Text) (capture : StreamCapture) :
    Text × List (Text × Text) :=
  (capture.stream, snapshotOf repo id capture.stream capture.files)

/-- What else can stop the restoring of streams whose files are intact is JetStream. -/
theorem restoreStreams_cases (streams : Table Text (List (Text × Text)))
    (intact : ∀ capture ∈ captures, ∀ file ∈ capture.files,
      FileIntact host repo id capture.stream file) :
    (Replays host repo id captures ∧ restoreStreams host repo id streams captures =
      (none, upsertAll streams (captures.map (streamWrite repo id)))) ∨
    ¬ Replays host repo id captures ∧ ∃ failure left, failure ≠ .checksum ∧
      restoreStreams host repo id streams captures = (some failure, left) := by
  induction captures generalizing streams with
  | nil => exact .inl ⟨fun _ mem => (not_mem_nil mem).elim, rfl⟩
  | cons capture rest ih =>
    rw [forall_mem_cons] at intact
    simp only [Replays, forall_mem_cons, restoreStreams, downloadFiles_of_intact intact.1]
    cases replayed : host.replay capture.stream
        (snapshotOf repo id capture.stream capture.files) with
    | none => exact .inr ⟨by simp, .snapshotRefused capture.stream, _, by simp, rfl⟩
    | some state =>
      by_cases same : state = capture.state
      · simp only [same, true_and, ne_eq, not_true_eq_false, if_false]
        exact ih _ intact.2
      · simp only [if_pos same]
        exact .inr ⟨fun both => same (Option.some.inj both.1), .stateMismatch capture.stream, _,
          by simp, rfl⟩

/-- The target holds the manifest's objects and stream files as recorded, and no others. -/
structure Target.Reproduces (host : Host) (manifest : Manifest) (target : Target) : Prop where
  object : ∀ tenantID entries entry, manifest.tenants.lookup tenantID = some entries →
    entry ∈ entries → ∃ content, target.objects.lookup (tenantID, entry.key) = some content ∧
      Matches host content entry.sha256 entry.size
  objectRecorded : ∀ tenantID key, (tenantID, key) ∈ target.objects →
    ∃ entries entry, manifest.tenants.lookup tenantID = some entries ∧ entry ∈ entries ∧
      entry.key = key
  stream : ∀ capture ∈ manifest.streams, ∃ files,
    target.streams.lookup capture.stream = some files ∧
      List.Forall₂ (fun file stored => stored.1 = file.name ∧
        Matches host stored.2 file.sha256 file.size) capture.files files
  streamRecorded : ∀ stream, stream ∈ target.streams →
    ∃ capture ∈ manifest.streams, capture.stream = stream

theorem lookup_upsertAll_empty {Key Row : Type} [DecidableEq Key] (batch : List (Key × Row))
    (key : Key) :
    (upsertAll (∅ : Table Key Row) batch).lookup key = lastRow batch key := by
  rw [Library.lookup_upsertAll, AList.lookup_empty, Option.or_none]

theorem lookup_restored_object (valid : manifest.valid = true)
    (mem : (tenantID, entry) ∈ objectEntries manifest.tenants) :
    (upsertAll (∅ : Table (Text × Text) Text)
      ((objectEntries manifest.tenants).map (objectWrite repo))).lookup (tenantID, entry.key) =
        some (contentOf (repo.openBlob entry.sha256)) := by
  rw [lookup_upsertAll_empty]
  cases written : lastRow ((objectEntries manifest.tenants).map (objectWrite repo))
      (tenantID, entry.key) with
  | none =>
    have absent := Library.lastRow_eq_none.mp written
    rw [map_map] at absent
    exact absurd (mem_map.mpr ⟨(tenantID, entry), mem, rfl⟩) absent
  | some content =>
    obtain ⟨other, inOther, same⟩ := mem_map.mp (Library.mem_of_lastRow written)
    obtain ⟨place, rfl⟩ := Prod.mk.inj same
    obtain ⟨owner, sameKey⟩ := Prod.mk.inj place
    obtain ⟨otherID, otherEntry⟩ := other
    cases owner
    cases Manifest.entry_unique valid inOther mem sameKey
    rfl

theorem lookup_restored_stream (valid : manifest.valid = true) {capture : StreamCapture}
    (mem : capture ∈ manifest.streams) :
    (upsertAll (∅ : Table Text (List (Text × Text)))
      (manifest.streams.map (streamWrite repo id))).lookup capture.stream =
        some (snapshotOf repo id capture.stream capture.files) := by
  have nodup : ((manifest.streams.map (streamWrite repo id)).map Prod.fst).Nodup := by
    rw [map_map]
    exact Manifest.stream_nodup valid
  rw [lookup_upsertAll_empty, Library.lastRow_eq_firstRow nodup]
  exact Library.firstRow_of_mem nodup (mem_map.mpr ⟨capture, mem, rfl⟩)

theorem snapshotOf_matches {id stream : Text}
    (intact : ∀ file ∈ files, FileIntact host repo id stream file) :
    List.Forall₂ (fun file stored => stored.1 = file.name ∧
      Matches host stored.2 file.sha256 file.size) files (snapshotOf repo id stream files) := by
  induction files with
  | nil => exact List.Forall₂.nil
  | cons file rest ih =>
    rw [forall_mem_cons] at intact
    exact List.Forall₂.cons ⟨rfl, intact.1.matches⟩ (ih intact.2)

def restoredTarget (repo : Repository) (id : Text) (manifest : Manifest) : Target where
  objects := upsertAll ∅ ((objectEntries manifest.tenants).map (objectWrite repo))
  streams := upsertAll ∅ (manifest.streams.map (streamWrite repo id))

theorem restoredTarget_reproduces (verifies : Verifies host repo walgBackups id manifest)
    (oneSize : manifest.OneSize) : (restoredTarget repo id manifest).Reproduces host manifest := by
  have valid := loadManifest_valid verifies.loaded
  constructor
  case object =>
    intro tenantID entries entry held mem
    have listed := mem_objectEntries.mpr ⟨entries, held, mem⟩
    exact ⟨_, lookup_restored_object valid listed, (verifies.blobIntact oneSize listed).matches⟩
  case objectRecorded =>
    intro tenantID key present
    rcases Library.mem_upsertAll.mp present with written | before
    · rw [map_map] at written
      obtain ⟨⟨owner, entry⟩, listed, same⟩ := mem_map.mp written
      cases same
      obtain ⟨entries, held, mem⟩ := mem_objectEntries.mp listed
      exact ⟨entries, entry, held, mem, rfl⟩
    · exact absurd before (AList.notMem_empty _)
  case stream =>
    intro capture mem
    exact ⟨_, lookup_restored_stream valid mem,
      snapshotOf_matches (verifies.files capture mem)⟩
  case streamRecorded =>
    intro stream present
    rcases Library.mem_upsertAll.mp present with written | before
    · rw [map_map] at written
      obtain ⟨capture, mem, same⟩ := mem_map.mp written
      exact ⟨capture, mem, same⟩
    · exact absurd before (AList.notMem_empty _)

section

variable (passes : verify host repo walgBackups id = some ([], some manifest))
include passes

theorem restore_eq_restorePoint :
    restore host repo walgBackups id ⟨∅, ∅⟩ = restorePoint host repo id manifest ⟨∅, ∅⟩ := by
  have noObjects : preflightObjects manifest.tenants ∅ = none := by
    apply find?_eq_none.mpr
    intro tenantID _
    simp
  have noStreams : preflightStreams manifest.streams ∅ = none := by
    apply find?_eq_none.mpr
    intro stream _
    simp
  simp only [restore, passes, noObjects, noStreams, ne_eq, not_true_eq_false, if_false]

theorem restore_checksum (sizes : ¬ manifest.OneSize) :
    (restore host repo walgBackups id ⟨∅, ∅⟩).1 = .failed .checksum := by
  have verifies := (verify_passes_iff.mp passes).2
  rw [verifies.oneSize_iff] at sizes
  push Not at sizes
  have failed := restoreObjects_checksum (∅ : Table (Text × Text) Text)
    (fun reference mem => verifies.hashed mem) sizes
  rw [restore_eq_restorePoint passes, restorePoint]
  split
  · next failure objects ended =>
    rw [ended] at failed
    cases failed
    rfl
  · next objects ended =>
    rw [ended] at failed
    cases failed

theorem restore_cases (oneSize : manifest.OneSize) :
    (Replays host repo id manifest.streams ∧
      restore host repo walgBackups id ⟨∅, ∅⟩ = (.restored, restoredTarget repo id manifest)) ∨
    ¬ Replays host repo id manifest.streams ∧ ∃ failure target, failure ≠ .checksum ∧
      restore host repo walgBackups id ⟨∅, ∅⟩ = (.failed failure, target) := by
  have verifies := (verify_passes_iff.mp passes).2
  simp only [restore_eq_restorePoint passes, restorePoint,
    restoreObjects_of_intact ∅ (verifies.oneSize_iff.mp oneSize)]
  rcases restoreStreams_cases ∅ verifies.files with ⟨replays, ended⟩ | ⟨refused, failed⟩
  · rw [ended]
    exact .inl ⟨replays, rfl⟩
  · obtain ⟨failure, left, other, ended⟩ := failed
    rw [ended]
    exact .inr ⟨refused, failure, _, other, rfl⟩

theorem restore_ne_checksum_iff :
    (restore host repo walgBackups id ⟨∅, ∅⟩).1 ≠ .failed .checksum ↔ manifest.OneSize := by
  constructor
  · intro noFailure
    by_contra differ
    exact noFailure (restore_checksum passes differ)
  · intro oneSize
    rcases restore_cases passes oneSize with ⟨_, restored⟩ | ⟨_, failure, _, other, failed⟩
    · rw [restored]
      nofun
    · rw [failed]
      exact fun same => other (Outcome.failed.inj same)

theorem restore_reproduces_iff :
    (∃ target, restore host repo walgBackups id ⟨∅, ∅⟩ = (.restored, target) ∧
        target.Reproduces host manifest) ↔
      manifest.OneSize ∧ Replays host repo id manifest.streams := by
  constructor
  · rintro ⟨target, restored, _⟩
    have oneSize : manifest.OneSize := by
      rw [← restore_ne_checksum_iff passes, restored]
      nofun
    rcases restore_cases passes oneSize with ⟨replays, _⟩ | ⟨_, _, _, _, failed⟩
    · exact ⟨oneSize, replays⟩
    · cases restored.symm.trans failed
  · rintro ⟨oneSize, replays⟩
    obtain ⟨_, restored⟩ := (restore_cases passes oneSize).resolve_right fun refused =>
      refused.1 replays
    exact ⟨_, restored, restoredTarget_reproduces (verify_passes_iff.mp passes).2 oneSize⟩

end

theorem restorePoint_not_refused {target after : Target} {refusal : Refusal}
    (outcome : restorePoint host repo id manifest target = (.refused refusal, after)) : False := by
  rw [restorePoint] at outcome
  split at outcome
  · cases outcome
  · split at outcome
    · cases outcome
    · cases outcome

theorem restore_refused_unchanged {target after : Target} {refusal : Refusal}
    (outcome : restore host repo walgBackups id target = (.refused refusal, after)) :
    after = target := by
  rw [restore] at outcome
  split at outcome
  · cases outcome
    rfl
  · cases outcome
    rfl
  · split at outcome
    · cases outcome
      rfl
    · split at outcome
      · cases outcome
        rfl
      · split at outcome
        · cases outcome
          rfl
        · exact (restorePoint_not_refused outcome).elim

end CrossCodex.Backup
