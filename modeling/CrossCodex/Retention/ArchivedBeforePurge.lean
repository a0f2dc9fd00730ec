/-
Archiving before purging (pkg/retention/engine.go, archive.go, purge.go). A copy is complete
for as long as nobody adds to or changes what it was made of, which the purge does not
check.
-/

import CrossCodex.Retention.Scan

namespace CrossCodex.Retention

open Analyzer (Text)
open List Option

/-- The row is in one of the sets the document of the candidate is built from. -/
def Row.archivedWith (row : Row) (candidate : Candidate) : Bool :=
  (dbAggregateQueries candidate.dataClass).any fun sources =>
    sources.any fun source => row.selected candidate.tenantID candidate.id source

def purgeOnly : List TableName := [.embeddings, .llmResultCache]

variable {source : TableName × Column} {aggregate : DbAggregate}

theorem statement_archived {dataClass : DataClass}
    (found : dbAggregates dataClass = some aggregate) (mem : source ∈ aggregate.statements) :
    source.1 ∈ purgeOnly ∨
      ∃ sources, dbAggregateQueries dataClass = some sources ∧ source ∈ sources := by
  cases dataClass with
  | jobResults =>
    cases found
    revert source
    simp only [dbAggregateQueries, some.injEq, exists_eq_left']
    decide
  | catalogs =>
    cases found
    revert source
    simp only [dbAggregateQueries, some.injEq, exists_eq_left']
    decide
  | embeddings => cases found
  | attestation => cases found

variable {candidate : Candidate} {world next : World} {payload : Payload} {stage : Stage}
  {row : Row}

theorem archivedWith_of_selected (found : dbAggregates candidate.dataClass = some aggregate)
    (mem : source ∈ aggregate.statements)
    (selected : row.selected candidate.tenantID candidate.id source = true)
    (kept : row.table ∉ purgeOnly) : row.archivedWith candidate = true := by
  have table : row.table = source.1 := by
    simp only [Row.selected, Bool.and_eq_true, decide_eq_true_eq] at selected
    exact selected.1.1
  rcases statement_archived found mem with only | ⟨sources, queried, listed⟩
  · exact absurd (table ▸ only) kept
  · unfold Row.archivedWith
    rw [queried, any_some]
    exact any_eq_true.mpr ⟨source, listed, selected⟩

/-- The payload has everything of the candidate that is there now. -/
def Copied (world : World) (candidate : Candidate) (payload : Payload) : Prop :=
  match candidate.store with
  | .postgres => ∀ row ∈ world.rows, row.archivedWith candidate = true → row ∈ payload.rows
  | .object => ∀ object,
      world.objects.lookup (candidate.tenantID, candidate.objectKey) = some object →
        payload = .object object.bytes

theorem mem_serialize (serialized : world.serialize candidate = some payload)
    (mem : row ∈ world.rows) (archived : row.archivedWith candidate = true) :
    row ∈ payload.rows := by
  unfold World.serialize at serialized
  split at serialized
  · rename_i sources parent queried _
    simp only at serialized
    split at serialized
    · cases serialized
      unfold Row.archivedWith at archived
      rw [queried, any_some] at archived
      obtain ⟨source, listed, selected⟩ := any_eq_true.mp archived
      apply mem_flatMap.mpr
      refine ⟨_, mem_map_of_mem listed, ?_⟩
      exact mem_filter.mpr ⟨mem, selected⟩
    · cases serialized
  · cases serialized

theorem copied_read (reads : world.read candidate = some payload) :
    Copied world candidate payload := by
  unfold World.read at reads
  unfold Copied
  split at reads
  · rename_i stored
    rw [stored]
    intro object found
    rw [found, map_some] at reads
    exact (some.inj reads).symm
  · rename_i stored
    rw [stored]
    intro row mem archived
    exact mem_serialize reads mem archived

theorem Copied.mono (copied : Copied world candidate payload)
    (rows : ∀ row ∈ next.rows, row.archivedWith candidate = true → row ∈ world.rows)
    (objects : candidate.store = .object → ∀ object,
      next.objects.lookup (candidate.tenantID, candidate.objectKey) = some object →
        world.objects.lookup (candidate.tenantID, candidate.objectKey) = some object) :
    Copied next candidate payload := by
  unfold Copied at *
  split
  · rename_i stored
    rw [stored] at copied
    intro row mem archived
    exact copied row (rows row mem archived) archived
  · rename_i stored
    rw [stored] at copied
    intro object found
    exact copied object (objects stored object found)

def Phase.copied? : Phase → Option Candidate
  | .handling _ _ _ _ .reading => none
  | .handling _ _ candidate _ _ => some candidate
  | _ => none

/-- From the reading of a candidate to the end of its purge, no row is added to it or
changed in it and its object is not written. Rows may go. -/
def Undisturbed (world : World) : Event → Prop
  | .rewrites _ added => ∀ candidate ∈ world.phase.copied?, ∀ row ∈ added,
      row.archivedWith candidate = false
  | .puts tenantID key _ => ∀ candidate ∈ world.phase.copied?, candidate.store = .object →
      (tenantID, key) ≠ (candidate.tenantID, candidate.objectKey)
  | _ => True

instance (world : World) : ∀ event, Decidable (Undisturbed world event)
  | .rewrites _ added => inferInstanceAs (Decidable (∀ candidate ∈ world.phase.copied?,
      ∀ row ∈ added, row.archivedWith candidate = false))
  | .puts tenantID key _ => inferInstanceAs (Decidable (∀ candidate ∈ world.phase.copied?,
      candidate.store = .object → (tenantID, key) ≠ (candidate.tenantID, candidate.objectKey)))
  | .passes _ => isTrue trivial
  | .createsHold _ => isTrue trivial
  | .releasesHold _ _ => isTrue trivial
  | .removes _ _ => isTrue trivial
  | .begins _ _ _ _ => isTrue trivial
  | .advances => isTrue trivial
  | .stores _ => isTrue trivial
  | .fails => isTrue trivial
  | .aborts => isTrue trivial

def Verified (world : World) (candidate : Candidate) (payload : Payload) : Prop :=
  payload ∈ world.readBack ∧
    world.archive.lookup (candidate.tenantID, World.archiveKey candidate) = some payload

def Stage.Intact (world : World) (candidate : Candidate) : Stage → Prop
  | .reading => True
  | .storing payload => Copied world candidate payload
  | .verifying payload => Copied world candidate payload
  | .deleting payload statements removed =>
    Copied world candidate payload ∧ Verified world candidate payload ∧
      Stage.Fits candidate (.deleting payload statements removed)
  | .deletingObject payload =>
    Copied world candidate payload ∧ Verified world candidate payload ∧
      candidate.store = .object

def Intact (world : World) : Prop :=
  match world.phase with
  | .handling _ _ candidate _ stage => stage.Intact world candidate
  | _ => True

theorem Stage.Intact.mono (intact : stage.Intact world candidate)
    (archive : next.archive = world.archive) (readBack : next.readBack = world.readBack)
    (copied : stage ≠ .reading → ∀ payload, Copied world candidate payload →
      Copied next candidate payload) : stage.Intact next candidate := by
  have verified : ∀ payload, Verified world candidate payload → Verified next candidate payload := by
    intro payload held
    unfold Verified
    rw [archive, readBack]
    exact held
  cases stage with
  | reading => trivial
  | storing payload => exact copied (by simp) payload intact
  | verifying payload => exact copied (by simp) payload intact
  | deleting payload statements removed =>
    exact ⟨copied (by simp) payload intact.1, verified payload intact.2.1, intact.2.2⟩
  | deletingObject payload =>
    exact ⟨copied (by simp) payload intact.1, verified payload intact.2.1, intact.2.2⟩

theorem intact_congr (intact : Intact world) (phase : next.phase = world.phase)
    (archive : next.archive = world.archive) (readBack : next.readBack = world.readBack)
    (copied : ∀ candidate ∈ world.phase.copied?, ∀ payload, Copied world candidate payload →
      Copied next candidate payload) : Intact next := by
  unfold Intact at *
  rw [phase]
  cases at_ : world.phase with
  | handling scan holds candidate rest stage =>
    rw [at_] at intact copied
    apply Stage.Intact.mono intact archive readBack
    intro read
    apply copied
    cases stage <;> first | exact absurd rfl read | rfl
  | idle => trivial
  | loading scan => trivial
  | collecting scan holds collectors found => trivial
  | choosing scan holds candidates => trivial

theorem handle_intact {scan : Scan} {holds : List Hold} {rest : List Candidate}
    (intact : stage.Intact world candidate) :
    Intact (world.handle scan holds candidate rest stage) := by
  cases stage with
  | reading =>
    simp only [World.handle]
    split
    · trivial
    · rename_i payload reads
      exact copied_read reads
  | storing payload => exact intact
  | verifying payload =>
    simp only [World.handle]
    split
    · rename_i returned
      split
      · trivial
      · rename_i stage starts
        have verified : Verified { world with
            readBack := payload :: world.readBack
            phase := .handling scan holds candidate rest stage } candidate payload :=
          ⟨mem_cons_self, returned⟩
        have fits := World.purgeStage_fits starts
        unfold World.purgeStage at starts
        split at starts
        · cases starts
          exact ⟨intact, verified, fits⟩
        · obtain ⟨aggregate, _, rfl⟩ := map_eq_some_iff.mp starts
          exact ⟨intact, verified, fits⟩
    · trivial
  | deleting payload statements removed =>
    cases statements with
    | nil => trivial
    | cons source more =>
      obtain ⟨copied, verified, stored, aggregate, found, all⟩ := intact
      refine ⟨?_, verified, stored, aggregate, found, ?_⟩
      · apply copied.mono
        · intro row mem _
          exact mem_of_mem_filter mem
        · intro _ object found
          exact found
      · intro other later
        exact all other (mem_cons_of_mem _ later)
  | deletingObject payload => trivial

theorem Intact.step {event : Event} (intact : Intact world)
    (undisturbed : Undisturbed world event) (stepped : world.step event = some next) :
    Intact next := by
  cases event with
  | passes time => cases stepped; exact intact_congr intact rfl rfl rfl fun _ _ _ copied => copied
  | createsHold hold =>
    simp only [World.step] at stepped
    split at stepped
    · cases stepped; exact intact_congr intact rfl rfl rfl fun _ _ _ copied => copied
    · cases stepped
  | releasesHold tenantID name =>
    cases stepped; exact intact_congr intact rfl rfl rfl fun _ _ _ copied => copied
  | rewrites removed added =>
    cases stepped
    refine intact_congr intact rfl rfl rfl ?_
    intro candidate current payload copied
    apply copied.mono
    · intro row mem archived
      rcases mem_append.mp mem with old | new
      · exact mem_of_mem_filter old
      · rw [undisturbed candidate current row new] at archived
        cases archived
    · intro _ object found
      exact found
  | puts tenantID key object =>
    cases stepped
    refine intact_congr intact rfl rfl rfl ?_
    intro candidate current payload copied
    apply copied.mono
    · intro row mem _
      exact mem
    · intro stored other found
      have apart := undisturbed candidate current stored
      rw [Library.lookup_insert_eq, if_neg apart] at found
      exact found
  | removes tenantID key =>
    cases stepped
    refine intact_congr intact rfl rfl rfl ?_
    intro candidate current payload copied
    apply copied.mono
    · intro row mem _
      exact mem
    · intro stored other found
      by_cases same : (candidate.tenantID, candidate.objectKey) = (tenantID, key)
      · rw [same, AList.lookup_erase] at found
        cases found
      · rw [AList.lookup_erase_ne same] at found
        exact found
  | begins tenantID userID policy dryRun =>
    simp only [World.step] at stepped
    split at stepped
    · cases stepped; trivial
    · cases stepped
  | advances =>
    simp only [World.step, World.advance] at stepped
    split at stepped
    · cases stepped
    · cases stepped; trivial
    · cases stepped; trivial
    · cases stepped; trivial
    · cases stepped; trivial
    · split at stepped
      · cases stepped; trivial
      · cases stepped; trivial
    · rename_i phase
      cases stepped
      unfold Intact at intact
      rw [phase] at intact
      exact handle_intact intact
  | stores kept =>
    simp only [World.step, World.store] at stepped
    split at stepped
    · rename_i phase
      cases stepped
      unfold Intact at intact
      rw [phase] at intact
      exact intact
    · cases stepped
  | fails =>
    simp only [World.step, World.fail] at stepped
    split at stepped
    · cases stepped; trivial
    · cases stepped; trivial
    · cases stepped; trivial
    · cases stepped
  | aborts => cases stepped; trivial

/-- A row is in a document the archive returned, or its table is not archived; an object is
in the archive under its key. -/
def World.Preserves (world : World) : Piece → Prop
  | .row row => row.table ∈ purgeOnly ∨ ∃ payload ∈ world.readBack, row ∈ payload.rows
  | .object tenantID key object =>
    world.archive.lookup (tenantID, key) = some (.object object.bytes)

instance (world : World) : ∀ piece, Decidable (world.Preserves piece)
  | .row row => inferInstanceAs
      (Decidable (row.table ∈ purgeOnly ∨ ∃ payload ∈ world.readBack, row ∈ payload.rows))
  | .object tenantID key object => inferInstanceAs
      (Decidable (world.archive.lookup (tenantID, key) = some (.object object.bytes)))

/-- Where nobody writes to a candidate between its reading and its purge, whatever a purge
takes was archived before, as it was when it was taken. -/
theorem purged_was_archived {start world next : World} {events : List Event}
    (idle : start.phase = .idle) (undisturbed : Library.Along World.step Undisturbed start events)
    (ran : Library.run World.step start events = some world)
    {scan : Scan} {candidate : Candidate} {piece : Piece}
    (purges : world.Purges next scan candidate piece) : world.Preserves piece := by
  have begun : Intact start := by
    unfold Intact
    rw [idle]
    trivial
  have intact : Intact world := Library.run_invariant_along
    (fun _ _ _ intact quiet stepped => Intact.step intact quiet stepped) begun undisturbed ran
  have had := purges.had
  unfold Intact at intact
  rcases purges.cases with ⟨row, rfl, _, _, payload, source, more, removed, phase, selected⟩ |
    ⟨object, rfl, _, _, payload, phase⟩
  · rw [phase] at intact
    obtain ⟨copied, verified, stored, aggregate, found, all⟩ := intact
    by_cases only : row.table ∈ purgeOnly
    · exact .inl only
    · have archived := archivedWith_of_selected found (all source mem_cons_self) selected only
      unfold Copied at copied
      rw [stored] at copied
      exact .inr ⟨payload, verified.1, copied row had archived⟩
  · rw [phase] at intact
    obtain ⟨copied, verified, stored⟩ := intact
    unfold Copied at copied
    rw [stored] at copied
    have kept := verified.2
    unfold World.archiveKey at kept
    rw [stored, copied object had] at kept
    exact kept

namespace ImportRun

def catalog : Row :=
  { table := .catalogs, tenantID := "t".toList, jobID := [], catalogID := "c".toList,
    sourceCatalogID := [], targetCatalogID := [], status := [], createdBy := [], createdAt := 1,
    content := [] }

def control (content : Text) : Row :=
  { table := .controls, tenantID := "t".toList, jobID := [], catalogID := "c".toList,
    sourceCatalogID := [], targetCatalogID := [], status := [], createdBy := [], createdAt := 1,
    content }

def key : Text := "attestation/ab.json".toList

def start : World :=
  { clock := 100
    holds := []
    rows := [catalog, control "ac-1".toList]
    objects := AList.singleton ("t".toList, key) ⟨"old".toList, 1⟩
    archive := ∅
    readBack := []
    phase := .idle }

def begins : Event := .begins "t".toList [] ⟨fun _ _ => some 10⟩ false

def scan : Scan := ⟨"t".toList, [], ⟨fun _ _ => some 10⟩, 100, false⟩

def catalogCandidate : Candidate := ⟨.postgres, .catalogs, "c".toList, "t".toList, 1, []⟩

def objectCandidate : Candidate := ⟨.object, .attestation, key, "t".toList, 1, key⟩

def alone (actions : Nat) : List Event := begins :: List.replicate actions .advances

def imported (actions : Nat) : List Event :=
  alone 7 ++ [.rewrites [] [control "ac-2".toList]] ++ List.replicate actions .advances

def rewritten (actions : Nat) : List Event :=
  imported 11 ++ [.puts "t".toList key ⟨"new".toList, 100⟩] ++
    List.replicate actions .advances

def after (events : List Event) : World := (Library.run World.step start events).getD start

theorem purges_control :
    (after (alone 11)).Purges (after (alone 12)) scan catalogCandidate
      (.row (control "ac-1".toList)) where
  works := rfl
  handles := ⟨_, _, _, rfl⟩
  had := by decide +kernel
  gone := by decide +kernel

end ImportRun

open ImportRun in
theorem purged_control_was_archived :
    (after (alone 11)).Preserves (.row (control "ac-1".toList)) := by
  have ran : Library.run World.step start (alone 11) = some (after (alone 11)) := rfl
  exact purged_was_archived rfl (by decide +kernel) ran purges_control

open ImportRun in
/-- The control that the import added is purged and in no document; the object is purged as
it was written last, and the archive has what was read. -/
theorem purged_unarchived :
    ((after (imported 4)).Purges (after (imported 5)) scan catalogCandidate
        (.row (control "ac-2".toList)) ∧
      ¬(after (imported 4)).Preserves (.row (control "ac-2".toList))) ∧
    (after (rewritten 2)).Purges (after (rewritten 3)) scan objectCandidate
        (.object "t".toList key ⟨"new".toList, 100⟩) ∧
      ¬(after (rewritten 2)).Preserves (.object "t".toList key ⟨"new".toList, 100⟩) := by
  refine ⟨⟨⟨rfl, ⟨_, _, _, rfl⟩, ?_, ?_⟩, ?_⟩, ⟨rfl, ⟨_, _, _, rfl⟩, ?_, ?_⟩, ?_⟩ <;>
    decide +kernel

end CrossCodex.Retention
