/-
What a writer without the signing key can make of the cache record that a link pins. A null
pointer is refused only over checkpoints whose rows match, so it is enough to change the
rows as well.
-/

import CrossCodex.Pipeline.AttestedCompletion

namespace CrossCodex.Pipeline

open Library ResultCache Function List

theorem pathSegment_of_canonical {id : Text} (canonical : canonicalAttempt id = true) :
    pathSegment id = true := by
  have long := length_of_canonical canonical
  have other : ∀ fixed : Text, fixed.length < 36 → id ≠ fixed := by
    rintro fixed short rfl
    omega
  simp only [pathSegment, Bool.and_eq_true, decide_eq_true_eq, all_eq_true]
  refine ⟨⟨⟨other _ (by decide), other _ (by decide)⟩, other _ (by decide)⟩, ?_⟩
  intro character mem
  rcases plain_of_canonical canonical mem with rfl | hex
  · decide
  · refine ⟨⟨?_, ?_⟩, ?_⟩ <;> rintro rfl <;> exact absurd hex (by decide)

namespace AttestedJob

variable {sha256 : Bytes → Text} {state next : AttestedJob} {event : AttestedEvent}

structure History (state : AttestedJob) : Prop where
  own : ∀ sealed ∈ state.seals, sealed.record.jobID = state.identity.jobID ∧
    canonicalAttempt sealed.record.attempt = true
  current : ∀ execution, state.execution = some execution →
    ∀ entry ∈ execution.cacheRuns, state.completedIn entry.1 = some state.runs

theorem History.created (identity : JobIdentity) (registry : Registry) (names : List Text)
    (tables : Tables) : (AttestedJob.created identity registry names tables).History where
  own _ mem := by cases mem
  current _ present := by cases present

theorem History.keep (history : state.History) (identity : next.identity = state.identity)
    (seals : next.seals = state.seals) (completedIn : next.completedIn = state.completedIn)
    (runs : next.runs = state.runs) (executions : ∀ later, next.execution = some later →
      ∃ execution, state.execution = some execution ∧ later.cacheRuns = execution.cacheRuns) :
    next.History where
  own sealed mem := by
    rw [identity]
    exact history.own sealed (seals ▸ mem)
  current later present entry mem := by
    obtain ⟨execution, live, same⟩ := executions later present
    rw [completedIn, runs]
    exact history.current execution live entry (same ▸ mem)

theorem History.runStep (history : state.History) {execution : Execution} {run : JobRun}
    (live : state.execution = some execution)
    (acts : state.RunStep sha256 execution run event next) : next.History := by
  have same : ∀ {later : Execution}, later.cacheRuns = execution.cacheRuns →
      ∃ earlier, state.execution = some earlier ∧ later.cacheRuns = earlier.cacheRuns :=
    fun equal => ⟨execution, live, equal⟩
  cases acts with
  | @acts event job _ _ =>
    refine history.keep rfl rfl rfl rfl fun later present => ?_
    split at present
    · cases present
      exact same (by cases event <;> rfl)
    · cases present
  | fails _ _ _ | linksUnloaded _ _ _ | loadsLinks _ _ _ | recordsUnread _ _ _
  | readsRecords _ _ _ _ _ | chainRefused _ _ _ =>
    exact history.keep rfl rfl rfl rfl fun _ present => same (by cases present; rfl)
  | @createsLayout expires put _ _ _ =>
    unfold storesLayout
    by_cases stored : put = .stored
    · simp only [stored, if_true]
      exact history.keep rfl rfl rfl rfl fun _ present => same (by cases present; rfl)
    · simp only [stored, if_false]
      exact history.keep rfl rfl rfl rfl fun _ present => same (by cases present; rfl)
  | @sealsAttempt record put digest link _ _ own _ _ signs =>
    refine ⟨?_, ?_⟩
    · intro sealed mem
      rcases mem_cons.mp mem with rfl | earlier
      · exact ⟨own, (CacheCheckpoints.accepted_of_sign signs).1⟩
      · exact history.own sealed earlier
    · intro later present
      cases present
      exact history.current execution live
  | @analyzerCompletes name cacheRun result write job _ _ _ _ =>
    refine ⟨history.own, ?_⟩
    intro later present entry mem
    cases present
    change (if write.applied then update state.completedIn name _ else _) entry.1 = _
    by_cases now : entry.1 = name ∧ write.applied = true
    · rw [if_pos now.2, now.1]
      exact update_self ..
    · have earlier : entry ∈ execution.cacheRuns := by
        cases write with
        | stored =>
          rcases mem_cons.mp mem with rfl | earlier
          · exact absurd ⟨rfl, rfl⟩ now
          · exact earlier
        | unacknowledged | lost => exact mem
      split
      · rename_i applied
        rw [update_of_ne fun same => now ⟨same, applied⟩]
        exact history.current execution live entry earlier
      · exact history.current execution live entry earlier
  | @linksAnalyzer link rest put _ _ _ | @linksStage _ link _ put _ _ _ _ =>
    rcases @createsLink_cases sha256 state execution link put _ with
      ⟨_, created⟩ | ⟨_, created⟩
    all_goals
      rw [created]
      exact history.keep rfl rfl rfl rfl fun _ present => same (by cases present; rfl)
  | @finalizes now put recorded _ _ _ _ =>
    unfold storesBundle
    split
    · exact history.keep rfl rfl rfl rfl fun _ present => same (by cases present; rfl)
    · by_cases stored : put = .stored
      · simp only [stored, if_true]
        exact history.keep rfl rfl rfl rfl fun _ present => same (by cases present; rfl)
      · simp only [stored, if_false]
        exact history.keep rfl rfl rfl rfl fun _ present => same (by cases present; rfl)

theorem History.step (history : state.History) (taken : state.step sha256 event = some next) :
    next.History := by
  cases step_cases taken with
  | begins _ =>
    refine ⟨history.own, ?_⟩
    intro later present entry mem
    cases present
    cases mem
  | retries _ | rewritesTables | repoints =>
    exact history.keep rfl rfl rfl rfl fun later present => ⟨later, present, rfl⟩
  | runs live _ acts => exact history.runStep live acts

/-- The record that attestAnalyzers would sign for the analyzer now. -/
def recordOf (sha256 : Bytes → Text) (state : AttestedJob) (execution : Execution)
    (name : Text) : Except AttestationFailure AnalyzerCacheRecord :=
  (state.view sha256 execution).cacheRecordOf (state.checkpointsOf sha256 execution.key)
    execution.stored (execution.cacheRuns.lookup name) name (state.pointer name)

/-- The stored rows of the attempt are the ones its record was signed over. -/
def RowsKept (state : AttestedJob) (record : Manifest) : Prop :=
  match state.tables.readManifest state.identity.tenantID record.ref with
  | .error _ => False
  | .ok manifest => manifest.encoded = record.encoded

instance decidableRowsKept (state : AttestedJob) (record : Manifest) :
    Decidable (state.RowsKept record) := by
  unfold RowsKept
  split <;> infer_instance

/-- The run with this number signed a completed stage of the analyzer, and the checkpoint
is stored and verifies under the key. -/
def SignedCompletion (sha256 : Bytes → Text) (state : AttestedJob) (key : Text) (number : Nat)
    (name : Text) (record : Manifest) : Prop :=
  ⟨number, record⟩ ∈ state.seals ∧ record.analyzer = name ∧ record.stats ≠ [] ∧
    (state.checkpointsOf sha256 key).Signs state.stored.checkpoints name record.attempt
      (record.digest sha256)

theorem stats_ne_nil_of_encoded {manifest other : Manifest} (same : manifest.encoded = other.encoded)
    (recorded : other.stats ≠ []) : manifest.stats ≠ [] := by
  have stats := (Manifest.encoded_eq_iff.mp same).2.2.2
  intro none
  rw [none] at stats
  apply recorded
  exact map_eq_nil_iff.mp stats.symm

theorem RowsKept.holds {record : Manifest} (kept : state.RowsKept record)
    (own : record.jobID = state.identity.jobID) (recorded : record.stats ≠ [])
    (execution : Execution) : ∃ stats,
      (state.view sha256 execution).Holds (state.checkpointsOf sha256 execution.key)
        record.analyzer record.attempt (record.digest sha256) (some stats) := by
  unfold RowsKept at kept
  split at kept
  · exact kept.elim
  rename_i manifest read
  have ref : record.ref = (state.checkpointsOf sha256 execution.key).refOf record.analyzer
      record.attempt := by
    unfold Manifest.ref CacheCheckpoints.refOf
    rw [own]
    rfl
  rw [ref] at read
  have some := getLast?_eq_some_getLast (stats_ne_nil_of_encoded kept recorded)
  refine ⟨_, manifest, read, ?_, some⟩
  unfold Manifest.digest
  rw [kept]
  rfl

/-- The record is refused; or it is the digest, mode and reason of an attempt whose
checkpoint verifies and whose rows have the signed digest and stage statistics; or it is
unrecorded, and if a checkpoint that is stored and verifies was signed over a completion of the
stage in the run with this number, the rows signed there are not kept. -/
def RecordEvident (sha256 : Bytes → Text) (state : AttestedJob) (execution : Execution)
    (name : Text) (number : Nat) : Prop :=
  match state.recordOf sha256 execution name with
  | .error _ => True
  | .ok record =>
    (∃ attempt digest stats,
      record = ⟨digest, stats.mode.text, stats.reason, attempt⟩ ∧
      (state.checkpointsOf sha256 execution.key).Signs state.stored.checkpoints name attempt
        digest ∧
      (state.view sha256 execution).Holds (state.checkpointsOf sha256 execution.key) name attempt
        digest (some stats)) ∨
    record = (state.view sha256 execution).unrecorded ∧
      ∀ signed, state.SignedCompletion sha256 execution.key number name signed →
        ¬state.RowsKept signed

/-- For every history in which cache rows and pointers are rewritten at will, and every
stage an earlier run completed. -/
theorem cacheRecordOf_tamper_evident (sha256 : Bytes → Text) (identity : JobIdentity)
    (registry : Registry) (names : List Text) (tables : Tables) (events : List AttestedEvent)
    (state : AttestedJob) (execution : Execution) (name : Text) (number : Nat)
    (ran : Library.run (step sha256) (created identity registry names tables) events = some state)
    (live : state.execution = some execution)
    (completed : state.completedIn name = some number) (earlier : number < state.runs) :
    state.RecordEvident sha256 execution name number := by
  have history : state.History :=
    run_invariant (fun _ _ _ before taken => History.step before taken)
      (History.created identity registry names tables) ran
  -- This run has not completed the stage, so the record is read back.
  have absent : execution.cacheRuns.lookup name = none := by
    cases found : execution.cacheRuns.lookup name with
    | none => rfl
    | some cacheRun =>
      have now := history.current execution live _ (mem_of_lookup_eq_some found)
      simp only [completed, Option.some.injEq] at now
      omega
  have reads : state.recordOf sha256 execution name =
      (state.view sha256 execution).earlierRecord (state.checkpointsOf sha256 execution.key) name
        (state.pointer name) := by
    unfold recordOf CacheView.cacheRecordOf
    rw [absent]
  unfold RecordEvident
  split
  · trivial
  · rename_i record outcome
    rw [reads] at outcome
    rcases CacheView.earlierRecord_eq_ok outcome with
      ⟨attempt, digest, stats, _, rfl, _, signs, holds⟩ | ⟨_, rfl, checked⟩
    · exact .inl ⟨attempt, digest, stats, rfl, signs, holds⟩
    · right
      refine ⟨rfl, ?_⟩
      intro signed completion kept
      obtain ⟨mem, rfl, recorded, signs⟩ := completion
      obtain ⟨own, canonical⟩ := history.own _ mem
      obtain ⟨stats, holds⟩ := kept.holds own recorded execution
      exact CacheView.checkNoSignedCompletion_eq_ok
        (pathSegment_of_canonical state.identity.canonical) checked canonical signs holds

def classify : Text := "classify".toList

def sampleAttempt : Text := "00000000-0000-0000-0000-00000000000a".toList

def sampleStats : Stats := ⟨.enabled, "fresh".toList, none, 1, 0, 1⟩

def sampleRecord : Manifest where
  tenantID := sampleIdentity.tenantID
  jobID := sampleIdentity.jobID
  analyzer := classify
  attempt := sampleAttempt
  entries := []
  stats := [sampleStats]

def sampleRows : Tables :=
  { Tables.empty with
    stats := [⟨sampleIdentity.tenantID, sampleRecord.ref, canonicalStat sampleStats, true⟩] }

/-- One run that completes the analyzer under a sealed attempt and is shut down. -/
def sealsCompletion : List AttestedEvent :=
  [.begins "k".toList true, .loadsLinks, .createsLayout 9 .stored,
    .acts (.attempts classify .stored), .rewritesTables sampleRows,
    .sealsAttempt sampleRecord .stored,
    .analyzerCompletes classify ⟨some sampleStats, some sampleAttempt⟩ [2] .stored,
    .acts .crashes]

def resumes : List AttestedEvent :=
  [.begins "k".toList true, .loadsLinks, .createsLayout 9 .stored]

def sampleJob : AttestedJob :=
  created sampleIdentity Job.loneAnalyzer [classify, "graph".toList, "synthesis".toList] .empty

/-- A resumed run finds the stage completed and sealed by the first run, with a checkpoint
that verifies; it reads this record, and whether the rows are kept is as given. -/
def findsSealed (record : AnalyzerCacheRecord) (kept : Bool) (state : AttestedJob) : Bool :=
  match state.execution with
  | none => false
  | some execution =>
    state.completedIn classify = some 1 && state.runs = 2 &&
      state.seals = [⟨1, sampleRecord⟩] && decide (state.RowsKept sampleRecord) = kept &&
      ((state.checkpointsOf sampleSum execution.key).ownCheckpoint state.stored.checkpoints
        classify sampleAttempt).toOption = some (sampleRecord.digest sampleSum) &&
      (state.recordOf sampleSum execution classify).toOption = some record

theorem eq_ok_of_toOption {Failure Value : Type} {outcome : Except Failure Value} {value : Value}
    (found : outcome.toOption = some value) : outcome = .ok value := by
  cases outcome with
  | error failure => cases found
  | ok other =>
    cases found
    rfl

theorem findsSealed_eq_true {record : AnalyzerCacheRecord} {kept : Bool}
    (finds : findsSealed record kept state = true) :
    ∃ execution, state.execution = some execution ∧ state.completedIn classify = some 1 ∧
      state.runs = 2 ∧ (kept = true → state.RowsKept sampleRecord) ∧
      state.SignedCompletion sampleSum execution.key 1 classify sampleRecord ∧
      state.recordOf sampleSum execution classify = .ok record := by
  unfold findsSealed at finds
  split at finds
  · cases finds
  rename_i execution live
  simp only [Bool.and_eq_true, decide_eq_true_eq] at finds
  obtain ⟨⟨⟨⟨⟨completed, runs⟩, seals⟩, rows⟩, own⟩, recorded⟩ := finds
  refine ⟨execution, live, completed, runs, ?_, ?_, eq_ok_of_toOption recorded⟩
  · rintro rfl
    exact of_decide_eq_true rows
  · have signs := CacheCheckpoints.ownCheckpoint_eq_ok.mp (eq_ok_of_toOption own)
    refine ⟨seals ▸ mem_cons_self, rfl, ?_, signs.2⟩
    intro none
    cases none

/-- The pointer is removed and put back, the rows are kept. -/
theorem cacheRecordOf_tamper_evident_resumed :
    ∃ state execution, Library.run (step sampleSum) sampleJob
        (sealsCompletion ++ [.repoints classify none, .repoints classify (some sampleAttempt)] ++
          resumes) = some state ∧
      state.execution = some execution ∧ state.RowsKept sampleRecord ∧
      state.RecordEvident sampleSum execution classify 1 := by
  have finds : ((Library.run (step sampleSum) sampleJob
      (sealsCompletion ++ [.repoints classify none, .repoints classify (some sampleAttempt)] ++
        resumes)).any (findsSealed ⟨sampleRecord.digest sampleSum, "enabled".toList,
          "fresh".toList, sampleAttempt⟩ true)) = true := by
    decide +kernel
  obtain ⟨state, ran, found⟩ := (Option.any_eq_true _ _).mp finds
  obtain ⟨execution, live, completed, runs, rows, _, _⟩ := findsSealed_eq_true found
  exact ⟨state, execution, ran, live, rows rfl,
    cacheRecordOf_tamper_evident sampleSum sampleIdentity Job.loneAnalyzer _ _ _ state execution
      classify 1 ran live completed (by omega)⟩

/-- The run that completed the stage signed its completion, the checkpoint is stored and
verifies, and yet the stage is attested as unrecorded once its pointer is null and its rows
are gone. -/
theorem signed_completion_unrecorded :
    ∃ state execution record, Library.run (step sampleSum) sampleJob
        (sealsCompletion ++ [.repoints classify none, .rewritesTables .empty] ++ resumes) =
        some state ∧
      state.execution = some execution ∧ state.completedIn classify = some 1 ∧ 1 < state.runs ∧
      state.SignedCompletion sampleSum execution.key 1 classify record ∧
      state.recordOf sampleSum execution classify =
        .ok (state.view sampleSum execution).unrecorded := by
  have finds : ((Library.run (step sampleSum) sampleJob
      (sealsCompletion ++ [.repoints classify none, .rewritesTables .empty] ++ resumes)).any
        (findsSealed (CacheView.unrecorded ⟨sampleSum, true, .empty, []⟩) false)) = true := by
    decide +kernel
  obtain ⟨state, ran, found⟩ := (Option.any_eq_true _ _).mp finds
  obtain ⟨execution, live, completed, runs, _, signed, recorded⟩ := findsSealed_eq_true found
  exact ⟨state, execution, sampleRecord, ran, live, completed, by omega, signed, recorded⟩

end AttestedJob

end CrossCodex.Pipeline
