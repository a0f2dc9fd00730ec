/-
The cache records of an honest job are never refused as invalid, except for a stage without
a pointer over a completion that some run sealed.
-/

import CrossCodex.Pipeline.RecordTampering

namespace CrossCodex.Pipeline

open Library ResultCache List

namespace AttestedJob

variable {sha256 : Bytes → Text} {key : Text} {state next : AttestedJob}

/-- All runs have one key, an attempt is sealed over its own rows, and neither these rows
nor the pointers are changed by anybody else. -/
def Untampered (key : Text) (state : AttestedJob) : AttestedEvent → Prop
  | .begins other _ => other = key
  | .sealsAttempt record _ => state.RowsKept record
  | .rewritesTables tables =>
    ∀ sealed ∈ state.seals, state.RowsKept sealed.record →
      { state with tables }.RowsKept sealed.record
  | .repoints _ _ => False
  | _ => True

def Deposited (sha256 : Bytes → Text) (key : Text) (state : AttestedJob) (record : Manifest) :
    Prop :=
  state.stored.checkpoints.lookup
      ((state.checkpointsOf sha256 key).keyOf record.analyzer record.attempt) =
    some (.signed key ((state.checkpointsOf sha256 key).checkpointLink state.identity.tenantID
      record.ref (record.digest sha256)))

structure Filed (sha256 : Bytes → Text) (key : Text) (state : AttestedJob) : Prop where
  refs : (state.seals.map fun sealed => sealed.record.ref).Nodup
  own : ∀ sealed ∈ state.seals, sealed.record.jobID = state.identity.jobID ∧
    canonicalAttempt sealed.record.attempt = true ∧
    validDigest (sealed.record.digest sha256) = true
  rows : ∀ sealed ∈ state.seals, state.RowsKept sealed.record
  objects : ∀ object envelope, state.stored.checkpoints.lookup object = some envelope →
    ∃ sealed ∈ state.seals, state.Deposited sha256 key sealed.record ∧
      object = (state.checkpointsOf sha256 key).keyOf sealed.record.analyzer sealed.record.attempt
  pointed : ∀ row ∈ state.job.rows, row.status = .completed →
    row.stageName ∈ state.registry.analyzers → ∀ attempt, row.cacheAttempt = some attempt →
      ∃ sealed ∈ state.seals, sealed.record.ref = ⟨state.identity.jobID, row.stageName, attempt⟩ ∧
        sealed.record.stats ≠ [] ∧ state.Deposited sha256 key sealed.record
  live : ∀ execution, state.execution = some execution → execution.key = key ∧
    ∀ entry ∈ execution.stored, ∃ sealed ∈ state.seals, sealed.record.ref = entry.1 ∧
      state.Deposited sha256 key sealed.record

theorem Filed.created (identity : JobIdentity) (registry : Registry) (names : List Text)
    (tables : Tables) : Filed sha256 key (AttestedJob.created identity registry names tables) where
  refs := nodup_nil
  own _ mem := by cases mem
  rows _ mem := by cases mem
  objects _ _ found := by cases found
  pointed row mem completed := by
    obtain ⟨name, _, rfl⟩ := mem_map.mp mem
    cases completed
  live _ present := by cases present

variable {execution : Execution} {name attempt : Text} {registry : Registry} {row : StageRow}

section

variable (filed : Filed sha256 key state) {cacheRun : AnalyzerCacheRun}
include filed

theorem Filed.deposited_of_sealedBy (live : state.execution = some execution)
    (sealedRun : state.sealedBy execution name cacheRun = true)
    (named : cacheRun.attempt = some attempt) :
    ∃ sealed ∈ state.seals, sealed.record.ref = ⟨state.identity.jobID, name, attempt⟩ ∧
      sealed.record.stats ≠ [] ∧ state.Deposited sha256 key sealed.record := by
  unfold sealedBy at sealedRun
  rw [named] at sealedRun
  simp only [any_eq_true, Bool.and_eq_true, decide_eq_true_eq, contains_iff_mem]
    at sealedRun
  obtain ⟨sealed, mem, ⟨⟨⟨_, ref⟩, last⟩, reported⟩, stored⟩ := sealedRun
  obtain ⟨entry, listed, same⟩ := mem_map.mp stored
  obtain ⟨other, present, otherRef, deposited⟩ := (filed.live execution live).2 entry listed
  have equal : other = sealed :=
    inj_on_of_nodup_map filed.refs present mem (otherRef.trans same)
  refine ⟨sealed, mem, ref, ?_, equal ▸ deposited⟩
  intro none
  rw [none] at last
  rw [← last] at reported
  cases reported

theorem Filed.frame (identity : next.identity = state.identity)
    (registry : next.registry = state.registry) (tables : next.tables = state.tables)
    (checkpoints : next.stored.checkpoints = state.stored.checkpoints)
    (seals : next.seals = state.seals) (rows : ∀ row ∈ next.job.rows, row.status = .completed →
      row.stageName ∈ state.registry.analyzers → row ∈ state.job.rows ∨
        ∃ execution cacheRun, state.execution = some execution ∧
          state.sealedBy execution row.stageName cacheRun = true ∧
          cacheRun.attempt = row.cacheAttempt)
    (executions : ∀ later, next.execution = some later → later.key = key ∧
      ∀ entry ∈ later.stored, ∃ execution, state.execution = some execution ∧
        entry ∈ execution.stored) : Filed sha256 key next := by
  have same : next.checkpointsOf sha256 key = state.checkpointsOf sha256 key := by
    unfold checkpointsOf
    rw [identity, registry]
  have deposited : ∀ record, state.Deposited sha256 key record →
      next.Deposited sha256 key record := by
    intro record stored
    unfold Deposited
    rw [same, identity, checkpoints]
    exact stored
  constructor
  · rw [seals]
    exact filed.refs
  · rw [seals, identity]
    exact filed.own
  · rw [seals]
    intro sealed mem
    unfold RowsKept
    rw [tables, identity]
    exact filed.rows sealed mem
  · intro object envelope found
    rw [checkpoints] at found
    obtain ⟨sealed, mem, stored, named⟩ := filed.objects object envelope found
    exact ⟨sealed, seals ▸ mem, deposited _ stored, same ▸ named⟩
  · intro row mem completed analyzer attempt pointer
    rw [registry] at analyzer
    obtain ⟨sealed, listed, ref, recorded, stored⟩ := (rows row mem completed analyzer).elim
      (fun kept => filed.pointed row kept completed analyzer attempt pointer)
      fun ⟨_, _, live, sealedRun, named⟩ =>
        filed.deposited_of_sealedBy live sealedRun (named.trans pointer)
    exact ⟨sealed, seals ▸ listed, identity ▸ ref, recorded, deposited _ stored⟩
  · intro later present
    obtain ⟨signer, entries⟩ := executions later present
    refine ⟨signer, fun entry mem => ?_⟩
    obtain ⟨execution, live, earlier⟩ := entries entry mem
    obtain ⟨sealed, listed, ref, stored⟩ := (filed.live execution live).2 entry earlier
    exact ⟨sealed, seals ▸ listed, ref, deposited _ stored⟩

theorem Filed.sealsAttempt {record : Manifest} {put : Write} {digest : Text} {link : Link}
    (live : state.execution = some execution) (own : record.jobID = state.identity.jobID)
    (fresh : state.FreshAttempt sha256 execution record)
    (checked : state.tables.checkpoint state.identity.tenantID sha256 record = .ok digest)
    (signs : (state.checkpointsOf sha256 execution.key).sign state.identity.tenantID record.ref
      digest = some link) (kept : state.RowsKept record) :
    Filed sha256 key (state.storesCheckpoint sha256 execution record link put) := by
  obtain ⟨rfl, stored⟩ := filed.live execution live
  obtain ⟨rfl, _⟩ := Tables.checkpoint_eq_ok checked
  obtain ⟨canonical, valid⟩ := CacheCheckpoints.accepted_of_sign signs
  have made := CacheCheckpoints.sign_eq_some signs
  -- The new object hides none of the earlier ones.
  have older : ∀ other, state.Deposited sha256 execution.key other →
      (state.storesCheckpoint sha256 execution record link put).Deposited sha256 execution.key
        other := by
    intro other found
    change (if put.applied then _ else _ : Objects).lookup _ = _
    split
    · rw [lookup_cons]
      split
      · rename_i same
        exact absurd (mem_keys_of_lookup found) (eq_of_beq same ▸ fresh.1)
      · exact found
    · exact found
  have newest : put.applied = true →
      (state.storesCheckpoint sha256 execution record link put).Deposited sha256 execution.key
        record := by
    intro applied
    change (if put.applied then _ else _ : Objects).lookup _ = _
    rw [if_pos applied, made]
    exact lookup_cons_self
  constructor
  · exact nodup_cons.mpr ⟨fresh.2, filed.refs⟩
  · intro sealed mem
    rcases mem_cons.mp mem with rfl | earlier
    · exact ⟨own, canonical, valid⟩
    · exact filed.own sealed earlier
  · intro sealed mem
    rcases mem_cons.mp mem with rfl | earlier
    · exact kept
    · exact filed.rows sealed earlier
  · intro object envelope found
    change (if put.applied then _ else _ : Objects).lookup object = some envelope at found
    split at found
    · rename_i applied
      rw [lookup_cons] at found
      split at found
      · rename_i same
        exact ⟨_, mem_cons_self, newest applied, eq_of_beq same⟩
      · obtain ⟨sealed, mem, there, named⟩ := filed.objects object envelope found
        exact ⟨sealed, mem_cons_of_mem _ mem, older _ there, named⟩
    · obtain ⟨sealed, mem, there, named⟩ := filed.objects object envelope found
      exact ⟨sealed, mem_cons_of_mem _ mem, older _ there, named⟩
  · intro row mem completed analyzer attempt pointer
    obtain ⟨sealed, listed, ref, recorded, there⟩ :=
      filed.pointed row mem completed analyzer attempt pointer
    exact ⟨sealed, mem_cons_of_mem _ listed, ref, recorded, older _ there⟩
  · intro later present
    cases present
    refine ⟨rfl, fun entry mem => ?_⟩
    have either : entry = (record.ref, record.digest sha256) ∧ put = .stored ∨
        entry ∈ execution.stored := by
      by_cases acknowledged : put = .stored
      · simp only [if_pos acknowledged] at mem
        rcases mem_cons.mp mem with same | earlier
        · exact .inl ⟨same, acknowledged⟩
        · exact .inr earlier
      · simp only [if_neg acknowledged] at mem
        exact .inr mem
    rcases either with ⟨rfl, rfl⟩ | earlier
    · exact ⟨_, mem_cons_self, rfl, newest rfl⟩
    · obtain ⟨sealed, listed, ref, there⟩ := stored entry earlier
      exact ⟨sealed, mem_cons_of_mem _ listed, ref, older _ there⟩

theorem Filed.analyzerCompletes (live : state.execution = some execution) {result : Bytes}
    {write : Write} {job : Job} (sealedRun : state.sealedBy execution name cacheRun = true)
    (taken : state.job.step (.analyzerCompletes name cacheRun.attempt write) = some job) :
    Filed sha256 key (state.storesResult execution job name cacheRun result write) := by
  refine filed.frame rfl (Job.step_registry taken) rfl rfl rfl ?_ ?_
  · intro row mem completed _
    rcases Job.step_completed_row taken mem completed with kept | completes
    · exact .inl kept
    · cases completes with
      | analyzer _ _ _ named recorded =>
        exact .inr ⟨execution, cacheRun, live, named ▸ sealedRun, recorded.symm⟩
  · intro later present
    cases present
    exact ⟨(filed.live execution live).1, fun _ mem => ⟨execution, live, mem⟩⟩

theorem Filed.signs {sealed : Seal} (mem : sealed ∈ state.seals)
    (deposited : state.Deposited sha256 key sealed.record) :
    (state.checkpointsOf sha256 key).Signs state.stored.checkpoints sealed.record.analyzer
      sealed.record.attempt (sealed.record.digest sha256) := by
  obtain ⟨own, _, valid⟩ := filed.own sealed mem
  refine ⟨_, deposited, ?_⟩
  have ref : (state.checkpointsOf sha256 key).refOf sealed.record.analyzer sealed.record.attempt =
      sealed.record.ref := by
    unfold CacheCheckpoints.refOf Manifest.ref
    rw [own]
    rfl
  rw [ref]
  exact CacheCheckpoints.verifyCheckpoint_checkpointLink own valid

theorem Filed.sealed_of_lookup {envelope : Envelope} (canonical : canonicalAttempt attempt = true)
    (found : state.stored.checkpoints.lookup
      ((state.checkpointsOf sha256 key).keyOf name attempt) = some envelope) :
    ∃ sealed ∈ state.seals, state.Deposited sha256 key sealed.record ∧
      sealed.record.analyzer = name ∧ sealed.record.attempt = attempt := by
  obtain ⟨sealed, mem, deposited, same⟩ := filed.objects _ _ found
  obtain ⟨rfl, rfl⟩ :=
    CacheCheckpoints.keyOf_injective canonical (filed.own sealed mem).2.1 same
  exact ⟨sealed, mem, deposited, rfl, rfl⟩

end

def Unsigned (state : AttestedJob) (name : Text) : Prop :=
  ∀ sealed ∈ state.seals, sealed.record.analyzer = name → sealed.record.stats ≠ [] →
    checkpointKey state.identity.tenantID state.identity.jobID name sealed.record.attempt ∉
      state.stored.checkpoints.map Prod.fst

theorem Filed.null_ne_invalid (filed : Filed sha256 key state) (signer : execution.key = key)
    (analyzer : name ∈ state.registry.analyzers) (unsigned : state.Unsigned name) :
    (state.view sha256 execution).earlierRecord (state.checkpointsOf sha256 execution.key) name
      none ≠ .error .invalid := by
  subst signer
  have checked : (state.view sha256 execution).checkNoSignedCompletion
      (state.checkpointsOf sha256 execution.key) name ≠ .error .invalid := by
    apply CacheView.checkNoSignedCompletion_ne_invalid
      (pathSegment_of_canonical state.identity.canonical) analyzer
    · intro attempt envelope canonical found
      obtain ⟨sealed, mem, deposited, rfl, rfl⟩ := filed.sealed_of_lookup canonical found
      obtain ⟨other, again, verified⟩ := filed.signs mem deposited
      rw [found.symm.trans again |> Option.some.inj]
      exact ⟨_, verified⟩
    · rintro attempt digest stats canonical ⟨envelope, found, _⟩ ⟨manifest, read, _, last⟩
      obtain ⟨sealed, mem, _, rfl, rfl⟩ := filed.sealed_of_lookup canonical found
      have kept := filed.rows sealed mem
      unfold RowsKept at kept
      have ref : sealed.record.ref = (state.checkpointsOf sha256 execution.key).refOf
          sealed.record.analyzer sealed.record.attempt := by
        unfold CacheCheckpoints.refOf Manifest.ref
        rw [(filed.own sealed mem).1]
        rfl
      have stored : state.tables.readManifest state.identity.tenantID _ = .ok manifest := read
      rw [ref, stored] at kept
      refine unsigned sealed mem rfl (stats_ne_nil_of_encoded (Eq.symm kept) ?_)
        (mem_keys_of_lookup found)
      intro none
      rw [none] at last
      cases last
  intro refused
  unfold CacheView.earlierRecord at refused
  split at refused
  · rename_i failure outcome
    cases refused
    exact checked outcome
  · cases refused

theorem Filed.pointed_ne_invalid (filed : Filed sha256 key state) (signer : execution.key = key)
    (mem : row ∈ state.job.rows) (completed : row.status = .completed)
    (analyzer : row.stageName ∈ state.registry.analyzers)
    (pointer : row.cacheAttempt = some attempt) :
    (state.view sha256 execution).earlierRecord (state.checkpointsOf sha256 execution.key)
      row.stageName (some attempt) ≠ .error .invalid := by
  subst signer
  obtain ⟨sealed, listed, ref, recorded, deposited⟩ :=
    filed.pointed row mem completed analyzer attempt pointer
  have named : sealed.record.analyzer = row.stageName := congrArg AttemptRef.analyzer ref
  have attempted : sealed.record.attempt = attempt := congrArg AttemptRef.attempt ref
  obtain ⟨own, canonical, _⟩ := filed.own sealed listed
  obtain ⟨stats, holds⟩ := (filed.rows sealed listed).holds own recorded execution
  rw [← named, ← attempted]
  exact CacheView.earlierRecord_ne_invalid canonical (filed.signs listed deposited) holds

theorem runRecord_ne_invalid (view : CacheView) (checkpoints : CacheCheckpoints)
    (stored : List (AttemptRef × Text)) (name : Text) (run : AnalyzerCacheRun) :
    view.runRecord checkpoints stored name run ≠ .error .invalid := by
  intro refused
  unfold CacheView.runRecord at refused
  split at refused
  · split at refused <;> cases refused
  · split at refused <;> cases refused

theorem pointer_eq (tracks : state.job.Tracks registry) (mem : row ∈ state.job.rows) :
    state.pointer row.stageName = row.cacheAttempt := by
  have nodup : (state.job.rows.map StageRow.stageName).Nodup :=
    tracks.named.nodup_iff.mpr state.job.registry.buildStageNames_nodup
  unfold pointer
  cases found : state.job.rows.find? fun other => other.stageName = row.stageName with
  | none =>
    have absent := find?_eq_none.mp found row mem
    exact absurd (decide_eq_true rfl) absent
  | some other =>
    have same : other.stageName = row.stageName := by simpa using find?_some found
    rw [inj_on_of_nodup_map nodup (mem_of_find?_eq_some found) mem same]
    rfl

theorem Filed.recordOf_ne_invalid (filed : Filed sha256 key state)
    (tracks : state.job.Tracks registry) (live : state.execution = some execution)
    (analyzer : name ∈ state.registry.analyzers) (done : name ∈ state.job.done)
    (unsigned : execution.cacheRuns.lookup name = none → state.pointer name = none →
      state.Unsigned name) : state.recordOf sha256 execution name ≠ .error .invalid := by
  have signer := (filed.live execution live).1
  unfold recordOf CacheView.cacheRecordOf
  cases current : execution.cacheRuns.lookup name with
  | some cacheRun => exact runRecord_ne_invalid _ _ _ _ _
  | none =>
    obtain ⟨row, mem, completed, rfl⟩ := mem_completedStageSet.mp done
    have pointer := pointer_eq tracks mem
    cases attempted : row.cacheAttempt with
    | none =>
      rw [attempted] at pointer
      rw [pointer]
      exact filed.null_ne_invalid signer analyzer (unsigned current pointer)
    | some attempt =>
      rw [pointer, attempted]
      exact filed.pointed_ne_invalid signer mem completed analyzer attempted

end AttestedJob

end CrossCodex.Pipeline
