/-
In every run over one result cache, with the tables rewritten at will, a result that a
lookup returns was put under the same key and analyzer in an attempt sealed afterwards.
-/

import CrossCodex.Analysis.SealedRecords

namespace CrossCodex.Analysis

open Library ResultCache Pipeline List

variable {Result : Type} {services : CacheServices Result} {phase : LookupPhase Result}

theorem Sound.sealedDigest_of_verifyCheckpoint {world : CacheWorld Result}
    (sound : Sound services world) {object : Text × Envelope} (stored : object ∈ world.objects)
    {checkpoints : CacheCheckpoints} {tenantID digest : Text} {ref : AttemptRef}
    (accepted : checkpoints.verifyCheckpoint object.2 tenantID ref = .ok digest) :
    SealedDigest services.sha256 world.evidence digest := by
  obtain ⟨link, signed, step, product, single, same, _uri⟩ :=
    CacheCheckpoints.verifyCheckpoint_eq_ok accepted
  have issued := sound.objects object stored
  rw [signed] at issued
  rw [← same]
  exact sound.signatures _ issued step product (by rw [single]; exact mem_cons_self)

theorem Sound.advance {world : CacheWorld Result} (sound : Sound services world) {sc : StageCache}
    {next : LookupPhase Result} (lookup : LookupSound services world.evidence sc phase)
    (advance : StageCache.Advance services sc world.tables world.objects phase next) :
    LookupSound services (world.evidence.hashes (sc.lookupInputs world.tables phase)) sc next := by
  have grows := world.evidence.extends_hashes (sc.lookupInputs world.tables phase)
  have kept := lookup.mono grows
  cases advance with
  | quiet digests found results =>
    refine ⟨fun entry mem => kept.digests entry (digests mem),
      fun free row mem => kept.found free row (found mem), ?_⟩
    intro _free served mem
    rw [results] at mem
    cases mem
  | accepted entry object stored verified digests found results =>
    refine ⟨?_, ?_, ?_⟩
    · intro other mem
      rw [digests] at mem
      rcases mem_cons.mp mem with rfl | earlier
      · exact (sound.sealedDigest_of_verifyCheckpoint stored verified).mono grows
      · exact kept.digests other earlier
    · rw [found]
      exact kept.found
    · intro _free served mem
      rw [results] at mem
      cases mem
  | checked locals here snapshot rows before read rowsChecked after =>
    subst before after
    have hashed : snapshotInputs snapshot ⊆ (world.evidence.hashes
        (sc.lookupInputs world.tables (.snapshot locals here))).hashed := by
      simp only [Evidence.hashes, StageCache.lookupInputs, read]
      exact subset_append_right _ _
    refine ⟨kept.digests, ?_, ?_⟩
    · intro free row mem
      rcases mem_checkRows services rowsChecked mem with earlier | checked
      · exact kept.found free row earlier
      · obtain ⟨_key, verified, decoded⟩ := checkRow_eq_ok services checked
        refine ⟨vouched_of_verify free read hashed ?_ verified, decoded⟩
        intro entry held
        exact kept.digests entry (mem_of_mem_filter held)
    · intro _free served mem
      cases mem
  | served locals before after =>
    subst before after
    refine ⟨?_, ?_, ?_⟩
    · intro entry mem
      cases mem
    · intro _free row mem
      cases mem
    intro free served mem
    obtain ⟨task, known, keyed, row, found, sameKey, sameHit, sameResult⟩ :=
      StageCache.mem_serve mem
    obtain ⟨vouched, decoded⟩ := kept.found free row found
    rw [sameKey, sameHit] at vouched
    rw [sameHit, sameResult] at decoded
    exact ⟨task, known, keyed, vouched, decoded⟩

theorem Sound.starts {world : CacheWorld Result} (sound : Sound services world) (cache : StageCache) :
    Sound services (world.starts cache) where
  stages stage mem := by
    rcases mem_append.mp mem with old | fresh
    · exact sound.stages stage old
    · rw [mem_singleton] at fresh
      subst fresh
      refine ⟨?_, ?_, .of_nil rfl rfl rfl⟩
      · intro write listed
        cases listed
      · intro envelope waiting
        cases waiting
  signatures := sound.signatures
  objects := sound.objects

theorem Sound.attests {world : CacheWorld Result} (sound : Sound services world) {key : Text}
    {link : Link} (other : link.step ≠ cacheCheckpointStep) :
    Sound services { world with evidence := world.evidence.signs key link } where
  stages stage mem := (sound.stages stage mem).mono (world.evidence.extends_signs key link)
  signatures signature mem step product listed := by
    rcases mem_append.mp mem with old | new
    · exact (sound.signatures signature old step product listed).mono
        (world.evidence.extends_signs key link)
    · rw [mem_singleton] at new
      subst new
      exact absurd step other
  objects := sound.objects.mono (world.evidence.extends_signs key link)

variable {world next : CacheWorld Result} {stage : Stage Result} {index : Nat} {evidence : Evidence}

theorem StageSound.enters (own : StageSound services evidence stage)
    (lookup : LookupSound services evidence stage.cache phase) :
    StageSound services evidence (stage.enters services phase) :=
  ⟨own.writes, own.unsent, lookup.of_cache rfl rfl rfl⟩

theorem StageSound.sealedDigest (own : StageSound services evidence stage)
    (hashed : .manifest stage.cache.expected ∈ evidence.hashed) :
    SealedDigest services.sha256 (evidence.does (.sealed stage.cache.tenantID stage.cache.ref))
      (stage.cache.expected.digest services.sha256) := by
  refine ⟨stage.cache.expected, rfl, hashed, ?_⟩
  intro write mem role
  obtain ⟨entry, names, keyed, digest, put, done⟩ :=
    own.writes write (StageCache.mem_expected_write mem role)
  refine ⟨entry, names, keyed, digest, put, ?_⟩
  rw [names]
  exact List.Sublist.append (singleton_sublist.mpr done) (List.Sublist.refl _)

section

variable (sound : Sound services world) (own : StageSound services world.evidence stage)
  {fate : Fate}
include sound own

theorem Sound.beginsLookup (taken : world.beginsLookup index stage = some next) :
    Sound services next := by
  unfold CacheWorld.beginsLookup at taken
  split at taken
  · split at taken
    · cases taken
      exact sound.moveStage (.refl _) rfl ⟨own.writes, own.unsent, .of_nil rfl rfl rfl⟩ rfl rfl
    · cases taken
  · cases taken

theorem Sound.looksUp {fails : Bool}
    (taken : world.looksUp services index stage fails = some next) : Sound services next := by
  unfold CacheWorld.looksUp at taken
  split at taken
  · split at taken
    · cases taken
      exact sound.moveStage (.refl _) rfl (own.enters (.of_nil rfl rfl rfl)) rfl rfl
    · cases taken
  · split at taken
    · cases taken
    · rename_i phase advances
      cases taken
      have grows := world.evidence.extends_hashes (stage.cache.lookupInputs world.tables stage.lookup)
      have lookup := sound.advance own.lookup (StageCache.nextLookup_cases advances)
      exact sound.moveStage grows rfl ((own.mono grows).enters lookup) rfl rfl

theorem Sound.puts {answer : StageCache.Answer Result}
    (taken : world.puts services index stage answer fate = some next) : Sound services next := by
  unfold CacheWorld.puts at taken
  split at taken
  case isFalse => cases taken
  case isTrue =>
    split at taken
    · cases taken
      exact sound
    rename_i entry stores
    split at taken
    · cases taken
      exact sound
    have grows := world.evidence.extends_hashes [.result entry.result]
    cases fate with
    | refused =>
      cases taken
      exact sound.keepStages grows rfl rfl rfl
    | fails committed =>
      cases taken
      have kept := own.mono grows
      exact sound.moveStage grows rfl
        ⟨kept.writes, kept.unsent, kept.lookup.of_cache rfl rfl rfl⟩ rfl rfl
    | commits =>
      cases taken
      have acts := grows.trans
        ((world.evidence.hashes [.result entry.result]).extends_does (.put stage.cache.tenantID entry))
      have kept := own.mono acts
      refine sound.moveStage acts rfl ⟨?_, kept.unsent, kept.lookup.of_cache rfl rfl rfl⟩ rfl rfl
      intro write listed
      rcases mem_append.mp listed with earlier | new
      · exact kept.writes write earlier
      · rw [mem_singleton] at new
        subst new
        -- The entry just put is hashed and on record by this very step.
        refine ⟨entry, StageCache.putEntry_ref stores, rfl, rfl, ?_, ?_⟩
        · exact mem_append_right _ mem_cons_self
        · exact mem_append_right _ mem_cons_self

theorem Sound.recordsStage {tasks dispatched : Nat}
    (taken : world.recordsStage index stage tasks dispatched fate = some next) :
    Sound services next := by
  obtain ⟨cache, tables, rfl, tenant, names, byTask, writes⟩ := CacheWorld.recordsStage_cases taken
  have name := congrArg AttemptRef.analyzer names
  refine sound.moveStage (.refl _) rfl ⟨?_, own.unsent, own.lookup.of_cache tenant name byTask⟩ rfl rfl
  change ∀ write ∈ cache.writes, Recorded services.sha256 world.evidence cache.tenantID cache.ref write
  rw [tenant, names, writes]
  exact own.writes

theorem Sound.checkpoints {commits : Bool}
    (taken : world.checkpoints services index stage commits = some next) : Sound services next := by
  unfold CacheWorld.checkpoints at taken
  split at taken
  case isFalse => cases taken
  case isTrue =>
    simp only at taken
    have grows := world.evidence.extends_hashes (stage.cache.checkpointInputs world.tables)
    split at taken
    · cases taken
      exact sound.keepStages grows rfl rfl rfl
    rename_i digest matched
    split at taken
    · cases taken
      exact sound.keepStages grows rfl rfl rfl
    rename_i link signs
    cases taken
    obtain ⟨own_digest, _tenant⟩ := Tables.checkpoint_eq_ok matched
    have signing := grows.trans (Evidence.extends_signs _ stage.cache.checkpoints.key link)
    have acts := signing.trans
      (Evidence.extends_does _ (.sealed stage.cache.tenantID stage.cache.ref))
    have kept := own.mono acts
    refine sound.setStage acts rfl ⟨kept.writes, ?_, kept.lookup⟩ ?_ (sound.objects.mono acts)
    · intro envelope waiting
      split at waiting
      · cases waiting
        exact mem_append_right _ mem_cons_self
      · exact kept.unsent envelope waiting
    · intro signature mem new _step product listed
      rcases mem_append.mp mem with old | signed
      · exact absurd old new
      · rw [mem_singleton] at signed
        subst signed
        rw [CacheCheckpoints.sign_eq_some signs, CacheCheckpoints.checkpointLink,
          mem_singleton] at listed
        subst listed
        rw [own_digest]
        exact (own.mono signing).sealedDigest (mem_append_right _ mem_cons_self)

theorem Sound.storesCheckpoint {stored : Bool}
    (taken : world.storesCheckpoint index stage stored = some next) : Sound services next := by
  have sent : StageSound services world.evidence { stage with unsent := none } := by
    refine ⟨own.writes, ?_, own.lookup⟩
    intro envelope waiting
    cases waiting
  unfold CacheWorld.storesCheckpoint at taken
  split at taken
  · cases taken
  rename_i envelope waiting
  simp only at taken
  split at taken
  · split at taken
    · cases taken
      exact sound.moveStage (.refl _) rfl sent rfl rfl
    · cases taken
      refine sound.setStage (.refl _) rfl sent (fun signature old new => absurd old new) ?_
      intro object mem
      split at mem
      · rcases mem_cons.mp mem with rfl | old
        · exact own.unsent envelope waiting
        · exact sound.objects object old
      · exact sound.objects object mem
  · cases taken
    exact sound.moveStage (.refl _) rfl sent rfl rfl

end

theorem Sound.step {event : CacheEvent Result} (sound : Sound services world)
    (taken : world.step services event = some next) : Sound services next := by
  cases event with
  | start cache =>
    cases taken
    exact sound.starts cache
  | beginLookup index =>
    obtain ⟨stage, mem, acts⟩ := CacheWorld.withStage_eq_some taken
    exact sound.beginsLookup (sound.stages stage mem) acts
  | lookup index fails =>
    obtain ⟨stage, mem, acts⟩ := CacheWorld.withStage_eq_some taken
    exact sound.looksUp (sound.stages stage mem) acts
  | put index answer fate =>
    obtain ⟨stage, mem, acts⟩ := CacheWorld.withStage_eq_some taken
    exact sound.puts (sound.stages stage mem) acts
  | recordStage index tasks dispatched fate =>
    obtain ⟨stage, mem, acts⟩ := CacheWorld.withStage_eq_some taken
    exact sound.recordsStage (sound.stages stage mem) acts
  | checkpoint index commits =>
    obtain ⟨stage, mem, acts⟩ := CacheWorld.withStage_eq_some taken
    exact sound.checkpoints (sound.stages stage mem) acts
  | storeCheckpoint index stored =>
    obtain ⟨stage, mem, acts⟩ := CacheWorld.withStage_eq_some taken
    exact sound.storesCheckpoint (sound.stages stage mem) acts
  | attest key link =>
    simp only [CacheWorld.step] at taken
    split at taken
    · cases taken
    · rename_i other
      cases taken
      exact sound.attests other
  | rewriteTables tables =>
    cases taken
    exact sound.keepStages (.refl _) rfl rfl rfl
  | rewriteObjects objects =>
    simp only [CacheWorld.step] at taken
    split at taken
    · rename_i unforged
      cases taken
      exact ⟨sound.stages, sound.signatures, unforged⟩
    · cases taken

theorem sound_empty : Sound services (CacheWorld.empty : CacheWorld Result) where
  stages _stage mem := nomatch mem
  signatures _signature mem := nomatch mem
  objects _object mem := nomatch mem

theorem sound_of_run {world : CacheWorld Result} {events : List (CacheEvent Result)}
    (ran : run (CacheWorld.step services) .empty events = some world) : Sound services world :=
  run_invariant (fun _state _event _next sound taken => sound.step taken) sound_empty ran

/-- Every result that a lookup returns, in every run, is the decoding of bytes that
were put under the task's key by a stage of the same analyzer, in an attempt that was
sealed after the put. The row it was decoded from holds exactly those bytes and names
exactly that job and attempt, whoever wrote it. -/
theorem served_result_was_put_and_sealed (services : CacheServices Result)
    {world : CacheWorld Result} {events : List (CacheEvent Result)}
    (ran : run (CacheWorld.step services) .empty events = some world)
    (collisionFree : CollisionFree services.sha256 world.evidence)
    {stage : Stage Result} (member : stage ∈ world.stages) {results : List (Served Result)}
    (returned : stage.lookup = .served results) {served : Served Result} (listed : served ∈ results) :
    ∃ task entry, stage.cache.byTask.lookup served.taskID = some task ∧
      entry.analyzer = stage.cache.name ∧ entry.cacheKey = task.lookupKey ∧
      decodeResult services entry.result = .ok served.result ∧
      served.hit.result = entry.result ∧ served.hit.producerJobID = entry.jobID ∧
      served.hit.producerAttempt = entry.attempt ∧
      [.put stage.cache.tenantID entry, .sealed stage.cache.tenantID entry.ref].Sublist
        world.evidence.history := by
  have lookup := ((sound_of_run ran).stages stage member).lookup
  rw [returned] at lookup
  obtain ⟨task, known, keyed, ⟨entry, names, entryKey, bytes, order⟩, decoded⟩ :=
    lookup.results collisionFree served listed
  simp only [Entry.ref, AttemptRef.mk.injEq] at names
  refine ⟨task, entry, known, names.2.1, entryKey.trans keyed, ?_, bytes.symm, names.1.symm,
    names.2.2.symm, order⟩
  rw [bytes]
  exact decoded

/-- A stand-in for SHA-256 with sums of the same form, made of the first byte and of the one
that is a job's in the manifests below. -/
def sampleSum (data : Bytes) : Text :=
  let byte := (data[0]?.getD 0).toNat + (data[27]?.getD 0).toNat
  Nat.digitChar (byte / 16) :: Nat.digitChar (byte % 16) :: List.replicate 62 '0'

def sampleServices : CacheServices Bytes where
  sha256 := sampleSum
  jsonText _ := true
  model _ := ['m']
  deployment _ := []
  marshal result := some result
  unmarshal data := some data
  cacheableResult _ _ := true

def sampleKey (digit : Char) : Text := List.replicate 64 digit

def sampleAttempt (digit : Char) : Text :=
  List.replicate 8 digit ++ '-' :: List.replicate 4 digit ++ '-' :: List.replicate 4 digit ++
    '-' :: List.replicate 4 digit ++ '-' :: List.replicate 12 digit

/-- A stage of the analyzer `a` in the tenant `t`. Its task `x` has the key of all
ones, its task `y` the key of all twos. -/
def sampleStage (jobID : Char) (attempt : Char) : StageCache where
  name := ['a']
  tenantID := ['t']
  jobID := [jobID]
  attempt := sampleAttempt attempt
  mode := .enabled
  lookupBatchSize := 2
  checkpoints := ⟨['t'], [jobID], [], ['k'], [['a']]⟩
  cacheable := true
  byTask := [(['x'], ⟨['m'], [], sampleKey '1', ['c'], ['c']⟩),
    (['y'], ⟨['m'], [], sampleKey '2', ['c'], ['c']⟩)]
  stats := ⟨.enabled, [], some .empty, 0, 0, 0⟩
  hits := []
  writes := []
  recorded := false
  uncertain := false

def sampleResult : Bytes := [1]

/-- A row for the second key that names the first job and an attempt of its own. -/
def plantedRow : ResultRow where
  tenantID := ['t']
  analyzer := ['a']
  cacheKey := sampleKey '2'
  result := [2]
  responseModel := ['m']
  jobID := ['1']
  producerAttempt := sampleAttempt 'c'
  sourceCatalogID := ['c']
  targetCatalogID := ['c']

def sealedTables (tables : Tables) (jobID attempt : Char) (result : Bytes) : Tables :=
  let stage := (sampleStage jobID attempt).count 1 1
  let written := tables.put sampleSum ['t']
    ⟨[jobID], ['a'], stage.attempt, ['x'], sampleKey '1', result, ['m'], ['c'], ['c']⟩
  written.recordStage ['t'] stage.stageRecord

def plantedTables : Tables :=
  let recorded := sealedTables .empty '1' 'a' sampleResult
  { recorded with results := recorded.results ++ [plantedRow] }

def sealsResult (index : Nat) (jobID attempt : Char) (result : Bytes) : List (CacheEvent Bytes) :=
  [.start (sampleStage jobID attempt), .put index ⟨['x'], some result⟩ .commits,
    .recordStage index 1 1 .commits, .checkpoint index true, .storeCheckpoint index true]

def looksBothUp (index : Nat) (jobID attempt : Char) : List (CacheEvent Bytes) :=
  .start (sampleStage jobID attempt) :: .beginLookup index :: List.replicate 7 (.lookup index false)

/-- The first job stores and seals one result, a row is planted, and the second job
looks both keys up: the planted row is a miss. -/
def plantedRun : List (CacheEvent Bytes) :=
  sealsResult 0 '1' 'a' sampleResult ++ .rewriteTables plantedTables :: looksBothUp 1 '2' 'b'

/-- The stage's lookup returned the stored result for `x` and nothing else, and different
inputs that were hashed have different sums. -/
def servesStored (index : Nat) (world : CacheWorld Bytes) : Bool :=
  (match world.stages[index]?.map Stage.lookup with
    | some (.served [served]) => served.taskID = ['x'] && served.result = sampleResult
    | _ => false) &&
  decide (∀ input ∈ world.evidence.hashed, ∀ other ∈ world.evidence.hashed,
    input = other ∨ sampleSum input.bytes ≠ sampleSum other.bytes)

theorem servesStored_plantedRun :
    (run (CacheWorld.step sampleServices) .empty plantedRun).any (servesStored 1) = true := by
  decide +kernel

theorem servesStored_eq_true {index : Nat} {world : CacheWorld Bytes}
    (serves : servesStored index world = true) :
    CollisionFree sampleSum world.evidence ∧
      ∃ stage ∈ world.stages, ∃ served, stage.lookup = .served [served] ∧
        served.taskID = ['x'] ∧ served.result = sampleResult := by
  rw [servesStored, Bool.and_eq_true] at serves
  obtain ⟨lookup, sums⟩ := serves
  rw [decide_eq_true_eq] at sums
  constructor
  · rintro _ ⟨input, hashed, rfl⟩ _ ⟨other, otherHashed, rfl⟩ same
    rcases sums input hashed other otherHashed with equal | ne
    · rw [equal]
    · exact absurd same ne
  · split at lookup
    · rename_i served phase
      obtain ⟨stage, indexed, returned⟩ := Option.map_eq_some_iff.mp phase
      rw [Bool.and_eq_true, decide_eq_true_eq, decide_eq_true_eq] at lookup
      exact ⟨stage, mem_of_getElem? indexed, served, returned, lookup.1, lookup.2⟩
    · cases lookup

theorem served_result_was_put_and_sealed_beside_planted :
    ∃ world stage served task entry,
      run (CacheWorld.step sampleServices) .empty plantedRun = some world ∧
      stage ∈ world.stages ∧ stage.lookup = .served [served] ∧ served.taskID = ['x'] ∧
      stage.cache.byTask.lookup served.taskID = some task ∧ entry.cacheKey = task.lookupKey ∧
      entry.result = sampleResult ∧
      [.put stage.cache.tenantID entry, .sealed stage.cache.tenantID entry.ref].Sublist
        world.evidence.history := by
  have serves := servesStored_plantedRun
  rcases ran : run (CacheWorld.step sampleServices) .empty plantedRun with _ | world
  · rw [ran] at serves
    cases serves
  rw [ran] at serves
  obtain ⟨free, stage, mem, served, returned, asked, result⟩ := servesStored_eq_true serves
  obtain ⟨task, entry, known, _name, keyed, decoded, _row, _job, _attempt, order⟩ :=
    served_result_was_put_and_sealed sampleServices ran free mem returned mem_cons_self
  refine ⟨world, stage, served, task, entry, rfl, mem, returned, asked, known, keyed, ?_, order⟩
  rw [← result]
  exact Except.ok.inj decoded

/-- The second job's result replaces the first job's under their key; both are sealed. -/
def replacedRun : List (CacheEvent Bytes) :=
  sealsResult 0 '1' 'a' sampleResult ++ sealsResult 1 '2' 'b' [3]

def replacedTables : Tables :=
  sealedTables (sealedTables .empty '1' 'a' sampleResult) '2' 'b' [3]

def rolledBackRow : ResultRow :=
  { plantedRow with
    cacheKey := sampleKey '1', result := sampleResult, responseModel := ['z']
    producerAttempt := sampleAttempt 'a' }

/-- The first job's bytes are put back under a response model that no job stored. A third job
is served them. -/
theorem rolled_back_row_served :
    (run (CacheWorld.step sampleServices) .empty replacedRun).map (·.tables.results) =
      some [⟨['t'], ['a'], sampleKey '1', [3], ['m'], ['2'], sampleAttempt 'b', ['c'], ['c']⟩] ∧
    (run (CacheWorld.step sampleServices) .empty
      (replacedRun ++ .rewriteTables { replacedTables with results := [rolledBackRow] } ::
          looksBothUp 2 '3' 'c')).any (servesStored 2) = true := by
  constructor
  · decide +kernel
  · decide +kernel

end CrossCodex.Analysis
