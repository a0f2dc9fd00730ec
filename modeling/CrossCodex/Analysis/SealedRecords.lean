/-
What the evidence of a run supports: a write entry records an accepted put, a digest is of a
sealed manifest, a row is vouched for by its attempt; and the invariant of a world of
stages.
-/

import CrossCodex.Analysis.CacheRun

namespace CrossCodex.Analysis

open Library ResultCache Pipeline List

def CollisionFree (sha256 : Bytes → Text) (evidence : Evidence) : Prop :=
  Set.InjOn sha256 {bytes | ∃ input ∈ evidence.hashed, input.bytes = bytes}

def Recorded (sha256 : Bytes → Text) (evidence : Evidence) (tenantID : Text)
    (ref : AttemptRef) (write : ManifestEntry) : Prop :=
  ∃ entry : Entry, entry.ref = ref ∧ entry.cacheKey = write.cacheKey ∧
    write.resultDigest = resultDigest sha256 entry.result ∧ HashInput.result entry.result ∈ evidence.hashed ∧
    .put tenantID entry ∈ evidence.history

/-- The digest is of a manifest whose writes were all put before it was sealed. -/
def SealedDigest (sha256 : Bytes → Text) (evidence : Evidence) (digest : Text) : Prop :=
  ∃ manifest : Manifest, digest = manifest.digest sha256 ∧ HashInput.manifest manifest ∈ evidence.hashed ∧
    ∀ write ∈ manifest.entries, write.role = .write →
      ∃ entry : Entry, entry.ref = manifest.ref ∧ entry.cacheKey = write.cacheKey ∧
        write.resultDigest = resultDigest sha256 entry.result ∧ HashInput.result entry.result ∈ evidence.hashed ∧
        [.put manifest.tenantID entry, .sealed manifest.tenantID entry.ref].Sublist evidence.history

/-- The row's bytes were put under `key` by the very attempt the row names, and that
attempt was sealed later. -/
def Vouched (evidence : Evidence) (tenantID analyzer key : Text) (hit : Hit) : Prop :=
  ∃ entry : Entry, entry.ref = ⟨hit.producerJobID, analyzer, hit.producerAttempt⟩ ∧
    entry.cacheKey = key ∧ entry.result = hit.result ∧
    [.put tenantID entry, .sealed tenantID entry.ref].Sublist evidence.history

variable {tenantID : Text} {analyzer key : Text} {hit : Hit}

section Growth

variable {sha256 : Bytes → Text} {earlier later : Evidence}

variable (grows : earlier.Extends later)
include grows

theorem CollisionFree.of_extends (free : CollisionFree sha256 later) :
    CollisionFree sha256 earlier := by
  apply Set.InjOn.mono _ free
  rintro bytes ⟨input, mem, same⟩
  exact ⟨input, grows.hashed mem, same⟩

theorem Recorded.mono {ref : AttemptRef} {write : ManifestEntry}
    (recorded : Recorded sha256 earlier tenantID ref write) :
    Recorded sha256 later tenantID ref write := by
  obtain ⟨entry, names, keyed, digest, hashed, put⟩ := recorded
  exact ⟨entry, names, keyed, digest, grows.hashed hashed, grows.history.subset put⟩

theorem SealedDigest.mono {digest : Text} (isSealed : SealedDigest sha256 earlier digest) :
    SealedDigest sha256 later digest := by
  obtain ⟨manifest, same, encoded, writes⟩ := isSealed
  refine ⟨manifest, same, grows.hashed encoded, ?_⟩
  intro write mem role
  obtain ⟨entry, names, keyed, recorded, hashed, order⟩ := writes write mem role
  exact ⟨entry, names, keyed, recorded, grows.hashed hashed,
    order.trans grows.history.sublist⟩

theorem Vouched.mono (vouched : Vouched earlier tenantID analyzer key hit) :
    Vouched later tenantID analyzer key hit := by
  obtain ⟨entry, names, keyed, result, order⟩ := vouched
  exact ⟨entry, names, keyed, result, order.trans grows.history.sublist⟩

theorem Issued.mono {envelope : Envelope} (issued : Issued earlier envelope) :
    Issued later envelope := by
  cases envelope with
  | signed key link => exact grows.signatures issued
  | broken failure => trivial

theorem Unforged.mono {objects : Objects} (unforged : Unforged earlier objects) :
    Unforged later objects :=
  fun object mem => (unforged object mem).mono grows

end Growth

variable {evidence : Evidence}

theorem eq_of_digest_eq {sha256 : Bytes → Text} (free : CollisionFree sha256 evidence)
    {input other : HashInput} (hashed : input ∈ evidence.hashed)
    (otherHashed : other ∈ evidence.hashed)
    (same : resultDigest sha256 input.bytes = resultDigest sha256 other.bytes) :
    input.bytes = other.bytes :=
  free ⟨input, hashed, rfl⟩ ⟨other, otherHashed, rfl⟩ (resultDigest_inj.mp same)

variable {Result : Type} {services : CacheServices Result} {phase : LookupPhase Result}
  {stage : Stage Result} {sc : StageCache} {world : CacheWorld Result} {next : CacheWorld Result}
  {index : Nat}

/-- The manifest in the snapshot hashes to the sealed digest, so it is the sealed
manifest; the row's bytes hash to a digest it recorded, so they are the bytes put. -/
theorem vouched_of_verify (free : CollisionFree services.sha256 evidence) {tables : Tables}
    {keys : List Text} {refs : List AttemptRef} {snapshot : Snapshot}
    (read : tables.lookupVerifiable tenantID analyzer keys refs = .ok snapshot)
    (hashed : snapshotInputs snapshot ⊆ evidence.hashed) {signed : SignedDigests}
    (digests : ∀ entry ∈ signed, SealedDigest services.sha256 evidence entry.2)
    (verified : snapshot.verify services.sha256 key signed = .ok hit) :
    Vouched evidence tenantID analyzer key hit := by
  obtain ⟨name, _rows, manifestNames⟩ := Tables.lookupVerifiable_eq_ok read
  obtain ⟨row, manifest, inSnapshot, inSigned, written⟩ := Snapshot.verify_eq_ok verified
  have manifestMember := mem_of_lookup_eq_some inSnapshot
  have rowMember := mem_of_lookup_eq_some row
  obtain ⟨names, tenant⟩ := manifestNames _ manifestMember
  have manifestHashed : HashInput.manifest manifest ∈ evidence.hashed :=
    hashed (mem_append_left _ (mem_map.mpr ⟨_, manifestMember, rfl⟩))
  have rowHashed : HashInput.result hit.result ∈ evidence.hashed :=
    hashed (mem_append_right _ (mem_map.mpr ⟨_, rowMember, rfl⟩))
  obtain ⟨original, sameDigest, originalHashed, writes⟩ :=
    digests _ (mem_of_lookup_eq_some inSigned)
  have sameBytes : manifest.encoded = original.encoded :=
    eq_of_digest_eq free manifestHashed originalHashed sameDigest
  obtain ⟨sameTenant, sameNames, _entries, _stats⟩ := Manifest.encoded_eq_iff.mp sameBytes
  obtain ⟨write, recorded, keyed, role, digest⟩ := Manifest.mem_written.mp written
  obtain ⟨entry, entryNames, entryKey, entryDigest, entryHashed, order⟩ :=
    writes write ((Manifest.mem_entries_iff_of_encoded_eq sameBytes write).mp recorded) role
  have bytes : entry.result = hit.result :=
    eq_of_digest_eq free entryHashed rowHashed (entryDigest.symm.trans digest)
  rw [← sameTenant, tenant] at order
  refine ⟨entry, ?_, entryKey.trans keyed, bytes, order⟩
  rw [entryNames, ← sameNames, names, Snapshot.storing, name]

structure LookupSound (services : CacheServices Result) (evidence : Evidence) (sc : StageCache)
    (phase : LookupPhase Result) : Prop where
  digests : ∀ entry ∈ phase.digests, SealedDigest services.sha256 evidence entry.2
  found : CollisionFree services.sha256 evidence → ∀ row ∈ phase.found,
    Vouched evidence sc.tenantID sc.name row.key row.hit ∧
      decodeResult services row.hit.result = .ok row.result
  results : CollisionFree services.sha256 evidence → ∀ served ∈ phase.results,
    ∃ task, sc.byTask.lookup served.taskID = some task ∧ served.key = task.lookupKey ∧
      Vouched evidence sc.tenantID sc.name served.key served.hit ∧
      decodeResult services served.hit.result = .ok served.result

structure StageSound (services : CacheServices Result) (evidence : Evidence)
    (stage : Stage Result) : Prop where
  writes : ∀ write ∈ stage.cache.writes,
    Recorded services.sha256 evidence stage.cache.tenantID stage.cache.ref write
  unsent : ∀ envelope ∈ stage.unsent, Issued evidence envelope
  lookup : LookupSound services evidence stage.cache stage.lookup

structure Sound (services : CacheServices Result) (world : CacheWorld Result) : Prop where
  stages : ∀ stage ∈ world.stages, StageSound services world.evidence stage
  signatures : ∀ signature ∈ world.evidence.signatures, signature.2.step = cacheCheckpointStep →
    ∀ product ∈ signature.2.products, SealedDigest services.sha256 world.evidence product.digest
  objects : Unforged world.evidence world.objects

theorem LookupSound.mono {earlier later : Evidence} (grows : earlier.Extends later)
    (sound : LookupSound services earlier sc phase) : LookupSound services later sc phase where
  digests entry mem := (sound.digests entry mem).mono grows
  found free row mem := by
    obtain ⟨vouched, decoded⟩ := sound.found (free.of_extends grows) row mem
    exact ⟨vouched.mono grows, decoded⟩
  results free served mem := by
    obtain ⟨task, known, keyed, vouched, decoded⟩ :=
      sound.results (free.of_extends grows) served mem
    exact ⟨task, known, keyed, vouched.mono grows, decoded⟩

theorem StageSound.mono {earlier later : Evidence} (grows : earlier.Extends later)
    (sound : StageSound services earlier stage) :
    StageSound services later stage where
  writes write mem := (sound.writes write mem).mono grows
  unsent envelope mem := (sound.unsent envelope mem).mono grows
  lookup := sound.lookup.mono grows

theorem LookupSound.of_nil (digests : phase.digests = []) (found : phase.found = [])
    (results : phase.results = []) :
    LookupSound services evidence sc phase where
  digests entry mem := by
    rw [digests] at mem
    cases mem
  found _free row mem := by
    rw [found] at mem
    cases mem
  results _free served mem := by
    rw [results] at mem
    cases mem

theorem LookupSound.of_cache {other : StageCache} (sound : LookupSound services evidence sc phase)
    (tenant : other.tenantID = sc.tenantID) (name : other.name = sc.name)
    (tasks : other.byTask = sc.byTask) : LookupSound services evidence other phase where
  digests := sound.digests
  found := by
    rw [tenant, name]
    exact sound.found
  results := by
    rw [tenant, name, tasks]
    exact sound.results

theorem Sound.setStage (sound : Sound services world)
    (grows : world.evidence.Extends next.evidence)
    (stages : next.stages = world.stages.set index stage)
    (moved : StageSound services next.evidence stage)
    (signatures : ∀ signature ∈ next.evidence.signatures, signature ∉ world.evidence.signatures →
      signature.2.step = cacheCheckpointStep → ∀ product ∈ signature.2.products,
        SealedDigest services.sha256 next.evidence product.digest)
    (objects : Unforged next.evidence next.objects) : Sound services next where
  stages other mem := by
    rw [stages] at mem
    rcases mem_or_eq_of_mem_set mem with old | rfl
    · exact (sound.stages other old).mono grows
    · exact moved
  signatures signature mem step product listed := by
    by_cases old : signature ∈ world.evidence.signatures
    · exact (sound.signatures signature old step product listed).mono grows
    · exact signatures signature mem old step product listed
  objects := objects

theorem Sound.moveStage (sound : Sound services world)
    (grows : world.evidence.Extends next.evidence)
    (stages : next.stages = world.stages.set index stage)
    (moved : StageSound services next.evidence stage)
    (signatures : next.evidence.signatures = world.evidence.signatures)
    (objects : next.objects = world.objects) : Sound services next := by
  apply sound.setStage grows stages moved
  · intro signature mem new
    rw [signatures] at mem
    exact absurd mem new
  · rw [objects]
    exact sound.objects.mono grows

theorem Sound.keepStages (sound : Sound services world)
    (grows : world.evidence.Extends next.evidence) (stages : next.stages = world.stages)
    (signatures : next.evidence.signatures = world.evidence.signatures)
    (objects : next.objects = world.objects) : Sound services next where
  stages stage mem := by
    rw [stages] at mem
    exact (sound.stages stage mem).mono grows
  signatures signature mem step product listed := by
    rw [signatures] at mem
    exact (sound.signatures signature mem step product listed).mono grows
  objects := by
    rw [objects]
    exact sound.objects.mono grows

end CrossCodex.Analysis
