/-
What the service may do in one step, the running map, and jobs on their way into it. The map
names exactly the live runs; a retry from failure keeps this only where it finds no entry.
CreateJob and a retry as a new job write it without looking, since nobody else can know the
ID yet.
-/

import CrossCodex.Pipeline.Service

namespace CrossCodex.Pipeline

open Library

variable {JobId : Type} [DecidableEq JobId]

namespace Service

section

open Function Option

omit [DecidableEq JobId] in
theorem run?_eq_some {s : Service JobId} {id : Nat} {run : Run JobId}
    (found : s.run? id = some run) : run ∈ s.live ∧ run.id = id := by
  constructor
  · exact List.mem_of_find?_eq_some found
  · simpa using List.find?_some found

/-- The step of an event, with the guards the invariants need. -/
inductive Step (s : Service JobId) : ServiceEvent JobId → Service JobId → Prop
  | createAdmit {job} (missing : s.rows job = none) :
    Step s (.createAdmit job) { s with creates := update s.creates job (some .admitted) }
  | createStore {job} (admitted : s.creates job = some .admitted) :
    Step s (.createStore job) (s.storeJob job)
  | createRegister {job} (stored : s.creates job = some .stored) : Step s (.createRegister job)
      ({ s with creates := update s.creates job none }.register job false)
  | createAbort {job} : Step s (.createAbort job) { s with creates := update s.creates job none }
  | cancelJob {job id run} (entry : s.running.lookup job = some id)
      (found : s.run? id = some run) (unclaimed : run.completing = false) :
    Step s (.cancelJob job) (s.updateRun id cancelRun)
  | retryRead {job row} (found : s.rows job = some row) :
    Step s (.retryRead job) { s with reads := (job, row.status) :: s.reads }
  | reserveRetry {job status} (read : (job, status) ∈ s.reads) :
    Step s (.reserveRetry job status) (s.setRetryPhase job status .reserved)
  | retryAdmit {job status} (reserved : s.retrying job = some ⟨status, .reserved⟩) :
    Step s (.retryAdmit job) (s.setRetryPhase job status .admitted)
  | resetsFailed {job status row}
      (admitted : s.retrying job = some ⟨status, .admitted⟩) (found : s.rows job = some row)
      (failed : row.stageFailed = true) : Step s (.retryReset job)
      ({ s with rows := update s.rows job (some { row with stageFailed := false })
        }.setRetryPhase job status .stagesReset)
  | resumesEnded {job status row}
      (admitted : s.retrying job = some ⟨status, .admitted⟩) (found : s.rows job = some row)
      (ended : status = .failed ∨ status = .cancelled) :
    Step s (.retryReset job) (s.setRetryPhase job status .stagesReset)
  | retryMark {job status row}
      (reset : s.retrying job = some ⟨status, .stagesReset⟩) (found : s.rows job = some row) :
    Step s (.retryMark job)
      ({ s with rows := update s.rows job (some { row with status := .running })
        }.setRetryPhase job status .markedRunning)
  | retryRegister {job status} (marked : s.retrying job = some ⟨status, .markedRunning⟩) :
    Step s (.retryRegister job) ((s.register job false).setRetryPhase job status .registered)
  | retryAsNew {job newJob status}
      (admitted : s.retrying job = some ⟨status, .admitted⟩) (missing : s.rows newJob = none) :
    Step s (.retryAsNew job newJob)
      ({ s with creates := update s.creates newJob (some .admitted)
        }.setRetryPhase job status (.creating newJob))
  | retryReturn {job} : Step s (.retryReturn job) { s with retrying := update s.retrying job none }
  | start : Step s .start { s with started := true, dispatcher := some ⟨s.resumable, false⟩ }
  | dispatchSlot {head rest} (waiting : s.dispatcher = some ⟨head :: rest, false⟩) :
    Step s .dispatchSlot
      { s with dispatcher := some ⟨head :: rest, true⟩, semUsed := s.semUsed + 1 }
  | dispatches {head rest} (holding : s.dispatcher = some ⟨head :: rest, true⟩)
      (absent : s.running.lookup head = none) :
    Step s .dispatchNext ({ s with dispatcher := some ⟨rest, false⟩ }.register head true)
  | skips {head rest} (holding : s.dispatcher = some ⟨head :: rest, true⟩) : Step s .dispatchNext
      { s with dispatcher := some ⟨rest, false⟩, semUsed := s.semUsed - 1 }
  | runMark {id run row} (found : s.run? id = some run) (stored : s.rows run.job = some row) :
    Step s (.runMark id)
      { s with rows := update s.rows run.job (some { row with status := .running }) }
  | runStageFails {id run row} (found : s.run? id = some run) (stored : s.rows run.job = some row) :
    Step s (.runStageFails id)
      { s with rows := update s.rows run.job (some { row with stageFailed := true }) }
  | runFails {id run} (found : s.run? id = some run)
      (working : run.phase = .working) : Step s (.runFails id) (s.updateRun id failRun)
  | runPanics {id run} (found : s.run? id = some run)
      (going : run.phase ≠ .ended) : Step s (.runPanics id) (s.updateRun id panicRun)
  | runClaims {id run} (found : s.run? id = some run)
      (working : run.phase = .working) : Step s (.runClaims id) (s.updateRun id claimRun)
  | runWrites {id run row status reaches}
      (found : s.run? id = some run) (due : terminalStatus run.phase = some status)
      (stored : s.rows run.job = some row) : Step s (.runWrites id reaches)
      ({ s with rows := update s.rows run.job (some { row with status })
        }.updateRun id (wroteRun status))
  | writeFails {id run status reaches}
      (found : s.run? id = some run) (due : terminalStatus run.phase = some status) :
    Step s (.runWrites id reaches) (s.updateRun id writeFailedRun)
  | runReleases {id run} (found : s.run? id = some run) (ended : run.phase = .ended) :
    Step s (.runReleases id) (s.releaseRun run)
  | stop : Step s .stop { s with
      stopped := true
      running := ∅
      live := s.live.map fun run =>
        if s.running.lookup run.job = some run.id then stopRun run else run }

variable {s t : Service JobId} {job : JobId} {status : JobStatus}

theorem updateJobStatus_cases (h : s.updateJobStatus job status = some t) :
    ∃ row, s.rows job = some row ∧
      t = { s with rows := update s.rows job (some { row with status }) } := by
  unfold updateJobStatus at h
  split at h
  · cases h
  · rename_i row found
    split at h
    · cases h
    · exact ⟨row, found, (some.inj h).symm⟩

theorem step_cases {event : ServiceEvent JobId} (h : s.step event = some t) : Step s event t := by
  cases event <;> simp only [step, createAdmit, createStore, createRegister, createAbort, cancelJob,
    retryRead, reserveRetry, retryAdmit, retryReset, retryMark, retryRegister, retryAsNew,
    retryReturn, start, dispatchSlot, dispatchNext, runMark, runStageFails, runFails, runPanics,
    runClaims, runWrites, runReleases, stop] at h
  case retryMark job =>
    split at h
    · rename_i status reset
      obtain ⟨marked, updated, rfl⟩ := map_eq_some_iff.mp h
      obtain ⟨row, found, rfl⟩ := updateJobStatus_cases updated
      exact .retryMark reset found
    · cases h
  case runMark id =>
    split at h
    · rename_i run found
      split at h
      · obtain ⟨row, stored, rfl⟩ := updateJobStatus_cases h
        exact .runMark found stored
      · cases h
    · cases h
  case runWrites id reaches =>
    split at h
    · rename_i run found
      split at h
      · cases h
      · rename_i status due
        split at h
        · rename_i written reached
          split at reached
          · obtain ⟨row, stored, rfl⟩ := updateJobStatus_cases reached
            cases h
            exact .runWrites found due stored
          · cases reached
        · cases h
          exact .writeFails found due
    · cases h
  case runReleases id =>
    split at h
    · rename_i run found
      split at h
      · rename_i ended
        cases h
        exact .runReleases found ended
      · cases h
    · cases h
  -- The guards of the other events are those of their constructors.
  all_goals repeat' split at h
  all_goals cases h
  all_goals constructor <;> first | assumption | grind

end

open List

/-! ### What a step does to the registry -/

def liveKeys (s : Service JobId) : List (Nat × JobId) :=
  s.live.map fun run => (run.id, run.job)

def registering (s : Service JobId) : ServiceEvent JobId → Option JobId
  | .createRegister job => some job
  | .retryRegister job => some job
  | .dispatchNext =>
    match s.dispatcher with
    | some ⟨job :: _, true⟩ => if s.running.lookup job = none then some job else none
    | _ => none
  | _ => none

omit [DecidableEq JobId] in
theorem updateRun_liveKeys (s : Service JobId) (id : Nat) (change : Run JobId → Run JobId)
    (same : ∀ run, (change run).id = run.id ∧ (change run).job = run.job) :
    (s.updateRun id change).liveKeys = s.liveKeys := by
  unfold liveKeys updateRun
  rw [map_map]
  apply map_congr_left
  intro run _member
  change ((if run.id = id then change run else run).id,
    (if run.id = id then change run else run).job) = (run.id, run.job)
  split
  · rw [(same run).1, (same run).2]
  · rfl

inductive RegistryChange (s t : Service JobId) (event : ServiceEvent JobId) : Prop where
  | kept (limit : t.maxConcurrentJobs = s.maxConcurrentJobs)
      (running : t.running = s.running) (keys : t.liveKeys = s.liveKeys)
      (next : t.nextRun = s.nextRun)
  | added (job : JobId) (registers : s.registering event = some job)
      (limit : t.maxConcurrentJobs = s.maxConcurrentJobs)
      (running : t.running = s.running.insert job s.nextRun)
      (keys : t.liveKeys = (s.nextRun, job) :: s.liveKeys) (next : t.nextRun = s.nextRun + 1)
  | removed (run : Run JobId) (member : run ∈ s.live)
      (limit : t.maxConcurrentJobs = s.maxConcurrentJobs)
      (running : t.running = (s.releaseRun run).running)
      (keys : t.liveKeys = s.liveKeys.filter fun key => key.1 ≠ run.id)
      (next : t.nextRun = s.nextRun)
  | stopped (stops : event = .stop) (keys : t.liveKeys = s.liveKeys)
      (next : t.nextRun = s.nextRun)

omit [DecidableEq JobId] in
theorem failRun_key (run : Run JobId) :
    (failRun run).id = run.id ∧ (failRun run).job = run.job := by
  unfold failRun interruptRun
  split
  · exact ⟨rfl, rfl⟩
  · split <;> exact ⟨rfl, rfl⟩

omit [DecidableEq JobId] in
theorem claimRun_key (run : Run JobId) :
    (claimRun run).id = run.id ∧ (claimRun run).job = run.job := by
  unfold claimRun interruptRun
  split
  · exact ⟨rfl, rfl⟩
  · split <;> exact ⟨rfl, rfl⟩

variable {s t : Service JobId} {run : Run JobId} {event : ServiceEvent JobId}

theorem step_registryChange (h : s.step event = some t) : RegistryChange s t event := by
  cases step_cases h with
  | createRegister stored => exact .added _ rfl rfl rfl rfl rfl
  | retryRegister marked => exact .added _ rfl rfl rfl rfl rfl
  | dispatches holding absent =>
    refine .added _ ?_ rfl rfl rfl rfl
    simp [registering, holding, absent]
  | runFails found working => exact .kept rfl rfl (updateRun_liveKeys s _ _ failRun_key) rfl
  | runClaims found working => exact .kept rfl rfl (updateRun_liveKeys s _ _ claimRun_key) rfl
  | cancelJob | runPanics | runWrites | writeFails =>
    exact .kept rfl rfl (updateRun_liveKeys _ _ _ fun _run => ⟨rfl, rfl⟩) rfl
  | runReleases found ended =>
    obtain ⟨mem, rfl⟩ := run?_eq_some found
    refine .removed _ mem rfl rfl ?_ rfl
    unfold liveKeys
    rw [filter_map]
    rfl
  | stop =>
    refine .stopped rfl ?_ rfl
    unfold liveKeys
    rw [map_map]
    apply map_congr_left
    intro run _member
    simp only [Function.comp_apply]
    split <;> rfl
  | _ => exact .kept rfl rfl rfl rfl

/-- Live runs have distinct identities, all drawn before the next one. -/
structure Numbered (s : Service JobId) : Prop where
  distinct : (s.liveKeys.map Prod.fst).Nodup
  fresh : ∀ key ∈ s.liveKeys, key.1 < s.nextRun

omit [DecidableEq JobId] in
theorem Numbered.kept (numbered : s.Numbered) (keys : t.liveKeys = s.liveKeys)
    (next : t.nextRun = s.nextRun) : t.Numbered where
  distinct := by
    rw [keys]
    exact numbered.distinct
  fresh := by
    rw [keys, next]
    exact numbered.fresh

omit [DecidableEq JobId] in
theorem Numbered.added (numbered : s.Numbered) {job : JobId}
    (keys : t.liveKeys = (s.nextRun, job) :: s.liveKeys) (next : t.nextRun = s.nextRun + 1) :
    t.Numbered where
  distinct := by
    rw [keys, map_cons, nodup_cons]
    refine ⟨?_, numbered.distinct⟩
    intro mem
    obtain ⟨key, present, equal⟩ := mem_map.mp mem
    have bound := numbered.fresh key present
    omega
  fresh := by
    rw [keys, next]
    intro key mem
    rcases mem_cons.mp mem with rfl | present
    · exact Nat.lt_succ_self _
    · exact Nat.lt_succ_of_lt (numbered.fresh key present)

omit [DecidableEq JobId] in
theorem Numbered.removed (numbered : s.Numbered) {id : Nat}
    (keys : t.liveKeys = s.liveKeys.filter fun key => key.1 ≠ id) (next : t.nextRun = s.nextRun) :
    t.Numbered where
  distinct := by
    rw [keys]
    exact numbered.distinct.sublist ((filter_sublist).map Prod.fst)
  fresh := by
    rw [keys, next]
    intro key present
    exact numbered.fresh key (mem_filter.mp present).1

theorem Numbered.step (numbered : s.Numbered) (h : s.step event = some t) : t.Numbered := by
  cases step_registryChange h with
  | kept _limit _running keys next => exact numbered.kept keys next
  | added job _registers _limit _running keys next => exact numbered.added keys next
  | removed run _member _limit _running keys next => exact numbered.removed keys next
  | stopped _stops keys next => exact numbered.kept keys next

omit [DecidableEq JobId] in
theorem Initial.numbered {s : Service JobId} (initial : s.Initial) : s.Numbered where
  distinct := by
    rw [liveKeys, initial.live]
    exact nodup_nil
  fresh := by
    rw [liveKeys, initial.live]
    intro key mem
    cases mem

omit [DecidableEq JobId] in
theorem Numbered.run?_of_live {s : Service JobId} (numbered : s.Numbered) (mem : run ∈ s.live) :
    s.run? run.id = some run := by
  have ids : (s.live.map Run.id).Nodup := by
    have distinct := numbered.distinct
    rw [liveKeys, map_map] at distinct
    exact distinct
  unfold run?
  cases found : s.live.find? fun other => decide (other.id = run.id) with
  | none =>
    have absent := find?_eq_none.mp found run mem
    simp at absent
  | some other =>
    have present := mem_of_find?_eq_some found
    have same : other.id = run.id := by simpa using find?_some found
    rw [inj_on_of_nodup_map ids present mem same]

structure Tracked (s : Service JobId) : Prop extends Numbered s where
  /-- An entry belongs to a live run of its job, and every live run has its entry. -/
  entry : ∀ job id, s.running.lookup job = some id ↔ (id, job) ∈ s.liveKeys

theorem Initial.tracked {s : Service JobId} (initial : s.Initial) : s.Tracked where
  toNumbered := initial.numbered
  entry job id := by
    rw [initial.running, liveKeys, initial.live]
    simp

theorem Tracked.added (tracked : s.Tracked) {job : JobId} (absent : s.running.lookup job = none)
    (running : t.running = s.running.insert job s.nextRun)
    (keys : t.liveKeys = (s.nextRun, job) :: s.liveKeys) (next : t.nextRun = s.nextRun + 1) :
    t.Tracked where
  entry other id := by
    rw [running, keys, mem_cons, Prod.mk.injEq]
    by_cases same : other = job
    · subst other
      rw [AList.lookup_insert, Option.some.injEq]
      constructor
      · intro equal
        exact Or.inl ⟨equal.symm, rfl⟩
      · intro cases_
        rcases cases_ with equal | mem
        · exact equal.1.symm
        · rw [← tracked.entry, absent] at mem
          cases mem
    · rw [AList.lookup_insert_ne same, tracked.entry]
      simp [same]
  toNumbered := tracked.toNumbered.added keys next

theorem Tracked.lookup_of_live {s : Service JobId} (tracked : s.Tracked) (mem : run ∈ s.live) :
    s.running.lookup run.job = some run.id :=
  (tracked.entry run.job run.id).mpr (mem_map.mpr ⟨run, mem, rfl⟩)

theorem Tracked.removed (tracked : s.Tracked) (mem : run ∈ s.live)
    (running : t.running = (s.releaseRun run).running)
    (keys : t.liveKeys = s.liveKeys.filter fun key => key.1 ≠ run.id)
    (next : t.nextRun = s.nextRun) : t.Tracked where
  entry other id := by
    have own := tracked.lookup_of_live mem
    rw [running, releaseRun, if_pos own, keys, mem_filter, ← tracked.entry]
    by_cases same : other = run.job
    · subst other
      rw [AList.lookup_erase, own]
      simp only [Option.some.injEq, reduceCtorEq, ne_eq, decide_not, Bool.not_eq_true',
        decide_eq_false_iff_not, false_iff, not_and, not_not]
      exact fun equal => equal.symm
    · rw [AList.lookup_erase_ne same]
      simp only [ne_eq, decide_not, Bool.not_eq_true', decide_eq_false_iff_not, iff_self_and]
      intro found equal
      subst id
      -- Two keys with one run ID would be two live runs with it.
      have first := (tracked.entry other run.id).mp found
      have second := (tracked.entry run.job run.id).mp own
      have keysEqual := inj_on_of_nodup_map tracked.distinct first second rfl
      exact same (congrArg Prod.snd keysEqual)
  toNumbered := tracked.toNumbered.removed keys next

open Function Option

structure Untouched (s : Service JobId) (job : JobId) : Prop where
  entry : s.running.lookup job = none
  undispatched : ∀ dispatcher, s.dispatcher = some dispatcher → job ∉ dispatcher.jobs
  unread : ∀ status, (job, status) ∉ s.reads
  unreserved : s.retrying job = none
  uncreated : job ∉ s.created

structure Newborn (s : Service JobId) (job : JobId) : Prop where
  row : s.rows job = some ⟨.pending, false⟩
  entry : s.running.lookup job = none
  undispatched : ∀ dispatcher, s.dispatcher = some dispatcher → job ∉ dispatcher.jobs
  readPending : ∀ status, (job, status) ∈ s.reads → status = .pending
  retryPending : ∀ call, s.retrying job = some call →
    call.status = .pending ∧ call.phase ≠ .stagesReset ∧ call.phase ≠ .markedRunning

/-- What the service may know of a job, by how far its creation has come. -/
structure Life (s : Service JobId) (job : JobId) : Prop where
  absent : s.rows job = none → s.Untouched job
  admitted : s.creates job = some .admitted → s.rows job = none
  stored : s.creates job = some .stored → s.Newborn job

/-- The later state knows nothing of the job that the earlier one did not. -/
structure NoMore (s t : Service JobId) (job : JobId) : Prop where
  row : t.rows job = s.rows job
  creates : ∀ phase, t.creates job = some phase → s.creates job = some phase
  entry : s.running.lookup job = none → t.running.lookup job = none
  dispatched : ∀ dispatcher, t.dispatcher = some dispatcher → job ∈ dispatcher.jobs →
    ∃ earlier, s.dispatcher = some earlier ∧ job ∈ earlier.jobs
  reads : ∀ status, (job, status) ∈ t.reads → (job, status) ∈ s.reads
  retrying : ∀ call, t.retrying job = some call → s.retrying job = some call
  created : job ∈ t.created → job ∈ s.created

variable {job : JobId} {call : RetryCall JobId}

theorem Untouched.later (untouched : s.Untouched job)
    (noMore : NoMore s t job) : t.Untouched job where
  entry := noMore.entry untouched.entry
  undispatched := by
    intro dispatcher current listed
    obtain ⟨earlier, before, present⟩ := noMore.dispatched dispatcher current listed
    exact untouched.undispatched earlier before present
  unread := fun status mem => untouched.unread status (noMore.reads status mem)
  unreserved := by
    cases reserved : t.retrying job with
    | none => rfl
    | some call =>
      have before := noMore.retrying call reserved
      rw [untouched.unreserved] at before
      cases before
  uncreated := fun mem => untouched.uncreated (noMore.created mem)

theorem Newborn.later (newborn : s.Newborn job) (noMore : NoMore s t job) : t.Newborn job where
  row := noMore.row.trans newborn.row
  entry := noMore.entry newborn.entry
  undispatched := by
    intro dispatcher current listed
    obtain ⟨earlier, before, present⟩ := noMore.dispatched dispatcher current listed
    exact newborn.undispatched earlier before present
  readPending := fun status mem => newborn.readPending status (noMore.reads status mem)
  retryPending := fun call reserved => newborn.retryPending call (noMore.retrying call reserved)

theorem Life.later (life : s.Life job) (noMore : NoMore s t job) : t.Life job where
  absent := fun missing => (life.absent (noMore.row ▸ missing)).later noMore
  admitted := fun creating => noMore.row.trans (life.admitted (noMore.creates _ creating))
  stored := fun creating => (life.stored (noMore.creates _ creating)).later noMore

theorem Initial.life {s : Service JobId} (initial : s.Initial) (job : JobId) : s.Life job where
  absent := by
    intro missing
    refine ⟨by rw [initial.running]; rfl, ?_, ?_, initial.retrying job, ?_⟩
    · intro dispatcher current
      rw [initial.dispatcher] at current
      cases current
    · intro status mem
      rw [initial.reads] at mem
      cases mem
    · intro mem
      exact (initial.stored job).mp mem missing
  admitted := by
    intro creating
    rw [initial.creates] at creating
    cases creating
  stored := by
    intro creating
    rw [initial.creates] at creating
    cases creating

theorem Life.known_of_retrying (life : s.Life job) (reserved : s.retrying job = some call) :
    s.rows job ≠ none := by
  intro missing
  rw [(life.absent missing).unreserved] at reserved
  cases reserved

theorem Life.retry_of_stored (life : s.Life job) (reserved : s.retrying job = some call)
    (stored : s.creates job = some .stored) : call.status = .pending :=
  ((life.stored stored).retryPending call reserved).1

theorem Life.born_of_reset (life : s.Life job) (reserved : s.retrying job = some call)
    (phase : call.phase = .stagesReset ∨ call.phase = .markedRunning) :
    s.creates job ≠ some .stored := by
  intro stored
  have pending := (life.stored stored).retryPending call reserved
  rcases phase with reset | marked
  · exact pending.2.1 reset
  · exact pending.2.2 marked

theorem NoMore.refl (s : Service JobId) (job : JobId) : NoMore s s job where
  row := rfl
  creates := fun _phase => id
  entry := id
  dispatched := fun dispatcher current listed => ⟨dispatcher, current, listed⟩
  reads := fun _status => id
  retrying := fun _call => id
  created := id

section

variable {other : JobId} (life : ∀ other, s.Life other) {row : JobRow} {id : Nat}
include life

theorem admit_life (missing : s.rows job = none) :
    { s with creates := update s.creates job (some .admitted) }.Life other := by
  by_cases same : other = job
  · subst other
    obtain ⟨entry, undispatched, unread, unreserved, uncreated⟩ := (life job).absent missing
    refine ⟨fun _ => ⟨entry, undispatched, unread, unreserved, uncreated⟩,
      fun _ => missing, ?_⟩
    simp
  · exact (life other).later
      { NoMore.refl s other with creates := by simp [update_of_ne same] }

theorem createStore_life (admitted : s.creates job = some .admitted) :
    (s.storeJob job).Life other := by
  unfold storeJob
  by_cases same : other = job
  · subst other
    have untouched := (life job).absent ((life job).admitted admitted)
    refine ⟨by simp, by simp, ?_⟩
    intro _stored
    refine ⟨by simp, untouched.entry, untouched.undispatched, ?_, ?_⟩
    · intro status mem
      exact absurd mem (untouched.unread status)
    · intro call reserved
      rw [untouched.unreserved] at reserved
      cases reserved
  · refine (life other).later { NoMore.refl s other with row := ?_, creates := ?_, created := ?_ }
    · simp [update_of_ne same]
    · simp [update_of_ne same]
    · simp [same]

theorem createRegister_life (stored : s.creates job = some .stored) :
    ({ s with creates := update s.creates job none }.register job false).Life other := by
  by_cases same : other = job
  · subst other
    have row := ((life job).stored stored).row
    refine ⟨?_, ?_, ?_⟩
    · intro missing
      change s.rows job = none at missing
      rw [row] at missing
      cases missing
    · simp [register]
    · simp [register]
  · refine (life other).later { NoMore.refl s other with creates := ?_, entry := ?_ }
    · simp [register, update_of_ne same]
    · simp [register, AList.lookup_insert_ne same]

theorem retryRead_life (found : s.rows job = some row) :
    { s with reads := (job, row.status) :: s.reads }.Life other := by
  by_cases same : other = job
  · subst other
    refine ⟨?_, ?_, ?_⟩
    · intro missing
      rw [found] at missing
      cases missing
    · exact (life job).admitted
    · intro stored
      have newborn := (life job).stored stored
      refine ⟨newborn.row, newborn.entry, newborn.undispatched, ?_, newborn.retryPending⟩
      intro status mem
      rcases mem_cons.mp mem with read | earlier
      · rw [newborn.row, some.injEq] at found
        rw [Prod.mk.injEq] at read
        rw [read.2, ← found]
      · exact newborn.readPending status earlier
  · refine (life other).later { NoMore.refl s other with reads := ?_ }
    simp [same]

theorem setRetryPhase_life {status : JobStatus} {phase : RetryPhase JobId}
    (known : s.rows job ≠ none) (pending : s.creates job = some .stored →
      status = .pending ∧ phase ≠ .stagesReset ∧ phase ≠ .markedRunning) :
    (s.setRetryPhase job status phase).Life other := by
  by_cases same : other = job
  · subst other
    refine ⟨fun missing => absurd missing known, (life job).admitted, ?_⟩
    intro stored
    have newborn := (life job).stored stored
    refine ⟨newborn.row, newborn.entry, newborn.undispatched, newborn.readPending, ?_⟩
    intro call reserved
    simp only [setRetryPhase, update_self, some.injEq] at reserved
    subst call
    exact pending stored
  · refine (life other).later { NoMore.refl s other with retrying := ?_ }
    simp [setRetryPhase, update_of_ne same]

theorem rows_life (known : s.rows job ≠ none) (born : s.creates job ≠ some .stored) :
    { s with rows := update s.rows job (some row) }.Life other := by
  by_cases same : other = job
  · subst other
    refine ⟨by simp, ?_, fun stored => absurd stored born⟩
    intro admitted
    exact absurd ((life job).admitted admitted) known
  · exact (life other).later
      { NoMore.refl s other with row := by simp [update_of_ne same] }

theorem register_life {slot : Bool} (known : s.rows job ≠ none)
    (born : s.creates job ≠ some .stored) : (s.register job slot).Life other := by
  by_cases same : other = job
  · subst other
    exact ⟨fun missing => absurd missing known, (life job).admitted,
      fun stored => absurd stored born⟩
  · refine (life other).later { NoMore.refl s other with entry := ?_ }
    simp [register, AList.lookup_insert_ne same]

theorem start_life :
    { s with started := true, dispatcher := some ⟨s.resumable, false⟩ }.Life other := by
  have listed : other ∈ s.resumable →
      other ∈ s.created ∧ (s.rows other).map JobRow.status = some .running := by
    intro mem
    have parts := mem_filter.mp mem
    exact ⟨parts.1, by simpa using parts.2⟩
  refine ⟨?_, (life other).admitted, ?_⟩
  · intro missing
    obtain ⟨entry, _, unread, unreserved, uncreated⟩ := (life other).absent missing
    refine ⟨entry, ?_, unread, unreserved, uncreated⟩
    intro dispatcher current mem
    rw [← some.inj current] at mem
    exact uncreated (listed mem).1
  · intro stored
    obtain ⟨row, entry, _, readPending, retryPending⟩ := (life other).stored stored
    refine ⟨row, entry, ?_, readPending, retryPending⟩
    intro dispatcher current mem
    rw [← some.inj current] at mem
    have running := (listed mem).2
    rw [row] at running
    cases running

theorem dispatcher_life {before after : Dispatcher JobId} {used : Nat}
    (current : s.dispatcher = some before) (fewer : after.jobs ⊆ before.jobs) :
    { s with dispatcher := some after, semUsed := used }.Life other := by
  refine (life other).later { NoMore.refl s other with dispatched := ?_ }
  intro dispatcher now mem
  rw [← some.inj now] at mem
  exact ⟨before, current, fewer mem⟩

theorem rows_life_of_live (tracked : s.Tracked) {run : Run JobId} {before : JobRow}
    (found : s.run? id = some run) (stored : s.rows run.job = some before) :
    { s with rows := update s.rows run.job (some row) }.Life other := by
  have entry := tracked.lookup_of_live (run?_eq_some found).1
  apply rows_life life (by simp [stored])
  intro creating
  rw [((life run.job).stored creating).entry] at entry
  cases entry

theorem updateRun_life {change : Run JobId → Run JobId} : (s.updateRun id change).Life other :=
  (life other).later { NoMore.refl s other with row := rfl }

end

theorem step_life {event : ServiceEvent JobId}
    (h : s.step event = some t) (tracked : s.Tracked) (life : ∀ other, s.Life other) :
    ∀ other, t.Life other := by
  intro other
  cases step_cases h with
  | createAdmit missing => exact admit_life life missing
  | createStore admitted => exact createStore_life life admitted
  | createRegister stored => exact createRegister_life life stored
  | @createAbort job =>
    refine (life other).later { NoMore.refl s other with creates := ?_ }
    intro phase creating
    by_cases same : other = job
    · subst other
      simp at creating
    · simpa [update_of_ne same] using creating
  | retryRead found => exact retryRead_life life found
  | @reserveRetry job status read =>
    apply setRetryPhase_life life
    · intro missing
      exact ((life job).absent missing).unread status read
    · intro stored
      exact ⟨((life job).stored stored).readPending status read, by simp, by simp⟩
  | @retryAdmit job status reserved =>
    apply setRetryPhase_life life ((life job).known_of_retrying reserved)
    intro stored
    exact ⟨(life job).retry_of_stored reserved stored, by simp, by simp⟩
  | @resetsFailed job status row admitted found failed =>
    have born : s.creates job ≠ some .stored := by
      intro stored
      rw [((life job).stored stored).row, some.injEq] at found
      rw [← found] at failed
      cases failed
    exact setRetryPhase_life (fun _ => rows_life life (by simp [found]) born) (by simp)
      fun stored => absurd stored born
  | @resumesEnded job status row admitted found ended =>
    apply setRetryPhase_life life (by simp [found])
    intro stored
    have pending : status = .pending := (life job).retry_of_stored admitted stored
    rcases ended with failed | cancelled
    · rw [pending] at failed
      cases failed
    · rw [pending] at cancelled
      cases cancelled
  | @retryMark job status row reset found =>
    have born := (life job).born_of_reset reset (Or.inl rfl)
    exact setRetryPhase_life (fun _ => rows_life life (by simp [found]) born) (by simp)
      fun stored => absurd stored born
  | @retryRegister job status marked =>
    have known := (life job).known_of_retrying marked
    have born := (life job).born_of_reset marked (Or.inr rfl)
    exact setRetryPhase_life (fun _ => register_life life known born) known
      fun stored => absurd stored born
  | @retryAsNew job newJob status admitted missing =>
    have known := (life job).known_of_retrying admitted
    have differ : job ≠ newJob := by
      intro same
      exact known (same ▸ missing)
    apply setRetryPhase_life (fun _ => admit_life life missing) known
    intro stored
    change update s.creates newJob (some .admitted) job = some .stored at stored
    rw [update_of_ne differ] at stored
    exact ⟨(life job).retry_of_stored admitted stored, by simp, by simp⟩
  | @retryReturn job =>
    refine (life other).later { NoMore.refl s other with retrying := ?_ }
    intro call reserved
    by_cases same : other = job
    · subst other
      simp at reserved
    · simpa [update_of_ne same] using reserved
  | start => exact start_life life
  | dispatchSlot waiting => exact dispatcher_life life waiting fun _ => id
  | @dispatches head rest holding absent =>
    have known : s.rows head ≠ none := by
      intro missing
      exact ((life head).absent missing).undispatched _ holding mem_cons_self
    have born : s.creates head ≠ some .stored := by
      intro stored
      exact ((life head).stored stored).undispatched _ holding mem_cons_self
    exact register_life (fun _ => dispatcher_life life holding (subset_cons_self head rest))
      known born
  | @skips head rest holding => exact dispatcher_life life holding (subset_cons_self head rest)
  | runMark found stored => exact rows_life_of_live life tracked found stored
  | runStageFails found stored => exact rows_life_of_live life tracked found stored
  | runWrites found due stored =>
    exact updateRun_life fun _ => rows_life_of_live life tracked found stored
  | cancelJob | runFails | runPanics | runClaims | writeFails => exact updateRun_life life
  | @runReleases id run found ended =>
    refine (life other).later { NoMore.refl s other with entry := ?_ }
    intro absent
    unfold releaseRun
    split
    · by_cases same : other = run.job
      · rw [same, AList.lookup_erase]
      · rw [AList.lookup_erase_ne same, absent]
    · exact absent
  | stop =>
    refine (life other).later { NoMore.refl s other with entry := ?_ }
    intro _absent
    rfl

end Service

end CrossCodex.Pipeline
