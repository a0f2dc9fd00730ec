/-
At most one live run of each job and at most MaxConcurrentJobs in all, where a registration
finds what its earlier check found. Two runs show what happens where it does not. Resumed
runs keep to the limit in any case.
-/

import CrossCodex.Pipeline.Births
import Mathlib.Data.List.Perm.Subperm

namespace CrossCodex.Pipeline

open Library List

variable {JobId : Type} [DecidableEq JobId]

namespace Service

variable {event : ServiceEvent JobId} {s t : Service JobId}

theorem lookup_of_registering {job : JobId} (h : s.step event = some t)
    (life : ∀ other, s.Life other)
    (retry : ∀ retried, event = .retryRegister retried → s.running.lookup retried = none)
    (registers : s.registering event = some job) : s.running.lookup job = none := by
  cases event with
  | createRegister created =>
    cases registers
    cases step_cases h with
    | createRegister stored => exact ((life job).stored stored).entry
  | retryRegister retried =>
    cases registers
    exact retry job rfl
  | dispatchNext =>
    simp only [registering] at registers
    split at registers
    · split at registers
      · rename_i absent
        cases registers
        exact absent
      · cases registers
    · cases registers
  | _ => cases registers

theorem Tracked.step (tracked : s.Tracked) (h : s.step event = some t) (running : event ≠ .stop)
    (absent : ∀ job, s.registering event = some job → s.running.lookup job = none) : t.Tracked := by
  cases step_registryChange h with
  | kept _limit running keys next =>
    refine ⟨tracked.toNumbered.kept keys next, ?_⟩
    intro job id
    rw [running, keys]
    exact tracked.entry job id
  | added job registers _limit running keys next =>
    exact tracked.added (absent job registers) running keys next
  | removed run mem _limit running keys next =>
    exact tracked.removed mem running keys next
  | stopped stops _keys _next => exact absurd stops running

theorem Tracked.jobs_nodup {s : Service JobId} (tracked : s.Tracked) :
    (s.live.map Run.job).Nodup := by
  have keys : s.liveKeys.Nodup := tracked.distinct.of_map
  have jobs : (s.liveKeys.map Prod.snd).Nodup := by
    apply List.Nodup.map_on _ keys
    intro left leftMember right rightMember same
    have leftEntry := (tracked.entry left.2 left.1).mpr leftMember
    have rightEntry := (tracked.entry right.2 right.1).mpr rightMember
    rw [same, rightEntry, Option.some.injEq] at leftEntry
    exact Prod.ext leftEntry.symm same
  rw [liveKeys, map_map] at jobs
  exact jobs

/-- A retry from failure registers its run only while its job has no entry. The
service is not being stopped. -/
def RegistersAlone (s : Service JobId) : ServiceEvent JobId → Prop
  | .retryRegister job => s.running.lookup job = none
  | .stop => False
  | _ => True

instance (s : Service JobId) (event : ServiceEvent JobId) :
    Decidable (s.RegistersAlone event) := by
  cases event <;> unfold RegistersAlone <;> infer_instance

structure Sound (s : Service JobId) : Prop where
  tracked : s.Tracked
  life : ∀ job, s.Life job

theorem Initial.sound {s : Service JobId} (initial : s.Initial) : s.Sound :=
  ⟨initial.tracked, initial.life⟩

theorem Sound.lookup_of_registering (sound : s.Sound) (alone : s.RegistersAlone event)
    (h : s.step event = some t) (job : JobId) (registers : s.registering event = some job) :
    s.running.lookup job = none := by
  apply Service.lookup_of_registering h sound.life _ registers
  intro retried same
  subst event
  exact alone

theorem Sound.step (sound : s.Sound) (alone : s.RegistersAlone event) (h : s.step event = some t) :
    t.Sound where
  tracked := by
    apply sound.tracked.step h
    · intro same
      subst event
      exact alone
    · exact sound.lookup_of_registering alone h
  life := step_life h sound.tracked sound.life

/-- Along every interleaving in which a retry from failure never registers over an
entry, no two live runs are of one job. -/
theorem live_jobs_nodup (s t : Service JobId) (events : List (ServiceEvent JobId))
    (initial : s.Initial) (alone : Along step RegistersAlone s events)
    (ran : run step s events = some t) : (t.live.map Run.job).Nodup := by
  have sound : t.Sound := run_invariant_along
    (fun _state _event _next before meets taken => Sound.step before meets taken)
    initial.sound alone ran
  exact sound.tracked.jobs_nodup

/-- Every registration still passes checkConcurrencyLimit, and a retry from failure
finds no entry under its job. -/
def RegistersUnderLimit (s : Service JobId) (event : ServiceEvent JobId) : Prop :=
  s.RegistersAlone event ∧ (s.registering event ≠ none → s.underLimit = true)

instance (s : Service JobId) (event : ServiceEvent JobId) :
    Decidable (s.RegistersUnderLimit event) :=
  inferInstanceAs (Decidable (_ ∧ _))

structure WithinLimit (limit : Nat) (s : Service JobId) : Prop where
  sound : s.Sound
  configured : s.maxConcurrentJobs = limit
  entries : s.running.keys.length ≤ limit

theorem keys_length_erase_le (table : AList fun _ : JobId => Nat) (job : JobId) :
    (table.erase job).keys.length ≤ table.keys.length := by
  rw [AList.keys_erase]
  exact length_erase_le

theorem keys_length_insert_le (table : AList fun _ : JobId => Nat) (job : JobId) (id : Nat) :
    (table.insert job id).keys.length ≤ table.keys.length + 1 := by
  rw [AList.keys_insert, length_cons]
  exact Nat.succ_le_succ length_erase_le

theorem WithinLimit.step {limit : Nat} (positive : 0 < limit) (within : WithinLimit limit s)
    (meets : s.RegistersUnderLimit event) (h : s.step event = some t) : WithinLimit limit t := by
  have sound := within.sound.step meets.1 h
  have bound := within.entries
  have running : event ≠ .stop := by
    intro same
    subst event
    exact meets.1
  cases step_registryChange h with
  | stopped stops _keys _next => exact absurd stops running
  | kept same running keys next =>
    exact ⟨sound, same.trans within.configured, by rw [running]; exact bound⟩
  | added job registers same running keys next =>
    have room : s.running.keys.length < limit := by
      have passes := meets.2 (by simp [registers])
      rw [underLimit, within.configured] at passes
      simp only [Bool.or_eq_true, decide_eq_true_eq] at passes
      omega
    have grown := keys_length_insert_le s.running job s.nextRun
    exact ⟨sound, same.trans within.configured, by rw [running]; omega⟩
  | removed run mem same running keys next =>
    have shrunk := keys_length_erase_le s.running run.job
    refine ⟨sound, same.trans within.configured, ?_⟩
    rw [running, releaseRun]
    split
    · exact Nat.le_trans shrunk bound
    · exact bound

theorem Tracked.live_length_le {s : Service JobId} (tracked : s.Tracked) :
    s.live.length ≤ s.running.keys.length := by
  have listed : s.live.map Run.job ⊆ s.running.keys := by
    intro job mem
    obtain ⟨run, present, rfl⟩ := mem_map.mp mem
    have entry := tracked.lookup_of_live present
    exact AList.mem_keys.mp (AList.lookup_isSome.mp (by rw [entry]; rfl))
  have counted := (subperm_of_subset tracked.jobs_nodup listed).length_le
  rwa [length_map] at counted

/-- Along every interleaving in which each registration would still pass the limit
check it passed before, no more runs are live than the limit allows. -/
theorem live_length_le_limit (s t : Service JobId) (events : List (ServiceEvent JobId))
    (initial : s.Initial) (positive : 0 < s.maxConcurrentJobs)
    (meets : Along step RegistersUnderLimit s events)
    (ran : run step s events = some t) : t.live.length ≤ s.maxConcurrentJobs := by
  have start : WithinLimit s.maxConcurrentJobs s := by
    refine ⟨initial.sound, rfl, ?_⟩
    rw [initial.running]
    exact Nat.zero_le _
  have within : WithinLimit s.maxConcurrentJobs t := run_invariant_along
    (fun _state _event _next before holds taken =>
      WithinLimit.step positive before holds taken) start meets ran
  exact Nat.le_trans within.sound.tracked.live_length_le within.entries

def booted (limit : Nat) (rows : List (Nat × JobRow)) : Service Nat where
  maxConcurrentJobs := limit
  created := rows.map Prod.fst
  rows := fun job => rows.lookup job
  running := ∅
  retrying := fun _ => none
  creates := fun _ => none
  reads := []
  dispatcher := none
  started := false
  stopped := false
  semUsed := 0
  nextRun := 0
  live := []
  finished := []

theorem booted_initial (limit : Nat) (rows : List (Nat × JobRow)) :
    (booted limit rows).Initial where
  running := rfl
  retrying := fun _ => rfl
  creates := fun _ => rfl
  reads := rfl
  dispatcher := rfl
  semUsed := rfl
  live := rfl
  finished := rfl
  stored := by
    intro job
    change job ∈ rows.map Prod.fst ↔ rows.lookup job ≠ none
    induction rows with
    | nil => simp
    | cons row rest ih =>
      rw [map_cons, mem_cons, lookup_cons, ih]
      by_cases same : job = row.1
      · simp [same]
      · simp [same, beq_false_of_ne same]

/-- A crash after a stage was recorded failed leaves the job `running`. -/
def crashedJob : Service Nat := booted 2 [(1, ⟨.running, true⟩)]

def retryBeforeDispatch : List (ServiceEvent Nat) :=
  [.retryRead 1, .reserveRetry 1 .running, .retryAdmit 1, .retryReset 1, .retryMark 1,
    .retryRegister 1, .start, .dispatchSlot, .dispatchNext, .retryReturn 1]

theorem live_jobs_nodup_after_retry :
    ∃ t, run step crashedJob retryBeforeDispatch = some t ∧ (t.live.map Run.job).Nodup :=
  ⟨_, rfl, live_jobs_nodup crashedJob _ retryBeforeDispatch (booted_initial _ _)
    (by decide) rfl⟩

/-- Start resumes the job while a retry from failure holds its reservation; the
retry then registers over the resumed run. -/
theorem two_live_runs_of_one_job :
    (run step crashedJob [.retryRead 1, .reserveRetry 1 .running, .retryAdmit 1, .start,
        .dispatchSlot, .dispatchNext, .retryReset 1, .retryMark 1, .retryRegister 1]).map
      (fun t => t.live.map Run.job) = some [1, 1] := by
  decide

def createAfterRelease : List (ServiceEvent Nat) :=
  [.createAdmit 1, .createStore 1, .createRegister 1, .runClaims 0, .runWrites 0 true,
    .runReleases 0, .createAdmit 2, .createStore 2, .createRegister 2]

theorem live_length_le_limit_one :
    ∃ t, run step (booted 1 []) createAfterRelease = some t ∧ t.live.length ≤ 1 :=
  ⟨_, rfl, live_length_le_limit (booted 1 []) _ createAfterRelease (booted_initial _ _)
    (by decide) (by decide) rfl⟩

/-- Two CreateJob calls pass the limit of one before either registers. -/
theorem two_live_runs_under_limit_one :
    (run step (booted 1 []) [.createAdmit 1, .createAdmit 2, .createStore 1, .createStore 2,
        .createRegister 1, .createRegister 2]).map
      (fun t => (t.maxConcurrentJobs, t.live.length)) = some (1, 2) := by
  decide

/-- The slots of Start's semaphore that a run or the dispatcher has taken. -/
def slotsTaken (s : Service JobId) : Nat :=
  s.live.countP Run.slot + (s.dispatcher.any Dispatcher.holdsSlot).toNat

structure Slotted (s : Service JobId) : Prop extends Numbered s where
  unstarted : s.started = false → s.dispatcher = none
  counted : s.semUsed = s.slotsTaken
  within : 0 < s.maxConcurrentJobs → s.semUsed ≤ s.maxConcurrentJobs

omit [DecidableEq JobId] in
theorem countP_slot_map {live : List (Run JobId)} {change : Run JobId → Run JobId}
    (same : ∀ run, (change run).slot = run.slot) :
    (live.map change).countP Run.slot = live.countP Run.slot := by
  rw [countP_map]
  exact countP_congr fun run _member => by rw [Function.comp_apply, same]

theorem Numbered.countP_slot {run : Run JobId} (numbered : s.Numbered) (mem : run ∈ s.live) :
    s.live.countP Run.slot =
      (s.live.filter fun other => other.id ≠ run.id).countP Run.slot + run.slot.toNat := by
  have ids : (s.live.map Run.id).Nodup := by
    have distinct := numbered.distinct
    rwa [liveKeys, map_map] at distinct
  have others : (s.live.filter fun other => other.id ≠ run.id) = s.live.erase run := by
    rw [ids.of_map.erase_eq_filter]
    apply filter_congr
    intro other present
    have same := inj_on_of_nodup_map ids present mem
    grind
  rw [others, (perm_cons_erase mem).countP_eq, countP_cons]
  cases run.slot <;> rfl

theorem Slotted.step (slotted : s.Slotted) (h : s.step event = some t) : t.Slotted := by
  have numbered := slotted.toNumbered.step h
  obtain ⟨earlier, unstarted, counted, within⟩ := slotted
  unfold slotsTaken at counted
  cases step_cases h with
  | start =>
    -- Start goes through once, so no dispatcher with a slot is replaced.
    have idle : s.dispatcher = none := unstarted (by simp_all [Service.step, start])
    exact ⟨numbered, by simp, by simp_all [slotsTaken], within⟩
  | dispatchSlot waiting =>
    have room : s.maxConcurrentJobs = 0 ∨ s.semUsed < s.maxConcurrentJobs := by
      simp_all [Service.step, dispatchSlot]
    refine ⟨numbered, by simp_all, by simp_all [slotsTaken], fun positive => ?_⟩
    exact room.resolve_left (Nat.ne_of_gt positive)
  | dispatches holding absent =>
    exact ⟨numbered, by simp_all [register], by simp_all [slotsTaken, register, newRun], within⟩
  | skips holding =>
    refine ⟨numbered, by simp_all, by simp_all [slotsTaken], fun positive => ?_⟩
    exact Nat.le_trans (Nat.sub_le _ 1) (within positive)
  | runReleases found ended =>
    obtain ⟨mem, rfl⟩ := run?_eq_some found
    have released := earlier.countP_slot mem
    refine ⟨numbered, unstarted, ?_, fun positive => ?_⟩
    · simp only [slotsTaken, releaseRun]
      grind
    · grind [releaseRun]
  | cancelJob | runFails | runPanics | runClaims | runWrites | writeFails | stop =>
    refine ⟨numbered, unstarted, counted.trans (congrArg (· + _) ?_), within⟩
    refine (countP_slot_map fun run => ?_).symm
    grind [cancelRun, failRun, panicRun, claimRun, interruptRun, wroteRun, writeFailedRun, stopRun]
  | _ => exact ⟨numbered, unstarted, counted, within⟩

/-- Over every interleaving the semaphore counts the slots that are taken, so no more resumed
runs are live than the limit allows. -/
theorem resumed_runs_le_limit (s t : Service JobId) (events : List (ServiceEvent JobId))
    (initial : s.Initial) (ran : run step s events = some t) :
    t.semUsed = t.slotsTaken ∧
      (0 < t.maxConcurrentJobs → t.live.countP Run.slot ≤ t.maxConcurrentJobs) := by
  have start : s.Slotted := by
    refine ⟨initial.numbered, fun _ => initial.dispatcher, ?_, ?_⟩
    · simp [slotsTaken, initial.live, initial.dispatcher, initial.semUsed]
    · simp [initial.semUsed]
  have slotted : t.Slotted :=
    run_invariant (fun _state _event _next before taken => before.step taken) start ran
  refine ⟨slotted.counted, fun positive => ?_⟩
  have within := slotted.within positive
  rw [slotted.counted, slotsTaken] at within
  omega

def crashedJobs : Service Nat := booted 1 [(1, ⟨.running, false⟩), (2, ⟨.running, false⟩)]

def resumesInTurn : List (ServiceEvent Nat) :=
  [.start, .dispatchSlot, .dispatchNext, .runFails 0, .runWrites 0 true, .runReleases 0,
    .dispatchSlot, .dispatchNext]

theorem resumed_runs_le_limit_one :
    ∃ t, run step crashedJobs resumesInTurn = some t ∧ t.live.countP Run.slot ≤ 1 :=
  ⟨_, rfl, (resumed_runs_le_limit crashedJobs _ resumesInTurn (booted_initial _ _) rfl).2
    (by decide)⟩

/-- From CreateJob's insert to its registration the job stays pending, without an entry; the
dispatcher does not have it, and whoever read it read pending. -/
theorem unregistered_newborn (s t : Service JobId) (events : List (ServiceEvent JobId))
    (initial : s.Initial) (alone : Along step RegistersAlone s events)
    (ran : run step s events = some t) (job : JobId) (stored : t.creates job = some .stored) :
    t.Newborn job := by
  have sound : t.Sound := run_invariant_along
    (fun _state _event _next before meets taken => Sound.step before meets taken)
    initial.sound alone ran
  exact (sound.life job).stored stored

def retriesUnregistered : List (ServiceEvent Nat) :=
  [.createAdmit 1, .createStore 1, .start, .retryRead 1, .reserveRetry 1 .pending, .retryAdmit 1]

theorem unregistered_newborn_retried :
    ∃ t, run step (booted 1 []) retriesUnregistered = some t ∧ t.Newborn 1 :=
  ⟨_, rfl, unregistered_newborn (booted 1 []) _ retriesUnregistered (booted_initial _ _)
    (by decide) rfl 1 rfl⟩

end Service

end CrossCodex.Pipeline
