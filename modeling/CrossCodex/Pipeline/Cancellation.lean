/-
A CancelJob that is answered and a claim of completion decide the terminal status, except
where the run has passed the context check of failJob or recovers from a panic.
-/

import CrossCodex.Pipeline.Admission

namespace CrossCodex.Pipeline

open Library Option List

variable {JobId : Type}

/-- What the flags of a run say about its terminal writes. -/
structure Run.Settled (run : Run JobId) : Prop where
  unwritten : run.phase ≠ .ended → run.writes = []
  unclaimed : run.phase = .working → run.completing = false
  claiming : run.phase = .completing → run.completing = true
  /-- A cancelled run is not on its way to write anything but `cancelled`. -/
  cancelled : run.cancelled = true →
    run.cause ≠ none ∧ run.completing = false ∧ run.phase ≠ .failing ∧
      ∀ status ∈ run.writes, status = .cancelled
  /-- A run that claimed completion writes `completed` unless that write fails. -/
  completed : run.completing = true →
    run.writeFailed = true ∨ (run.phase = .completing ∧ run.writes = []) ∨
      (run.phase = .ended ∧ run.writes = [.completed])

namespace Service

theorem newRun_settled (id : Nat) (job : JobId) (slot : Bool) : (newRun id job slot).Settled where
  unwritten := fun _ => rfl
  unclaimed := fun _ => rfl
  claiming := by
    intro phase
    cases phase
  cancelled := by
    intro flag
    cases flag
  completed := by
    intro flag
    cases flag

theorem interruptRun_phase (run : Run JobId) :
    (interruptRun run).phase = .interrupting ∨ (interruptRun run).phase = .ended := by
  unfold interruptRun
  split
  · exact Or.inl rfl
  · exact Or.inr rfl

section

variable {run : Run JobId} (settled : run.Settled)
include settled

section

variable (working : run.phase = .working)
include working

theorem interruptRun_settled : (interruptRun run).Settled := by
  have writes := settled.unwritten (by simp [working])
  have claim := settled.unclaimed working
  have flags : (interruptRun run).writes = run.writes ∧
      (interruptRun run).completing = run.completing ∧
      (interruptRun run).cancelled = run.cancelled ∧
      (interruptRun run).cause = run.cause := by
    unfold interruptRun
    split <;> exact ⟨rfl, rfl, rfl, rfl⟩
  obtain ⟨sameWrites, sameCompleting, sameCancelled, sameCause⟩ := flags
  refine ⟨?_, ?_, ?_, ?_, ?_⟩
  · intro _going
    rw [sameWrites, writes]
  · intro _working
    rw [sameCompleting, claim]
  · intro completing
    rcases interruptRun_phase run with phase | phase
    · rw [phase] at completing
      cases completing
    · rw [phase] at completing
      cases completing
  · intro flag
    rw [sameCancelled] at flag
    rw [sameCause, sameCompleting, sameWrites]
    obtain ⟨cause, notClaimed, _, only⟩ := settled.cancelled flag
    refine ⟨cause, notClaimed, ?_, only⟩
    rcases interruptRun_phase run with phase | phase
    · simp [phase]
    · simp [phase]
  · intro flag
    rw [sameCompleting, claim] at flag
    cases flag

theorem failRun_settled : (failRun run).Settled := by
  unfold failRun
  split
  · rename_i undone
    have claim := settled.unclaimed working
    refine ⟨fun _ => settled.unwritten (by simp [working]), by simp, by simp, ?_, ?_⟩
    · intro flag
      exact absurd undone (settled.cancelled flag).1
    · intro flag
      rw [claim] at flag
      cases flag
  · exact interruptRun_settled settled working

theorem claimRun_settled : (claimRun run).Settled := by
  unfold claimRun
  split
  · rename_i undone
    have writes := settled.unwritten (by simp [working])
    refine ⟨fun _ => writes, by simp, fun _ => rfl, ?_, ?_⟩
    · intro flag
      exact absurd undone (settled.cancelled flag).1
    · intro _flag
      exact Or.inr (Or.inl ⟨rfl, writes⟩)
  · exact interruptRun_settled settled working

theorem cancelRun_settled : (cancelRun run).Settled := by
  have writes := settled.unwritten (by simp [working])
  have claim := settled.unclaimed working
  refine ⟨fun _ => writes, fun _ => claim, settled.claiming, ?_, ?_⟩
  · intro _flag
    refine ⟨?_, claim, by simp [cancelRun, working], ?_⟩
    · cases cause : run.cause <;> simp [cancelRun, cause]
    · intro status mem
      change status ∈ run.writes at mem
      rw [writes] at mem
      cases mem
  · intro flag
    change run.completing = true at flag
    rw [claim] at flag
    cases flag

end

theorem stopRun_settled : (stopRun run).Settled where
  __ := settled
  cancelled := by
    intro flag
    obtain ⟨_, rest⟩ := settled.cancelled flag
    refine ⟨?_, rest⟩
    cases cause : run.cause <;> simp [stopRun, cause]

theorem panicRun_settled (going : run.phase ≠ .ended) (uncancelled : run.cancelled = false) :
    (panicRun run).Settled := by
  refine ⟨fun _ => settled.unwritten going, by simp [panicRun], by simp [panicRun], ?_, ?_⟩
  · intro flag
    change run.cancelled = true at flag
    rw [uncancelled] at flag
    cases flag
  · intro flag
    -- Only a claimed run is past `working` here, so the panic hit its final write.
    left
    by_cases working : run.phase = .working
    · have claim := settled.unclaimed working
      change run.completing = true at flag
      rw [claim] at flag
      cases flag
    · simp [panicRun, working]

theorem writeFailedRun_settled : (writeFailedRun run).Settled := by
  refine ⟨by simp [writeFailedRun], by simp [writeFailedRun], by simp [writeFailedRun], ?_, ?_⟩
  · intro flag
    obtain ⟨cause, notClaimed, _, only⟩ := settled.cancelled flag
    exact ⟨cause, notClaimed, by simp [writeFailedRun], only⟩
  · intro _flag
    exact Or.inl rfl

theorem wroteRun_settled {status : JobStatus} (due : terminalStatus run.phase = some status) :
    (wroteRun status run).Settled := by
  have going : run.phase ≠ .ended := by
    intro ended
    rw [ended] at due
    cases due
  have writes := settled.unwritten going
  have written : (wroteRun status run).writes = [status] := by
    simp [wroteRun, writes]
  refine ⟨by simp [wroteRun], by simp [wroteRun], by simp [wroteRun], ?_, ?_⟩
  · intro flag
    obtain ⟨cause, notClaimed, notFailing, _⟩ := settled.cancelled flag
    refine ⟨cause, notClaimed, by simp [wroteRun], ?_⟩
    rw [written]
    intro other mem
    rw [mem_singleton.mp mem]
    cases phase : run.phase with
    | interrupting =>
      rw [phase] at due
      exact (some.inj due).symm
    | failing => exact absurd phase notFailing
    | completing =>
      have claim := settled.claiming phase
      rw [notClaimed] at claim
      cases claim
    | working =>
      rw [phase] at due
      cases due
    | ended => exact absurd phase going
  · intro flag
    rcases settled.completed flag with failed | ⟨phase, _⟩ | ⟨ended, _⟩
    · exact Or.inl failed
    · rw [phase] at due
      refine Or.inr (Or.inr ⟨rfl, ?_⟩)
      rw [written, ← some.inj due]
    · exact absurd ended going

end

variable [DecidableEq JobId]

/-- CancelJob is answered only for a run that has not left its stages, and a
cancelled run does not panic. -/
def CancelsWorking (s : Service JobId) : ServiceEvent JobId → Prop
  | .cancelJob job => ∀ id ∈ s.running.lookup job, ∀ run ∈ s.run? id, run.phase = .working
  | .runPanics id => ∀ run ∈ s.run? id, run.cancelled = false
  | _ => True

instance (s : Service JobId) (event : ServiceEvent JobId) :
    Decidable (s.CancelsWorking event) := by
  apply event.casesOn (motive := fun event => Decidable (s.CancelsWorking event)) <;>
    intros <;> unfold CancelsWorking <;> infer_instance

inductive RunsChange (s t : Service JobId) (event : ServiceEvent JobId) : Prop where
  | kept (live : t.live = s.live) (finished : t.finished = s.finished)
  | added (job : JobId) (slot : Bool) (live : t.live = newRun s.nextRun job slot :: s.live)
      (finished : t.finished = s.finished)
  | changed (id : Nat) (run : Run JobId) (change : Run JobId → Run JobId)
      (found : s.run? id = some run)
      (settles : s.CancelsWorking event → run.Settled → (change run).Settled)
      (live : t.live = s.live.map fun other => if other.id = id then change other else other)
      (finished : t.finished = s.finished)
  | removed (run : Run JobId) (member : run ∈ s.live) (ended : run.phase = .ended)
      (live : t.live = s.live.filter fun other => other.id ≠ run.id)
      (finished : t.finished = run :: s.finished)
  | stopped (live : ∀ run ∈ t.live, ∃ before ∈ s.live, run = before ∨ run = stopRun before)
      (finished : t.finished = s.finished)

variable {s : Service JobId} {event : ServiceEvent JobId}

theorem step_runsChange {t : Service JobId} (h : s.step event = some t) : RunsChange s t event := by
  cases step_cases h with
  | createRegister | retryRegister => exact .added _ false rfl rfl
  | dispatches holding absent => exact .added _ true rfl rfl
  | cancelJob entry found unclaimed =>
    refine .changed _ _ cancelRun found ?_ rfl rfl
    intro meets settled
    exact cancelRun_settled settled (meets _ entry _ found)
  | runFails found working =>
    exact .changed _ _ failRun found
      (fun _meets settled => failRun_settled settled working) rfl rfl
  | runPanics found going =>
    exact .changed _ _ panicRun found
      (fun meets settled => panicRun_settled settled going (meets _ found)) rfl rfl
  | runClaims found working =>
    exact .changed _ _ claimRun found
      (fun _meets settled => claimRun_settled settled working) rfl rfl
  | runWrites found due stored =>
    exact .changed _ _ (wroteRun _) found
      (fun _meets settled => wroteRun_settled settled due) rfl rfl
  | writeFails found due =>
    exact .changed _ _ writeFailedRun found
      (fun _meets settled => writeFailedRun_settled settled) rfl rfl
  | runReleases found ended =>
    obtain ⟨mem, rfl⟩ := run?_eq_some found
    exact .removed _ mem ended rfl rfl
  | stop =>
    refine .stopped ?_ rfl
    intro run mem
    obtain ⟨before, present, rfl⟩ := mem_map.mp mem
    refine ⟨before, present, ?_⟩
    split
    · exact Or.inr rfl
    · exact Or.inl rfl
  | _ => exact .kept rfl rfl

/-- Every run so far, live or finished, is settled, and a finished one has ended. -/
structure Decided (s : Service JobId) : Prop extends Numbered s where
  live : ∀ run ∈ s.live, run.Settled
  finished : ∀ run ∈ s.finished, run.Settled ∧ run.phase = .ended

omit [DecidableEq JobId] in
theorem Initial.decided (initial : s.Initial) : s.Decided where
  toNumbered := initial.numbered
  live := by
    rw [initial.live]
    intro run mem
    cases mem
  finished := by
    rw [initial.finished]
    intro run mem
    cases mem

theorem Decided.step {t : Service JobId} (decided : s.Decided) (meets : s.CancelsWorking event)
    (h : s.step event = some t) : t.Decided := by
  have numbered := decided.toNumbered.step h
  cases step_runsChange h with
  | kept live finished =>
    exact ⟨numbered, live ▸ decided.live, finished ▸ decided.finished⟩
  | added job slot live finished =>
    refine ⟨numbered, ?_, finished ▸ decided.finished⟩
    rw [live]
    intro run mem
    rcases mem_cons.mp mem with rfl | present
    · exact newRun_settled _ job slot
    · exact decided.live run present
  | changed id run change found settles live finished =>
    refine ⟨numbered, ?_, finished ▸ decided.finished⟩
    rw [live]
    intro after mem
    obtain ⟨before, present, rfl⟩ := mem_map.mp mem
    split
    · rename_i same
      -- Identities are distinct, so this is the run the guard was checked on.
      have own := decided.toNumbered.run?_of_live present
      rw [same, found, some.injEq] at own
      subst run
      exact settles meets (decided.live before present)
    · exact decided.live before present
  | removed run mem ended live finished =>
    refine ⟨numbered, ?_, ?_⟩
    · rw [live]
      intro other present
      exact decided.live other (mem_filter.mp present).1
    · rw [finished]
      intro other present
      rcases mem_cons.mp present with rfl | earlier
      · exact ⟨decided.live other mem, ended⟩
      · exact decided.finished other earlier
  | stopped live finished =>
    refine ⟨numbered, ?_, finished ▸ decided.finished⟩
    intro run mem
    obtain ⟨before, present, same | stopped⟩ := live run mem
    · exact same ▸ decided.live before present
    · exact stopped ▸ stopRun_settled (decided.live before present)

theorem cancelJob_of_completing {job : JobId} {id : Nat} {run : Run JobId}
    (entry : s.running.lookup job = some id) (found : s.run? id = some run)
    (claimed : run.completing = true) : s.cancelJob job = none := by
  cases outcome : s.cancelJob job with
  | none => rfl
  | some t =>
    cases step_cases (show s.step (.cancelJob job) = some t from outcome) with
    | cancelJob sameEntry sameRun unclaimed =>
      rw [entry, some.injEq] at sameEntry
      subst sameEntry
      rw [found, some.injEq] at sameRun
      subst sameRun
      rw [claimed] at unclaimed
      cases unclaimed

/-- Along every interleaving in which CancelJob is answered only for a run still in
its stages and a cancelled run does not panic: a cancelled run writes no terminal
status but `cancelled`; a run that claimed completion refuses CancelJob and, once it
has returned, wrote exactly `completed` unless its final write failed. -/
theorem cancel_complete_exclusive (s t : Service JobId) (events : List (ServiceEvent JobId))
    (initial : s.Initial) (meets : Along step CancelsWorking s events)
    (ran : run step s events = some t) :
    (∀ run ∈ t.live ++ t.finished, run.cancelled = true →
      ∀ status ∈ run.writes, status = .cancelled) ∧
    (∀ run ∈ t.live ++ t.finished, run.completing = true → run.writeFailed = false →
      ∀ status ∈ run.writes, status = .completed) ∧
    (∀ run ∈ t.finished, run.completing = true → run.writeFailed = false →
      run.writes = [.completed]) ∧
    (∀ job id run, t.running.lookup job = some id → t.run? id = some run →
      run.completing = true → t.step (.cancelJob job) = none) := by
  have decided : t.Decided := run_invariant_along
    (fun _state _event _next before holds taken => Decided.step before holds taken)
    initial.decided meets ran
  have settled : ∀ run ∈ t.live ++ t.finished, run.Settled := by
    intro run mem
    rcases mem_append.mp mem with live | finished
    · exact decided.live run live
    · exact (decided.finished run finished).1
  refine ⟨?_, ?_, ?_, ?_⟩
  · intro run mem flag
    exact ((settled run mem).cancelled flag).2.2.2
  · intro run mem flag reached status written
    rcases (settled run mem).completed flag with failed | ⟨_, none⟩ | ⟨_, only⟩
    · rw [reached] at failed
      cases failed
    · rw [none] at written
      cases written
    · rw [only] at written
      exact mem_singleton.mp written
  · intro run mem flag reached
    obtain ⟨own, ended⟩ := decided.finished run mem
    rcases own.completed flag with failed | ⟨phase, _⟩ | ⟨_, only⟩
    · rw [reached] at failed
      cases failed
    · rw [ended] at phase
      cases phase
    · exact only
  · intro job id run entry found flag
    exact cancelJob_of_completing entry found flag

def cancelledInStage : List (ServiceEvent Nat) :=
  [.createAdmit 1, .createStore 1, .createRegister 1, .runMark 0, .cancelJob 1,
    .runFails 0, .runWrites 0 true, .runReleases 0]

theorem cancel_complete_exclusive_in_stage :
    ∃ t, run step (booted 1 []) cancelledInStage = some t ∧
      ∀ run ∈ t.live ++ t.finished, run.cancelled = true →
        ∀ status ∈ run.writes, status = .cancelled :=
  ⟨_, rfl, (cancel_complete_exclusive (booted 1 []) _ cancelledInStage (booted_initial _ _)
    (by decide) rfl).1⟩

/-- CancelJob is answered after failJob has checked the context, and a cancelled run
panics: both runs end with `failed` written. -/
theorem cancelled_runs_write_failed :
    let outcome := fun events => (run step (booted 1 []) events).map fun t =>
      t.finished.map fun run => (run.cancelled, run.writes)
    outcome [.createAdmit 1, .createStore 1, .createRegister 1, .runMark 0, .runFails 0,
        .cancelJob 1, .runWrites 0 true, .runReleases 0] =
      some [(true, [JobStatus.failed])] ∧
    outcome [.createAdmit 1, .createStore 1, .createRegister 1, .runMark 0, .cancelJob 1,
        .runPanics 0, .runWrites 0 true, .runReleases 0] =
      some [(true, [JobStatus.failed])] := by
  decide

end Service

end CrossCodex.Pipeline
