/-
What a live run has gathered: once synthesis is due, it holds the output of every analyzer
of the job.
-/

import CrossCodex.Pipeline.LiveRun

namespace CrossCodex.Pipeline

open Library
open Analyzer (Text)
open List

structure Gathered (registry : Registry) (run : JobRun) : Prop where
  seeded : ∀ name ∈ registry.analyzers, name ∈ run.completed → name ∈ run.outputs
  known : ∀ name ∈ run.outputs, name ∈ registry.analyzers
  working : ∀ name ∈ run.active, name ∈ registry.analyzers ∧ name ∉ run.outputs
  quiet : (∀ pass, run.phase ≠ .passing pass) → run.active = []
  traced : run.SkipsTraced registry
  prePassed : 0 < run.phase.rank → run.phase.rank < 9 → run.PrePassed registry
  complete : 3 < run.phase.rank → run.phase.rank < 9 →
    ∀ name ∈ registry.analyzers, name ∈ run.outputs

variable {name : Text}

namespace Gathered

variable {registry : Registry} {run : JobRun}

variable (gathered : Gathered registry run)
include gathered

theorem stop {phase : JobPhase} (quiet : run.active = []) (last : phase.rank = 9) :
    Gathered registry { run with phase } :=
  { gathered with
    quiet := fun _ => quiet
    prePassed := fun _ running => by
      change phase.rank < 9 at running
      omega
    complete := fun _ running => by
      change phase.rank < 9 at running
      omega }

theorem move {phase : JobPhase} (quiet : run.active = []) (running : run.phase.rank < 9)
    (pre : 0 < phase.rank → 0 < run.phase.rank ∨ run.PrePassed registry)
    (post : 3 < phase.rank → 3 < run.phase.rank ∨ ∀ name ∈ registry.analyzers, name ∈ run.outputs) :
    Gathered registry { run with phase } :=
  { gathered with
    quiet := fun _ => quiet
    prePassed := fun begun _ => by
      rcases pre begun with earlier | passed
      · exact gathered.prePassed earlier running
      · exact passed
    complete := fun begun _ => by
      rcases post begun with earlier | all
      · exact gathered.complete earlier running
      · exact all }

section

variable {pass : Pass} (phase : run.phase = .passing pass)
include phase

theorem attemptsStarted (analyzer : name ∈ registry.analyzers)
    (unsettled : run.settled name = false) :
    Gathered registry { run with active := name :: run.active } :=
  { gathered with
    working := fun other mem => by
      rcases mem_cons.mp mem with rfl | earlier
      · simp only [JobRun.settled, Bool.or_eq_false_iff, decide_eq_false_iff_not] at unsettled
        exact ⟨analyzer, unsettled.1.1⟩
      · exact gathered.working other earlier
    quiet := fun moved => absurd phase (moved pass) }

theorem completed (mem : name ∈ run.active) : Gathered registry (run.produces name) :=
  { gathered with
    seeded := fun other analyzer done =>
      mem_cons_of_mem _ (gathered.seeded other analyzer done)
    known := fun other produced => by
      rcases mem_cons.mp produced with rfl | earlier
      · exact (gathered.working other mem).1
      · exact gathered.known other earlier
    working := fun other active => by
      obtain ⟨present, ne⟩ := mem_filter.mp active
      obtain ⟨analyzer, absent⟩ := gathered.working other present
      refine ⟨analyzer, ?_⟩
      intro produced
      rcases mem_cons.mp produced with same | earlier
      · exact of_decide_eq_true ne same
      · exact absent earlier
    quiet := fun moved => absurd phase (moved pass)
    prePassed := fun begun running other due =>
      mem_cons_of_mem _ (gathered.prePassed begun running other due)
    complete := fun begun running other analyzer =>
      mem_cons_of_mem _ (gathered.complete begun running other analyzer) }

theorem failed : Gathered registry (run.loses name) :=
  { gathered with
    working := fun other active => gathered.working other (mem_of_mem_filter active)
    quiet := fun moved => absurd phase (moved pass)
    traced := gathered.traced.mono rfl (subset_cons_self name run.failed) }

theorem passEnds (quiet : run.active = [])
    (all : ∀ name ∈ registry.subset (registry.passNames run.completed pass),
      run.settled name = true) (clean : run.failed = []) :
    Gathered registry { run with phase := pass.next } := by
  have outputs := gathered.traced.outputs_of_pass all clean
  have running : run.phase.rank < 9 := by
    rw [phase]
    cases pass <;> decide
  apply gathered.move quiet running
  · intro _
    cases pass with
    | beforeCandidates => exact .inr outputs
    | afterCandidates => exact .inl (by rw [phase]; decide)
  · intro late
    cases pass with
    | beforeCandidates => exact absurd late (by decide)
    | afterCandidates =>
      right
      intro name analyzer
      have prePassed := gathered.prePassed (by rw [phase]; decide) running
      by_cases loaded : name ∈ run.completed
      · exact gathered.seeded name analyzer loaded
      · rcases registry.mem_passNames analyzer loaded with before | after
        · exact prePassed name before
        · exact outputs name after

end

theorem stageMoves {stage : PipelineStage} {phase : JobPhase}
    (here : run.phase = .due stage ∨ run.phase = .executing stage)
    (next : phase = .executing stage ∨ phase = stage.next) :
    Gathered registry { run with phase } := by
  have quiet : run.active = [] := by
    apply gathered.quiet
    intro pass
    rcases here with phase | phase <;> rw [phase] <;> intro same <;> cases same
  apply gathered.move quiet
  · rcases here with phase | phase <;> rw [phase] <;> cases stage <;> decide
  · intro _
    left
    rcases here with phase | phase <;> rw [phase] <;> cases stage <;> decide
  · intro late
    left
    rcases here with phase | phase <;> rw [phase] <;> rcases next with rfl | rfl <;>
      cases stage <;> first | decide | exact absurd late (by decide)

end Gathered

namespace Job

/-- The job belongs to the registry, and its run has gathered what its phase relies on. -/
structure Gathers (registry : Registry) (job : Job) : Prop where
  registered : job.registry = registry
  gathered : ∀ run, job.run = some run → Gathered registry run

variable {registry : Registry} {job next : Job} {run : JobRun} {event : JobEvent}

section

variable (before : job.Gathers registry)
include before

theorem Gathers.setRun {other : Job} (same : other.registry = job.registry)
    (gathered : Gathered registry run) : (other.setRun run).Gathers registry :=
  ⟨same.trans before.registered, fun current set => by cases set; exact gathered⟩

theorem Gathers.withoutRun {other : Job} (same : other.registry = job.registry)
    (ended : other.run = none) : other.Gathers registry :=
  ⟨same.trans before.registered, fun current present => by rw [ended] at present; cases present⟩

theorem Gathers.starts (taken : job.starts = some next) : next.Gathers registry := by
  unfold Job.starts at taken
  split at taken
  · cases taken
    refine ⟨before.registered, ?_⟩
    intro run present
    cases present
    rw [before.registered]
    have seeded : ∀ name ∈ registry.analyzers, name ∈ job.done →
        name ∈ registry.analyzers.filter fun name => name ∈ job.done :=
      fun name analyzer done => mem_filter.mpr ⟨analyzer, decide_eq_true done⟩
    have finished : (registry.analyzers.filter fun name => name ∉ job.done) = [] →
        ∀ name ∈ registry.analyzers, name ∈ job.done := by
      intro none name analyzer
      simpa using filter_eq_nil_iff.mp none name analyzer
    refine
      { seeded
        known := fun name mem => mem_of_mem_filter mem
        working := fun name mem => by cases mem
        quiet := fun _ => rfl
        traced := fun name mem => by cases mem
        prePassed := ?_
        complete := ?_ }
    · intro begun _ name due
      simp only at begun
      split at begun
      · have analyzer := registry.passNames_subset _ _ due
        exact seeded name analyzer (finished ‹_› name analyzer)
      · exact absurd begun (by decide)
    · intro begun _ name analyzer
      simp only at begun
      split at begun
      · exact seeded name analyzer (finished ‹_› name analyzer)
      · exact absurd begun (by decide)
  · cases taken

theorem Gathers.runStep (gathered : Gathered registry run) (step : RunStep job run event next) :
    next.Gathers registry := by
  obtain rfl := before.registered
  cases step with
  | attempted phase due unsettled =>
    have analyzer := job.registry.closure_subset _ (job.registry.passNames_subset _ _) due
    exact before.setRun rfl (gathered.attemptsStarted phase analyzer unsettled)
  | passedOver _ settled missing =>
    exact before.setRun rfl { gathered with traced := gathered.traced.skip settled missing }
  | analyzerStored phase working => exact before.setRun rfl (gathered.completed phase working)
  | analyzerUnstored phase | analyzerFails phase => exact before.setRun rfl (gathered.failed phase)
  | passEnds phase quiet settled clean =>
    exact before.setRun rfl (gathered.passEnds phase quiet settled clean)
  | passFails _ quiet => exact before.setRun rfl (gathered.stop quiet rfl)
  | stageSkipped phase => exact before.setRun rfl (gathered.stageMoves (.inl phase) (.inr rfl))
  | stageStarted phase => exact before.setRun rfl (gathered.stageMoves (.inl phase) (.inl rfl))
  | stageCompletes phase => exact before.setRun rfl (gathered.stageMoves (.inr phase) (.inr rfl))
  | stageUnstarted phase | stageFails phase =>
    have quiet := gathered.quiet (by rw [phase]; intro pass same; cases same)
    exact before.setRun rfl (gathered.stop quiet rfl)
  | errors free | cancels free =>
    exact before.setRun rfl (gathered.stop (quiet_of_interruptible free) rfl)
  | endsFailed | endsCancelled | completes | crashes => exact before.withoutRun rfl rfl

theorem Gathers.step (taken : job.step event = some next) : next.Gathers registry := by
  cases step_cases taken with
  | starts taken => exact before.starts taken
  | retries idle _ => exact before.withoutRun rfl idle
  | runs present acts => exact before.runStep (before.gathered _ present) acts

end

theorem step_outputs (taken : job.step event = some next) (starting : event ≠ .starts)
    (reporting : ∀ name attempt write, event ≠ .analyzerCompletes name attempt write)
    (present : next.run = some run) :
    ∃ earlier, job.run = some earlier ∧ run.outputs = earlier.outputs := by
  cases step_cases taken with
  | starts _ => exact absurd rfl starting
  | retries idle _ =>
    rw [idle] at present
    cases present
  | runs found acts =>
    refine ⟨_, found, ?_⟩
    cases acts with
    | analyzerStored | analyzerUnstored => exact absurd rfl (reporting _ _ _)
    | endsFailed | endsCancelled | completes | crashes => cases present
    | _ =>
      cases present
      rfl

theorem step_analyzerCompletes {attempt : Option Text} {write : Write}
    (taken : job.step (.analyzerCompletes name attempt write) = some next) :
    ∃ run pass, job.run = some run ∧ run.phase = .passing pass ∧ name ∈ run.active ∧
      ∀ later, next.run = some later → later.phase = run.phase ∧
        later.outputs = if write = .stored then name :: run.outputs else run.outputs := by
  cases step_cases taken with
  | runs present acts =>
    cases acts with
    | analyzerStored phase working =>
      refine ⟨_, _, present, phase, working, fun later found => ?_⟩
      cases found
      exact ⟨rfl, rfl⟩
    | analyzerUnstored phase working unstored =>
      refine ⟨_, _, present, phase, working, fun later found => ?_⟩
      cases found
      exact ⟨rfl, (if_neg unstored).symm⟩

theorem due_synthesis_of_step (taken : job.step event = some next) (present : next.run = some run)
    (due : run.phase = .due .synthesis) :
    event = .passEnds ∨
      event = .starts ∧ ∀ name ∈ job.registry.analyzers, name ∈ job.done := by
  cases step_cases taken with
  | starts taken =>
    right
    refine ⟨rfl, ?_⟩
    unfold Job.starts at taken
    split_ifs at taken with startable
    cases taken
    cases present
    split at due
    · rename_i none
      intro name analyzer
      simpa using filter_eq_nil_iff.mp none name analyzer
    · cases due
  | retries idle _ =>
    rw [idle] at present
    cases present
  | runs found acts =>
    left
    cases acts with
    | passEnds | passFails => rfl
    | attempted phase | passedOver phase | analyzerStored phase | analyzerUnstored phase
    | analyzerFails phase =>
      cases present
      exact absurd (phase.symm.trans due) (by simp)
    | @stageSkipped stage | @stageCompletes _ stage =>
      cases present
      cases stage <;> cases due
    | stageStarted | stageUnstarted | stageFails | errors | cancels =>
      cases present
      cases due
    | endsFailed | endsCancelled | completes | crashes => cases present

theorem created_gathers (registry : Registry) (names : List Text) :
    (created registry names).Gathers registry :=
  ⟨rfl, fun current present => by cases present⟩

end Job

end CrossCodex.Pipeline
