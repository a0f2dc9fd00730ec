/-
What the invariants of a job's runs are stated with: the names of its stages, the ledger of
completed stages and what a status write does to it, the order of a run's phases, and why an
analyzer is skipped.
-/

import CrossCodex.Library.Freshness
import CrossCodex.Pipeline.JobRun

namespace CrossCodex.Pipeline

open Library
open Analyzer (Text)
open List

variable {names : List Text} {name : Text}

theorem mem_insertCandidateGeneration :
    name ∈ insertCandidateGeneration names ↔
      name ∈ names ∨ name = PipelineStage.candidateGeneration.stageName ∧
        ∃ dependent ∈ names, dependent ∈ candidateDependentAnalyzers := by
  induction names with
  | nil => simp [insertCandidateGeneration]
  | cons first rest ih =>
    by_cases dependent : first ∈ candidateDependentAnalyzers
    · rw [insertCandidateGeneration, if_pos dependent]
      simp only [mem_cons, exists_eq_or_imp, dependent, true_or, and_true]
      tauto
    · rw [insertCandidateGeneration, if_neg dependent, mem_cons, ih]
      simp only [mem_cons, exists_eq_or_imp, dependent, false_or]
      tauto

theorem insertCandidateGeneration_nodup (nodup : names.Nodup)
    (unreserved : PipelineStage.candidateGeneration.stageName ∉ names) :
    (insertCandidateGeneration names).Nodup := by
  induction names with
  | nil => exact nodup_nil
  | cons first rest ih =>
    unfold insertCandidateGeneration
    split
    · exact nodup_cons.mpr ⟨unreserved, nodup⟩
    · obtain ⟨fresh, others⟩ := nodup_cons.mp nodup
      refine nodup_cons.mpr ⟨?_, ih others (fun later => unreserved (by simp [later]))⟩
      rw [mem_insertCandidateGeneration]
      rintro (later | ⟨same, _⟩)
      · exact fresh later
      · exact unreserved (by simp [same])

namespace Registry

variable (registry : Registry)

theorem mem_upstream_of_stage {stage : PipelineStage}
    (mem : stage.stageName ∈ insertCandidateGeneration registry.analyzers) :
    stage = .candidateGeneration := by
  rcases mem_insertCandidateGeneration.mp mem with analyzer | ⟨same, _⟩
  · exact absurd analyzer (registry.unreserved stage)
  · exact PipelineStage.stageName_injective same

theorem buildStageNames_nodup : (buildStageNames registry.analyzers).Nodup := by
  unfold buildStageNames
  rw [nodup_append]
  refine ⟨insertCandidateGeneration_nodup registry.distinct (registry.unreserved _), by decide, ?_⟩
  intro name upstream other builtin same
  subst other
  simp only [mem_cons, not_mem_nil, or_false] at builtin
  rcases builtin with rfl | rfl <;> cases registry.mem_upstream_of_stage upstream

theorem inputs_analyzer (mem : name ∈ registry.analyzers) :
    registry.inputs name = registry.dependsOn name := if_pos mem

theorem inputs_stage (stage : PipelineStage) :
    registry.inputs stage.stageName =
      match stage with
      | .candidateGeneration => []
      | .synthesis => insertCandidateGeneration registry.analyzers
      | .graph =>
        insertCandidateGeneration registry.analyzers ++ [PipelineStage.synthesis.stageName] := by
  unfold inputs
  rw [if_neg (registry.unreserved stage)]
  cases stage <;> rfl

theorem mem_closure_of_mem (rounds : Nat) (mem : name ∈ names) :
    name ∈ registry.closure rounds names := by
  induction rounds generalizing names with
  | zero => exact mem
  | succ rounds ih =>
    apply ih
    rw [mem_dedup]
    exact mem_append_left _ mem

theorem closure_subset (rounds : Nat) (known : names ⊆ registry.analyzers) :
    registry.closure rounds names ⊆ registry.analyzers := by
  induction rounds generalizing names with
  | zero => exact known
  | succ rounds ih =>
    apply ih
    intro name mem
    rw [mem_dedup, mem_append, mem_flatMap] at mem
    rcases mem with named | ⟨dependent, mem, edge⟩
    · exact known named
    · exact registry.registered dependent (known mem) name edge

theorem passNames_subset (completed : List Text) (pass : Pass) :
    registry.passNames completed pass ⊆ registry.analyzers := by
  cases pass <;> exact filter_subset_self _

theorem mem_passNames {completed : List Text} (analyzer : name ∈ registry.analyzers)
    (incomplete : name ∉ completed) :
    name ∈ registry.passNames completed .beforeCandidates ∨
      name ∈ registry.passNames completed .afterCandidates := by
  by_cases dependent : name ∈ candidateDependentAnalyzers
  · exact .inr (by simp [passNames, analyzer, incomplete, dependent])
  · exact .inl (by simp [passNames, analyzer, incomplete, dependent])

end Registry

namespace Job

def ledger (job : Job) : Ledger Text :=
  { done := { name | name ∈ job.done }, executions := job.executions, consumed := job.consumed }

variable {job : Job} {stage : Text} {change : Nat → StageRow → StageRow} {status : StageStatus}
  {write : Write} {lost : List Text}

theorem stageFails_sets (message : Option Text) :
    StageRow.Sets (match message with
      | some text => StageRow.updateError text
      | none => StageRow.updateStatus .failed) .failed := by
  cases message with
  | none => exact StageRow.sets_updateStatus .failed
  | some text => exact StageRow.sets_updateError text

theorem ledger_write_unfinished (write : Write) (idle : stage ∉ job.done)
    (sets : StageRow.Sets change status) (unfinished : status ≠ .completed) :
    (job.write write stage change).ledger = job.ledger := by
  unfold ledger
  congr 1
  ext name
  change name ∈ completedStageSet (if write.applied then _ else _) ↔ name ∈ job.done
  split
  · rw [mem_completedStageSet_updateRow (sets.named job.clock) (sets.status job.clock)]
    split
    · rename_i same
      subst name
      exact ⟨fun both => absurd both.1 unfinished, fun done => absurd done idle⟩
    · exact Iff.rfl
  · exact Iff.rfl

theorem ledger_write_completed (applied : write.applied = true)
    (listed : stage ∈ job.rows.map StageRow.stageName) (sets : StageRow.Sets change .completed) :
    (job.write write stage change).ledger =
      { job.ledger with done := insert stage job.ledger.done } := by
  unfold ledger
  congr 1
  ext name
  change name ∈ completedStageSet (if write.applied then _ else _) ↔ name = stage ∨ name ∈ job.done
  rw [if_pos applied,
    mem_completedStageSet_updateRow (sets.named job.clock) (sets.status job.clock)]
  split
  · rename_i same
    exact ⟨fun _ => .inl same, fun _ => ⟨rfl, listed⟩⟩
  · rename_i other
    exact ⟨.inr, fun either => either.resolve_left other⟩

theorem ledger_write_lost (lost : write.applied = false) :
    (job.write write stage change).ledger = job.ledger := by
  unfold ledger done Job.write
  rw [lost]
  rfl

theorem write_stageNames (write : Write) (sets : StageRow.Sets change status) :
    (job.write write stage change).rows.map StageRow.stageName =
      job.rows.map StageRow.stageName := by
  change (if write.applied then _ else _ : List StageRow).map StageRow.stageName = _
  split
  · exact updateRow_stageNames (sets.named job.clock)
  · rfl

theorem endsWith_stageNames {job : Job} {ending : JobStatus} (sets : StageRow.Sets change status) :
    (job.endsWith ending change write lost).rows.map StageRow.stageName =
      job.rows.map StageRow.stageName := by
  unfold Job.endsWith endRunningStages
  simp only
  split
  · rw [map_map]
    apply map_congr_left
    intro row _
    simp only [Function.comp_apply]
    split
    · exact sets.named _ _
    · rfl
  · rfl

theorem completedStageSet_endRunningStages {rows : List StageRow} {ended : StageRow → StageRow}
    (unfinished : ∀ row, (ended row).status ≠ .completed) :
    completedStageSet (endRunningStages rows lost ended) = completedStageSet rows := by
  induction rows with
  | nil => rfl
  | cons row rest ih =>
    by_cases ends : row.status = .running ∧ row.stageName ∉ lost
    · have running : row.status ≠ .completed := by
        rw [ends.1]
        decide
      simpa [completedStageSet, endRunningStages, ends, unfinished, running] using ih
    · cases status : row.status <;>
        simp_all [completedStageSet, endRunningStages]

theorem completedStageSet_endsWith {job : Job} {ending : JobStatus}
    (sets : StageRow.Sets change status) (unfinished : status ≠ .completed) :
    completedStageSet (job.endsWith ending change write lost).rows =
      completedStageSet job.rows := by
  unfold Job.endsWith
  simp only
  split
  · exact completedStageSet_endRunningStages fun row => by rwa [sets.status]
  · rfl

theorem mem_filter_done {job : Job} :
    name ∈ (names.filter fun name => name ∈ job.done) ↔ name ∈ names ∧ name ∈ job.done := by
  rw [mem_filter, decide_eq_true_iff]

theorem quiet_of_interruptible {run : JobRun} (free : interruptible run = true) : run.active = [] := by
  simp only [interruptible, Bool.and_eq_true, decide_eq_true_eq] at free
  exact free.1.1

end Job

def JobPhase.rank : JobPhase → Nat
  | .passing .beforeCandidates => 0
  | .due .candidateGeneration => 1
  | .executing .candidateGeneration => 2
  | .passing .afterCandidates => 3
  | .due .synthesis => 4
  | .executing .synthesis => 5
  | .due .graph => 6
  | .executing .graph => 7
  | .finalizing => 8
  | .failing => 9
  | .cancelling => 9

theorem JobPhase.rank_le_failing (phase : JobPhase) : phase.rank ≤ JobPhase.failing.rank := by
  cases phase with
  | passing pass => cases pass <;> decide
  | due stage => cases stage <;> decide
  | executing stage => cases stage <;> decide
  | finalizing => decide
  | failing => decide
  | cancelling => decide

theorem Pass.rank_lt_next (pass : Pass) :
    (JobPhase.passing pass).rank < pass.next.rank := by
  cases pass <;> decide

theorem PipelineStage.rank_due (stage : PipelineStage) :
    (JobPhase.due stage).rank < (JobPhase.executing stage).rank := by
  cases stage <;> decide

theorem PipelineStage.rank_executing (stage : PipelineStage) :
    (JobPhase.executing stage).rank < stage.next.rank := by
  cases stage <;> decide

def JobRun.PrePassed (registry : Registry) (run : JobRun) : Prop :=
  ∀ name ∈ registry.passNames run.completed .beforeCandidates, name ∈ run.outputs

def JobRun.SkipsTraced (registry : Registry) (run : JobRun) : Prop :=
  ∀ name ∈ run.skipped, ∃ dependency ∈ registry.dependsOn name,
    dependency ∈ run.failed ∨ dependency ∈ run.skipped

namespace JobRun.SkipsTraced

variable {registry : Registry} {run : JobRun}

variable (traced : run.SkipsTraced registry)
include traced

theorem failed_of_skipped (skipped : name ∈ run.skipped) : run.failed ≠ [] := by
  induction name using registry.acyclic.induction with
  | _ name ih =>
    obtain ⟨dep, edge, failed | skipped⟩ := traced name skipped
    · exact ne_nil_of_mem failed
    · exact ih dep edge skipped

theorem outputs_of_pass (all : ∀ name ∈ registry.subset names, run.settled name = true)
    (clean : run.failed = []) : ∀ name ∈ names, name ∈ run.outputs := by
  intro name mem
  have settled := all name (registry.mem_closure_of_mem registry.analyzers.length mem)
  simp only [JobRun.settled, clean, not_mem_nil, decide_false, Bool.or_false,
    Bool.or_eq_true, decide_eq_true_eq] at settled
  rcases settled with produced | skipped
  · exact produced
  · exact absurd clean (traced.failed_of_skipped skipped)

theorem skip (settled : ∀ dep ∈ registry.dependsOn name, run.settled dep = true)
    (missing : ¬∀ dep ∈ registry.dependsOn name, dep ∈ run.outputs) :
    { run with skipped := name :: run.skipped }.SkipsTraced registry := by
  intro other mem
  rcases mem_cons.mp mem with rfl | earlier
  · push Not at missing
    obtain ⟨dep, edge, absent⟩ := missing
    have how := settled dep edge
    simp only [JobRun.settled, absent, decide_false, Bool.false_or, Bool.or_eq_true,
      decide_eq_true_eq] at how
    refine ⟨dep, edge, ?_⟩
    rcases how with failed | skipped
    · exact .inl failed
    · exact .inr (mem_cons_of_mem _ skipped)
  · obtain ⟨dep, edge, failed | skipped⟩ := traced other earlier
    · exact ⟨dep, edge, .inl failed⟩
    · exact ⟨dep, edge, .inr (mem_cons_of_mem _ skipped)⟩

theorem mono {later : JobRun} (skips : later.skipped = run.skipped)
    (fails : run.failed ⊆ later.failed) : later.SkipsTraced registry := by
  intro other mem
  rw [skips] at mem ⊢
  obtain ⟨dep, edge, failed | skipped⟩ := traced other mem
  · exact ⟨dep, edge, .inl (fails failed)⟩
  · exact ⟨dep, edge, .inr skipped⟩

end JobRun.SkipsTraced

end CrossCodex.Pipeline
