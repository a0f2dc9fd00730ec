/-
A stored failure message is a function of the job, whether it was loaded, the trace, the
error's class and the messages written for the tenant.
-/

import CrossCodex.Pipeline.FailureReports
import CrossCodex.Pipeline.StageFreshness

namespace CrossCodex.Pipeline

open Library
open Analyzer (Text)
open List Function

variable {recorder : Recorder}

/-- Written by the same statement, both times with the job loaded or both times without. -/
inductive Recorder.Alike : Recorder → Recorder → Prop where
  | failJob {point other : FailurePoint}
      (loaded : point.startup = .loading ↔ other.startup = .loading) :
      Alike (.failJob point) (.failJob other)
  | endRunningStages {point other : FailurePoint}
      (loaded : point.startup = .loading ↔ other.startup = .loading) :
      Alike (.endRunningStages point) (.endRunningStages other)
  | reportStageFailed : Alike .reportStageFailed .reportStageFailed
  | failPipelineStage : Alike .failPipelineStage .failPipelineStage

theorem Recorder.Alike.refl (recorder : Recorder) : recorder.Alike recorder := by
  cases recorder <;> constructor
  · rfl
  · rfl

namespace FailureRecord

def message (jobID : Text) (config : Option JobConfig) (record : FailureRecord) : Text :=
  match record.recorder with
  | .failJob point =>
    tenantJobMessage record.traceID jobID (point.loaded config) record.err
  | .reportStageFailed => tenantJobMessage record.traceID jobID none record.err
  | .failPipelineStage => tenantJobMessage record.traceID jobID config record.err
  | .endRunningStages point =>
    (Failure.errorf "did not finish: the job failed".toList
      (tenantFailure record.traceID jobID (point.loaded config) record.err)).error

structure SameFailure (first second : FailureRecord) : Prop where
  recorder : first.recorder.Alike second.recorder
  trace : first.traceID = second.traceID
  errorClass : classifyJobError first.err = classifyJobError second.err
  messages : first.err.tenantMessages = second.err.tenantMessages

def visible (record : FailureRecord) : Text × JobErrorClass × List Text :=
  (record.traceID, classifyJobError record.err, record.err.tenantMessages)

theorem SameFailure.of_visible {first second : FailureRecord}
    (recorder : first.recorder.Alike second.recorder) (same : first.visible = second.visible) :
    first.SameFailure second := by
  simp only [visible, Prod.mk.injEq] at same
  exact ⟨recorder, same.1, same.2.1, same.2.2⟩

theorem SameFailure.message_eq {first second : FailureRecord} (same : first.SameFailure second)
    (jobID : Text) (config : Option JobConfig) :
    first.message jobID config = second.message jobID config := by
  have texts := tenantJobMessage_congr same.messages same.errorClass second.traceID jobID
  have alike := same.recorder
  unfold message
  rw [same.trace]
  generalize first.recorder = one at alike ⊢
  generalize second.recorder = other at alike ⊢
  cases alike with
  | failJob loaded =>
    simp only [FailurePoint.loaded, loaded]
    exact texts _
  | endRunningStages loaded =>
    change _ ++ _ ++ tenantJobMessage _ _ _ _ = _ ++ _ ++ tenantJobMessage _ _ _ _
    simp only [FailurePoint.loaded, loaded, texts]
  | reportStageFailed => exact texts none
  | failPipelineStage => exact texts config

def redact (record : FailureRecord) : FailureRecord := { record with err := record.err.redact }

theorem sameFailure_redact (record : FailureRecord) : record.redact.SameFailure record where
  recorder := .refl _
  trace := rfl
  errorClass := classifyJobError_redact record.err
  messages := record.err.tenantMessages_redact

end FailureRecord

/-- The message a row has for its last recorded failure, empty without one. -/
def storedMessage (jobID : Text) (config : Option JobConfig) (record : Option FailureRecord) :
    Text :=
  (record.map (FailureRecord.message jobID config)).getD []

def StageRow.report (row : StageRow) : Text × Text := (row.stageName, row.errorMessage)

variable {message name : Text} {lost : List Text} {record : FailureRecord}
  {change : StageRow → StageRow}

section Rows

variable {rows : List StageRow} {text : Option FailureRecord → Text}
  {records : Text → Option FailureRecord} {after : List StageRow}

def Explained (text : Option FailureRecord → Text) (records : Text → Option FailureRecord)
    (rows : List StageRow) : Prop :=
  ∀ row ∈ rows, row.errorMessage = text (records row.stageName)

theorem Explained.of_reports (before : Explained text records rows)
    (same : after.map StageRow.report = rows.map StageRow.report) :
    Explained text records after := by
  intro row mem
  have listed : row.report ∈ rows.map StageRow.report := same ▸ mem_map_of_mem mem
  obtain ⟨old, present, equal⟩ := mem_map.mp listed
  have names : old.stageName = row.stageName := congrArg Prod.fst equal
  have messages : old.errorMessage = row.errorMessage := congrArg Prod.snd equal
  rw [← messages, ← names]
  exact before old present

theorem Explained.of_map (named : ∀ row, (change row).stageName = row.stageName)
    (texts : ∀ row ∈ rows, (change row).errorMessage = text (records row.stageName)) :
    Explained text records (rows.map change) := by
  intro row mem
  obtain ⟨old, present, rfl⟩ := mem_map.mp mem
  rw [named]
  exact texts old present

theorem Explained.updateError (before : Explained text records rows) {now : Nat}
    (written : message = text (some record)) :
    Explained text (update records name (some record))
      (updateRow rows name (StageRow.updateError message now)) := by
  apply Explained.of_map
  · intro row
    split <;> rfl
  · intro row present
    split
    · rename_i same
      rw [same, update_self, ← written]
      rfl
    · rename_i other
      rw [update_of_ne other]
      exact before row present

theorem Explained.endRunningStages (before : Explained text records rows)
    (distinct : (rows.map StageRow.stageName).Nodup) {now : Nat}
    (written : message = text (some record)) :
    Explained text
      (fun name =>
        if ∃ row ∈ rows, row.stageName = name ∧ row.status = .running ∧ row.stageName ∉ lost then
          some record
        else records name)
      (Job.endRunningStages rows lost (StageRow.updateError message now)) := by
  apply Explained.of_map
  · intro row
    split <;> rfl
  · intro row present
    by_cases running : row.status = .running ∧ row.stageName ∉ lost
    · rw [if_pos running, if_pos ⟨row, present, rfl, running⟩, ← written]
      rfl
    · rw [if_neg running, if_neg]
      · exact before row present
      · rintro ⟨other, listed, same, ran⟩
        have equal := inj_on_of_nodup_map distinct listed present same
        subst equal
        exact running ran

theorem Explained.retry (before : Explained text records rows) (empty : text none = [])
    {status : JobStatus} (putBack : retryFromFailure status rows = some after) :
    Explained text (fun name => if name ∈ resetNames rows then none else records name)
      after := by
  unfold retryFromFailure resetStagesFrom at putBack
  cases found : firstFailed rows with
  | some stage =>
    simp only [found] at putBack
    split at putBack
    · cases putBack
    · rename_i first rest names
      cases putBack
      have reset : resetNames rows = first :: rest := by
        unfold resetNames
        rw [found]
        exact names
      rw [reset]
      apply Explained.of_map
      · intro row
        split <;> rfl
      · intro row present
        split
        · exact empty.symm
        · exact before row present
  | none =>
    simp only [found] at putBack
    split at putBack
    · cases putBack
      have reset : resetNames rows = [] := by
        unfold resetNames
        rw [found]
      simp only [reset, not_mem_nil, if_false]
      exact before
    · cases putBack

end Rows

theorem updateRow_reports {rows : List StageRow} {stage : Text}
    (quiet : ∀ row, (change row).report = row.report) :
    (updateRow rows stage change).map StageRow.report = rows.map StageRow.report := by
  unfold updateRow
  rw [map_map]
  apply map_congr_left
  intro row _
  simp only [comp_apply]
  split
  · exact quiet row
  · rfl

theorem StageRow.updateStatus_report (status : StageStatus) (now : Nat) (row : StageRow) :
    (row.updateStatus status now).report = row.report := by
  cases status <;> rfl

theorem endRunningStages_reports {rows : List StageRow} {ended : StageRow → StageRow}
    (quiet : ∀ row, (ended row).report = row.report) :
    (Job.endRunningStages rows lost ended).map StageRow.report = rows.map StageRow.report := by
  unfold Job.endRunningStages
  rw [map_map]
  apply map_congr_left
  intro row _
  simp only [comp_apply]
  split
  · exact quiet row
  · rfl

/-- The events that write a message or the job's status, or begin a run. -/
def JobEvent.writes : JobEvent → Bool
  | .starts | .analyzerFails .. | .stageFails (some _) _ | .ends .. | .completes _
  | .retries _ => true
  | _ => false

variable {event : JobEvent}

namespace Job

variable {job next : Job} {run : JobRun} {write : Write}

theorem write_reports {stage : Text} {change : Nat → StageRow → StageRow}
    (quiet : ∀ now row, (change now row).report = row.report) :
    (job.write write stage change).rows.map StageRow.report = job.rows.map StageRow.report := by
  change (if write.applied then _ else _ : List StageRow).map StageRow.report = _
  split
  · exact updateRow_reports (quiet job.clock)
  · rfl

structure Quiet (job next : Job) : Prop where
  reports : next.rows.map StageRow.report = job.rows.map StageRow.report
  status : next.status = job.status
  live : next.run.isSome = true → job.run.isSome = true

theorem RunStep.quiet (acts : RunStep job run event next) (present : job.run = some run)
    (silent : event.writes = false) : job.Quiet next := by
  have live : job.run.isSome = true := by rw [present]; rfl
  have running : ∀ now row, (StageRow.updateStatus .running now row).report = row.report :=
    StageRow.updateStatus_report .running
  cases acts with
  | attempted | stageStarted | stageUnstarted =>
    refine ⟨?_, rfl, fun _ => live⟩
    simp only [setRun_rows, execute_rows]
    exact write_reports running
  | analyzerStored | analyzerUnstored =>
    refine ⟨?_, rfl, fun _ => live⟩
    rw [setRun_rows]
    exact write_reports fun _ _ => rfl
  | stageCompletes phase =>
    exact ⟨write_reports (StageRow.updateStatus_report .completed), rfl, fun _ => live⟩
  | @stageFails message =>
    cases message with
    | none => exact ⟨write_reports (StageRow.updateStatus_report .failed), rfl, fun _ => live⟩
    | some text => cases silent
  | analyzerFails | endsFailed | endsCancelled | completes => cases silent
  | _ => exact ⟨rfl, rfl, fun _ => live⟩

theorem step_quiet (taken : job.step event = some next) (silent : event.writes = false) :
    job.Quiet next := by
  cases step_cases taken with
  | starts _ | retries _ _ => cases silent
  | runs present acts => exact acts.quiet present silent

theorem step_analyzerFails (taken : job.step (.analyzerFails name message write) = some next) :
    next.rows = (job.write write name (StageRow.updateError message)).rows ∧
      next.status = job.status ∧ job.run.isSome = true := by
  cases step_cases taken with
  | runs present acts =>
    cases acts
    exact ⟨rfl, rfl, by rw [present]; rfl⟩

theorem step_stageFails {stage : PipelineStage}
    (phase : (job.run.map JobRun.phase).getD .failing = .executing stage)
    (taken : job.step (.stageFails (some message) write) = some next) :
    next.rows = (job.write write stage.stageName (StageRow.updateError message)).rows ∧
      next.status = job.status ∧ job.run.isSome = true := by
  cases step_cases taken with
  | runs present acts =>
    rw [present] at phase
    cases acts with
    | stageFails executing =>
      rw [Option.map_some, Option.getD_some, executing] at phase
      cases phase
      exact ⟨rfl, rfl, by rw [present]; rfl⟩

theorem step_ends (taken : job.step (.ends message write lost) = some next) :
    let phase := (job.run.map JobRun.phase).getD .failing
    (phase = .failing → next = job.endsWith .failed (StageRow.updateError message) write lost) ∧
      (phase = .cancelling →
        next = job.endsWith .cancelled (StageRow.updateStatus .cancelled) write lost) := by
  cases step_cases taken with
  | runs present acts =>
    rw [present, Option.map_some, Option.getD_some]
    cases acts with
    | endsFailed failing => simp [failing]
    | endsCancelled cancelling => simp [cancelling]

theorem step_starts (taken : job.step .starts = some next) :
    next.rows = job.rows ∧ next.status = .running := by
  cases step_cases taken with
  | starts taken =>
    unfold Job.starts at taken
    split at taken
    · cases taken
      exact ⟨rfl, rfl⟩
    · cases taken
  | runs _ acts => cases acts

theorem step_completes (taken : job.step (.completes write) = some next) :
    next = { job with
      status := if write.applied then .completed else job.status, run := none } := by
  cases step_cases taken with
  | runs _ acts =>
    cases acts
    rfl

end Job

/-! ### Every stored message is explained -/

namespace ReportingJob

variable {state next : ReportingJob} {write : Write} {job : Job} {err : Failure}

/-- The messages and the class in the rows are those of the recorded failures, and a
failed job has one. While a run is live the job's status is running. -/
structure Reported (state : ReportingJob) : Prop where
  distinct : (state.job.rows.map StageRow.stageName).Nodup
  message : state.errorMessage = storedMessage state.jobID state.config state.record
  errorClass : state.errorClass =
    (state.record.map fun record => classifyJobError record.err).getD .retryable
  rows : Explained (storedMessage state.jobID state.config) state.records state.job.rows
  failed : state.job.status = .failed → state.record.isSome = true
  live : state.job.run.isSome = true → state.job.status = .running

section

variable (before : state.Reported)
include before

theorem Reported.relocate {locals : RunLocals} : { state with locals }.Reported :=
  { before with }

theorem Reported.fails (err : Failure) : (state.fails err).Reported :=
  before.relocate

theorem Reported.addError (name : Text) (err : Failure) : (state.addError name err).Reported :=
  before.relocate

theorem Reported.of_reports
    (reports : job.rows.map StageRow.report = state.job.rows.map StageRow.report)
    (failed : job.status = .failed → state.record.isSome = true)
    (live : job.run.isSome = true → job.status = .running) : (state.withJob job).Reported where
  distinct := by
    have names := congrArg (List.map Prod.fst) reports
    rw [map_map, map_map] at names
    exact (show job.rows.map StageRow.stageName = _ from names) ▸ before.distinct
  message := before.message
  errorClass := before.errorClass
  rows := before.rows.of_reports reports
  failed := failed
  live := live

theorem Reported.withJob (quiet : state.job.Quiet job) : (state.withJob job).Reported := by
  apply before.of_reports quiet.reports
  · exact fun now => before.failed (quiet.status ▸ now)
  · exact fun now => quiet.status ▸ before.live (quiet.live now)

theorem Reported.cleared (open_ : write.applied = true → state.job.status ≠ .failed) :
    (state.updateJobStatus write none none).Reported := by
  unfold ReportingJob.updateJobStatus
  split
  · rename_i applied
    exact ⟨before.distinct, rfl, rfl, before.rows, fun now => absurd now (open_ applied),
      before.live⟩
  · exact before

theorem Reported.recordStage
    (rows : job.rows = (state.job.write write name (StageRow.updateError message)).rows)
    (status : job.status = state.job.status) (live : state.job.run.isSome = true)
    (written : message =
      storedMessage state.jobID state.config (some ⟨recorder, state.locals.traceID, err⟩)) :
    ((state.recordStage write name recorder err).withJob job).Reported := by
  have failed : job.status = .failed → state.record.isSome = true :=
    fun now => before.failed (status ▸ now)
  have running : job.run.isSome = true → job.status = .running :=
    fun _ => status.trans (before.live live)
  unfold ReportingJob.recordStage
  change job.rows = (if write.applied then _ else _) at rows
  split
  · rename_i applied
    rw [if_pos applied] at rows
    refine ⟨?_, before.message, before.errorClass, ?_, failed, running⟩
    · change (job.rows.map StageRow.stageName).Nodup
      rw [rows, updateRow_stageNames ((StageRow.sets_updateError message).named state.job.clock)]
      exact before.distinct
    · change Explained _ _ job.rows
      rw [rows]
      exact before.rows.updateError written
  · rename_i lost
    rw [if_neg lost] at rows
    exact before.of_reports (congrArg _ rows) failed running

theorem Reported.endsStages (write : Write) (lost : List Text)
    (written : message = storedMessage state.jobID state.config (some record)) :
    let ended := state.job.endsWith .failed (StageRow.updateError message) write lost
    (ended.rows.map StageRow.stageName).Nodup ∧
      Explained (storedMessage state.jobID state.config) (state.endedRecords write lost record)
        ended.rows := by
  refine ⟨?_, ?_⟩
  · rw [Job.endsWith_stageNames (StageRow.sets_updateError message)]
    exact before.distinct
  · unfold Job.endsWith endedRecords
    by_cases stored : write = .stored
    · simp only [stored, true_and, if_true]
      exact before.rows.endRunningStages before.distinct written
    · simp only [stored, false_and, if_false]
      exact before.rows

theorem Reported.failJob {point : FailurePoint} (failing : state.phase = .failing)
    (taken : state.failJob point err write lost = some next) : next.Reported := by
  obtain ⟨job, stepped, rfl⟩ := Option.map_eq_some_iff.mp taken
  rw [(Job.step_ends stepped).1 failing]
  obtain ⟨distinct, rows⟩ := before.endsStages write lost
    (rfl : _ = storedMessage _ _ (some ⟨.endRunningStages point, state.locals.traceID, err⟩))
  have stopped {status : JobStatus} (now : (none : Option JobRun).isSome = true) :
      status = .running := by cases now
  unfold ReportingJob.updateJobStatus
  split
  · exact ⟨distinct, rfl, classifyJobError_tenantFailure _ _ _ _, rows, fun _ => rfl, stopped⟩
  · rename_i unwritten
    refine ⟨distinct, before.message, before.errorClass, rows, ?_, stopped⟩
    intro now
    change (if write.applied then JobStatus.failed else state.job.status) = .failed at now
    rw [if_neg unwritten] at now
    exact before.failed now

theorem Reported.ends (taken : state.ends write lost = some next) : next.Reported := by
  unfold ReportingJob.ends at taken
  split at taken
  · exact before.failJob ‹_› taken
  · obtain ⟨job, stepped, rfl⟩ := Option.map_eq_some_iff.mp taken
    rw [(Job.step_ends stepped).2 ‹_›]
    apply Reported.cleared
    · apply before.of_reports
      · change (if write = .stored then _ else _ : List StageRow).map StageRow.report = _
        split
        · exact endRunningStages_reports (StageRow.updateStatus_report .cancelled _)
        · rfl
      · intro now
        change (if write.applied then JobStatus.cancelled else state.job.status) = .failed at now
        split at now
        · cases now
        · exact before.failed now
      · intro now
        cases now
    · intro applied
      change (if write.applied then JobStatus.cancelled else state.job.status) ≠ .failed
      rw [if_pos applied]
      decide
  · cases taken

theorem Reported.completes (stepped : state.job.step (.completes write) = some job) :
    ((state.withJob job).updateJobStatus write none none).Reported := by
  rw [Job.step_completes stepped]
  apply Reported.cleared
  · refine before.of_reports rfl ?_ ?_
    · intro now
      split at now
      · cases now
      · exact before.failed now
    · intro now
      cases now
  · intro applied
    change (if write.applied then JobStatus.completed else state.job.status) ≠ .failed
    rw [if_pos applied]
    decide

theorem Reported.retries (taken : state.retries write = some next) : next.Reported := by
  unfold ReportingJob.retries at taken
  split at taken
  · obtain ⟨job, stepped, rfl⟩ := Option.map_eq_some_iff.mp taken
    cases Job.step_cases stepped with
    | runs _ acts => cases acts
    | @retries _ rows idle putBack =>
      have names : (rows.map StageRow.stageName).Nodup :=
        Job.retryFromFailure_stageNames putBack ▸ before.distinct
      have texts := before.rows.retry rfl putBack
      have stopped {status : JobStatus} (now : state.job.run.isSome = true) :
          status = .running := by
        rw [idle] at now
        cases now
      have kept : (if write.applied = true ∧ state.job.status ≠ .completed then
          JobStatus.running else state.job.status) = .failed → state.record.isSome = true := by
        intro now
        split at now
        · cases now
        · exact before.failed now
      simp only
      split
      · exact ⟨names, before.message, before.errorClass, texts, kept, stopped⟩
      · rename_i unfinished
        apply Reported.cleared
        · exact ⟨names, before.message, before.errorClass, texts, kept, stopped⟩
        · intro applied
          change (if write.applied = true ∧ state.job.status ≠ .completed then
            JobStatus.running else state.job.status) ≠ .failed
          rw [if_pos ⟨applied, unfinished⟩]
          decide
  · cases taken

end

theorem works_eq_some (taken : state.works event = some job) : state.job.step event = some job := by
  unfold works at taken
  split at taken
  · exact taken
  · cases taken

section

variable (before : state.Reported)
include before

theorem Reported.proceeds (taken : state.works event = some job) (silent : event.writes = false) :
    (state.withJob job).Reported :=
  before.withJob (Job.step_quiet (works_eq_some taken) silent)

theorem Reported.marks (taken : state.marks write err = some next) : next.Reported := by
  unfold ReportingJob.marks at taken
  split at taken
  · rename_i marking
    obtain ⟨run, present, _⟩ := (Option.any_eq_true _ _).mp marking.2
    have running : state.job.status = .running := before.live (by rw [present]; rfl)
    have unfailed : state.job.status ≠ .failed := by
      rw [running]
      decide
    obtain ⟨marked, reached, rfl⟩ := Option.map_eq_some_iff.mp taken
    split at reached
    · cases reached
      exact before.relocate.cleared fun _ => unfailed
    · obtain ⟨job, stepped, rfl⟩ := Option.map_eq_some_iff.mp reached
      have quiet := Job.step_quiet stepped rfl
      exact ((before.fails _).withJob quiet).cleared fun _ => quiet.status.symm ▸ unfailed
  · cases taken

theorem Reported.stageFails {recorded : Bool}
    (taken : state.stageFails err recorded write = some next) : next.Reported := by
  unfold ReportingJob.stageFails at taken
  split at taken
  · rename_i stage executing
    split at taken
    · cases taken
    · rename_i jobErr _
      split at taken
      · obtain ⟨job, stepped, rfl⟩ := Option.map_eq_some_iff.mp taken
        have recording := Job.step_stageFails executing (works_eq_some stepped)
        exact (before.fails jobErr).recordStage recording.1 recording.2.1 recording.2.2 rfl
      · obtain ⟨job, stepped, rfl⟩ := Option.map_eq_some_iff.mp taken
        exact (before.fails jobErr).proceeds stepped rfl
  · cases taken

theorem Reported.probeFails {cause : Failure}
    (taken : state.probeFails name message cause write = some next) : next.Reported := by
  unfold ReportingJob.probeFails at taken
  split at taken
  · obtain ⟨job, stepped, rfl⟩ := Option.map_eq_some_iff.mp taken
    cases Job.step_cases stepped with
    | runs present acts =>
      cases acts
      have live : state.job.run.isSome = true := by
        rw [show state.job.run = _ from present]
        rfl
      exact (before.fails _).recordStage rfl rfl live rfl
  · cases taken

theorem Reported.step {event : ReportEvent} (taken : state.step event = some next) :
    next.Reported := by
  cases event with
  | starts traceID =>
    obtain ⟨job, stepped, rfl⟩ := Option.map_eq_some_iff.mp taken
    obtain ⟨rows, running⟩ := Job.step_starts stepped
    have begun : (state.withJob job).Reported :=
      before.of_reports (congrArg _ rows) (fun now => by cases running.symm.trans now)
        fun _ => running
    exact begun.relocate
  | loads =>
    simp only [ReportingJob.step, ReportingJob.loads] at taken
    split at taken
    · cases taken
      exact before.relocate
    · cases taken
  | marks write err => exact before.marks taken
  | attempts name write | stageSkipped | stageCompletes write =>
    obtain ⟨job, stepped, rfl⟩ := Option.map_eq_some_iff.mp taken
    exact before.proceeds stepped rfl
  | analyzerCompletes name attempt write err =>
    obtain ⟨job, stepped, rfl⟩ := Option.map_eq_some_iff.mp taken
    split
    · exact before.proceeds stepped rfl
    · exact (before.addError name err).proceeds stepped rfl
  | analyzerFails name err write =>
    obtain ⟨job, stepped, rfl⟩ := Option.map_eq_some_iff.mp taken
    have recording := Job.step_analyzerFails (works_eq_some stepped)
    exact (before.addError name err).recordStage recording.1 recording.2.1 recording.2.2 rfl
  | probeFails name message cause write => exact before.probeFails taken
  | passEnds | stageStarts write err =>
    obtain ⟨job, stepped, rfl⟩ := Option.map_eq_some_iff.mp taken
    split
    · exact before.proceeds stepped rfl
    · exact (before.fails _).proceeds stepped rfl
  | stageFails err recorded write => exact before.stageFails taken
  | errors err =>
    obtain ⟨job, stepped, rfl⟩ := Option.map_eq_some_iff.mp taken
    exact (before.fails err).withJob (Job.step_quiet stepped rfl)
  | cancels | crashes =>
    obtain ⟨job, stepped, rfl⟩ := Option.map_eq_some_iff.mp taken
    exact before.withJob (Job.step_quiet stepped rfl)
  | ends write lost => exact before.ends taken
  | completes write =>
    obtain ⟨job, stepped, rfl⟩ := Option.map_eq_some_iff.mp taken
    exact before.completes (works_eq_some stepped)
  | retries write => exact before.retries taken

end

theorem created_reported {jobID : Text} {config : Option JobConfig} {registry : Registry}
    {names : List Text} (distinct : names.Nodup) :
    (created jobID config registry names).Reported where
  distinct := by
    change ((names.map StageRow.create).map StageRow.stageName).Nodup
    rw [map_map]
    exact (map_id names).symm ▸ distinct
  message := rfl
  errorClass := rfl
  rows := by
    intro row mem
    obtain ⟨name, _, rfl⟩ := mem_map.mp mem
    rfl
  failed now := by cases now
  live now := by cases now

def Reachable (state : ReportingJob) : Prop :=
  ∃ jobID config registry names events, names.Nodup ∧
    run step (created jobID config registry names) events = some state

theorem Reachable.reported (reachable : state.Reachable) : state.Reported := by
  obtain ⟨jobID, config, registry, names, events, distinct, ran⟩ := reachable
  exact run_invariant (fun _ _ _ before taken => before.step taken) (created_reported distinct) ran

/-- Two runs of a job that end in failure, wherever they fail. If both had loaded the job or
neither had, and trace, class and tenant messages are the same, then so are the stored message,
what GetJob and ListJobs report and what a refused retry quotes; and likewise for the
message of each stage. -/
theorem failure_messages_agree {first second : ReportingJob} (firstRun : first.Reachable)
    (secondRun : second.Reachable) (firstFailed : first.job.status = .failed)
    (secondFailed : second.job.status = .failed) (sameJob : first.jobID = second.jobID)
    (sameConfig : first.config = second.config) :
    (∃ failure other, first.record = some failure ∧ second.record = some other ∧
      (failure.SameFailure other →
        first.errorMessage = second.errorMessage ∧
          first.jobToProto.error = second.jobToProto.error ∧
          first.refuseRetry = second.refuseRetry)) ∧
      ∀ row ∈ first.job.rows, ∀ twin ∈ second.job.rows, ∀ failure other,
        first.records row.stageName = some failure →
          second.records twin.stageName = some other → failure.SameFailure other →
            row.errorMessage = twin.errorMessage ∧
              (stageToProto row).error = (stageToProto twin).error := by
  have one := firstRun.reported
  have two := secondRun.reported
  constructor
  · obtain ⟨failure, recorded⟩ := Option.isSome_iff_exists.mp (one.failed firstFailed)
    obtain ⟨other, matched⟩ := Option.isSome_iff_exists.mp (two.failed secondFailed)
    refine ⟨failure, other, recorded, matched, fun same => ?_⟩
    have message : first.errorMessage = second.errorMessage := by
      rw [one.message, two.message, recorded, matched, sameJob, sameConfig]
      exact same.message_eq _ _
    have errorClass : first.errorClass = second.errorClass := by
      rw [one.errorClass, two.errorClass, recorded, matched]
      exact same.errorClass
    refine ⟨message, congrArg toError message, ?_⟩
    unfold refuseRetry failedJob
    rw [message, errorClass, sameJob, sameConfig]
  · intro row present twin listed failure other recorded matched same
    have message : row.errorMessage = twin.errorMessage := by
      rw [one.rows row present, two.rows twin listed, recorded, matched, sameJob, sameConfig]
      exact same.message_eq _ _
    exact ⟨message, congrArg toError message⟩

def failsOn (text : Text) : List ReportEvent :=
  let err := Failure.errorf "analysis: analyzer failed".toList (.internal text)
  [.starts "7f".toList, .loads, .marks .stored err, .attempts "classify".toList .stored,
    .analyzerFails "classify".toList err .stored, .passEnds, .ends .stored []]

def sampleReporting : ReportingJob :=
  created "j-1".toList none Job.loneAnalyzer
    ["classify".toList, "graph".toList, "synthesis".toList]

def failedVisibly (state : ReportingJob) : Bool :=
  state.job.status = .failed && state.errorMessage ≠ [] && state.jobID = "j-1".toList &&
    state.config.isNone &&
    state.record.map (fun record => (record.recorder, record.visible)) =
      some (.failJob ⟨.working, .passing .beforeCandidates⟩, "7f".toList, .retryable, [])

theorem failure_messages_agree_database :
    ∃ first second,
      run step sampleReporting (failsOn "pq: connection refused".toList) = some first ∧
      run step sampleReporting (failsOn "disk full on /var/lib/pg".toList) = some second ∧
      first.errorMessage ≠ [] ∧ first.errorMessage = second.errorMessage ∧
      first.jobToProto.error = second.jobToProto.error := by
  have refused : (run step sampleReporting (failsOn "pq: connection refused".toList)).any
      failedVisibly = true := by
    decide +kernel
  have full : (run step sampleReporting (failsOn "disk full on /var/lib/pg".toList)).any
      failedVisibly = true := by
    decide +kernel
  obtain ⟨first, ran, seen⟩ := (Option.any_eq_true _ _).mp refused
  obtain ⟨second, reran, watched⟩ := (Option.any_eq_true _ _).mp full
  simp only [failedVisibly, Bool.and_eq_true, decide_eq_true_eq, Option.isNone_iff_eq_none]
    at seen watched
  obtain ⟨⟨⟨⟨failed, written⟩, jobID⟩, config⟩, recorded⟩ := seen
  obtain ⟨⟨⟨⟨refailed, _⟩, sameID⟩, sameConfig⟩, rerecorded⟩ := watched
  have distinct : ["classify".toList, "graph".toList, "synthesis".toList].Nodup := by decide
  have agree := failure_messages_agree ⟨_, _, _, _, _, distinct, ran⟩
    ⟨_, _, _, _, _, distinct, reran⟩ failed refailed (jobID.trans sameID.symm)
    (config.trans sameConfig.symm)
  obtain ⟨⟨failure, other, found, matched, same⟩, _⟩ := agree
  rw [found, Option.map_some, Option.some.injEq, Prod.mk.injEq] at recorded
  rw [matched, Option.map_some, Option.some.injEq, Prod.mk.injEq] at rerecorded
  have alike : failure.recorder.Alike other.recorder := by
    rw [recorded.1, rerecorded.1]
    exact .refl _
  have messages := same (.of_visible alike (recorded.2.trans rerecorded.2.symm))
  exact ⟨first, second, ran, reran, written, messages.1, messages.2.1⟩

/-- Two runs of a job on one catalog in which no stage fails: the job cannot be loaded, or it is
loaded and cannot be marked as running. Only the second message names the catalog. -/
theorem unloaded_message_differs :
    let job := { sampleReporting with config := some ⟨⟨['k'], [], false⟩, false⟩ }
    let err := Failure.internal "pq: connection refused".toList
    ((run step job [.starts "7f".toList, .errors err, .ends .stored []]).any fun first =>
      (run step job [.starts "7f".toList, .loads, .marks .lost err, .ends .stored []]).any
        fun second => first.job.status = .failed && second.job.status = .failed &&
          (first.job.rows ++ second.job.rows).all (·.status = .pending) &&
          first.record.map FailureRecord.visible = second.record.map FailureRecord.visible &&
          first.errorMessage ≠ second.errorMessage) = true := by
  decide +kernel

/-- In every reachable state a failed job has a recorded failure, and the messages of the job
and of its stages are those of failures without the text that is not for the tenant. -/
theorem stored_messages_redacted {state : ReportingJob} (reachable : state.Reachable) :
    (state.job.status = .failed → state.record.isSome) ∧
      state.errorMessage =
        storedMessage state.jobID state.config (state.record.map .redact) ∧
      ∀ row ∈ state.job.rows, row.errorMessage =
        storedMessage state.jobID state.config ((state.records row.stageName).map .redact) := by
  have reported := reachable.reported
  have texts : ∀ record, storedMessage state.jobID state.config (record.map .redact) =
      storedMessage state.jobID state.config record := by
    intro record
    cases record with
    | none => rfl
    | some record => exact record.sameFailure_redact.message_eq _ _
  refine ⟨reported.failed, reported.message.trans (texts _).symm, fun row listed => ?_⟩
  exact (reported.rows row listed).trans (texts _).symm

theorem stored_messages_redacted_database :
    ∃ state, run step sampleReporting (failsOn "pq: connection refused".toList) = some state ∧
      state.errorMessage = storedMessage state.jobID state.config (state.record.map .redact) := by
  have goes : (run step sampleReporting (failsOn "pq: connection refused".toList)).isSome := by
    decide +kernel
  obtain ⟨state, ran⟩ := Option.isSome_iff_exists.mp goes
  exact ⟨state, ran, (stored_messages_redacted ⟨_, _, _, _, _, by decide, ran⟩).2.1⟩

end ReportingJob

end CrossCodex.Pipeline
