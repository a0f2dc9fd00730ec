/-
The stages of a job (internal/pipeline/stages.go, store.go) and the part of RetryJob that
puts them back. Rows are listed in the collation's order of stage_name, whichever it is. A
registry is what BuildDAG accepts.
-/

import CrossCodex.Analyzer.TaskId
import CrossCodex.Pipeline.Service

namespace CrossCodex.Pipeline

open Analyzer (Text)

/-- The stages buildStageNames adds to the analyzers. -/
inductive PipelineStage where
  | candidateGeneration
  | synthesis
  | graph
deriving DecidableEq, Repr

def PipelineStage.stageName : PipelineStage → Text
  | .candidateGeneration => "candidate_generation".toList
  | .synthesis => "synthesis".toList
  | .graph => "graph".toList

theorem PipelineStage.stageName_injective {first second : PipelineStage}
    (same : first.stageName = second.stageName) : first = second := by
  cases first <;> cases second <;> first | rfl | exact absurd same (by decide)

def candidateDependentAnalyzers : List Text := ["requires".toList, "relationship".toList]

/-- The analyzers in DAG order with candidate_generation before the first one that
reads candidates. -/
def insertCandidateGeneration : List Text → List Text
  | [] => []
  | name :: rest =>
    if name ∈ candidateDependentAnalyzers then
      PipelineStage.candidateGeneration.stageName :: name :: rest
    else name :: insertCandidateGeneration rest

def buildStageNames (dagOrder : List Text) : List Text :=
  insertCandidateGeneration dagOrder ++
    [PipelineStage.synthesis.stageName, PipelineStage.graph.stageName]

structure Registry where
  analyzers : List Text
  dependsOn : Text → List Text
  distinct : analyzers.Nodup
  registered : ∀ name ∈ analyzers, ∀ dependency ∈ dependsOn name, dependency ∈ analyzers
  acyclic : WellFounded fun dependency name => dependency ∈ dependsOn name
  unreserved : ∀ stage : PipelineStage, stage.stageName ∉ analyzers

inductive StageStatus where
  | pending
  | running
  | completed
  | failed
  | cancelled
deriving DecidableEq, Repr

structure StageRow where
  stageName : Text
  status : StageStatus
  startedAt : Option Nat
  completedAt : Option Nat
  retryCount : Nat
  errorMessage : Text
  cacheAttempt : Option Text
deriving DecidableEq

namespace StageRow

/-- CreateStages. -/
def create (stageName : Text) : StageRow :=
  { stageName, status := .pending, startedAt := none, completedAt := none, retryCount := 0,
    errorMessage := [], cacheAttempt := none }

def updateStatus (status : StageStatus) (now : Nat) (row : StageRow) : StageRow :=
  match status with
  | .running => { row with status := .running, startedAt := some now }
  | .completed => { row with status := .completed, completedAt := some now }
  | .failed => { row with status := .failed, completedAt := some now }
  | .cancelled => { row with status := .cancelled, completedAt := some now }
  | .pending => { row with status := .pending }

def updateError (message : Text) (now : Nat) (row : StageRow) : StageRow :=
  { row with status := .failed, errorMessage := message, completedAt := some now }

/-- The job_stages part of CompleteAnalysisStage. -/
def completeAnalysis (attempt : Option Text) (now : Nat) (row : StageRow) : StageRow :=
  { row with status := .completed, completedAt := some now, cacheAttempt := attempt }

/-- The assignment of ResetStagesFrom. -/
def reset (row : StageRow) : StageRow :=
  { row with
    status := .pending, startedAt := none, completedAt := none, errorMessage := [],
    retryCount := row.retryCount + 1, cacheAttempt := none }

def failedOrCancelled (row : StageRow) : Bool :=
  row.status = .failed || row.status = .cancelled

@[simp] theorem updateStatus_stageName (status : StageStatus) (now : Nat) (row : StageRow) :
    (row.updateStatus status now).stageName = row.stageName := by
  cases status <;> rfl

@[simp] theorem updateStatus_status (status : StageStatus) (now : Nat) (row : StageRow) :
    (row.updateStatus status now).status = status := by
  cases status <;> rfl

structure Sets (change : Nat → StageRow → StageRow) (status : StageStatus) : Prop where
  named : ∀ now row, (change now row).stageName = row.stageName
  status : ∀ now row, (change now row).status = status

theorem sets_updateStatus (status : StageStatus) : Sets (updateStatus status) status where
  named now row := row.updateStatus_stageName status now
  status now row := row.updateStatus_status status now

theorem sets_updateError (message : Text) : Sets (updateError message) .failed where
  named _ _ := rfl
  status _ _ := rfl

theorem sets_completeAnalysis (attempt : Option Text) :
    Sets (completeAnalysis attempt) .completed where
  named _ _ := rfl
  status _ _ := rfl

end StageRow

def updateRow (rows : List StageRow) (stageName : Text) (change : StageRow → StageRow) :
    List StageRow :=
  rows.map fun row => if row.stageName = stageName then change row else row

def completedStageSet (rows : List StageRow) : List Text :=
  (rows.filter fun row => row.status = .completed).map StageRow.stageName

variable {rows : List StageRow} {name : Text}

theorem mem_completedStageSet :
    name ∈ completedStageSet rows ↔
      ∃ row ∈ rows, row.status = .completed ∧ row.stageName = name := by
  simp [completedStageSet, and_assoc]

variable {change : StageRow → StageRow} {stageName : Text}

theorem mem_completedStageSet_updateRow {status : StageStatus}
    (named : ∀ row, (change row).stageName = row.stageName)
    (sets : ∀ row, (change row).status = status) :
    name ∈ completedStageSet (updateRow rows stageName change) ↔
      if name = stageName then
        status = .completed ∧ stageName ∈ rows.map StageRow.stageName
      else name ∈ completedStageSet rows := by
  simp only [mem_completedStageSet, updateRow, List.mem_map, exists_exists_and_eq_and]
  split
  · rename_i same
    subst name
    constructor
    · rintro ⟨row, mem, done, found⟩
      by_cases this : row.stageName = stageName
      · rw [if_pos this, sets] at done
        exact ⟨done, row, mem, this⟩
      · rw [if_neg this] at found
        exact absurd found this
    · rintro ⟨done, row, mem, found⟩
      refine ⟨row, mem, ?_, ?_⟩
      · rw [if_pos found, sets, done]
      · rw [if_pos found, named, found]
  · rename_i other
    constructor
    · rintro ⟨row, mem, done, found⟩
      by_cases this : row.stageName = stageName
      · rw [if_pos this, named, this] at found
        exact absurd found.symm other
      · rw [if_neg this] at done found
        exact ⟨row, mem, done, found⟩
    · rintro ⟨row, mem, done, found⟩
      have this : row.stageName ≠ stageName := fun same => other (found.symm.trans same)
      exact ⟨row, mem, by rw [if_neg this]; exact done, by rw [if_neg this]; exact found⟩

theorem updateRow_stageNames (named : ∀ row, (change row).stageName = row.stageName) :
    (updateRow rows stageName change).map StageRow.stageName = rows.map StageRow.stageName := by
  unfold updateRow
  rw [List.map_map]
  apply List.map_congr_left
  intro row _
  by_cases this : row.stageName = stageName
  · simp only [Function.comp_apply, if_pos this, named]
  · simp only [Function.comp_apply, if_neg this]

/-- The first failed or cancelled stage in the order of GetStages. -/
def firstFailed (stages : List StageRow) : Option Text :=
  (stages.find? StageRow.failedOrCancelled).map StageRow.stageName

/-- ResetStagesFrom: `fromStage` and what follows it in `allStages`; an unknown stage is
refused. -/
def resetStagesFrom (rows : List StageRow) (fromStage : Text) (allStages : List Text) :
    Option (List StageRow) :=
  match allStages.dropWhile (· ≠ fromStage) with
  | [] => none
  | first :: rest =>
    some (rows.map fun row => if row.stageName ∈ first :: rest then row.reset else row)

/-- What RetryJob from failure does to the stages. It is refused when no stage failed or
was cancelled, unless the job itself did. -/
def retryFromFailure (status : JobStatus) (rows : List StageRow) : Option (List StageRow) :=
  match firstFailed rows with
  | some stage => resetStagesFrom rows stage (rows.map StageRow.stageName)
  | none => if status = .failed ∨ status = .cancelled then some rows else none

def keptRows (rows : List StageRow) : List StageRow :=
  rows.takeWhile fun row => !row.failedOrCancelled

def resetRows (rows : List StageRow) : List StageRow :=
  rows.dropWhile fun row => !row.failedOrCancelled

end CrossCodex.Pipeline
