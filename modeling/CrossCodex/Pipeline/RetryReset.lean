/-
RetryJob from failure puts back the first failed or cancelled row and every row listed after
it, whatever depends on what.
-/

import CrossCodex.Pipeline.JobRun

namespace CrossCodex.Pipeline

open Analyzer (Text)
open List

theorem keptRows_append_resetRows (rows : List StageRow) :
    keptRows rows ++ resetRows rows = rows :=
  takeWhile_append_dropWhile

theorem firstFailed_eq (rows : List StageRow) :
    firstFailed rows = (resetRows rows).head?.map StageRow.stageName := by
  unfold firstFailed resetRows
  rw [find?_eq_head?_dropWhile_not]

theorem dropWhile_stageNames {before rest : List StageRow} {first : StageRow}
    (nodup : ((before ++ first :: rest).map StageRow.stageName).Nodup) :
    ((before ++ first :: rest).map StageRow.stageName).dropWhile (· ≠ first.stageName) =
      first.stageName :: rest.map StageRow.stageName := by
  rw [map_append, map_cons] at nodup ⊢
  have fresh : ∀ name ∈ before.map StageRow.stageName,
      decide (name ≠ first.stageName) = true := by
    intro name mem
    apply decide_eq_true
    intro same
    subst name
    exact (nodup_append.mp nodup).2.2 _ mem _ mem_cons_self rfl
  rw [dropWhile_append_of_pos fresh, dropWhile_cons_of_neg (by simp)]

theorem map_reset_of_distinct {before after : List StageRow}
    (nodup : ((before ++ after).map StageRow.stageName).Nodup) :
    ((before ++ after).map fun row =>
      if row.stageName ∈ after.map StageRow.stageName then row.reset else row) =
      before ++ after.map StageRow.reset := by
  rw [map_append] at nodup ⊢
  congr 1
  · conv_rhs => rw [← map_id before]
    apply map_congr_left
    intro row mem
    apply if_neg
    intro later
    exact (nodup_append.mp nodup).2.2 _ (mem_map_of_mem mem) _ later rfl
  · apply map_congr_left
    intro row mem
    exact if_pos (mem_map_of_mem mem)

/-- RetryJob keeps the rows before the first failed or cancelled one and resets the
rest; without such a row it resets nothing and needs a failed or cancelled job. -/
theorem retryFromFailure_eq {rows : List StageRow} (status : JobStatus)
    (nodup : (rows.map StageRow.stageName).Nodup) :
    retryFromFailure status rows =
      if resetRows rows = [] ∧ status ≠ .failed ∧ status ≠ .cancelled then none
      else some (keptRows rows ++ (resetRows rows).map StageRow.reset) := by
  have whole := keptRows_append_resetRows rows
  unfold retryFromFailure
  rw [firstFailed_eq]
  cases split : resetRows rows with
  | nil =>
    rw [split, append_nil] at whole
    simp only [head?_nil, Option.map_none, map_nil, append_nil, whole, true_and]
    by_cases ended : status = .failed ∨ status = .cancelled
    · rw [if_pos ended, if_neg]
      intro open_
      rcases ended with failed | cancelled
      · exact open_.1 failed
      · exact open_.2 cancelled
    · rw [if_neg ended, if_pos (not_or.mp ended)]
  | cons first rest =>
    rw [split] at whole
    simp only [head?_cons, Option.map_some, cons_ne_nil, false_and, if_false]
    rw [← whole] at nodup
    have names := dropWhile_stageNames nodup
    have reset := map_reset_of_distinct nodup
    rw [whole] at names reset
    unfold resetStagesFrom
    rw [names]
    exact congrArg some reset

/-- Every completed stage is left exactly as it was, every other one is pending, and the
retried run, which skips exactly the completed stages, executes the same ones as are
left to do. -/
structure KeepsFinishedWork (before after : List StageRow) : Prop where
  rows : List.Forall₂ (fun row next => next.stageName = row.stageName ∧
    (row.status = .completed → next = row) ∧
    (row.status ≠ .completed → next.status = .pending)) before after
  completed : ∀ name, name ∈ completedStageSet after ↔ name ∈ completedStageSet before

/-- No stage listed before the first failed or cancelled one is running, and none listed
after it is completed. -/
def FailsInListedOrder (rows : List StageRow) : Prop :=
  (∀ row ∈ keptRows rows, row.status ≠ .running) ∧
    ∀ row ∈ resetRows rows, row.status ≠ .completed

instance decidableFailsInListedOrder (rows : List StageRow) :
    Decidable (FailsInListedOrder rows) := by
  unfold FailsInListedOrder
  infer_instance

theorem not_failedOrCancelled_of_kept {rows : List StageRow} {row : StageRow}
    (mem : row ∈ keptRows rows) : row.status ≠ .failed ∧ row.status ≠ .cancelled := by
  have unfailed := mem_takeWhile_imp mem
  simpa [StageRow.failedOrCancelled] using unfailed

theorem forall₂_append_left_iff {relation : StageRow → StageRow → Prop}
    {same first second : List StageRow} :
    List.Forall₂ relation (same ++ first) (same ++ second) ↔
      (∀ row ∈ same, relation row row) ∧ List.Forall₂ relation first second := by
  induction same with
  | nil => simp
  | cons row rest ih => simp [ih, and_assoc]

theorem reset_ne (row : StageRow) : row.reset ≠ row := by
  intro same
  have counted := congrArg StageRow.retryCount same
  simp [StageRow.reset] at counted

theorem completedStageSet_append (first second : List StageRow) :
    completedStageSet (first ++ second) = completedStageSet first ++ completedStageSet second := by
  simp [completedStageSet]

theorem completedStageSet_reset (rows : List StageRow) :
    completedStageSet (rows.map StageRow.reset) = [] := by
  simp [completedStageSet, StageRow.reset]

theorem keepsFinishedWork_iff (rows : List StageRow) :
    KeepsFinishedWork rows (keptRows rows ++ (resetRows rows).map StageRow.reset) ↔
      FailsInListedOrder rows := by
  have whole := keptRows_append_resetRows rows
  constructor
  · intro keeps
    have pairs := keeps.rows
    nth_rewrite 1 [← whole] at pairs
    rw [forall₂_append_left_iff, forall₂_map_right_iff, forall₂_same] at pairs
    refine ⟨?_, ?_⟩
    · intro row mem running
      have pending := (pairs.1 row mem).2.2 (by rw [running]; decide)
      rw [running] at pending
      cases pending
    · intro row mem completed
      exact reset_ne row ((pairs.2 row mem).2.1 completed)
  · intro inOrder
    refine ⟨?_, ?_⟩
    · nth_rewrite 1 [← whole]
      rw [forall₂_append_left_iff, forall₂_map_right_iff, forall₂_same]
      refine ⟨?_, ?_⟩
      · intro row mem
        refine ⟨rfl, fun _ => rfl, fun unfinished => ?_⟩
        have idle := inOrder.1 row mem
        obtain ⟨notFailed, notCancelled⟩ := not_failedOrCancelled_of_kept mem
        cases status : row.status <;> simp_all
      · intro row mem
        exact ⟨rfl, fun completed => absurd completed (inOrder.2 row mem), fun _ => rfl⟩
    · intro name
      have none : completedStageSet (resetRows rows) = [] := by
        unfold completedStageSet
        rw [map_eq_nil_iff, filter_eq_nil_iff]
        intro row mem completed
        exact inOrder.2 row mem (of_decide_eq_true completed)
      conv_rhs => rw [← whole]
      rw [completedStageSet_append, completedStageSet_append, completedStageSet_reset, none]

/-- For every job that ended failed or cancelled and every assignment of statuses to its
stages, RetryJob from failure goes through, and it keeps finished work exactly when the
stages failed in the order in which they are listed. -/
theorem retryFromFailure_keepsFinishedWork_iff (status : JobStatus) (rows : List StageRow)
    (ended : status = .failed ∨ status = .cancelled)
    (distinct : (rows.map StageRow.stageName).Nodup) :
    ∃ after, retryFromFailure status rows = some after ∧
      (KeepsFinishedWork rows after ↔ FailsInListedOrder rows) := by
  refine ⟨keptRows rows ++ (resetRows rows).map StageRow.reset, ?_, keepsFinishedWork_iff rows⟩
  rw [retryFromFailure_eq status distinct, if_neg]
  rintro ⟨_, notFailed, notCancelled⟩
  rcases ended with failed | cancelled
  · exact notFailed failed
  · exact notCancelled cancelled

theorem acyclic_of_rank {dependsOn : Text → List Text} (rank : Text → Nat)
    (lower : ∀ name, ∀ dep ∈ dependsOn name, rank dep < rank name) :
    WellFounded fun dep name => dep ∈ dependsOn name :=
  Subrelation.wf (fun edge => lower _ _ edge) (measure rank).wf

def productionDependsOn (name : Text) : List Text :=
  if name = "embedding".toList then ["classify".toList]
  else if name = "relationship".toList then ["embedding".toList]
  else if name = "requires".toList then ["embedding".toList]
  else []

def productionRank (name : Text) : Nat :=
  if name = "embedding".toList then 1
  else if name = "relationship".toList then 2
  else if name = "requires".toList then 2
  else 0

def production : Registry where
  analyzers := ["artifacts".toList, "classify".toList, "embedding".toList,
    "relationship".toList, "requires".toList]
  dependsOn := productionDependsOn
  distinct := by decide
  registered := by decide
  acyclic := acyclic_of_rank productionRank (by
    intro name dependency edge
    unfold productionDependsOn at edge
    unfold productionRank
    split_ifs at edge ⊢ <;> simp_all)
  unreserved := by
    intro stage
    cases stage <;> decide

def productionStages : List Text :=
  ["artifacts".toList, "candidate_generation".toList, "classify".toList, "embedding".toList,
    "graph".toList, "relationship".toList, "requires".toList, "synthesis".toList]

def completedRow (stageName : Text) : StageRow :=
  (StageRow.create stageName).completeAnalysis none 1

/-- The pair analyzers come last among the listed analyzers, so their failure is retried
without touching the others. -/
def relationshipFailed : List StageRow :=
  ["artifacts".toList, "classify".toList, "embedding".toList].map completedRow ++
    [(StageRow.create "relationship".toList).updateError [] 2, StageRow.create "requires".toList]

theorem retry_keepsFinishedWork_relationship :
    ∃ after, retryFromFailure .failed relationshipFailed = some after ∧
      KeepsFinishedWork relationshipFailed after := by
  obtain ⟨after, retried, keeps⟩ := retryFromFailure_keepsFinishedWork_iff .failed
    relationshipFailed (.inl rfl) (by decide)
  exact ⟨after, retried, keeps.mpr (by decide)⟩

/-- A run in which candidate generation fails after three analyzers have completed. -/
def candidateGenerationFails : List JobEvent :=
  [.starts, .attempts "artifacts".toList .stored, .attempts "classify".toList .stored,
    .analyzerCompletes "artifacts".toList none .stored,
    .analyzerCompletes "classify".toList none .stored,
    .attempts "embedding".toList .stored, .analyzerCompletes "embedding".toList none .stored,
    .passEnds, .stageStarts .stored, .stageFails (some []) .stored, .ends [] .stored []]

/-- Retrying it puts back classify and embedding, which had completed. -/
theorem retry_resets_completed_stages :
    ∃ job after, Library.run Job.step (Job.created production productionStages)
        candidateGenerationFails = some job ∧
      job.status = .failed ∧ retryFromFailure job.status job.rows = some after ∧
      completedStageSet job.rows =
        ["artifacts".toList, "classify".toList, "embedding".toList] ∧
      completedStageSet after = ["artifacts".toList] ∧ ¬KeepsFinishedWork job.rows after := by
  refine ⟨_, _, rfl, rfl, rfl, by decide, by decide, ?_⟩
  intro keeps
  have kept := (keeps.completed "classify".toList).mpr (by decide)
  exact absurd kept (by decide)

end CrossCodex.Pipeline
