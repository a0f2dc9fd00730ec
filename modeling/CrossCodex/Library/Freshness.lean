/-
Staged computation with recorded completion. A ledger is fresh when every done stage was
computed from outputs that are done and have not been recomputed since.
-/

import Mathlib.Data.Set.Insert

namespace CrossCodex.Library

open Function

variable {Stage : Type*}

structure Ledger (Stage : Type*) where
  done : Set Stage
  executions : Stage → Nat
  consumed : Stage → Stage → Nat

namespace Ledger

/-- What the last execution of the stage consumed is done and still current. -/
def Current (inputs : Stage → List Stage) (ledger : Ledger Stage) (stage : Stage) : Prop :=
  ∀ input ∈ inputs stage,
    input ∈ ledger.done ∧ ledger.executions input = ledger.consumed stage input

def Fresh (inputs : Stage → List Stage) (ledger : Ledger Stage) : Prop :=
  ∀ stage ∈ ledger.done, ledger.Current inputs stage

section Execute

variable [DecidableEq Stage]

def execute (ledger : Ledger Stage) (stage : Stage) : Ledger Stage :=
  { ledger with
    executions := update ledger.executions stage (ledger.executions stage + 1)
    consumed := update ledger.consumed stage ledger.executions }

variable {inputs : Stage → List Stage} {ledger : Ledger Stage} {stage other : Stage}

theorem Current.execute (current : ledger.Current inputs other) (idle : stage ∉ ledger.done)
    (ne : other ≠ stage) : (ledger.execute stage).Current inputs other := by
  intro input mem
  obtain ⟨done, counted⟩ := current input mem
  have kept : input ≠ stage := fun same => idle (same ▸ done)
  refine ⟨done, ?_⟩
  change update ledger.executions stage _ input =
    update ledger.consumed stage _ other input
  rw [update_of_ne kept, update_of_ne ne]
  exact counted

theorem current_execute (ready : ∀ input ∈ inputs stage, input ∈ ledger.done)
    (idle : stage ∉ ledger.done) : (ledger.execute stage).Current inputs stage := by
  intro input mem
  have done := ready input mem
  have kept : input ≠ stage := fun same => idle (same ▸ done)
  refine ⟨done, ?_⟩
  change update ledger.executions stage _ input =
    update ledger.consumed stage _ stage input
  rw [update_of_ne kept, update_self]

theorem Fresh.execute (fresh : ledger.Fresh inputs) (idle : stage ∉ ledger.done) :
    (ledger.execute stage).Fresh inputs := by
  intro other done
  have ne : other ≠ stage := fun same => idle (same ▸ done)
  exact (fresh other done).execute idle ne

end Execute

variable {inputs : Stage → List Stage} {ledger : Ledger Stage} {stage : Stage}

theorem Current.mono {larger : Set Stage} (current : ledger.Current inputs stage)
    (grown : ledger.done ⊆ larger) : { ledger with done := larger }.Current inputs stage := by
  intro input mem
  exact ⟨grown (current input mem).1, (current input mem).2⟩

theorem Fresh.complete (fresh : ledger.Fresh inputs) (current : ledger.Current inputs stage) :
    { ledger with done := insert stage ledger.done }.Fresh inputs := by
  intro other done
  rcases done with rfl | done
  · exact current.mono (Set.subset_insert other ledger.done)
  · exact (fresh other done).mono (Set.subset_insert stage ledger.done)

theorem Fresh.restrict {kept : Set Stage} (fresh : ledger.Fresh inputs)
    (subset : kept ⊆ ledger.done)
    (closed : ∀ stage ∈ kept, ∀ input ∈ inputs stage, input ∈ ledger.done → input ∈ kept) :
    { ledger with done := kept }.Fresh inputs := by
  intro stage stays input mem
  obtain ⟨done, counted⟩ := fresh stage (subset stays) input mem
  exact ⟨closed stage stays input mem done, counted⟩

end Ledger

end CrossCodex.Library
