/-
No result of a collection is lost or duplicated, except through two windows of the retry
goroutine that `FailsInTime` excludes: a Redispatch that fails after its task was answered,
and one whose failure is sent after AwaitResults drained the channel.
-/

import CrossCodex.Analysis.Collector
import Mathlib.Data.List.Dedup
import Mathlib.Data.List.Perm.Basic

namespace CrossCodex.Analysis

open Library
open Analyzer (Text Task)

variable {Result Origin : Type}

namespace Collection

def publishing (c : Collection Result Origin) : Option (Retry Result Origin) :=
  match c.redispatching with
  | some (.publishing retry) => some retry
  | _ => none

def unsent (c : Collection Result Origin) : List Text :=
  match c.redispatching with
  | some (.failed retry) => [retry.task.taskID]
  | _ => []

def decided (c : Collection Result Origin) : Bool :=
  match c.phase with
  | .leaving _ | .returned _ => true
  | .prepared | .collecting | .draining => false

/-- Every task a collection still owes or has answered, once per obligation. -/
def account (c : Collection Result Origin) : List Text :=
  (c.results ++ c.resultChan).map TaskResult.taskID ++ (c.unsent ++ c.pending)

/-- A Redispatch that fails finds its task pending, unless the outcome is already
decided; and the drain does not end between a failed retry's removal and its send. -/
def FailsInTime (c : Collection Result Origin) : CollectionEvent Result Origin → Prop
  | .redispatchFails =>
    ∀ retry ∈ c.publishing, c.decided = true ∨ retry.task.taskID ∈ c.pending
  | .finishes => c.unsent = []
  | _ => True

instance decidableFailsInTime (c : Collection Result Origin)
    (event : CollectionEvent Result Origin) : Decidable (c.FailsInTime event) := by
  cases event <;> unfold FailsInTime <;> infer_instance

structure Accounted (c : Collection Result Origin) (expected : List Text) : Prop where
  owed : c.decided = false → c.account.Perm expected
  drained : c.done = true → c.pending = []
  draining : c.phase = .draining → c.done = true
  complete : c.phase = .leaving true ∨ c.phase = .returned true →
    (c.results.map TaskResult.taskID).Perm expected

theorem prepareCollect_accounted {request : CollectRequest} (nodup : request.expectedIDs.Nodup) :
    (prepareCollect request : Collection Result Origin).Accounted request.expectedIDs where
  owed _ := by
    simp [account, unsent, prepareCollect, List.Nodup.dedup nodup]
  drained closed := by cases closed
  draining phase := by cases phase
  complete phase := by rcases phase with phase | phase <;> cases phase

theorem account_answered {settled unreported pending : List Text} {taskID : Text}
    (mem : taskID ∈ pending) :
    (settled ++ [taskID] ++ (unreported ++ pending.erase taskID)).Perm
      (settled ++ (unreported ++ pending)) := by
  have restored := (List.perm_cons_erase mem).symm
  have moved : (taskID :: (unreported ++ pending.erase taskID)).Perm (unreported ++ pending) :=
    List.perm_middle.symm.trans (List.Perm.append_left unreported restored)
  rw [List.append_assoc, List.singleton_append]
  exact List.Perm.append_left settled moved

variable {c d : Collection Result Origin} {expected : List Text}

theorem undecided_of_phase
    (phase : c.phase = .prepared ∨ c.phase = .collecting ∨ c.phase = .draining) :
    c.decided = false := by
  unfold Collection.decided
  rcases phase with phase | phase | phase <;> rw [phase]

section

variable (before : c.Accounted expected)
include before

theorem Accounted.frame (phase : d.phase = c.phase) (results : d.results = c.results)
    (pending : d.pending = c.pending) (account : d.account = c.account) (done : d.done = c.done) :
    d.Accounted expected := by
  have decided : d.decided = c.decided := by unfold Collection.decided; rw [phase]
  refine ⟨?_, ?_, ?_, ?_⟩
  · rw [decided, account]
    exact before.owed
  · rw [done, pending]
    exact before.drained
  · rw [phase, done]
    exact before.draining
  · rw [phase, results]
    exact before.complete

theorem Accounted.drained_erase {taskID : Text} (closed : c.done = true) :
    c.pending.erase taskID = [] := by
  rw [before.drained closed]
  rfl

theorem Accounted.step {event : CollectionEvent Result Origin} (inTime : c.FailsInTime event)
    (taken : c.step event = some d) : d.Accounted expected := by
  cases step_cases taken with
  | ignored => exact before
  | schedules | retryExits | ctxDone => exact before.frame rfl rfl rfl rfl rfl
  | @answers message _ _ pending =>
    refine ⟨?_, fun closed => before.drained_erase closed, before.draining, before.complete⟩
    intro undecided
    refine List.Perm.trans ?_ (before.owed undecided)
    change List.Perm ((c.results ++ (c.resultChan ++ [_])).map TaskResult.taskID ++
      (c.unsent ++ c.pending.erase message.taskID)) c.account
    rw [← List.append_assoc c.results, List.map_append]
    exact account_answered pending
  | timerFires _ idle => exact before.frame rfl rfl rfl (by simp [account, unsent, idle]) rfl
  | redispatched held => exact before.frame rfl rfl rfl (by simp [account, unsent, held]) rfl
  | @redispatchFails retry held =>
    refine ⟨?_, fun closed => before.drained_erase closed, before.draining, before.complete⟩
    intro undecided
    have publishing : c.publishing = some retry := by unfold Collection.publishing; rw [held]
    have silent : c.unsent = [] := by unfold unsent; rw [held]
    rcases inTime retry publishing with decided | mem
    · cases undecided.symm.trans decided
    · refine List.Perm.trans ?_ (before.owed undecided)
      unfold account
      rw [silent, List.nil_append]
      exact List.Perm.append_left _ (List.perm_cons_erase mem).symm
  | @failureSends retry held =>
    refine ⟨?_, before.drained, before.draining, before.complete⟩
    intro undecided
    have waiting : c.unsent = [retry.task.taskID] := by unfold unsent; rw [held]
    have owed := before.owed undecided
    unfold account at owed ⊢
    rw [waiting] at owed
    simpa [Retry.failure, unsent] using owed
  | awaits phase =>
    refine ⟨fun _ => before.owed (undecided_of_phase (.inl phase)), before.drained, nofun, ?_⟩
    rintro (other | other) <;> cases other
  | monitorPolls running =>
    refine ⟨before.owed, fun empty => List.isEmpty_iff.mp empty, ?_, before.complete⟩
    intro phase
    cases running.symm.trans (before.draining phase)
  | receives channel phase =>
    refine ⟨?_, before.drained, before.draining, ?_⟩
    · intro undecided
      have owed := before.owed undecided
      unfold account at owed ⊢
      rw [channel] at owed
      simpa [unsent] using owed
    · intro finished
      rcases phase with phase | phase <;> rcases finished with finished | finished <;>
        cases phase.symm.trans finished
  | seesDone phase closed =>
    refine ⟨fun _ => before.owed (undecided_of_phase (.inr (.inl phase))), before.drained,
      fun _ => closed, ?_⟩
    rintro (other | other) <;> cases other
  | finishes channel phase =>
    refine ⟨nofun, before.drained, nofun, fun _ => ?_⟩
    have owed := before.owed (undecided_of_phase (.inr (.inr phase)))
    have silent : c.unsent = [] := inTime
    unfold account at owed
    rw [channel, silent, before.drained (before.draining phase)] at owed
    simpa using owed
  | givesUp =>
    refine ⟨nofun, before.drained, nofun, ?_⟩
    rintro (other | other) <;> cases other
  | releases phase =>
    refine ⟨nofun, before.drained, nofun, ?_⟩
    rintro (other | other) <;> cases other
    exact before.complete (.inl phase)

end

/-- Along every interleaving in which failed retries are in time: when AwaitResults
has returned a nil error, its results are one TaskResult for each expected ID. -/
theorem awaitResults_exactly_once (request : CollectRequest)
    (distinct : request.expectedIDs.Nodup) (events : List (CollectionEvent Result Origin))
    (final : Collection Result Origin)
    (inTime : Along step FailsInTime (prepareCollect request) events)
    (ran : run step (prepareCollect request) events = some final)
    (complete : final.phase = .leaving true ∨ final.phase = .returned true) :
    (final.results.map TaskResult.taskID).Perm request.expectedIDs := by
  have kept : final.Accounted request.expectedIDs := run_invariant_along
    (fun _state _event _next before holds taken => Accounted.step before holds taken)
    (prepareCollect_accounted distinct) inTime ran
  exact kept.complete complete

def oneTask : CollectRequest :=
  { taskType := "relationship".toList
    expectedIDs := ["t".toList]
    tasks :=
      [{ taskID := "t".toList, taskType := "relationship".toList, payload := .struct [],
         preBuiltResult := false }]
    maxRetries := 1 }

def failureMessage : Message Unit Unit :=
  { taskID := "t".toList, error := "llm call failed".toList, body := .empty, origin := () }

def successMessage : Message Unit Unit :=
  { taskID := "t".toList, error := [], body := .struct (), origin := () }

def retriedOnce : List (CollectionEvent Unit Unit) :=
  [.awaits, .deliver failureMessage, .timerFires 0, .monitorPolls, .redispatched,
    .deliver successMessage, .deliver successMessage, .monitorPolls, .seesDone, .receives,
    .finishes, .releases]

theorem awaitResults_exactly_once_retried :
    ∃ final, run step (prepareCollect oneTask) retriedOnce = some final ∧
      (final.results.map TaskResult.taskID).Perm ["t".toList] :=
  ⟨_, rfl, awaitResults_exactly_once oneTask (by decide) retriedOnce _ (by decide) rfl
    (.inr rfl)⟩

/-- AwaitResults returns a nil error without the result of its only task when the
drain falls between the removal and the send of a failed retry, and with two results
of it when Redispatch fails after a late answer. -/
theorem failed_redispatch_loses_or_repeats :
    let outcome := fun events : List (CollectionEvent Unit Unit) =>
      (run step (prepareCollect oneTask) events).map fun final =>
        (final.phase, final.results.map TaskResult.taskID)
    outcome [.awaits, .deliver failureMessage, .timerFires 0, .redispatchFails,
        .monitorPolls, .seesDone, .finishes, .failureSends, .releases] =
      some (.returned true, []) ∧
    outcome [.awaits, .deliver failureMessage, .deliver successMessage, .receives,
        .timerFires 0, .redispatchFails, .failureSends, .monitorPolls, .seesDone, .receives,
        .finishes, .releases] =
      some (.returned true, ["t".toList, "t".toList]) := by
  decide

end Collection

end CrossCodex.Analysis
