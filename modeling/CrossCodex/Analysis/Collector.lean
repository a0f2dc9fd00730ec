/-
One collection (internal/analysis/collector.go). One event is one critical section of `mu`
or `redispatchMu`, one channel operation or one outcome of a clock, the context or the
dispatcher. The handler removes a task and sends its result under `mu`: one event. Timeouts
may expire at any moment.
-/

import CrossCodex.Library.Run
import CrossCodex.Analyzer.GenerateWork

namespace CrossCodex.Analysis

open Library
open Analyzer (Text Task)

inductive ErrorClass where
  | outputTruncated
  | timeout
  | invalid
  | failed
deriving DecidableEq, Repr

/-- `unicode.ToLower` where it can produce a letter of an ASCII pattern: U+0130 and
U+212A are the only other characters it maps into ASCII. -/
def toLower (symbol : Char) : Char :=
  if symbol = '\u0130' then 'i'
  else if symbol = '\u212a' then 'k'
  else symbol.toLower

def contains (text pattern : Text) : Bool := (index? pattern text).isSome

def sanitizeError (errorMsg : Text) : ErrorClass :=
  if errorMsg = "output_truncated".toList then .outputTruncated
  else
    let lower := errorMsg.map toLower
    if contains lower "timeout".toList || contains lower "deadline".toList then .timeout
    else if contains lower "invalid".toList || contains lower "malformed".toList then .invalid
    else .failed

inductive Body (Result : Type) where
  | empty
  | malformed
  | struct (result : Result)
deriving DecidableEq

/-- A message on the result subject. Headers that are absent read as empty texts.
`origin` names the task message whose processing produced it; the collector does
not receive it and nothing below branches on it. -/
structure Message (Result Origin : Type) where
  taskID : Text
  error : Text
  body : Body Result
  origin : Origin
deriving DecidableEq

inductive TaskFailure where
  | missingTask
  | exhausted (cause : ErrorClass)
  | outputTruncated
  | redispatchFailed
deriving DecidableEq, Repr

/-- `answers` is the worker's message the result goes back to; for a retry whose
Redispatch failed it is the message that scheduled the retry. -/
structure TaskResult (Result Origin : Type) where
  taskID : Text
  taskType : Text
  outcome : Except TaskFailure (Option Result)
  answers : Message Result Origin

structure CollectRequest where
  taskType : Text
  expectedIDs : List Text
  tasks : List Task
  maxRetries : Int

variable {Result Origin : Type}

/-- The result of a message, or the class of its error. The body is not decoded when
the error header is set. -/
def Message.decode (message : Message Result Origin) : Except ErrorClass (Option Result) :=
  if message.error ≠ [] then .error (sanitizeError message.error)
  else
    match message.body with
    | .empty => .ok none
    | .malformed => .error .failed
    | .struct result => .ok (some result)

/-- `taskMap[taskID]`; a later task with the same ID overwrites an earlier one. -/
def CollectRequest.taskMap (request : CollectRequest) (taskID : Text) : Option Task :=
  request.tasks.reverse.find? fun task => task.taskID = taskID

structure Retry (Result Origin : Type) where
  task : Task
  retry : Nat
  answers : Message Result Origin

inductive Redispatch (Result Origin : Type) where
  | publishing (retry : Retry Result Origin)
  /-- Redispatch failed and the task is removed; its result is not sent yet. -/
  | failed (retry : Retry Result Origin)

inductive AwaitPhase where
  | prepared
  | collecting
  | draining
  /-- The results and the error are fixed; the deferred release is still to run. -/
  | leaving (complete : Bool)
  | returned (complete : Bool)
deriving DecidableEq, Repr

structure Collection (Result Origin : Type) where
  request : CollectRequest
  pending : List Text
  retryCounts : Text → Nat
  scheduled : List (Retry Result Origin)
  redispatching : Option (Redispatch Result Origin)
  resultChan : List (TaskResult Result Origin)
  done : Bool
  ctxDone : Bool
  released : Bool
  phase : AwaitPhase
  results : List (TaskResult Result Origin)

def Retry.failure (retry : Retry Result Origin) : TaskResult Result Origin where
  taskID := retry.task.taskID
  taskType := retry.task.taskType
  outcome := .error .redispatchFailed
  answers := retry.answers

namespace Collection

def prepareCollect (request : CollectRequest) : Collection Result Origin :=
  { request
    pending := request.expectedIDs.dedup
    retryCounts := fun _ => 0
    scheduled := []
    redispatching := none
    resultChan := []
    done := false
    ctxDone := false
    released := false
    phase := .prepared
    results := [] }

variable (c : Collection Result Origin)

/-- The buffer of resultChan holds one result per expected ID. -/
def hasRoom : Bool :=
  c.resultChan.length < c.request.expectedIDs.length

/-- `delete(pending, taskID)` and the send that follows under the same lock. -/
def answer (message : Message Result Origin)
    (outcome : Except TaskFailure (Option Result)) : Option (Collection Result Origin) :=
  if c.hasRoom then
    some { c with
      pending := c.pending.erase message.taskID
      resultChan := c.resultChan ++
        [{ taskID := message.taskID, taskType := c.request.taskType, outcome,
           answers := message }] }
  else none

def handleError (message : Message Result Origin)
    (cause : ErrorClass) : Option (Collection Result Origin) :=
  let retryCount := c.retryCounts message.taskID
  if (retryCount : Int) < c.request.maxRetries ∧ cause ≠ .outputTruncated then
    let counted :=
      { c with retryCounts := Function.update c.retryCounts message.taskID (retryCount + 1) }
    match c.request.taskMap message.taskID with
    | none => counted.answer message (.error .missingTask)
    | some task =>
      some { counted with
        scheduled := c.scheduled ++ [{ task, retry := retryCount, answers := message }] }
  else if cause = .outputTruncated then c.answer message (.error .outputTruncated)
  else c.answer message (.error (.exhausted cause))

def handler (message : Message Result Origin) : Option (Collection Result Origin) :=
  if message.taskID = [] then some c
  else if message.taskID ∉ c.pending then some c
  else
    match message.decode with
    | .ok result => c.answer message (.ok result)
    | .error cause => c.handleError message cause

/-- The backoff expired and the goroutine took redispatchMu before the release. -/
def timerFires (index : Nat) : Option (Collection Result Origin) :=
  match c.scheduled[index]?, c.redispatching with
  | some retry, none =>
    if c.released then none
    else some { c with
      scheduled := c.scheduled.eraseIdx index
      redispatching := some (.publishing retry) }
  | _, _ => none

/-- The goroutine returns without publishing. -/
def retryExits (index : Nat) : Option (Collection Result Origin) :=
  if c.ctxDone || c.released then
    some { c with scheduled := c.scheduled.eraseIdx index }
  else none

def redispatched : Option (Collection Result Origin) :=
  match c.redispatching with
  | some (.publishing _) => some { c with redispatching := none }
  | _ => none

/-- Redispatch returned an error: the task is removed under `mu`. -/
def redispatchFails : Option (Collection Result Origin) :=
  match c.redispatching with
  | some (.publishing retry) =>
    some { c with
      pending := c.pending.erase retry.task.taskID
      redispatching := some (.failed retry) }
  | _ => none

/-- The send after `mu` was released; redispatchMu is held until it returns. -/
def failureSends : Option (Collection Result Origin) :=
  match c.redispatching with
  | some (.failed retry) =>
    if c.hasRoom then
      some { c with redispatching := none, resultChan := c.resultChan ++ [retry.failure] }
    else none
  | _ => none

def awaits : Option (Collection Result Origin) :=
  if c.phase = .prepared then some { c with phase := .collecting } else none

/-- One poll of the monitor goroutine; it ends once it has closed doneChan. -/
def monitorPolls : Option (Collection Result Origin) :=
  if c.phase = .prepared ∨ c.done = true then none
  else some { c with done := c.pending.isEmpty }

def receives : Option (Collection Result Origin) :=
  match c.resultChan with
  | result :: rest =>
    if c.phase = .collecting ∨ c.phase = .draining then
      some { c with resultChan := rest, results := c.results ++ [result] }
    else none
  | [] => none

def seesDone : Option (Collection Result Origin) :=
  if c.phase = .collecting ∧ c.done = true then some { c with phase := .draining } else none

/-- The drain finds the channel empty and AwaitResults returns a nil error. -/
def finishes : Option (Collection Result Origin) :=
  match c.resultChan with
  | [] => if c.phase = .draining then some { c with phase := .leaving true } else none
  | _ :: _ => none

/-- A done context, the idle timeout or the stage cap ends AwaitResults with an error;
before it, a failed Dispatch makes the engine release the handle itself. -/
def givesUp : Option (Collection Result Origin) :=
  if c.phase = .collecting ∨ c.phase = .prepared then some { c with phase := .leaving false }
  else none

/-- release closes `released` under redispatchMu. -/
def releases : Option (Collection Result Origin) :=
  match c.phase, c.redispatching with
  | .leaving complete, none => some { c with released := true, phase := .returned complete }
  | _, _ => none

end Collection

inductive CollectionEvent (Result Origin : Type) where
  | deliver (message : Message Result Origin)
  | timerFires (index : Nat)
  | retryExits (index : Nat)
  | redispatched
  | redispatchFails
  | failureSends
  | awaits
  | monitorPolls
  | receives
  | seesDone
  | finishes
  | ctxDone
  | givesUp
  | releases

namespace Collection

def step (c : Collection Result Origin) :
    CollectionEvent Result Origin → Option (Collection Result Origin)
  | .deliver message => c.handler message
  | .timerFires index => c.timerFires index
  | .retryExits index => c.retryExits index
  | .redispatched => c.redispatched
  | .redispatchFails => c.redispatchFails
  | .failureSends => c.failureSends
  | .awaits => c.awaits
  | .monitorPolls => c.monitorPolls
  | .receives => c.receives
  | .seesDone => c.seesDone
  | .finishes => c.finishes
  | .ctxDone => some { c with ctxDone := true }
  | .givesUp => c.givesUp
  | .releases => c.releases

inductive Step (c : Collection Result Origin) :
    CollectionEvent Result Origin → Collection Result Origin → Prop where
  | ignored {message} : Step c (.deliver message) c
  | schedules {message counts task}
      (pending : message.taskID ∈ c.pending) (named : task.taskID = message.taskID) :
      Step c (.deliver message) { c with
        retryCounts := counts
        scheduled := c.scheduled ++
          [{ task, retry := c.retryCounts message.taskID, answers := message }] }
  | answers {message counts outcome} (pending : message.taskID ∈ c.pending)
      (room : c.hasRoom = true) :
      Step c (.deliver message) { c with
        retryCounts := counts
        pending := c.pending.erase message.taskID
        resultChan := c.resultChan ++
          [{ taskID := message.taskID, taskType := c.request.taskType, outcome,
             answers := message }] }
  | timerFires {index retry} (due : c.scheduled[index]? = some retry)
      (idle : c.redispatching = none) (unreleased : c.released = false) :
      Step c (.timerFires index) { c with
        scheduled := c.scheduled.eraseIdx index
        redispatching := some (.publishing retry) }
  | retryExits {index} :
      Step c (.retryExits index) { c with scheduled := c.scheduled.eraseIdx index }
  | redispatched {retry} (held : c.redispatching = some (.publishing retry)) :
      Step c .redispatched { c with redispatching := none }
  | redispatchFails {retry} (held : c.redispatching = some (.publishing retry)) :
      Step c .redispatchFails { c with
        pending := c.pending.erase retry.task.taskID
        redispatching := some (.failed retry) }
  | failureSends {retry} (held : c.redispatching = some (.failed retry)) (room : c.hasRoom = true) :
      Step c .failureSends
        { c with redispatching := none, resultChan := c.resultChan ++ [retry.failure] }
  | awaits (phase : c.phase = .prepared) : Step c .awaits { c with phase := .collecting }
  | monitorPolls (running : c.done = false) :
      Step c .monitorPolls { c with done := c.pending.isEmpty }
  | receives {result rest} (channel : c.resultChan = result :: rest)
      (phase : c.phase = .collecting ∨ c.phase = .draining) :
      Step c .receives { c with resultChan := rest, results := c.results ++ [result] }
  | seesDone (phase : c.phase = .collecting) (closed : c.done = true) :
      Step c .seesDone { c with phase := .draining }
  | finishes (channel : c.resultChan = []) (phase : c.phase = .draining) :
      Step c .finishes { c with phase := .leaving true }
  | ctxDone : Step c .ctxDone { c with ctxDone := true }
  | givesUp (phase : c.phase = .collecting ∨ c.phase = .prepared) :
      Step c .givesUp { c with phase := .leaving false }
  | releases {complete} (phase : c.phase = .leaving complete) (idle : c.redispatching = none) :
      Step c .releases { c with released := true, phase := .returned complete }

variable {c d : Collection Result Origin}

theorem taskMap_taskID {request : CollectRequest} {taskID : Text} {task : Task}
    (found : request.taskMap taskID = some task) : task.taskID = taskID := by
  have matched := List.find?_some found
  exact of_decide_eq_true matched

theorem handler_cases {message : Message Result Origin} (handled : c.handler message = some d) :
    Step c (.deliver message) d := by
  unfold handler at handled
  split_ifs at handled with unnamed pending
  · cases handled
    exact .ignored
  swap
  · cases handled
    exact .ignored
  have answers : ∀ (counts : Text → Nat) (outcome : Except TaskFailure (Option Result)),
      { c with retryCounts := counts }.answer message outcome = some d →
        Step c (.deliver message) d := by
    intro counts outcome answered
    unfold answer at answered
    split_ifs at answered with room
    cases answered
    exact .answers pending room
  cases decoded : message.decode with
  | ok result =>
    rw [decoded] at handled
    exact answers c.retryCounts _ handled
  | error cause =>
    simp only [decoded, handleError] at handled
    split_ifs at handled
    · cases found : c.request.taskMap message.taskID with
      | none =>
        rw [found] at handled
        exact answers _ _ handled
      | some task =>
        simp only [found, Option.some.injEq] at handled
        subst handled
        exact .schedules pending (taskMap_taskID found)
    · exact answers c.retryCounts _ handled
    · exact answers c.retryCounts _ handled

theorem step_cases {event : CollectionEvent Result Origin} (taken : c.step event = some d) :
    Step c event d := by
  cases event with
  | deliver message => exact handler_cases taken
  | timerFires index =>
    simp only [step, timerFires] at taken
    split at taken
    · rename_i retry due idle
      split_ifs at taken with closed
      cases taken
      exact .timerFires due idle (Bool.eq_false_iff.mpr closed)
    · cases taken
  | retryExits index =>
    simp only [step, retryExits] at taken
    split_ifs at taken
    cases taken
    exact .retryExits
  | redispatched =>
    simp only [step, redispatched] at taken
    split at taken <;> cases taken
    exact .redispatched (by assumption)
  | redispatchFails =>
    simp only [step, redispatchFails] at taken
    split at taken <;> cases taken
    exact .redispatchFails (by assumption)
  | failureSends =>
    simp only [step, failureSends] at taken
    split at taken
    · split_ifs at taken with room
      cases taken
      exact .failureSends (by assumption) room
    · cases taken
  | awaits =>
    simp only [step, awaits] at taken
    split_ifs at taken with phase
    cases taken
    exact .awaits phase
  | monitorPolls =>
    simp only [step, monitorPolls] at taken
    split_ifs at taken with idle
    cases taken
    exact .monitorPolls (Bool.eq_false_iff.mpr fun closed => idle (.inr closed))
  | receives =>
    simp only [step, receives] at taken
    split at taken
    · split_ifs at taken with phase
      cases taken
      exact .receives (by assumption) phase
    · cases taken
  | seesDone =>
    simp only [step, seesDone] at taken
    split_ifs at taken with guard
    cases taken
    exact .seesDone guard.1 guard.2
  | finishes =>
    simp only [step, finishes] at taken
    split at taken
    · split_ifs at taken with phase
      cases taken
      exact .finishes (by assumption) phase
    · cases taken
  | ctxDone =>
    cases taken
    exact .ctxDone
  | givesUp =>
    simp only [step, givesUp] at taken
    split_ifs at taken with phase
    cases taken
    exact .givesUp phase
  | releases =>
    simp only [step, releases] at taken
    split at taken <;> cases taken
    exact .releases (by assumption) (by assumption)

end Collection

end CrossCodex.Analysis
