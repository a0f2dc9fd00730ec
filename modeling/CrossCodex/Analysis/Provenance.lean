/-
The collections of one job and stage over one message bus (internal/analysis/engine.go,
dispatcher.go, cache.go putResults; internal/worker/handler.go), and where their results come
from. They share one result subject, and the collector matches by task ID only: every
TaskResult answers a message that a worker made of a published task, which may be another
collection's.
-/

import CrossCodex.Analysis.Collector

namespace CrossCodex.Analysis

open Library
open Analyzer (Text Task)

/-- A message on the work subject, with the headers the workers read. -/
structure TaskMessage where
  task : Task
  retryCount : Nat
  collectionID : Nat
deriving DecidableEq

/-- A collection of a live process and the results its subscription still holds. -/
structure Member (Result : Type) where
  collection : Collection Result TaskMessage
  inbox : List (Message Result TaskMessage)

structure Bus (Result : Type) where
  /-- What putResults checks of a payload for a task: that the task is cacheable, the
  model and the deployment are the observed ones, and CacheableResult accepts it. -/
  cacheable : Text → Result → Bool
  nextCollectionID : Nat
  members : Nat → Option (Member Result)
  published : List TaskMessage
  working : List TaskMessage
  abandons : List Nat
  abandoned : Nat → List Nat
  /-- The results putResults stored, each with the collection it was stored for. -/
  cache : List (Nat × TaskResult Result TaskMessage)

inductive BusEvent (Result : Type) where
  | prepares (request : CollectRequest)
  | dispatches (id index : Nat)
  | acts (id : Nat) (event : CollectionEvent Result TaskMessage)
  | delivers (id index : Nat)
  | abandons (id : Nat)
  | crashes (id : Nat)
  | begins (worker index : Nat)
  | answers (index : Nat) (outcome : Except Text (Option Result))
  | loses (index : Nat)
  | learns (worker id : Nat)
  | forgets (worker id : Nat)
  | puts (id index : Nat)

variable {Result : Type}

/-- publishResult and publishErrorResult: the task ID is all that names the task. -/
def TaskMessage.result (message : TaskMessage) :
    Except Text (Option Result) → Message Result TaskMessage
  | .ok none =>
    { taskID := message.task.taskID, error := [], body := .empty, origin := message }
  | .ok (some result) =>
    { taskID := message.task.taskID, error := [], body := .struct result, origin := message }
  | .error category =>
    { taskID := message.task.taskID, error := category, body := .empty, origin := message }

/-- The subscription lasts from PrepareCollect to release. -/
def Member.receive (message : Message Result TaskMessage) (member : Member Result) :
    Member Result :=
  if member.collection.released then member
  else { member with inbox := member.inbox ++ [message] }

def CollectionEvent.isDelivery : CollectionEvent Result TaskMessage → Bool
  | .deliver _ => true
  | _ => false

def Collection.republishes (c : Collection Result TaskMessage) (id : Nat) :
    CollectionEvent Result TaskMessage → List TaskMessage
  | .redispatched =>
    match c.redispatching with
    | some (.publishing retry) =>
      [{ task := retry.task, retryCount := retry.retry + 1, collectionID := id }]
    | _ => []
  | _ => []

namespace Bus

variable (b : Bus Result)

def prepares (request : CollectRequest) : Bus Result :=
  { b with
    nextCollectionID := b.nextCollectionID + 1
    members := Function.update b.members b.nextCollectionID
      (some { collection := .prepareCollect request, inbox := [] }) }

/-- One publish of Dispatch, between PrepareCollect and AwaitResults. -/
def dispatches (id index : Nat) : Option (Bus Result) :=
  match b.members id with
  | none => none
  | some member =>
    match member.collection.request.tasks[index]? with
    | none => none
    | some task =>
      if member.collection.phase = .prepared then
        some { b with
          published := b.published ++ [{ task, retryCount := 0, collectionID := id }] }
      else none

def acts (id : Nat) (event : CollectionEvent Result TaskMessage) : Option (Bus Result) :=
  match b.members id with
  | none => none
  | some member =>
    if event.isDelivery then none
    else
      match member.collection.step event with
      | none => none
      | some next =>
        some { b with
          members := Function.update b.members id (some { member with collection := next })
          published := b.published ++ member.collection.republishes id event }

def delivers (id index : Nat) : Option (Bus Result) :=
  match b.members id with
  | none => none
  | some member =>
    match member.inbox[index]? with
    | none => none
    | some message =>
      match member.collection.handler message with
      | none => none
      | some next =>
        some { b with
          members := Function.update b.members id
            (some { collection := next, inbox := member.inbox.eraseIdx index }) }

/-- A collection that ended without every result publishes its abandon. -/
def abandonsCollection (id : Nat) : Option (Bus Result) :=
  match b.members id with
  | none => none
  | some member =>
    if member.collection.phase = .returned false then
      some { b with abandons := id :: b.abandons }
    else none

def crashes (id : Nat) : Bus Result :=
  { b with members := Function.update b.members id none }

/-- A worker takes a task message; dropAbandoned runs before anything else. -/
def begins (worker index : Nat) : Option (Bus Result) :=
  match b.published[index]? with
  | none => none
  | some message =>
    if message.collectionID ∈ b.abandoned worker then some b
    else some { b with working := b.working ++ [message] }

def publishes (index : Nat) (result : Message Result TaskMessage) : Bus Result :=
  { b with
    working := b.working.eraseIdx index
    members := fun id => (b.members id).map (Member.receive result) }

def answers (index : Nat) (outcome : Except Text (Option Result)) : Option (Bus Result) :=
  match b.working[index]? with
  | none => none
  | some message => some (b.publishes index (message.result outcome))

def loses (index : Nat) : Bus Result :=
  { b with working := b.working.eraseIdx index }

def learns (worker id : Nat) : Option (Bus Result) :=
  if id ∈ b.abandons then
    some { b with
      abandoned := Function.update b.abandoned worker (id :: b.abandoned worker) }
  else none

def forgets (worker id : Nat) : Bus Result :=
  { b with abandoned := Function.update b.abandoned worker ((b.abandoned worker).erase id) }

/-- One Put of putResults. Results of a failed collection are stored too, unless the
context was cancelled. -/
def puts (id index : Nat) : Option (Bus Result) :=
  match b.members id with
  | none => none
  | some member =>
    match member.collection.results[index]? with
    | none => none
    | some result =>
      match result.outcome with
      | .ok (some payload) =>
        if b.cacheable result.taskID payload = true ∧
            (member.collection.phase = .returned true ∨
              member.collection.phase = .returned false ∧
                member.collection.ctxDone = false) then
          some { b with cache := b.cache ++ [(id, result)] }
        else none
      | _ => none

def step : BusEvent Result → Option (Bus Result)
  | .prepares request => some (b.prepares request)
  | .dispatches id index => b.dispatches id index
  | .acts id event => b.acts id event
  | .delivers id index => b.delivers id index
  | .abandons id => b.abandonsCollection id
  | .crashes id => some (b.crashes id)
  | .begins worker index => b.begins worker index
  | .answers index outcome => b.answers index outcome
  | .loses index => some (b.loses index)
  | .learns worker id => b.learns worker id
  | .forgets worker id => some (b.forgets worker id)
  | .puts id index => b.puts id index

def quiet (cacheable : Text → Result → Bool) : Bus Result :=
  { cacheable
    nextCollectionID := 0
    members := fun _ => none
    published := []
    working := []
    abandons := []
    abandoned := fun _ => []
    cache := [] }

inductive Step : BusEvent Result → Bus Result → Prop
  | prepares {request} : Step (.prepares request) (b.prepares request)
  | dispatches {id index message} :
      Step (.dispatches id index) { b with published := b.published ++ [message] }
  | acts {id event mem next} (present : b.members id = some mem)
      (internal : ¬event.isDelivery = true) (stepped : mem.collection.step event = some next) :
      Step (.acts id event) { b with
        members := Function.update b.members id (some { mem with collection := next })
        published := b.published ++ mem.collection.republishes id event }
  | delivers {id index mem message next} (present : b.members id = some mem)
      (waiting : mem.inbox[index]? = some message)
      (handled : mem.collection.handler message = some next) :
      Step (.delivers id index) { b with
        members := Function.update b.members id
          (some { collection := next, inbox := mem.inbox.eraseIdx index }) }
  | abandons {id} : Step (.abandons id) { b with abandons := id :: b.abandons }
  | crashes {id} : Step (.crashes id) (b.crashes id)
  | drops {worker index} : Step (.begins worker index) b
  | begins {worker index message} (found : b.published[index]? = some message) :
      Step (.begins worker index) { b with working := b.working ++ [message] }
  | answers {index outcome message} (found : b.working[index]? = some message) :
      Step (.answers index outcome) (b.publishes index (message.result outcome))
  | loses {index} : Step (.loses index) (b.loses index)
  | learns {worker id} : Step (.learns worker id) { b with
      abandoned := Function.update b.abandoned worker (id :: b.abandoned worker) }
  | forgets {worker id} : Step (.forgets worker id) (b.forgets worker id)
  | puts {id index mem result} (present : b.members id = some mem)
      (found : mem.collection.results[index]? = some result) :
      Step (.puts id index) { b with cache := b.cache ++ [(id, result)] }

variable {b d : Bus Result}

theorem step_cases {event : BusEvent Result} (taken : b.step event = some d) : b.Step event d := by
  cases event <;> simp only [step, dispatches, acts, delivers, abandonsCollection, begins, answers,
    learns, puts] at taken
  all_goals repeat' split at taken
  all_goals cases taken
  all_goals constructor <;> assumption

end Bus

open List Function Option

section OneCollection

variable {Origin : Type}

def Redispatch.retry : Redispatch Result Origin → Retry Result Origin
  | .publishing retry => retry
  | .failed retry => retry

namespace Collection

def retries (c : Collection Result Origin) : List (Retry Result Origin) :=
  c.scheduled ++ (c.redispatching.map Redispatch.retry).toList

def answered (c : Collection Result Origin) : List (Message Result Origin) :=
  (c.results ++ c.resultChan).map TaskResult.answers ++ c.retries.map Retry.answers

variable {c : Collection Result Origin} {d : Collection Result Origin}

theorem answers_mem_answered {result : TaskResult Result Origin} (returned : result ∈ c.results) :
    result.answers ∈ c.answered := by
  exact mem_append_left _ (mem_map_of_mem (mem_append_left _ returned))

theorem answered_subset (results : d.results ++ d.resultChan ⊆ c.results ++ c.resultChan)
    (retries : d.retries ⊆ c.retries) : d.answered ⊆ c.answered := by
  apply append_subset.mpr
  constructor
  · exact List.Subset.trans (map_subset _ results) (subset_append_left _ _)
  · exact List.Subset.trans (map_subset _ retries) (subset_append_right _ _)

variable {event : CollectionEvent Result Origin}

theorem step_answered (taken : c.step event = some d) {message : Message Result Origin}
    (mem : message ∈ d.answered) :
    message ∈ c.answered ∨ event = .deliver message ∧ message.taskID ∈ c.pending := by
  have others : ∀ index, c.scheduled.eraseIdx index ⊆ c.scheduled := fun _ => eraseIdx_subset
  cases step_cases taken with
  | @schedules arrived _ _ pending _ | @answers arrived _ _ pending _ =>
    have found : message ∈ c.answered ∨ message = arrived := by
      simp only [answered, retries, map_append, map_cons, map_nil, mem_append, mem_singleton]
        at mem ⊢
      tauto
    rcases found with earlier | rfl
    · exact .inl earlier
    · exact .inr ⟨rfl, pending⟩
  | @timerFires index retry due idle =>
    have chosen : retry ∈ c.scheduled := mem_of_getElem? due
    refine .inl (answered_subset ?_ ?_ mem)
    · exact List.Subset.refl _
    · simpa [retries, idle, Redispatch.retry] using And.intro (others index) chosen
  | retryExits =>
    refine .inl (answered_subset ?_ ?_ mem)
    · exact List.Subset.refl _
    · exact append_subset.mpr ⟨List.Subset.trans (others _) (subset_append_left _ _),
        subset_append_right _ _⟩
  | redispatched =>
    refine .inl (answered_subset ?_ ?_ mem)
    · exact List.Subset.refl _
    · simp [retries]
  | redispatchFails held =>
    refine .inl (answered_subset ?_ ?_ mem)
    · exact List.Subset.refl _
    · simp [retries, held, Redispatch.retry]
  | failureSends held =>
    left
    simp only [answered, retries, held, Redispatch.retry, map_some, map_none, toList_some,
      toList_none, append_nil, map_append, map_cons, map_nil, mem_append, mem_singleton] at mem ⊢
    tauto
  | receives channel =>
    refine .inl (answered_subset ?_ ?_ mem)
    · simp [channel]
    · exact List.Subset.refl _
  | ignored | awaits | monitorPolls | seesDone | finishes | ctxDone | givesUp | releases =>
    exact .inl mem

theorem step_pending (taken : c.step event = some d) : d.pending ⊆ c.pending := by
  cases step_cases taken with
  | answers | redispatchFails => exact erase_subset
  | _ => exact List.Subset.refl _

end Collection

end OneCollection

section ManyCollections

variable {b d : Bus Result} {mem : Member Result} {id : Nat}

@[simp] theorem TaskMessage.result_origin (message : TaskMessage)
    (outcome : Except Text (Option Result)) : (message.result outcome).origin = message := by
  rcases outcome with category | _ | payload <;> rfl

@[simp] theorem TaskMessage.result_taskID (message : TaskMessage)
    (outcome : Except Text (Option Result)) :
    (message.result outcome).taskID = message.task.taskID := by
  rcases outcome with category | _ | payload <;> rfl

/-- Everything a collection has answered, and whatever it may still accept, was
produced from a task message published with its own ID. -/
structure Member.Attributed (published : List TaskMessage) (id : Nat) (member : Member Result) :
    Prop where
  answered : ∀ message ∈ member.collection.answered,
    message.origin ∈ published ∧ message.origin.collectionID = id
  waiting : ∀ message ∈ member.inbox, message.origin ∈ published ∧
    (message.taskID ∈ member.collection.pending → message.origin.collectionID = id)

theorem Member.Attributed.mono {published more : List TaskMessage}
    (before : mem.Attributed published id) (grown : published ⊆ more) : mem.Attributed more id where
  answered message present :=
    ⟨grown (before.answered message present).1, (before.answered message present).2⟩
  waiting message present :=
    ⟨grown (before.waiting message present).1, (before.waiting message present).2⟩

namespace Bus

/-- When a worker publishes a result, no other collection that is still subscribed has
the task pending. -/
def AnswersAlone (b : Bus Result) : BusEvent Result → Prop
  | .answers index _ =>
    ∀ message ∈ b.working[index]?, ∀ id < b.nextCollectionID, ∀ member ∈ b.members id,
      member.collection.released = false →
        message.task.taskID ∈ member.collection.pending → message.collectionID = id
  | _ => True

instance decidableAnswersAlone (b : Bus Result) (event : BusEvent Result) :
    Decidable (b.AnswersAlone event) := by
  cases event <;> unfold AnswersAlone <;> infer_instance

structure Attributed (b : Bus Result) : Prop where
  fresh : ∀ id member, b.members id = some member → id < b.nextCollectionID
  members : ∀ id member, b.members id = some member → member.Attributed b.published id
  working : b.working ⊆ b.published
  cached : ∀ entry ∈ b.cache, entry.2.answers.origin ∈ b.published ∧
    entry.2.answers.origin.collectionID = entry.1

theorem quiet_attributed (cacheable : Text → Result → Bool) : (quiet cacheable).Attributed where
  fresh _ _ present := by cases present
  members _ _ present := by cases present
  working := List.Subset.refl _
  cached _ present := by cases present

theorem Attributed.publish (before : b.Attributed) (messages : List TaskMessage) :
    { b with published := b.published ++ messages }.Attributed where
  fresh := before.fresh
  members id mem present :=
    (before.members id mem present).mono (subset_append_left _ _)
  working := List.Subset.trans before.working (subset_append_left _ _)
  cached entry present :=
    ⟨mem_append_left _ (before.cached entry present).1, (before.cached entry present).2⟩

theorem members_update_cases {members : Nat → Option (Member Result)} {other : Nat}
    {entry : Option (Member Result)} (found : update members id entry other = some mem) :
    other = id ∧ entry = some mem ∨ members other = some mem := by
  by_cases same : other = id
  · subst other
    rw [update_self] at found
    exact .inl ⟨rfl, found⟩
  · rw [update_of_ne same] at found
    exact .inr found

section

variable (before : b.Attributed) {next : Collection Result TaskMessage} {index : Nat}
include before

theorem Attributed.update (known : id < b.nextCollectionID) (own : mem.Attributed b.published id) :
    { b with members := update b.members id (some mem) }.Attributed where
  fresh other present found := by
    rcases members_update_cases found with ⟨rfl, _⟩ | found
    · exact known
    · exact before.fresh other present found
  members other present found := by
    rcases members_update_cases found with ⟨rfl, same⟩ | found
    · exact some.inj same ▸ own
    · exact before.members other present found
  working := before.working
  cached := before.cached

theorem Attributed.prepares (request : CollectRequest) : (b.prepares request).Attributed := by
  have known : { b with nextCollectionID := b.nextCollectionID + 1 }.Attributed :=
    { before with
      fresh := fun id mem present => Nat.lt_succ_of_lt (before.fresh id mem present) }
  refine known.update (Nat.lt_succ_self b.nextCollectionID) ⟨?_, ?_⟩
  · intro message present
    cases present
  · intro message present
    cases present

theorem Attributed.crashes (id : Nat) : (b.crashes id).Attributed where
  fresh other present found := by
    rcases members_update_cases found with ⟨_, gone⟩ | found
    · cases gone
    · exact before.fresh other present found
  members other present found := by
    rcases members_update_cases found with ⟨_, gone⟩ | found
    · cases gone
    · exact before.members other present found
  working := before.working
  cached := before.cached

theorem Attributed.acts {event : CollectionEvent Result TaskMessage}
    (present : b.members id = some mem) (internal : ¬event.isDelivery = true)
    (stepped : mem.collection.step event = some next) :
    { b with
      members := Function.update b.members id (some { mem with collection := next })
      published := b.published ++ mem.collection.republishes id event }.Attributed := by
  have published := before.publish (mem.collection.republishes id event)
  have own := published.members id mem present
  refine published.update (before.fresh id mem present) ⟨?_, ?_⟩
  · intro message answered
    rcases Collection.step_answered stepped answered with earlier | ⟨rfl, _⟩
    · exact own.answered message earlier
    · exact absurd rfl internal
  · intro message waiting
    refine ⟨(own.waiting message waiting).1, fun pending => ?_⟩
    exact (own.waiting message waiting).2 (Collection.step_pending stepped pending)

theorem Attributed.delivers {message : Message Result TaskMessage}
    (present : b.members id = some mem) (found : mem.inbox[index]? = some message)
    (stepped : mem.collection.step (.deliver message) = some next) :
    { b with
      members := Function.update b.members id
        (some { collection := next, inbox := mem.inbox.eraseIdx index }) }.Attributed := by
  have own := before.members id mem present
  have arrived := own.waiting message (mem_of_getElem? found)
  refine before.update (before.fresh id mem present) ⟨?_, ?_⟩
  · intro other answered
    rcases Collection.step_answered stepped answered with earlier | ⟨same, pending⟩
    · exact own.answered other earlier
    · cases same
      exact ⟨arrived.1, arrived.2 pending⟩
  · intro other waiting
    have kept := own.waiting other (mem_of_mem_eraseIdx waiting)
    exact ⟨kept.1, fun pending => kept.2 (Collection.step_pending stepped pending)⟩

/-- The published result waits in every open inbox. Where the task is pending, the
condition says that it is the collection's own. -/
theorem Attributed.answers {outcome : Except Text (Option Result)} {message : TaskMessage}
    (alone : b.AnswersAlone (.answers index outcome)) (found : b.working[index]? = some message) :
    (b.publishes index (message.result outcome)).Attributed := by
  have published : message ∈ b.published := before.working (mem_of_getElem? found)
  refine ⟨?_, ?_, ?_, before.cached⟩
  · intro id mem present
    obtain ⟨earlier, known, _⟩ := map_eq_some_iff.mp present
    exact before.fresh id earlier known
  · intro id mem present
    obtain ⟨earlier, known, rfl⟩ := map_eq_some_iff.mp present
    have own := before.members id earlier known
    unfold Member.receive
    split
    · exact own
    · rename_i subscribed
      refine ⟨own.answered, ?_⟩
      refine forall_mem_concat own.waiting ?_
      rw [TaskMessage.result_origin, TaskMessage.result_taskID]
      exact ⟨published, alone message found id (before.fresh id earlier known) earlier known
        (Bool.eq_false_iff.mpr subscribed)⟩
  · exact List.Subset.trans eraseIdx_subset before.working

theorem Attributed.step {event : BusEvent Result} (alone : b.AnswersAlone event)
    (taken : b.step event = some d) : d.Attributed := by
  cases step_cases taken with
  | prepares => exact before.prepares _
  | dispatches => exact before.publish _
  | acts present internal stepped => exact before.acts present internal stepped
  | delivers present waiting handled => exact before.delivers present waiting handled
  | crashes => exact before.crashes _
  | drops => exact before
  | begins found =>
    refine { before with working := ?_ }
    exact append_subset.mpr ⟨before.working, by simpa using mem_of_getElem? found⟩
  | answers found => exact before.answers alone found
  | loses => exact { before with working := List.Subset.trans eraseIdx_subset before.working }
  | abandons | learns | forgets => exact { before with }
  | puts present found =>
    refine { before with cached := forall_mem_concat before.cached ?_ }
    exact (before.members _ _ present).answered _
      (Collection.answers_mem_answered (mem_of_getElem? found))

end

/-- Along every run in which workers answer alone: each TaskResult of a collection and
each result putResults stored for it was produced by a worker processing a task message
published with that collection's ID. -/
theorem results_own_collection (cacheable : Text → Result → Bool)
    (events : List (BusEvent Result)) (final : Bus Result)
    (alone : Along step AnswersAlone (quiet cacheable) events)
    (ran : run step (quiet cacheable) events = some final) :
    (∀ id member, final.members id = some member → ∀ result ∈ member.collection.results,
      result.answers.origin ∈ final.published ∧
        result.answers.origin.collectionID = id) ∧
    ∀ entry ∈ final.cache, entry.2.answers.origin ∈ final.published ∧
      entry.2.answers.origin.collectionID = entry.1 := by
  have attributed : final.Attributed := run_invariant_along
    (fun _state _event _next before holds taken => Attributed.step before holds taken)
    (quiet_attributed cacheable) alone ran
  refine ⟨?_, attributed.cached⟩
  intro id member present result returned
  exact (attributed.members id member present).answered result.answers
    (Collection.answers_mem_answered returned)

def askModel (model : Text) : CollectRequest :=
  { taskType := "artifacts".toList
    expectedIDs := ["t".toList]
    tasks :=
      [{ taskID := "t".toList, taskType := "artifacts".toList,
         payload := .struct [("model", .string model)], preBuiltResult := false }]
    maxRetries := 0 }

/-- AwaitResults of a collection that has been delivered its only result, and the Put. -/
def returnsAndPuts (id : Nat) : List (BusEvent Nat) :=
  [.acts id .awaits, .acts id .receives, .acts id .monitorPolls, .acts id .seesDone,
    .acts id .finishes, .acts id .releases, .puts id 0]

/-- The first collection crashes before its task is taken up; the redelivered task is
answered after the second collection has its own answer. -/
def crashThenOwnAnswer : List (BusEvent Nat) :=
  [.prepares (askModel "a".toList), .dispatches 0 0, .crashes 0,
    .prepares (askModel "b".toList), .dispatches 1 0, .begins 0 1, .answers 0 (.ok (some 2)),
    .delivers 1 0, .begins 1 0, .answers 0 (.ok (some 1)), .delivers 1 0] ++ returnsAndPuts 1

theorem results_own_collection_after_crash :
    ∃ final, run step (quiet fun _ _ => true) crashThenOwnAnswer = some final ∧
      ∀ entry ∈ final.cache, entry.2.answers.origin.collectionID = entry.1 :=
  ⟨_, rfl, fun entry stored =>
    ((results_own_collection (fun _ _ => true) crashThenOwnAnswer _ (by decide) rfl).2
      entry stored).2⟩

/-- A worker answers the task of a crashed collection after the next one subscribed:
that collection returns the answer and stores it for its own task. -/
theorem late_result_accepted :
    (run step (quiet fun _ _ => true)
      ([.prepares (askModel "a".toList), .dispatches 0 0, .begins 0 0, .crashes 0,
        .prepares (askModel "b".toList), .dispatches 1 0, .answers 0 (.ok (some 1)),
        .delivers 1 0] ++ returnsAndPuts 1)).map
      (fun final =>
        ((final.members 1).map fun member => (member.collection.phase,
          member.collection.results.map fun result => result.answers.origin.collectionID),
        final.cache.map fun entry => (entry.1, entry.2.answers.origin.collectionID))) =
      some (some (.returned true, [0]), [(1, 0)]) := by
  decide

end Bus

end ManyCollections

end CrossCodex.Analysis
