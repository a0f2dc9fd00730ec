/-
The abandon message of a collection (internal/analysis/types.go: release and abandon;
engine.go). A stage that ends releases its handle, which waits for a retry whose Redispatch
failed until that failure's result is sent; nobody receives any more, so the send must find
a slot.
-/

import CrossCodex.Analysis.ExactlyOnce

namespace CrossCodex.Analysis

open Library
open Analyzer (Text Task)
open List Option

variable {Result Origin : Type}

inductive Publication where
  | task (taskID : Text) (retryCount : Nat)
  | abandon (delivered : Bool)
deriving DecidableEq

def Publication.isTask : Publication → Bool
  | .task _ _ => true
  | .abandon _ => false

structure TaskStage (Result Origin : Type) where
  collection : Collection Result Origin
  undispatched : List Task
  log : List Publication
  abandoned : Bool
  /-- The stage has its results (`true`) or the error of Dispatch or AwaitResults. -/
  finished : Option Bool

inductive TaskStageEvent (Result Origin : Type) where
  | dispatches (succeeds : Bool)
  | acts (event : CollectionEvent Result Origin)
  | abandons (delivered : Bool)
  | returns

def Collection.redispatches (c : Collection Result Origin) :
    CollectionEvent Result Origin → List Publication
  | .redispatched =>
    c.publishing.toList.map fun retry => .task retry.task.taskID (retry.retry + 1)
  | _ => []

namespace TaskStage

def prepare (request : CollectRequest) : TaskStage Result Origin :=
  { collection := .prepareCollect request
    undispatched := request.tasks
    log := []
    abandoned := false
    finished := none }

variable (s : TaskStage Result Origin)

/-- AwaitResults starts after Dispatch, and only Dispatch can fail before it. -/
def admits : CollectionEvent Result Origin → Bool
  | .awaits => s.undispatched.isEmpty
  | .givesUp => s.collection.phase = .collecting
  | _ => true

def dispatches (succeeds : Bool) : Option (TaskStage Result Origin) :=
  match s.undispatched with
  | [] => none
  | task :: rest =>
    if s.collection.phase = .prepared then
      if succeeds then
        some { s with undispatched := rest, log := s.log ++ [.task task.taskID 0] }
      else s.collection.givesUp.map fun next => { s with collection := next }
    else none

def acts (event : CollectionEvent Result Origin) : Option (TaskStage Result Origin) :=
  if s.admits event then
    (s.collection.step event).map fun next =>
      { s with collection := next, log := s.log ++ s.collection.redispatches event }
  else none

def abandons (delivered : Bool) : Option (TaskStage Result Origin) :=
  if s.collection.phase = .returned false ∧ s.abandoned = false then
    some { s with abandoned := true, log := s.log ++ [.abandon delivered] }
  else none

def returns : Option (TaskStage Result Origin) :=
  match s.collection.phase with
  | .returned complete =>
    if s.finished = none ∧ (complete || s.abandoned) = true then
      some { s with finished := some complete }
    else none
  | _ => none

def step : TaskStageEvent Result Origin → Option (TaskStage Result Origin)
  | .dispatches succeeds => s.dispatches succeeds
  | .acts event => s.acts event
  | .abandons delivered => s.abandons delivered
  | .returns => s.returns

inductive Step : TaskStageEvent Result Origin → TaskStage Result Origin → Prop
  | dispatches {task : Task} {rest} (phase : s.collection.phase = .prepared) : Step (.dispatches true)
      { s with undispatched := rest, log := s.log ++ [.task task.taskID 0] }
  | dispatchFails (phase : s.collection.phase = .prepared) : Step (.dispatches false)
      { s with collection := { s.collection with phase := .leaving false } }
  | acts {event next} (stepped : s.collection.step event = some next) : Step (.acts event)
      { s with collection := next, log := s.log ++ s.collection.redispatches event }
  | abandons {delivered} (phase : s.collection.phase = .returned false)
      (unabandoned : s.abandoned = false) : Step (.abandons delivered)
      { s with abandoned := true, log := s.log ++ [.abandon delivered] }
  | returns {complete} (phase : s.collection.phase = .returned complete)
      (owed : (complete || s.abandoned) = true) : Step .returns
      { s with finished := some complete }

variable {s t : TaskStage Result Origin}

theorem step_cases {event : TaskStageEvent Result Origin} (taken : s.step event = some t) :
    s.Step event t := by
  cases event with
  | dispatches succeeds =>
    change s.dispatches succeeds = some t at taken
    unfold dispatches at taken
    split at taken
    · cases taken
    split at taken
    · rename_i phase
      cases succeeds with
      | true =>
        cases taken
        exact .dispatches phase
      | false =>
        obtain ⟨next, left, rfl⟩ := map_eq_some_iff.mp taken
        cases (Collection.step_cases left : s.collection.Step .givesUp next)
        exact .dispatchFails phase
    · cases taken
  | acts event =>
    change s.acts event = some t at taken
    unfold acts at taken
    split at taken
    · obtain ⟨next, stepped, rfl⟩ := map_eq_some_iff.mp taken
      exact .acts stepped
    · cases taken
  | abandons delivered | returns =>
    simp only [step, abandons, returns] at taken
    repeat' split at taken
    all_goals cases taken
    rename_i guard
    constructor <;> simp_all

end TaskStage

namespace Collection

variable {c d : Collection Result Origin}

/-- Between release and the end nothing holds redispatchMu. -/
structure Quiet (c : Collection Result Origin) : Prop where
  released : ∀ complete, c.phase = .returned complete → c.released = true
  idle : c.released = true → c.redispatching = none
  returned : c.released = true → ∃ complete, c.phase = .returned complete

theorem prepareCollect_quiet (request : CollectRequest) :
    (prepareCollect request : Collection Result Origin).Quiet where
  released complete phase := by cases phase
  idle released := by cases released
  returned released := by cases released

section

variable (quiet : c.Quiet) {holder : Redispatch Result Origin}
include quiet

theorem Quiet.frame (phase : d.phase = c.phase) (released : d.released = c.released)
    (holder : d.redispatching = c.redispatching) : d.Quiet := by
  constructor
  · rw [phase, released]
    exact quiet.released
  · rw [released, holder]
    exact quiet.idle
  · rw [phase, released]
    exact quiet.returned

theorem Quiet.moves {phase : AwaitPhase} (running : ∀ complete, c.phase ≠ .returned complete)
    (ahead : ∀ complete, phase ≠ .returned complete) :
    ({ c with phase } : Collection _ _).Quiet := by
  have unreleased : c.released ≠ true := by
    intro closed
    obtain ⟨complete, returned⟩ := quiet.returned closed
    exact running complete returned
  constructor
  · intro complete returned
    exact absurd returned (ahead complete)
  · exact quiet.idle
  · intro closed
    exact absurd closed unreleased

theorem Quiet.not_released_of_holder (held : c.redispatching = some holder) :
    c.released = false := by
  by_contra closed
  have idle := quiet.idle (eq_true_of_ne_false closed)
  rw [held] at idle
  cases idle

theorem Quiet.held (held : c.redispatching = some holder) (phase : d.phase = c.phase)
    (released : d.released = c.released) : d.Quiet := by
  have unreleased := quiet.not_released_of_holder held
  constructor
  · intro complete same
    rw [released]
    exact quiet.released complete (phase ▸ same)
  · intro closed
    rw [released, unreleased] at closed
    cases closed
  · intro closed
    rw [released, unreleased] at closed
    cases closed

theorem Quiet.step {event : CollectionEvent Result Origin} (taken : c.step event = some d) :
    d.Quiet ∧ ∀ complete, c.phase = .returned complete → d.phase = .returned complete := by
  cases step_cases taken with
  | ignored => exact ⟨quiet, fun _ same => same⟩
  | schedules | answers | retryExits | monitorPolls | receives | ctxDone =>
    exact ⟨quiet.frame rfl rfl rfl, fun _ same => same⟩
  | timerFires _ _ unreleased =>
    constructor
    · constructor
      · exact quiet.released
      · intro closed
        cases unreleased.symm.trans closed
      · exact quiet.returned
    · exact fun _ same => same
  | redispatched held | redispatchFails held | failureSends held =>
    exact ⟨quiet.held held rfl rfl, fun _ same => same⟩
  | awaits phase | seesDone phase | finishes _ phase =>
    constructor
    · apply quiet.moves <;> simp [phase]
    · simp [phase]
  | givesUp phase =>
    constructor
    · apply quiet.moves
      · rcases phase with phase | phase <;> simp [phase]
      · simp
    · rcases phase with phase | phase <;> simp [phase]
  | @releases complete phase idle =>
    constructor
    · constructor
      · intro _ _
        rfl
      · intro _
        exact idle
      · intro _
        exact ⟨complete, rfl⟩
    · simp [phase]

theorem Quiet.redispatches_eq_nil {complete : Bool} (returned : c.phase = .returned complete)
    (event : CollectionEvent Result Origin) : c.redispatches event = [] := by
  have idle := quiet.idle (quiet.released complete returned)
  cases event with
  | redispatched => simp [redispatches, publishing, idle]
  | _ => rfl

end

theorem redispatches_isTask {event : CollectionEvent Result Origin} {entry : Publication}
    (mem : entry ∈ c.redispatches event) : entry.isTask = true := by
  cases event with
  | redispatched =>
    obtain ⟨retry, _, rfl⟩ := mem_map.mp mem
    rfl
  | _ => cases mem

end Collection

def LogShape (abandoned : Bool) (log : List Publication) : Prop :=
  if abandoned then
    ∃ tasks delivered, log = tasks ++ [.abandon delivered] ∧ ∀ entry ∈ tasks, entry.isTask = true
  else ∀ entry ∈ log, entry.isTask = true

theorem LogShape.append {log more : List Publication} (shape : LogShape false log)
    (tasks : ∀ entry ∈ more, entry.isTask = true) : LogShape false (log ++ more) := by
  intro entry mem
  rcases mem_append.mp mem with earlier | later
  · exact shape entry earlier
  · exact tasks entry later

namespace TaskStage

variable {s t : TaskStage Result Origin}

structure Protocol (s : TaskStage Result Origin) : Prop where
  quiet : s.collection.Quiet
  abandoned : s.abandoned = true → s.collection.phase = .returned false
  log : LogShape s.abandoned s.log
  finished : ∀ complete, s.finished = some complete →
    s.collection.phase = .returned complete ∧ (complete || s.abandoned) = true

theorem prepare_protocol (request : CollectRequest) :
    (prepare request : TaskStage Result Origin).Protocol where
  quiet := Collection.prepareCollect_quiet request
  abandoned given := by cases given
  log := by
    intro entry mem
    cases mem
  finished complete given := by cases given

variable (before : s.Protocol)
include before

theorem Protocol.not_abandoned (running : s.collection.phase ≠ .returned false) :
    s.abandoned = false := by
  by_contra given
  exact running (before.abandoned (eq_true_of_ne_false given))

theorem Protocol.not_finished (running : ∀ complete, s.collection.phase ≠ .returned complete) :
    s.finished = none := by
  cases finished : s.finished with
  | none => rfl
  | some complete => exact absurd (before.finished complete finished).1 (running complete)

theorem Protocol.acts {event : CollectionEvent Result Origin} {next : Collection Result Origin}
    (stepped : s.collection.step event = some next) :
    { s with
      collection := next, log := s.log ++ s.collection.redispatches event }.Protocol := by
  obtain ⟨quiet, keeps⟩ := before.quiet.step stepped
  constructor
  · exact quiet
  · intro given
    exact keeps false (before.abandoned given)
  · cases given : s.abandoned with
    | false =>
      have shape := before.log
      rw [given] at shape
      exact shape.append fun _ mem => Collection.redispatches_isTask mem
    | true =>
      have silent := before.quiet.redispatches_eq_nil (before.abandoned given) event
      have shape := before.log
      rw [given] at shape
      simpa [silent] using shape
  · intro complete given
    obtain ⟨phase, owed⟩ := before.finished complete given
    exact ⟨keeps complete phase, owed⟩

theorem Protocol.step {event : TaskStageEvent Result Origin} (taken : s.step event = some t) :
    t.Protocol := by
  have shape := before.log
  cases step_cases taken with
  | dispatches phase =>
    have unabandoned := before.not_abandoned (by simp [phase])
    refine { before with log := ?_ }
    change LogShape s.abandoned _
    rw [unabandoned] at shape ⊢
    apply shape.append
    intro entry mem
    rw [mem_singleton.mp mem]
    rfl
  | dispatchFails phase =>
    have running : ∀ complete, s.collection.phase ≠ .returned complete := by simp [phase]
    constructor
    · apply before.quiet.moves running
      simp
    · intro given
      cases (before.not_abandoned (running false)).symm.trans given
    · exact shape
    · intro complete given
      cases (before.not_finished running).symm.trans given
  | acts stepped => exact before.acts stepped
  | @abandons delivered phase unabandoned =>
    rw [unabandoned] at shape
    constructor
    · exact before.quiet
    · intro _
      exact phase
    · exact ⟨s.log, delivered, rfl, shape⟩
    · intro complete given
      exact ⟨(before.finished complete given).1, by simp⟩
  | returns phase owed =>
    refine { before with finished := ?_ }
    intro other given
    cases given
    exact ⟨phase, owed⟩

theorem run_protocol {events : List (TaskStageEvent Result Origin)}
    (ran : run TaskStage.step s events = some t) : t.Protocol :=
  run_invariant (fun _state _event _next holds taken => Protocol.step holds taken) before ran

end TaskStage

namespace Collection

variable {c d : Collection Result Origin}

/-- A Redispatch that fails finds its task pending, or a slot that no pending task needs. -/
def LeavesRoom (c : Collection Result Origin) : CollectionEvent Result Origin → Prop
  | .redispatchFails =>
    ∀ retry ∈ c.publishing, retry.task.taskID ∈ c.pending ∨
      c.resultChan.length + c.pending.length < c.request.expectedIDs.length
  | _ => True

instance decidableLeavesRoom (c : Collection Result Origin)
    (event : CollectionEvent Result Origin) : Decidable (c.LeavesRoom event) := by
  apply event.casesOn (motive := fun event => Decidable (c.LeavesRoom event)) <;> intros <;>
    unfold LeavesRoom <;> infer_instance

/-- Every result that can still be sent has a slot. -/
def Roomy (c : Collection Result Origin) : Prop :=
  c.resultChan.length + c.unsent.length + c.pending.length ≤ c.request.expectedIDs.length

theorem prepareCollect_roomy (request : CollectRequest) :
    (prepareCollect request : Collection Result Origin).Roomy := by
  have fewer := (dedup_sublist request.expectedIDs).length_le
  simpa [Roomy, prepareCollect, unsent] using fewer

theorem Roomy.step {event : CollectionEvent Result Origin} (roomy : c.Roomy)
    (room : c.LeavesRoom event) (taken : c.step event = some d) : d.Roomy := by
  unfold Roomy at roomy ⊢
  cases step_cases taken with
  | answers mem =>
    have removed := length_erase_of_mem mem
    have positive := length_pos_of_mem mem
    simp only [unsent, length_append, length_cons, length_nil] at roomy ⊢
    omega
  | timerFires _ idle => simpa [unsent, idle] using roomy
  | redispatched held => simpa [unsent, held] using roomy
  | @redispatchFails retry held =>
    have publishing : c.publishing = some retry := by
      unfold Collection.publishing
      rw [held]
    have silent : c.unsent = [] := by
      unfold unsent
      rw [held]
    change c.resultChan.length + 1 + (c.pending.erase retry.task.taskID).length ≤
      c.request.expectedIDs.length
    rcases room retry publishing with mem | slot
    · have removed := length_erase_of_mem mem
      have positive := length_pos_of_mem mem
      omega
    · have fewer := length_erase_le (l := c.pending) (a := retry.task.taskID)
      omega
  | failureSends held =>
    simp only [unsent, held, length_append, length_cons, length_nil] at roomy ⊢
    omega
  | @receives _ rest channel =>
    rw [channel, length_cons] at roomy
    change rest.length + c.unsent.length + c.pending.length ≤ c.request.expectedIDs.length
    omega
  | _ => exact roomy

theorem Roomy.hasRoom (roomy : c.Roomy) {retry : Retry Result Origin}
    (held : c.redispatching = some (.failed retry)) : c.hasRoom = true := by
  unfold Roomy unsent at roomy
  rw [held] at roomy
  simp only [length_cons, length_nil] at roomy
  exact decide_eq_true (by omega)

end Collection

namespace TaskStage

variable {s t : TaskStage Result Origin}

def LeavesRoom (s : TaskStage Result Origin) : TaskStageEvent Result Origin → Prop
  | .acts event => s.collection.LeavesRoom event
  | _ => True

instance decidableStageLeavesRoom (s : TaskStage Result Origin) (event : TaskStageEvent Result Origin) :
    Decidable (s.LeavesRoom event) := by
  apply event.casesOn (motive := fun event => Decidable (s.LeavesRoom event)) <;> intros <;>
    unfold LeavesRoom <;> infer_instance

theorem roomy_step {event : TaskStageEvent Result Origin} (roomy : s.collection.Roomy)
    (room : s.LeavesRoom event) (taken : s.step event = some t) : t.collection.Roomy := by
  cases step_cases taken with
  | acts stepped => exact roomy.step room stepped
  | _ => exact roomy

def CanAbandon (s : TaskStage Result Origin) : Prop :=
  ∀ delivered, ∃ later t, run step s later = some t ∧ t.finished = some false ∧
    ∃ earlier, t.log = earlier ++ [.abandon delivered]

theorem canAbandon_of_step {event : TaskStageEvent Result Origin} (taken : s.step event = some t)
    (can : t.CanAbandon) : s.CanAbandon := by
  intro delivered
  obtain ⟨later, final, ran, ended⟩ := can delivered
  exact ⟨event :: later, final, run_cons_eq_some.mpr ⟨t, taken, ran⟩, ended⟩

theorem canAbandon_of_released (phase : s.collection.phase = .returned false)
    (unabandoned : s.abandoned = false) (unfinished : s.finished = none) : s.CanAbandon := by
  intro delivered
  refine ⟨[.abandons delivered, .returns],
    { s with abandoned := true, log := s.log ++ [.abandon delivered], finished := some false },
    ?_, rfl, s.log, rfl⟩
  simp [run, step, abandons, returns, phase, unabandoned, unfinished]

theorem canAbandon_of_idle (phase : s.collection.phase = .leaving false)
    (idle : s.collection.redispatching = none)
    (unabandoned : s.abandoned = false) (unfinished : s.finished = none) : s.CanAbandon := by
  have released : s.step (.acts .releases) = some { s with
      collection := { s.collection with released := true, phase := .returned false }
      log := s.log ++ [] } := by
    simp [step, acts, admits, Collection.step, Collection.releases, Collection.redispatches,
      phase, idle]
  exact canAbandon_of_step released (canAbandon_of_released rfl unabandoned unfinished)

/-- A stage that leaves with an error waits for the holder of redispatchMu only, and with
a slot for its result the holder always comes to an end. -/
theorem canAbandon_of_leaving (before : s.Protocol) (roomy : s.collection.Roomy)
    (phase : s.collection.phase = .leaving false) : s.CanAbandon := by
  have running : ∀ complete, s.collection.phase ≠ .returned complete := by simp [phase]
  have unabandoned := before.not_abandoned (running false)
  have unfinished := before.not_finished running
  cases holder : s.collection.redispatching with
  | none => exact canAbandon_of_idle phase holder unabandoned unfinished
  | some redispatch =>
    cases redispatch with
    | publishing retry =>
      have published : s.step (.acts .redispatched) = some { s with
          collection := { s.collection with redispatching := none }
          log := s.log ++ [.task retry.task.taskID (retry.retry + 1)] } := by
        simp [step, acts, admits, Collection.step, Collection.redispatched,
          Collection.redispatches, Collection.publishing, holder]
      exact canAbandon_of_step published
        (canAbandon_of_idle phase rfl unabandoned unfinished)
    | failed retry =>
      have room := roomy.hasRoom holder
      have sent : s.step (.acts .failureSends) = some { s with
          collection := { s.collection with
            redispatching := none
            resultChan := s.collection.resultChan ++ [retry.failure] }
          log := s.log ++ [] } := by
        simp [step, acts, admits, Collection.step, Collection.failureSends,
          Collection.redispatches, holder, room]
      exact canAbandon_of_step sent (canAbandon_of_idle phase rfl unabandoned unfinished)

/-- In every interleaving: nothing follows an abandon, a stage that has its results has
published none, and a stage that returned an error has tried to publish one. As long as
failed retries leave room in the channel, a stage that gives up always gets there. -/
theorem abandon_protocol {request : CollectRequest} {events : List (TaskStageEvent Result Origin)}
    (ran : run step (prepare request) events = some s) :
    (∀ earlier later delivered, s.log = earlier ++ .abandon delivered :: later → later = []) ∧
    (s.finished = some true → ∀ entry ∈ s.log, entry.isTask = true) ∧
    (s.finished = some false →
      ∃ earlier delivered, s.log = earlier ++ [.abandon delivered]) ∧
    (Along step LeavesRoom (prepare request) events →
      s.collection.phase = .leaving false → s.CanAbandon) := by
  have kept : s.Protocol := run_protocol (prepare_protocol request) ran
  have shape := kept.log
  refine ⟨?_, ?_, ?_, ?_⟩
  · intro earlier later delivered split
    cases given : s.abandoned with
    | false =>
      rw [given] at shape
      have task := shape (.abandon delivered) (by simp [split])
      cases task
    | true =>
      rw [given] at shape
      obtain ⟨tasks, last, whole, each⟩ := shape
      cases eq_nil_or_concat later with
      | inl none => exact none
      | inr more =>
        -- Otherwise the abandon would be among the tasks before the last entry.
        obtain ⟨front, final, rfl⟩ := more
        rw [whole, concat_eq_append, ← cons_append, ← append_assoc] at split
        have fronts := (append_inj' split rfl).1
        have task := each (.abandon delivered) (by simp [fronts])
        cases task
  · intro finished
    obtain ⟨phase, _⟩ := kept.finished true finished
    have unabandoned := kept.not_abandoned (by simp [phase])
    rw [unabandoned] at shape
    exact shape
  · intro finished
    obtain ⟨_, owed⟩ := kept.finished false finished
    have given : s.abandoned = true := owed
    rw [given] at shape
    obtain ⟨tasks, delivered, whole, _⟩ := shape
    exact ⟨tasks, delivered, whole⟩
  · intro room phase
    have roomy : s.collection.Roomy := run_invariant_along
      (fun _state _event _next before holds taken => roomy_step before holds taken)
      (Collection.prepareCollect_roomy request) room ran
    exact canAbandon_of_leaving kept roomy phase

/-- The stage has given up while a failed retry waits to send into a full channel. -/
structure Stuck (s : TaskStage Result Origin) : Prop where
  leaving : s.collection.phase = .leaving false
  waiting : ∃ retry, s.collection.redispatching = some (.failed retry)
  full : s.collection.hasRoom = false

theorem Stuck.step {event : TaskStageEvent Result Origin} (stuck : s.Stuck)
    (taken : s.step event = some t) : t.Stuck := by
  obtain ⟨retry, waiting⟩ := stuck.waiting
  cases step_cases taken with
  | dispatches phase | dispatchFails phase | abandons phase | returns phase =>
    cases stuck.leaving.symm.trans phase
  | acts stepped =>
    cases Collection.step_cases stepped with
    | ignored | schedules | retryExits | monitorPolls | ctxDone =>
      exact ⟨stuck.leaving, stuck.waiting, stuck.full⟩
    | answers _ room | failureSends _ room => cases stuck.full.symm.trans room
    | timerFires _ idle | releases _ idle => cases waiting.symm.trans idle
    | redispatched held | redispatchFails held => cases waiting.symm.trans held
    | awaits phase | seesDone phase | finishes _ phase => cases stuck.leaving.symm.trans phase
    | receives _ phase | givesUp phase =>
      rcases phase with phase | phase <;> cases stuck.leaving.symm.trans phase

theorem Stuck.forever {request : CollectRequest} {events later : List (TaskStageEvent Result Origin)}
    (reached : run TaskStage.step (prepare request) events = some s)
    (stuck : s.Stuck) (ran : run TaskStage.step s later = some t) :
    t.finished = none ∧ ∀ entry ∈ t.log, entry.isTask = true := by
  have still : t.Stuck := run_invariant
    (fun _state _event _next before taken => before.step taken) stuck ran
  have kept : t.Protocol := run_protocol (run_protocol (prepare_protocol request) reached) ran
  have running : ∀ complete, t.collection.phase ≠ .returned complete := by simp [still.leaving]
  have shape := kept.log
  rw [kept.not_abandoned (running false)] at shape
  exact ⟨kept.not_finished running, shape⟩

/-- The task is answered while its retry waits for the backoff; then Redispatch fails, and
the stage is cancelled before it has received the answer. -/
def cancelledWhileFull : List (TaskStageEvent Unit Unit) :=
  [.dispatches true, .acts .awaits, .acts (.deliver Collection.failureMessage),
    .acts (.deliver Collection.successMessage), .acts (.timerFires 0), .acts .redispatchFails,
    .acts .ctxDone, .acts .givesUp]

/-- The cancelled stage has dispatched its task and can never abandon its collection. -/
theorem cancelled_stage_never_abandons :
    ∃ s, run step (prepare Collection.oneTask) cancelledWhileFull = some s ∧
      s.collection.phase = .leaving false ∧ s.log = [.task "t".toList 0] ∧
      ∀ later t, run step s later = some t →
        t.finished = none ∧ ∀ entry ∈ t.log, entry.isTask = true := by
  cases reached : run step (prepare Collection.oneTask) cancelledWhileFull with
  | none => cases reached
  | some s =>
    have forever := fun stuck later t => @Stuck.forever _ _ s t _ _ later reached stuck
    cases reached
    exact ⟨_, rfl, rfl, rfl, forever ⟨rfl, ⟨_, rfl⟩, rfl⟩⟩

def cancelledWhileRedispatching : List (TaskStageEvent Unit Unit) :=
  [.dispatches true, .acts .awaits, .acts (.deliver Collection.failureMessage),
    .acts (.timerFires 0), .acts .ctxDone, .acts .givesUp, .acts .redispatchFails]

theorem abandon_protocol_cancelled :
    ∃ s, run step (prepare Collection.oneTask) cancelledWhileRedispatching = some s ∧
      s.CanAbandon := by
  cases ran : run step (prepare Collection.oneTask) cancelledWhileRedispatching with
  | none => cases ran
  | some s =>
    have protocol := abandon_protocol ran
    cases ran
    exact ⟨_, rfl, protocol.2.2.2 (by decide) rfl⟩

end TaskStage

end CrossCodex.Analysis
