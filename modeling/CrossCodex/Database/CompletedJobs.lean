/-
What the triggers protect of a completed job: its own row, and its child rows from sessions
that see the job; nothing stops a statement from adding a child row.
-/

import CrossCodex.Database.JobTables

namespace CrossCodex.Database

open Analyzer (Text)
open Library (Table Guard Change)

variable {Job Stage Summary Contents Name : Type} {session : Session}
  {jobs : Table Text (JobRow Job)} {tenants : List Text}

def Removes {Key Row : Type} (session : Session) (changes : List (Change Key Row)) (key : Key) :
    Prop :=
  session.role = .purge ∧ Change.delete key ∈ changes

def RemovesJob (jobID : Text) : Session × Statement Job Stage Summary → Prop
  | (session, .jobs changes) => Removes session changes jobID
  | _ => False

def RemovesStage (key : Text × Text) : Session × Statement Job Stage Summary → Prop
  | (session, .stages changes) => Removes session changes key
  | _ => False

def RemovesSummary (key : Text × SummaryName) : Session × Statement Job Stage Summary → Prop
  | (session, .summaries changes) => Removes session changes key
  | _ => False

theorem execute_eq_some {Key Row : Type} [DecidableEq Key] {guard : Guard Key Row}
    {table next : Table Key Row} {changes : List (Change Key Row)}
    (executed : execute session guard table changes = some next) :
    (∀ change ∈ changes, session.role.granted change = true) ∧
      Library.run guard.change table changes = some next := by
  rw [execute] at executed
  split at executed
  · next granted => exact ⟨List.all_eq_true.mp granted, executed⟩
  · cases executed

theorem lands_app {Key Row : Type} [DecidableEq Key] {role : Role} {change : Change Key Row}
    {key : Key} (granted : role.granted change = true) (lands : change.Lands key) :
    role = .app := by
  cases change with
  | insert written row => exact of_decide_eq_true granted
  | update source written row => exact of_decide_eq_true granted
  | delete written => cases lands

theorem execute_jobs_keeps {next : Table Text (JobRow Job)}
    {changes : List (Change Text (JobRow Job))} {jobID : Text} {row : JobRow Job}
    (held : jobs.lookup jobID = some row) (done : row.status = completed)
    (executed : execute session (jobGuard session tenants) jobs changes = some next)
    (kept : ¬Removes session changes jobID) : next.lookup jobID = some row := by
  obtain ⟨granted, ran⟩ := execute_eq_some executed
  cases role : session.role with
  | app =>
    refine Guard.run_locked ?_ held ran
    intro _
    simp [jobGuard, done, role]
  | purge =>
    -- purge_user only deletes, and not this row
    have unlanded : ∀ change ∈ changes, ¬change.Lands jobID := by
      intro change mem lands
      have app := lands_app (granted change mem) lands
      rw [role] at app
      cases app
    have fixed : ∀ written new, Change.update jobID written new ∈ changes →
        ∀ old, jobs.lookup jobID = some old →
          (jobGuard session tenants).visible jobID old = true →
            (jobGuard session tenants).updatable jobID old = false := by
      intro _ _ _ old found _
      cases found.symm.trans held
      simp [jobGuard, done]
    rcases Guard.run_unlanded fixed unlanded ran with same | ⟨_, deleted, _⟩
    · exact same.trans held
    · exact absurd ⟨role, deleted⟩ kept

section Steps

variable {world next : World Job Stage Summary} {event : Session × Statement Job Stage Summary}
  {jobID : Text} {row : JobRow Job}

theorem step_cases (stepped : world.step event = some next) :
    (∃ changes jobs, event.2 = .jobs changes ∧
      execute event.1 (jobGuard event.1 world.tenants) world.jobs changes = some jobs ∧
        next = { world with jobs }) ∨
    (∃ changes stages, event.2 = .stages changes ∧
      execute event.1 (childGuard (fun _ => true) event.1 world.tenants world.jobs) world.stages
        changes = some stages ∧ next = { world with stages }) ∨
    (∃ changes summaries, event.2 = .summaries changes ∧
      execute event.1 (childGuard validSummary event.1 world.tenants world.jobs) world.summaries
        changes = some summaries ∧ next = { world with summaries }) := by
  obtain ⟨session, statement⟩ := event
  cases statement with
  | jobs changes =>
    simp only [World.step] at stepped
    split at stepped
    · cases stepped
    · next jobs executed =>
      split at stepped
      · cases stepped
        exact Or.inl ⟨changes, jobs, rfl, executed, rfl⟩
      · cases stepped
  | stages changes =>
    obtain ⟨stages, executed, rfl⟩ := Option.map_eq_some_iff.mp stepped
    exact Or.inr (Or.inl ⟨changes, stages, rfl, executed, rfl⟩)
  | summaries changes =>
    obtain ⟨summaries, executed, rfl⟩ := Option.map_eq_some_iff.mp stepped
    exact Or.inr (Or.inr ⟨changes, summaries, rfl, executed, rfl⟩)

theorem step_keeps_job (held : world.jobs.lookup jobID = some row)
    (done : row.status = completed) (kept : ¬RemovesJob jobID event)
    (stepped : world.step event = some next) : next.jobs.lookup jobID = some row := by
  obtain ⟨session, statement⟩ := event
  rcases step_cases stepped with ⟨changes, jobs, rfl, executed, rfl⟩ | ⟨_, _, _, _, rfl⟩ |
    ⟨_, _, _, _, rfl⟩
  · exact execute_jobs_keeps held done executed kept
  · exact held
  · exact held

end Steps

/-- No change adds a child row to the job, and an app session that changes one of its child
rows sees the job. -/
def RespectsChildren (jobID : Text) (row : JobRow Job) (session : Session)
    (changes : List (Change (Text × Name) (ChildRow Contents))) : Prop :=
  ∀ change ∈ changes, ∀ name, ¬change.Lands (jobID, name) ∧
    (change.source = some (jobID, name) → session.role = .app → session.sees row = true)

def Respects (jobID : Text) (row : JobRow Job) : Session × Statement Job Stage Summary → Prop
  | (_, .jobs _) => True
  | (session, .stages changes) => RespectsChildren jobID row session changes
  | (session, .summaries changes) => RespectsChildren jobID row session changes

theorem parentStatus_of_sees {jobID : Text} {row : JobRow Job}
    (held : jobs.lookup jobID = some row) (seen : session.sees row = true) :
    parentStatus session jobs jobID = some row.status := by
  simp [parentStatus, held, seen]

theorem execute_children_keeps [DecidableEq Name] {valid : Name → Bool}
    {table next : Table (Text × Name) (ChildRow Contents)}
    {changes : List (Change (Text × Name) (ChildRow Contents))} {jobID : Text} {row : JobRow Job}
    (held : jobs.lookup jobID = some row) (done : row.status = completed)
    (respects : RespectsChildren jobID row session changes)
    (executed : execute session (childGuard valid session tenants jobs) table changes = some next)
    (name : Name) :
    next.lookup (jobID, name) = table.lookup (jobID, name) ∨
      (next.lookup (jobID, name) = none ∧ Removes session changes (jobID, name)) := by
  obtain ⟨granted, ran⟩ := execute_eq_some executed
  have status : ∀ change ∈ changes, change.source = some (jobID, name) →
      session.role = .app → parentStatus session jobs jobID = some completed := by
    intro change mem about app
    rw [← done]
    exact parentStatus_of_sees held ((respects change mem name).2 about app)
  have fixed : ∀ written new, Change.update (jobID, name) written new ∈ changes →
      ∀ child, table.lookup (jobID, name) = some child →
        (childGuard valid session tenants jobs).visible (jobID, name) child = true →
          (childGuard valid session tenants jobs).updatable (jobID, name) child = false := by
    intro written new mem child _ _
    have app : session.role = .app := of_decide_eq_true (granted _ mem)
    simp [childGuard, status _ mem rfl app]
  rcases Guard.run_unlanded fixed (fun change mem => (respects change mem name).1) ran
    with same | ⟨absent, deleted, child, _, _, deletable⟩
  · exact Or.inl same
  · right
    refine ⟨absent, ?_, deleted⟩
    cases role : session.role with
    | purge => rfl
    | app =>
      -- the trigger reads the status, so the delete would have been refused
      simp [childGuard, status _ deleted rfl role, role] at deletable

section Steps

variable {world next : World Job Stage Summary} {event : Session × Statement Job Stage Summary}
  {jobID : Text} {row : JobRow Job}

theorem step_keeps_children (held : world.jobs.lookup jobID = some row)
    (done : row.status = completed) (respects : Respects jobID row event)
    (stepped : world.step event = some next) :
    (∀ name, next.stages.lookup (jobID, name) = world.stages.lookup (jobID, name) ∨
      (next.stages.lookup (jobID, name) = none ∧ RemovesStage (jobID, name) event)) ∧
    ∀ name, next.summaries.lookup (jobID, name) = world.summaries.lookup (jobID, name) ∨
      (next.summaries.lookup (jobID, name) = none ∧ RemovesSummary (jobID, name) event) := by
  obtain ⟨session, statement⟩ := event
  rcases step_cases stepped with ⟨_, _, _, _, rfl⟩ | ⟨changes, stages, rfl, executed, rfl⟩ |
    ⟨changes, summaries, rfl, executed, rfl⟩
  · exact ⟨fun _ => Or.inl rfl, fun _ => Or.inl rfl⟩
  · exact ⟨execute_children_keeps held done respects executed, fun _ => Or.inl rfl⟩
  · exact ⟨fun _ => Or.inl rfl, execute_children_keeps held done respects executed⟩

end Steps

/-- A completed job's row stays as it is until purge_user deletes it. Its child rows stay as
they are until purge_user deletes them if no statement adds one and app sessions change
child rows only where they see the job. -/
theorem completed_job_frozen {world final : World Job Stage Summary}
    {events : List (Session × Statement Job Stage Summary)} {jobID : Text} {row : JobRow Job}
    (ran : Library.run World.step world events = some final)
    (held : world.jobs.lookup jobID = some row) (done : row.status = completed)
    (kept : ∀ event ∈ events, ¬RemovesJob jobID event) :
    final.jobs.lookup jobID = some row ∧
      ((∀ event ∈ events, Respects jobID row event) →
        (∀ name, final.stages.lookup (jobID, name) = world.stages.lookup (jobID, name) ∨
          (final.stages.lookup (jobID, name) = none ∧
            ∃ event ∈ events, RemovesStage (jobID, name) event)) ∧
        (∀ name, final.summaries.lookup (jobID, name) = world.summaries.lookup (jobID, name) ∨
          (final.summaries.lookup (jobID, name) = none ∧
            ∃ event ∈ events, RemovesSummary (jobID, name) event))) := by
  have jobKept : ∀ event ∈ events, ∀ state next : World Job Stage Summary,
      state.jobs.lookup jobID = some row → state.step event = some next →
        next.jobs.lookup jobID = some row :=
    fun event mem state next here stepped =>
      step_keeps_job here done (kept event mem) stepped
  constructor
  · exact Library.run_invariant_mem jobKept held ran
  · intro respects
    constructor
    · intro name
      refine Library.run_kept_or_removed (fun state => state.jobs.lookup jobID = some row)
        (fun state => state.stages.lookup (jobID, name)) (RemovesStage (jobID, name)) ?_ held ran
      intro event mem state next here stepped
      exact ⟨jobKept event mem state next here stepped,
        (step_keeps_children here done (respects event mem) stepped).1 name⟩
    · intro name
      refine Library.run_kept_or_removed (fun state => state.jobs.lookup jobID = some row)
        (fun state => state.summaries.lookup (jobID, name)) (RemovesSummary (jobID, name)) ?_
        held ran
      intro event mem state next here stepped
      exact ⟨jobKept event mem state next here stepped,
        (step_keeps_children here done (respects event mem) stepped).2 name⟩

def sampleJob : JobRow Unit := ⟨"acme".toList, "alice".toList, completed, ()⟩

def sampleWorld : World Unit Text Text where
  tenants := ["acme".toList]
  jobs := Library.upsertAll ∅ [(['j'], sampleJob),
    (['k'], ⟨"acme".toList, "bob".toList, "running".toList, ()⟩)]
  stages := Library.upsertAll ∅ [((['j'], "import".toList), ⟨"acme".toList, ['a']⟩),
    ((['k'], "match".toList), ⟨"acme".toList, ['b']⟩)]
  summaries := ∅

def appSession (user : Option Text) : Session := ⟨.app, some "acme".toList, user⟩

def purgeSession : Session := ⟨.purge, some "acme".toList, none⟩

def acmeRow (contents : Text) : ChildRow Text := ⟨"acme".toList, contents⟩

/-- bob's stage is updated by bob, alice's is deleted by retention. -/
def respectfulEvents : List (Session × Statement Unit Text Text) :=
  [(appSession (some "bob".toList),
      .stages [.update (['k'], "match".toList) (['k'], "match".toList) (acmeRow ['c'])]),
    (purgeSession, .stages [.delete (['j'], "import".toList)])]

theorem completed_job_frozen_sample :
    ∃ final, Library.run World.step sampleWorld respectfulEvents = some final ∧
      final.jobs.lookup ['j'] = some sampleJob ∧
        (final.stages.lookup (['j'], "import".toList) =
            sampleWorld.stages.lookup (['j'], "import".toList) ∨
          (final.stages.lookup (['j'], "import".toList) = none ∧
            ∃ event ∈ respectfulEvents, RemovesStage (['j'], "import".toList) event)) := by
  have ran : Library.run World.step sampleWorld respectfulEvents =
      some ((Library.run World.step sampleWorld respectfulEvents).getD sampleWorld) := rfl
  have kept : ∀ event ∈ respectfulEvents, ¬RemovesJob ['j'] event := by
    simp [respectfulEvents, RemovesJob]
  have respects : ∀ event ∈ respectfulEvents, Respects ['j'] sampleJob event := by
    simp [respectfulEvents, Respects, RespectsChildren, Change.Lands, Change.source, purgeSession]
  have frozen := completed_job_frozen ran rfl rfl kept
  exact ⟨_, ran, frozen.1, (frozen.2 respects).1 _⟩

/-- bob, who does not see alice's job, changes its stage; a stage is inserted into it and
another moved to it; all of this by app sessions of the tenant. -/
def disrespectfulEvents : List (Session × Statement Unit Text Text) :=
  [(appSession (some "bob".toList),
      .stages [.update (['j'], "import".toList) (['j'], "import".toList) (acmeRow ['x'])]),
    (appSession none, .stages [.insert (['j'], "late".toList) (acmeRow ['y'])]),
    (appSession none,
      .stages [.update (['k'], "match".toList) (['j'], "match".toList) (acmeRow ['z'])]),
    (appSession none,
      .summaries [.insert (['j'], ['s'], ['t'], ['r']) (acmeRow ['v'])])]

theorem completed_job_changed :
    sampleWorld.jobs.lookup ['j'] = some sampleJob ∧ sampleJob.status = completed ∧
      (∀ event ∈ disrespectfulEvents, event.1.role = .app) ∧
      sampleWorld.stages.lookup (['j'], "import".toList) = some (acmeRow ['a']) ∧
      sampleWorld.stages.lookup (['j'], "late".toList) = none ∧
      sampleWorld.stages.lookup (['j'], "match".toList) = none ∧
      sampleWorld.summaries.lookup (['j'], ['s'], ['t'], ['r']) = none ∧
      ∃ final, Library.run World.step sampleWorld disrespectfulEvents = some final ∧
        final.stages.lookup (['j'], "import".toList) = some (acmeRow ['x']) ∧
        final.stages.lookup (['j'], "late".toList) = some (acmeRow ['y']) ∧
        final.stages.lookup (['j'], "match".toList) = some (acmeRow ['z']) ∧
        final.summaries.lookup (['j'], ['s'], ['t'], ['r']) = some (acmeRow ['v']) := by
  refine ⟨rfl, rfl, by decide, rfl, rfl, rfl, rfl, ?_⟩
  exact ⟨_, rfl, rfl, rfl, rfl, rfl⟩

end CrossCodex.Database
