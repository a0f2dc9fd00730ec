/-
The tables jobs, job_stages and vote_summaries (001_initial_schema.up.sql): grants, row
policies and triggers. A statement is the list of row changes it makes, as a whole or not at
all.
-/

import CrossCodex.Analyzer.TaskId
import CrossCodex.Library.GuardedTable

namespace CrossCodex.Database

open Analyzer (Text)
open Library (Table Guard Change)

/-- app_user, and purge_user, which is a member of retention_purge. -/
inductive Role where
  | app
  | purge
deriving DecidableEq

structure Session where
  role : Role
  tenant : Option Text
  user : Option Text
deriving DecidableEq

structure JobRow (Contents : Type) where
  tenantID : Text
  createdBy : Text
  status : Text
  contents : Contents
deriving DecidableEq

structure ChildRow (Contents : Type) where
  tenantID : Text
  contents : Contents
deriving DecidableEq

def completed : Text := "completed".toList

variable {Job Stage Summary Contents Name : Type}

/-- tenant_isolation on jobs. A setting that is unset is NULL, which equals nothing. -/
def Session.sees (session : Session) (row : JobRow Contents) : Bool :=
  session.tenant = some row.tenantID &&
    (session.user = some row.createdBy || session.user.getD [] = [])

/-- tenant_isolation on job_stages and on vote_summaries. -/
def Session.seesChild (session : Session) (row : ChildRow Contents) : Bool :=
  session.tenant = some row.tenantID

/-- prevent_completed_job_mutation and prevent_completed_job_delete; tenant_id references
tenants. -/
def jobGuard (session : Session) (tenants : List Text) : Guard Text (JobRow Contents) where
  visible _ row := session.sees row
  admits _ row := session.sees row && row.tenantID ∈ tenants
  updatable _ row := row.status ≠ completed
  deletable _ row := row.status ≠ completed || session.role = .purge

/-- The status a trigger reads, under the row policy of the session that fires it. -/
def parentStatus (session : Session) (jobs : Table Text (JobRow Contents)) (jobID : Text) :
    Option Text :=
  ((jobs.lookup jobID).filter session.sees).map JobRow.status

/-- prevent_completed_job_child_mutation and prevent_completed_job_child_delete; the job of
a written row is looked up by the foreign key, which no policy hides. -/
def childGuard (valid : Name → Bool) (session : Session) (tenants : List Text)
    (jobs : Table Text (JobRow Job)) : Guard (Text × Name) (ChildRow Contents) where
  visible _ row := session.seesChild row
  admits key row := session.seesChild row && row.tenantID ∈ tenants && key.1 ∈ jobs && valid key.2
  updatable key _ := parentStatus session jobs key.1 ≠ some completed
  deletable key _ := parentStatus session jobs key.1 ≠ some completed || session.role = .purge

/-- vote_summaries is keyed by job, source, target and analyzer. -/
abbrev SummaryName := Text × Text × Text

def validSummary (name : SummaryName) : Bool := name.2.2 ≠ []

structure World (Job Stage Summary : Type) where
  tenants : List Text
  jobs : Table Text (JobRow Job)
  stages : Table (Text × Text) (ChildRow Stage)
  summaries : Table (Text × SummaryName) (ChildRow Summary)

inductive Statement (Job Stage Summary : Type) where
  | jobs (changes : List (Change Text (JobRow Job)))
  | stages (changes : List (Change (Text × Text) (ChildRow Stage)))
  | summaries (changes : List (Change (Text × SummaryName) (ChildRow Summary)))
deriving DecidableEq

/-- app_user may insert, update and delete; purge_user may only delete. -/
def Role.granted {Key Row : Type} (role : Role) : Change Key Row → Bool
  | .insert _ _ => role = .app
  | .update _ _ _ => role = .app
  | .delete _ => true

def execute {Key Row : Type} [DecidableEq Key] (session : Session) (guard : Guard Key Row)
    (table : Table Key Row) (changes : List (Change Key Row)) : Option (Table Key Row) :=
  if changes.all session.role.granted then Library.run guard.change table changes else none

/-- No child row is left without its job. -/
def World.referenced (world : World Job Stage Summary) (jobs : Table Text (JobRow Job)) : Bool :=
  (world.stages.keys.all fun key => key.1 ∈ jobs) &&
    world.summaries.keys.all fun key => key.1 ∈ jobs

def World.step (world : World Job Stage Summary) :
    Session × Statement Job Stage Summary → Option (World Job Stage Summary)
  | (session, .jobs changes) =>
    match execute session (jobGuard session world.tenants) world.jobs changes with
    | none => none
    | some jobs => if world.referenced jobs then some { world with jobs } else none
  | (session, .stages changes) =>
    (execute session (childGuard (fun _ => true) session world.tenants world.jobs)
      world.stages changes).map fun stages => { world with stages }
  | (session, .summaries changes) =>
    (execute session (childGuard validSummary session world.tenants world.jobs)
      world.summaries changes).map fun summaries => { world with summaries }

end CrossCodex.Database
