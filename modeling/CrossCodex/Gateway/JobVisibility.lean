/-
Which jobs a caller reaches through the gateway. Where the session carries the caller's
subject even an admin is held to its jobs; where it carries none, every job of the tenant
shows.
-/

import CrossCodex.Gateway.SeenJobs

namespace CrossCodex.Gateway

open Analyzer (Text)
open Database (Session completed)
open Library (ok_bind error_bind bind_eq_ok)
open Tenant (validTenantID)
open List

variable {Score : Type} {host : Host Score} {wiring : Wiring} {identity : Identity}
  {state first second : State Score} {session : Session} {jobID : Text} {row : Job}
  {filter : Filter Score} {page : JobPage Score} {Answer : Type}

variable (host wiring identity session) in
/-- The caller's requests run in this session, and the owner check lets through every job
that the session sees. -/
structure Serves : Prop where
  pipeline : pipelineSession host wiring identity = .ok session
  results : resultsSession identity = .ok session
  passes : ∀ row : Job, session.sees row = true →
    isAdmin identity = true ∨ row.createdBy = identity.subject

/-- What the handlers answer where the job is none the caller may reach. -/
def denied {Answer : Type} : Except Failure Answer → Bool
  | .error .jobNotFound => true
  | .error .notOwner => true
  | .error .unauthenticated => true
  | _ => false

namespace Serves

variable (serves : Serves host wiring identity session) {job : PipelineJob Score}

include serves

theorem checkOwner_ok (seen : getRow state session jobID = some row)
    (created : job.createdBy = row.createdBy) : checkOwner identity job = .ok () := by
  have sees : session.sees row = true := (Option.filter_eq_some_iff.mp seen).2
  rw [checkOwner, if_pos]
  rw [created, Bool.or_eq_true, decide_eq_true_eq]
  exact serves.passes row sees

theorem getJob_eq (named : jobID ≠ []) (includeCacheSummaries : Bool) :
    getJob host wiring identity state jobID includeCacheSummaries =
      Backend.getJob host state session jobID includeCacheSummaries := by
  rw [getJob, if_neg named, serves.pipeline, ok_bind]
  cases seen : getRow state session jobID with
  | none =>
    have missing : ∀ included, Backend.getJob host state session jobID included =
        .error .jobNotFound := by
      intro included
      rw [Backend.getJob, seen]
    rw [missing false, error_bind]
    exact (missing includeCacheSummaries).symm
  | some row =>
    have found : Backend.getJob host state session jobID false =
        .ok (jobToProto host jobID row (getStages host state session jobID) []) := by
      rw [Backend.getJob, seen]
      rfl
    have checked := serves.checkOwner_ok seen
      (rfl : (jobToProto host jobID row (getStages host state session jobID) []).createdBy =
        row.createdBy)
    rw [found, ok_bind, checked, ok_bind]
    cases includeCacheSummaries with
    | false => exact found.symm
    | true => rfl

theorem listJobs_eq (request : Backend.ListRequest) :
    listJobs host wiring identity state request =
      .ok (Backend.listJobs host state session request) := by
  rw [listJobs, serves.pipeline, ok_bind]
  by_cases admin : isAdmin identity = true
  · rw [if_pos admin]
    rfl
  · rw [if_neg admin]
    have whole : (Backend.listJobs host state session request).jobs.filter
        (fun job => job.createdBy = identity.subject) =
          (Backend.listJobs host state session request).jobs := by
      apply filter_eq_self.mpr
      intro job mem
      obtain ⟨entry, listed, rfl⟩ := mem_map.mp mem
      have seen := Backend.getRow_of_mem_pageRows listed
      have sees : session.sees entry.2 = true := (Option.filter_eq_some_iff.mp seen).2
      exact decide_eq_true ((serves.passes entry.2 sees).resolve_left admin)
    rw [whole]
    rfl

theorem has_of_listed {request : Backend.ListRequest}
    (answer : listJobs host wiring identity state request = .ok page) (mem : job ∈ page.jobs) :
    state.has session.sees job.jobID = true := by
  rw [serves.listJobs_eq] at answer
  cases answer
  obtain ⟨entry, listed, rfl⟩ := mem_map.mp mem
  exact has_of_getRow (Backend.getRow_of_mem_pageRows listed)

theorem authorizeJobOwner_bind (next : Except Failure Answer)
    (unseen : getRow state session jobID = none → next = .error .jobNotFound) :
    (authorizeJobOwner host identity state session jobID >>= fun _ => next) = next := by
  by_cases admin : isAdmin identity = true
  · rw [authorizeJobOwner, if_pos admin, ok_bind]
  · rw [authorizeJobOwner, if_neg admin, Backend.getJob]
    cases seen : getRow state session jobID with
    | none => rw [unseen seen, error_bind, error_bind]
    | some row =>
      have checked := serves.checkOwner_ok seen
        (rfl : (jobToProto host jobID row (getStages host state session jobID) []).createdBy =
          row.createdBy)
      rw [ok_bind]
      exact congrArg (· >>= fun _ => next) checked

theorem cancelJob_eq (named : jobID ≠ []) :
    cancelJob host wiring identity state jobID = Backend.cancelJob state session jobID := by
  rw [cancelJob, if_neg named, serves.pipeline, ok_bind]
  apply serves.authorizeJobOwner_bind
  intro unseen
  rw [Backend.cancelJob, unseen]

theorem retryJob_eq (named : jobID ≠ []) (fromFailure : Bool) :
    retryJob host wiring identity state jobID fromFailure =
      Backend.retryJob host state session jobID fromFailure := by
  rw [retryJob, if_neg named, serves.pipeline, ok_bind]
  apply serves.authorizeJobOwner_bind
  intro unseen
  rw [Backend.retryJob, unseen]

theorem listJobMappings_eq (named : filter.jobID ≠ []) :
    listJobMappings host identity state filter =
      listMappings host state session identity.tenantID filter := by
  rw [listJobMappings, if_neg named, serves.results, ok_bind]

theorem mem_getControlMappings {controlID : Text} {minConfidence : Score} {pageSize : Nat}
    {found : List (Mapping Score)}
    (answer : getControlMappings host identity state controlID minConfidence pageSize = .ok found)
    {mapping : Mapping Score} (mem : mapping ∈ found) :
    state.has session.sees mapping.jobID = true := by
  rw [getControlMappings] at answer
  split at answer
  · cases answer
  · rw [serves.results, ok_bind] at answer
    obtain ⟨page, listed, last⟩ := bind_eq_ok.mp answer
    cases last
    cases listed
    exact has_of_mem_listSynthesized (fun present => absurd rfl present)
      (mem_of_mem_paginate mem)

end Serves

section Denied

variable (host state session jobID row)

theorem denied_cancelJob :
    denied (Backend.cancelJob state session jobID) = !state.has session.sees jobID := by
  change _ = !(getRow state session jobID).isSome
  cases seen : getRow state session jobID with
  | none => simp only [Backend.cancelJob, seen, denied, Option.isSome_none, Bool.not_false]
  | some row =>
    simp only [Backend.cancelJob, seen, Option.isSome_some, Bool.not_true]
    split
    · rfl
    · split
      · rfl
      · split <;> rfl

theorem denied_resumeJob (stages : List (Text × StageData)) :
    denied (Backend.resumeJob jobID row stages) = false := by
  rw [Backend.resumeJob]
  split
  · rfl
  · split <;> rfl

theorem denied_restartJob : denied (Backend.restartJob host session jobID row) = false := by
  rw [Backend.restartJob]
  split <;> rfl

theorem denied_retryJob (fromFailure : Bool) :
    denied (Backend.retryJob host state session jobID fromFailure) =
      !state.has session.sees jobID := by
  change _ = !(getRow state session jobID).isSome
  cases seen : getRow state session jobID with
  | none => simp only [Backend.retryJob, seen, denied, Option.isSome_none, Bool.not_false]
  | some row =>
    simp only [Backend.retryJob, seen, Option.isSome_some, Bool.not_true]
    split
    · rfl
    · split
      · rfl
      · split
        · exact denied_resumeJob _ _ _
        · exact denied_restartJob _ _ _ _

theorem denied_listAnalyzer (filter : Filter Score) :
    denied (listAnalyzer host state session filter) = false := by
  rw [listAnalyzer]
  split
  · rfl
  · split
    · rfl
    · dsimp only
      split <;> rfl

theorem denied_map {Other : Type} (change : Answer → Other) (answer : Except Failure Answer) :
    denied (answer.map change) = denied answer := by
  cases answer with
  | ok value => rfl
  | error failure => cases failure <;> rfl

theorem denied_listMappings (tenantID : Text) (named : filter.jobID ≠ []) :
    denied (listMappings host state session tenantID filter) =
      !state.has session.sees filter.jobID := by
  change _ = !(getRow state session filter.jobID).isSome
  have rows : denied (listRows host state session filter) = false := by
    rw [listRows]
    split
    · rfl
    · exact denied_listAnalyzer host state session filter
  rw [listMappings, if_neg named, requireCompleted]
  cases seen : getRow state session filter.jobID with
  | none => rfl
  | some row =>
    by_cases done : row.status = completed
    · simp only [if_pos done, denied_map, rows, Option.isSome_some, Bool.not_true]
    · simp only [if_neg done, denied, Option.isSome_some, Bool.not_true]

end Denied

/-- Whatever the page size, a seen job is on the page that starts at it. -/
theorem Serves.listed (serves : Serves host wiring identity session)
    (seen : getRow state session jobID = some row) (pageSize : Int) :
    ∃ offset page, listJobs host wiring identity state ⟨none, pageSize, offset⟩ = .ok page ∧
      ∃ job ∈ page.jobs, job.jobID = jobID := by
  have kept := Option.filter_eq_some_iff.mp seen
  have listed : (⟨jobID, row⟩ : Sigma fun _ : Text => Job) ∈
      Backend.listedRows state session none := by
    apply (mem_insertionSort _).mpr
    apply mem_filter.mpr
    refine ⟨AList.mem_lookup_iff.mp kept.1, ?_⟩
    rw [kept.2]
    rfl
  obtain ⟨index, bound, place⟩ := getElem_of_mem listed
  have positive : 0 < Backend.ListRequest.limit ⟨none, pageSize, index⟩ := by
    rw [Backend.ListRequest.limit]
    split
    · next size => exact Int.pos_iff_toNat_pos.mp size
    · decide
  refine ⟨index, _, serves.listJobs_eq _,
    jobToProto host jobID row (getStages host state session jobID) [], ?_, rfl⟩
  apply mem_map.mpr
  refine ⟨⟨jobID, row⟩, mem_of_getElem? (?_ : _[0]? = _), rfl⟩
  rw [getElem?_take_of_lt positive, getElem?_drop, Int.toNat_natCast, Nat.add_zero,
    getElem?_eq_getElem bound, place]

variable (host wiring identity) in
/-- What a caller can do with the job of an ID, where the jobs meant are those the caller
may reach: exactly that. -/
structure Access (mine : Job → Bool) (state : State Score) (jobID : Text) : Prop where
  get : ∀ includeCacheSummaries,
    (∃ job, getJob host wiring identity state jobID includeCacheSummaries = .ok job) ↔
      state.has mine jobID = true
  list : ∀ pageSize,
    (∃ status offset page,
      listJobs host wiring identity state ⟨status, pageSize, offset⟩ = .ok page ∧
        ∃ job ∈ page.jobs, job.jobID = jobID) ↔ state.has mine jobID = true
  cancel : denied (cancelJob host wiring identity state jobID) = false ↔
    state.has mine jobID = true
  cancelled : cancelJob host wiring identity state jobID = .ok () ↔
    state.has mine jobID = true ∧
      (state.running.lookup jobID).any (fun entry => !entry.completing && !entry.cancelled) = true
  retry : ∀ fromFailure,
    denied (retryJob host wiring identity state jobID fromFailure) = false ↔
      state.has mine jobID = true
  mappings : ∀ filter, filter.jobID = jobID →
    (denied (listJobMappings host identity state filter) = false ↔ state.has mine jobID = true)
  read : ∀ filter, filter.jobID = jobID → filter.stage = .synthesized →
    ((∃ page, listJobMappings host identity state filter = .ok page) ↔
      state.has (fun row => mine row && row.status = completed) jobID = true)
  control : ∀ controlID minConfidence pageSize found,
    getControlMappings host identity state controlID minConfidence pageSize = .ok found →
      ∀ mapping ∈ found, mapping.jobID = jobID → state.has mine jobID = true

theorem Backend.cancelJob_eq_ok :
    Backend.cancelJob state session jobID = .ok () ↔ state.has session.sees jobID = true ∧
      (state.running.lookup jobID).any (fun entry => !entry.completing && !entry.cancelled) =
        true := by
  change _ ↔ (getRow state session jobID).isSome = true ∧ _
  rw [Backend.cancelJob]
  cases getRow state session jobID with
  | none => simp
  | some row =>
    cases state.running.lookup jobID with
    | none => simp
    | some entry =>
      obtain ⟨cancelled, completing⟩ := entry
      cases completing <;> cases cancelled <;> simp

theorem listMappings_synthesized_ok {tenantID : Text} (named : filter.jobID ≠ [])
    (stage : filter.stage = .synthesized) :
    (∃ page, listMappings host state session tenantID filter = .ok page) ↔
      state.has (fun row => session.sees row && row.status = completed) filter.jobID = true := by
  simp only [listMappings, if_neg named, requireCompleted, listRows, stage, State.has, getRow]
  cases state.jobs.lookup filter.jobID with
  | none => simp
  | some row =>
    by_cases sees : session.sees row = true
    · by_cases done : row.status = completed <;> simp [Option.filter, sees, done, Except.map]
    · simp [Option.filter, sees]

theorem Serves.access (serves : Serves host wiring identity session) (named : jobID ≠ []) :
    Access host wiring identity session.sees state jobID where
  get included := by
    rw [serves.getJob_eq named, has_iff_getRow, Backend.getJob]
    cases getRow state session jobID with
    | none => simp
    | some row => simp
  list pageSize := by
    constructor
    · rintro ⟨status, offset, page, answer, job, mem, same⟩
      rw [← same]
      exact serves.has_of_listed answer mem
    · intro owned
      obtain ⟨row, seen⟩ := has_iff_getRow.mp owned
      exact ⟨none, serves.listed seen pageSize⟩
  cancel := by rw [serves.cancelJob_eq named, denied_cancelJob, Bool.not_eq_false']
  cancelled := by rw [serves.cancelJob_eq named, Backend.cancelJob_eq_ok]
  retry fromFailure := by
    rw [serves.retryJob_eq named, denied_retryJob, Bool.not_eq_false']
  mappings filter same := by
    subst same
    rw [serves.listJobMappings_eq named, denied_listMappings _ _ _ _ named, Bool.not_eq_false']
  read filter same stage := by
    subst same
    rw [serves.listJobMappings_eq named, listMappings_synthesized_ok named stage]
  control controlID minConfidence pageSize found answer mapping mem same :=
    same ▸ serves.mem_getControlMappings answer mem

variable (host wiring identity first second) in
structure SameAnswers : Prop where
  get : ∀ jobID includeCacheSummaries,
    getJob host wiring identity first jobID includeCacheSummaries =
      getJob host wiring identity second jobID includeCacheSummaries
  list : ∀ request, listJobs host wiring identity first request =
    listJobs host wiring identity second request
  cancel : ∀ jobID, cancelJob host wiring identity first jobID =
    cancelJob host wiring identity second jobID
  mappings : ∀ filter, listJobMappings host identity first filter =
    listJobMappings host identity second filter
  control : ∀ controlID minConfidence pageSize,
    getControlMappings host identity first controlID minConfidence pageSize =
      getControlMappings host identity second controlID minConfidence pageSize

theorem Serves.sameAnswers (serves : Serves host wiring identity session)
    (agree : Agree session first second) : SameAnswers host wiring identity first second where
  get jobID included := by
    by_cases named : jobID = []
    · rw [getJob, getJob, if_pos named, if_pos named]
      rfl
    · rw [serves.getJob_eq named, serves.getJob_eq named, Backend.getJob_congr agree]
  list request := by
    rw [serves.listJobs_eq, serves.listJobs_eq, Backend.listJobs_congr agree]
  cancel jobID := by
    by_cases named : jobID = []
    · rw [cancelJob, cancelJob, if_pos named, if_pos named]
      rfl
    · rw [serves.cancelJob_eq named, serves.cancelJob_eq named, Backend.cancelJob_congr agree]
  mappings filter := by
    by_cases named : filter.jobID = []
    · rw [listJobMappings, listJobMappings, if_pos named, if_pos named]
      rfl
    · rw [serves.listJobMappings_eq named, serves.listJobMappings_eq named,
        listMappings_congr agree _ fun absent => absurd absent named]
  control controlID minConfidence pageSize := by
    rw [getControlMappings, getControlMappings, serves.results, ok_bind, ok_bind,
      listMappings_congr agree _ fun _ => rfl]

variable (host wiring identity first second) in
def SameRetries : Prop :=
  ∀ jobID fromFailure, retryJob host wiring identity first jobID fromFailure =
    retryJob host wiring identity second jobID fromFailure

theorem Serves.sameRetries (serves : Serves host wiring identity session)
    (agree : Agree session first second)
    (limit : Backend.limitReached host first = Backend.limitReached host second) :
    SameRetries host wiring identity first second := by
  intro jobID fromFailure
  by_cases named : jobID = []
  · rw [retryJob, retryJob, if_pos named, if_pos named]
    rfl
  · rw [serves.retryJob_eq named, serves.retryJob_eq named, Backend.retryJob_congr agree limit]

/-- The session the auth interceptor's context leads to: the user is the subject, for an
admin too, and unset where the subject is empty. -/
def callerSession (identity : Identity) : Session :=
  ⟨.app, some identity.tenantID, if identity.subject = [] then none else some identity.subject⟩

variable (host wiring identity) in
/-- Behind the Connect client the tenant and the subject arrive as they were sent. -/
def Carries : Prop :=
  wiring = .connect → host.transport identity.tenantID = some identity.tenantID ∧
    (identity.subject ≠ [] → host.transport identity.subject = some identity.subject)

section

variable (valid : validTenantID identity.tenantID = true)
include valid

theorem callerContext_eq :
    callerContext identity = some ⟨some identity.tenantID, identity.subject⟩ := by
  rw [callerContext, Tenant.withTenant, if_pos valid, Option.map_some, Tenant.withUser]
  split
  · next absent => rw [absent]; rfl
  · rfl

theorem resultsSession_eq : resultsSession identity = .ok (callerSession identity) := by
  rw [resultsSession, callerContext_eq valid]
  rfl

theorem pipelineContext_eq (carries : Carries host wiring identity) :
    pipelineContext host wiring identity = some ⟨some identity.tenantID, identity.subject⟩ := by
  cases wiring with
  | inProcess => exact callerContext_eq valid
  | connect =>
    obtain ⟨tenant, subject⟩ := carries rfl
    have present : identity.tenantID ≠ [] := by
      intro absent
      rw [absent] at valid
      cases valid
    have background : Tenant.withTenant Tenant.background identity.tenantID =
        some ⟨some identity.tenantID, []⟩ := by
      rw [Tenant.withTenant, if_pos valid]
      rfl
    rw [pipelineContext, callerContext_eq valid, Option.bind_some, Tenant.clientHeaders,
      Option.map_some, Option.bind_some]
    by_cases absent : identity.subject = []
    · simp only [absent, if_true, Tenant.carried, tenant, Option.bind_some,
        Tenant.serverContext, if_neg present, background, Option.map_some, Option.getD_none,
        Tenant.withUser]
    · simp only [if_neg absent, Tenant.carried, tenant, subject absent, Option.map_some,
        Option.bind_some, Tenant.serverContext, if_neg present, background,
        Option.getD_some, Tenant.withUser]

theorem pipelineSession_eq (carries : Carries host wiring identity) :
    pipelineSession host wiring identity = .ok (callerSession identity) := by
  rw [pipelineSession, pipelineContext_eq valid carries]
  rfl

end

def owns (identity : Identity) (row : Job) : Bool :=
  row.tenantID = identity.tenantID && row.createdBy = identity.subject

def ofTenant (identity : Identity) (row : Job) : Bool := row.tenantID = identity.tenantID

theorem callerSession_sees_owned (present : identity.subject ≠ []) :
    (callerSession identity).sees = owns identity := by
  funext row
  simp only [Session.sees, callerSession, if_neg present, owns, Option.some.injEq,
    Option.getD_some, decide_eq_false present, Bool.or_false, eq_comm]

theorem callerSession_sees_tenant (absent : identity.subject = []) :
    (callerSession identity).sees = ofTenant identity := by
  funext row
  simp only [Session.sees, callerSession, if_pos absent, ofTenant, Option.some.injEq,
    Option.getD_none, decide_true, Bool.or_true, Bool.and_true, eq_comm]

theorem callerSession_serves (valid : validTenantID identity.tenantID = true)
    (carries : Carries host wiring identity)
    (known : identity.subject ≠ [] ∨ isAdmin identity = true) :
    Serves host wiring identity (callerSession identity) where
  pipeline := pipelineSession_eq valid carries
  results := resultsSession_eq valid
  passes row sees := by
    rcases known with present | admin
    · rw [callerSession_sees_owned present, owns, Bool.and_eq_true] at sees
      exact Or.inr (of_decide_eq_true sees.2)
    · exact Or.inl admin

/-! ### The converse, from states with one job -/

def oneID : Text := ['j']

theorem oneID_ne : oneID ≠ [] := cons_ne_nil _ _

def jobOf (tenantID createdBy : Text) : Job :=
  ⟨tenantID, createdBy, statusText .failed, [], 0, 0, [], .retryable⟩

def runningJobs (count : Nat) : Library.Table Text Running where
  entries := (List.range count).map fun index => ⟨List.replicate index 'x', ⟨false, false⟩⟩
  nodupKeys := by
    rw [List.NodupKeys, List.keys, map_map]
    exact nodup_range.map fun first second same => by simpa using congrArg List.length same

theorem ne_oneID_of_running {count : Nat} :
    ∀ entry ∈ (runningJobs count).entries, entry.1 ≠ oneID := by
  intro entry mem same
  obtain ⟨index, _, rfl⟩ := mem_map.mp mem
  have letter : 'j' ∈ List.replicate index 'x' := by
    rw [show List.replicate index 'x' = oneID from same]
    exact mem_cons_self
  exact absurd (eq_of_mem_replicate letter) (by decide)

def oneJob (row : Job) (running : Nat) : State Score :=
  ⟨AList.singleton oneID row, ∅, ∅, ∅, runningJobs running, []⟩

section

variable {mine : Job → Bool} {running : Nat}

theorem getRow_oneJob : getRow (oneJob row running : State Score) session oneID =
    if session.sees row then some row else none := rfl

theorem has_oneJob : (oneJob row running : State Score).has mine oneID = mine row := by
  change (if mine row then some row else none).isSome = _
  cases mine row <;> rfl

theorem portion_oneJob :
    (oneJob row running : State Score).portion mine =
      ⟨[⟨oneID, row⟩].filter fun entry => mine entry.2, [], [], [], [], []⟩ := by
  have hidden : (runningJobs running).entries.filter
      (fun entry => (oneJob row running : State Score).has mine entry.1) = [] := by
    apply filter_eq_nil_iff.mpr
    intro entry mem
    have absent : (AList.singleton oneID row : Library.Table Text Job).lookup entry.1 = none :=
      AList.lookup_eq_none.mpr fun same => ne_oneID_of_running entry mem (mem_singleton.mp same)
    rw [State.has, oneJob, absent]
    simp
  exact congrArg (fun running => (⟨_, [], [], [], running, []⟩ : Portion Score)) hidden

variable (access : ∀ state jobID, jobID ≠ [] → Access host wiring identity mine state jobID)
include access

theorem mappings_sees (valid : validTenantID identity.tenantID = true) :
    (callerSession identity).sees = mine := by
  funext row
  have read := (access (oneJob row 0) oneID oneID_ne).mappings
    ⟨oneID, .synthesized, [], host.percentage 0 0, true, [], 0, none⟩ rfl
  rw [listJobMappings, if_neg oneID_ne, resultsSession_eq valid, ok_bind,
    denied_listMappings _ _ _ _ oneID_ne, Bool.not_eq_false', has_oneJob, has_oneJob] at read
  exact Bool.eq_iff_iff.mpr read

theorem exists_session (owned : mine row = true) :
    ∃ session, pipelineSession host wiring identity = .ok session ∧ session.sees row = true := by
  obtain ⟨job, answer⟩ := ((access (oneJob row 0) oneID oneID_ne).get false).mpr
    (has_oneJob.trans owned)
  rw [getJob, if_neg oneID_ne] at answer
  obtain ⟨session, pipeline, found⟩ := bind_eq_ok.mp answer
  obtain ⟨job, seen, _⟩ := bind_eq_ok.mp found
  refine ⟨session, pipeline, ?_⟩
  by_contra unseen
  rw [Backend.getJob, getRow_oneJob, if_neg unseen] at seen
  cases seen

end

theorem serverContext_eq {headers : Tenant.Headers} {context : Tenant.Context}
    (served : Tenant.serverContext headers = some context) :
    context = ⟨some headers.tenantID, headers.userID.getD []⟩ := by
  rw [Tenant.serverContext] at served
  split at served
  · cases served
  obtain ⟨tenant, known, rfl⟩ := Option.map_eq_some_iff.mp served
  rw [Tenant.withTenant] at known
  split at known
  · cases known
    rw [Tenant.withUser]
    split
    · next absent => rw [absent]; rfl
    · rfl
  · cases known

theorem carries_of_session (valid : validTenantID identity.tenantID = true)
    (pipeline : pipelineSession host wiring identity = .ok session)
    (tenant : session.tenant = some identity.tenantID)
    (user : identity.subject ≠ [] → session.user = some identity.subject) :
    Carries host wiring identity := by
  rintro rfl
  rw [pipelineSession] at pipeline
  split at pipeline
  · cases pipeline
  next begun =>
  cases pipeline
  obtain ⟨context, arrived, began⟩ := Option.bind_eq_some_iff.mp begun
  rw [pipelineContext, callerContext_eq valid, Option.bind_some, Tenant.clientHeaders,
    Option.map_some, Option.bind_some] at arrived
  obtain ⟨headers, carried, served⟩ := Option.bind_eq_some_iff.mp arrived
  cases serverContext_eq served
  cases began
  have arrived : headers.tenantID = identity.tenantID := Option.some.inj tenant
  rw [Tenant.carried] at carried
  split at carried
  · cases carried
  · next arrives absent =>
    cases carried
    refine ⟨arrives.trans (congrArg some arrived), fun present => ?_⟩
    rw [if_neg present] at absent
    cases absent
  · next userID arrives sent =>
    obtain ⟨received, delivered, rfl⟩ := Option.map_eq_some_iff.mp carried
    refine ⟨arrives.trans (congrArg some arrived), fun present => ?_⟩
    rw [if_neg present] at sent
    cases sent
    have named := user present
    change (if received = [] then none else some received) = _ at named
    split at named
    · cases named
    · rw [delivered, named]

theorem Serves.unlimited (serves : Serves host wiring identity session) {tenantID createdBy : Text}
    (sees : session.sees (jobOf tenantID createdBy) = true)
    (same : SameRetries host wiring identity (oneJob (jobOf tenantID createdBy) 0)
      (oneJob (jobOf tenantID createdBy) host.maxConcurrentJobs)) :
    host.maxConcurrentJobs = 0 := by
  by_contra limited
  have retried : ∀ running, Backend.retryJob host (oneJob (jobOf tenantID createdBy) running)
      session oneID true =
        if host.maxConcurrentJobs ≤ running then .error (.resourceExhausted host.maxConcurrentJobs)
        else .ok (.resumed oneID none) := by
    intro running
    have alone : (runningJobs running).lookup oneID = none :=
      AList.lookup_eq_none.mpr fun mem => by
        obtain ⟨entry, listed, same⟩ := mem_map.mp mem
        exact ne_oneID_of_running entry listed same
    have limit : Backend.limitReached host (oneJob (jobOf tenantID createdBy) running) =
        decide (host.maxConcurrentJobs ≤ running) := by
      simp [Backend.limitReached, oneJob, runningJobs, Nat.pos_of_ne_zero limited]
    have reserved : Backend.retryReserved (oneJob (jobOf tenantID createdBy) running : State Score)
        oneID = none := by
      simp only [Backend.retryReserved, oneJob, alone, not_mem_nil, if_false]
    have retryable : Backend.retryRefused host (jobOf tenantID createdBy) true = none := rfl
    simp only [Backend.retryJob, getRow_oneJob, if_pos sees, reserved, retryable, Option.or_none,
      limit, decide_eq_true_eq]
    rfl
  have answers := same oneID true
  rw [serves.retryJob_eq oneID_ne, serves.retryJob_eq oneID_ne, retried, retried, if_neg (by omega),
    if_pos (le_refl _)] at answers
  cases answers

variable (host wiring identity) in
/-- Exactly the caller's jobs show, and no answer depends on any other; the answers of retries
in states that are `alike`. -/
def Confined (alike : State Score → State Score → Prop) : Prop :=
  (∀ state jobID, jobID ≠ [] → Access host wiring identity (owns identity) state jobID) ∧
    ∀ first second, first.portion (owns identity) = second.portion (owns identity) →
      SameAnswers host wiring identity first second ∧
        (alike first second → SameRetries host wiring identity first second)

section

variable (valid : validTenantID identity.tenantID = true)
include valid

theorem confined (present : identity.subject ≠ []) (carries : Carries host wiring identity) :
    Confined host wiring identity fun first second =>
      Backend.limitReached host first = Backend.limitReached host second := by
  have serves := callerSession_serves valid carries (Or.inl present)
  rw [Confined, ← callerSession_sees_owned present]
  exact ⟨fun _ _ named => serves.access named, fun _ _ agree =>
    ⟨serves.sameAnswers agree, serves.sameRetries agree⟩⟩

theorem confined_conditions (plain : isAdmin identity = false)
    (confined : Confined host wiring identity fun _ _ => True) :
    identity.subject ≠ [] ∧ Carries host wiring identity ∧ host.maxConcurrentJobs = 0 := by
  obtain ⟨access, same⟩ := confined
  have present : identity.subject ≠ [] := by
    intro absent
    have differ := congrFun (mappings_sees access valid) (jobOf identity.tenantID ['x'])
    rw [callerSession_sees_tenant absent] at differ
    simp [ofTenant, owns, jobOf, absent] at differ
  have owned : owns identity (jobOf identity.tenantID identity.subject) = true := by
    simp [owns, jobOf]
  obtain ⟨session, pipeline, seen⟩ := exists_session access owned
  have unseen : session.sees (jobOf identity.tenantID ('x' :: identity.subject)) = false := by
    by_contra sees
    rw [Bool.not_eq_false] at sees
    have agree : (oneJob (jobOf identity.tenantID ('x' :: identity.subject)) 0 :
        State Score).portion (owns identity) =
          State.portion ⟨∅, ∅, ∅, ∅, ∅, []⟩ (owns identity) := by
      rw [portion_oneJob]
      simp [owns, jobOf, State.portion]
    have answers := (same _ _ agree).1.get oneID false
    rw [getJob, getJob, if_neg oneID_ne, if_neg oneID_ne, pipeline, ok_bind, ok_bind,
      Backend.getJob, getRow_oneJob, if_pos sees, ok_bind, checkOwner, plain, if_neg] at answers
    · cases answers
    · simp [jobToProto, jobOf]
  simp only [Session.sees, Bool.and_eq_true, Bool.or_eq_true, decide_eq_true_eq] at seen
  have user : session.user = some identity.subject := by
    apply seen.2.resolve_right
    intro none
    simp [Session.sees, jobOf, seen.1, none] at unseen
  have carries := carries_of_session valid pipeline seen.1 fun _ => user
  refine ⟨present, carries, ?_⟩
  have serves := callerSession_serves valid carries (Or.inl present)
  apply serves.unlimited ((congrFun (callerSession_sees_owned present) _).trans owned)
  apply (same _ _ _).2 trivial
  rw [portion_oneJob, portion_oneJob]

theorem admin_conditions
    (access : ∀ state jobID, jobID ≠ [] →
      Access host wiring identity (ofTenant identity) state jobID) :
    identity.subject = [] ∧ Carries host wiring identity := by
  have absent : identity.subject = [] := by
    by_contra present
    have differ := congrFun (mappings_sees access valid) (jobOf identity.tenantID [])
    rw [callerSession_sees_owned present] at differ
    simp [ofTenant, owns, jobOf, Ne.symm present] at differ
  have owned : ofTenant identity (jobOf identity.tenantID []) = true := decide_eq_true rfl
  obtain ⟨session, pipeline, seen⟩ := exists_session access owned
  rw [Session.sees, Bool.and_eq_true, decide_eq_true_eq] at seen
  exact ⟨absent, carries_of_session valid pipeline seen.1 fun present => absurd absent present⟩

end

def acme : Text := "acme".toList

def bobIdentity : Identity := ⟨"bob".toList, acme, []⟩

def rootIdentity : Identity := ⟨"root".toList, acme, ["admin".toList]⟩

def namelessIdentity : Identity := ⟨[], acme, []⟩

def aliceJobID : Text := "job-1".toList

def bobJobID : Text := "job-2".toList

def sampleHost : Host Nat where
  transport := some
  decodeConfig config := config
  percentage done total := 100 * done / total
  cacheRecords _ _ _ := []
  collates _ _ := true
  before _ _ := true
  atLeast score bound := bound ≤ score
  positive score := 0 < score
  decodeMatches _ := none
  analysis _ _ := none
  relationshipTypes := ["equal".toList]
  noCache _ := false
  retryConfig _ config := .ok config
  newJobID := "job-3".toList
  maxConcurrentJobs := 1

def bobAlone : State Nat where
  jobs := Library.upsertAll ∅
    [(bobJobID, ⟨acme, "bob".toList, statusText .failed, [], 1, 1, [], .retryable⟩)]
  stages := ∅
  summaries := ∅
  results := ∅
  running := ∅
  retrying := []

/-- Alice has one that completed with a mapping, and one that runs. -/
def aliceToo : State Nat where
  jobs := Library.upsertAll bobAlone.jobs
    [(aliceJobID, ⟨acme, "alice".toList, completed, [], 2, 2, [], .retryable⟩),
      ("job-0".toList, ⟨acme, "alice".toList, statusText .running, [], 3, 3, [], .retryable⟩)]
  stages := ∅
  summaries := Library.upsertAll ∅
    [((aliceJobID, "ac-1".toList, "ac-2".toList, relationshipAnalyzer),
      ⟨acme, "equal".toList, 90, 80⟩)]
  results := ∅
  running := Library.upsertAll ∅ [("job-0".toList, ⟨false, false⟩)]
  retrying := []

def aliceFilter : Filter Nat :=
  ⟨aliceJobID, .synthesized, [], 0, true, ["equal".toList], 10, none⟩

end CrossCodex.Gateway
