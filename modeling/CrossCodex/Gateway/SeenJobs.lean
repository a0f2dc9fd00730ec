/-
What the pipeline and the results store answer a session depends only on the jobs it sees,
apart from the limit on running jobs that a retry meets.
-/

import CrossCodex.Gateway.Jobs

namespace CrossCodex.Gateway

open Analyzer (Text)
open Database (JobRow ChildRow Session SummaryName completed)
open List

variable {Score : Type} {host : Host Score} {session : Session}
  {state first second : State Score} {entry : Sigma fun _ : Text => Job}
  {filter : Filter Score} {mapping : Mapping Score}

def State.has (state : State Score) (mine : Job → Bool) (jobID : Text) : Bool :=
  ((state.jobs.lookup jobID).filter mine).isSome

structure Portion (Score : Type) where
  jobs : List (Sigma fun _ : Text => Job)
  stages : List (Sigma fun _ : Text × Text => ChildRow StageData)
  summaries : List (Sigma fun _ : Text × SummaryName => ChildRow (SummaryData Score))
  results : List (Sigma fun _ : Text × Text => ChildRow Text)
  running : List (Sigma fun _ : Text => Running)
  retrying : List Text
deriving DecidableEq

def State.portion (state : State Score) (mine : Job → Bool) : Portion Score where
  jobs := state.jobs.entries.filter fun entry => mine entry.2
  stages := state.stages.entries.filter fun entry => state.has mine entry.1.1
  summaries := state.summaries.entries.filter fun entry => state.has mine entry.1.1
  results := state.results.entries.filter fun entry => state.has mine entry.1.1
  running := state.running.entries.filter fun entry => state.has mine entry.1
  retrying := state.retrying.filter fun jobID => state.has mine jobID

def Agree (session : Session) (first second : State Score) : Prop :=
  first.portion session.sees = second.portion session.sees

theorem has_of_getRow {jobID : Text} {row : Job} (seen : getRow state session jobID = some row) :
    state.has session.sees jobID = true :=
  congrArg Option.isSome seen

theorem has_iff_getRow {jobID : Text} :
    state.has session.sees jobID = true ↔ ∃ row, getRow state session jobID = some row :=
  Option.isSome_iff_exists

theorem filter_within {Item : Type} (keep within : Item → Bool) (items : List Item)
    (implies : ∀ item ∈ items, keep item = true → within item = true) :
    (items.filter within).filter keep = items.filter keep := by
  rw [filter_filter]
  apply filter_congr
  intro item mem
  cases kept : keep item with
  | false => rfl
  | true => rw [implies item mem kept, Bool.and_true]

namespace Backend

theorem getRow_of_mem_listedRows {status : Option Pipeline.JobStatus}
    (listed : entry ∈ listedRows state session status) :
    getRow state session entry.1 = some entry.2 := by
  have kept := mem_filter.mp ((mem_insertionSort _).mp listed)
  rw [Bool.and_eq_true] at kept
  exact Option.filter_eq_some_iff.mpr ⟨AList.mem_lookup_iff.mpr kept.1, kept.2.1⟩

def pageRows (state : State Score) (session : Session) (request : ListRequest) :
    List (Sigma fun _ : Text => Job) :=
  ((listedRows state session request.status).drop request.offset.toNat).take request.limit

theorem getRow_of_mem_pageRows {request : ListRequest}
    (listed : entry ∈ pageRows state session request) :
    getRow state session entry.1 = some entry.2 :=
  getRow_of_mem_listedRows (mem_of_mem_drop (mem_of_mem_take listed))

end Backend

theorem has_of_selects {key : Text × SummaryName} {row : ChildRow (SummaryData Score)}
    (named : filter.jobID ≠ [] → state.has session.sees filter.jobID = true)
    (selected : selects host state session filter key row = true) :
    state.has session.sees key.1 = true := by
  simp only [selects, Bool.and_eq_true] at selected
  have about := selected.1.1.1.1.1.2
  split at about
  · cases found : getRow state session key.1 with
    | none => simp [found] at about
    | some job => exact has_of_getRow found
  · next present =>
    rw [of_decide_eq_true about]
    exact named present

theorem has_of_mem_listSynthesized
    (named : filter.jobID ≠ [] → state.has session.sees filter.jobID = true)
    (mem : mapping ∈ listSynthesized host state session filter) :
    state.has session.sees mapping.jobID = true := by
  have unsorted := (mem_insertionSort _).mp (mem_of_mem_take mem)
  obtain ⟨entry, selected, rfl⟩ := mem_map.mp unsorted
  exact has_of_selects named (mem_filter.mp selected).2

theorem mem_of_mem_paginate {rows : List (Mapping Score)} {size : Nat} {analysis : Option Text}
    (mem : mapping ∈ (paginate rows size analysis).mappings) : mapping ∈ rows := by
  rw [paginate] at mem
  split at mem
  · exact mem
  · exact mem_of_mem_take mem

section

variable (agree : Agree session first second)
include agree

theorem getRow_congr (jobID : Text) : getRow first session jobID = getRow second session jobID := by
  have found : ∀ state : State Score,
      getRow state session jobID = List.dlookup jobID (state.portion session.sees).jobs :=
    fun state => (Library.dlookup_filter state.jobs (fun _ => session.sees) jobID).symm
  rw [found first, found second, agree]

theorem has_congr (jobID : Text) :
    first.has session.sees jobID = second.has session.sees jobID :=
  congrArg Option.isSome (getRow_congr agree jobID)

section

variable {jobID : Text} {row : Job} (seen : getRow first session jobID = some row)
include seen

theorem getStages_congr :
    getStages host first session jobID = getStages host second session jobID := by
  have within : ∀ state : State Score, state.has session.sees jobID = true →
      ((state.portion session.sees).stages.filter fun entry =>
        entry.1.1 = jobID && session.seesChild entry.2) =
      state.stages.entries.filter fun entry =>
        entry.1.1 = jobID && session.seesChild entry.2 := by
    intro state owned
    apply filter_within
    intro entry _ kept
    rw [Bool.and_eq_true, decide_eq_true_eq] at kept
    rw [kept.1]
    exact owned
  have owned := has_of_getRow seen
  rw [getStages, getStages, ← within first owned, agree,
    within second (has_congr agree jobID ▸ owned)]

theorem running_congr : first.running.lookup jobID = second.running.lookup jobID := by
  have owned := has_of_getRow seen
  have found : ∀ state : State Score, state.has session.sees jobID = true →
      List.dlookup jobID (state.portion session.sees).running = state.running.lookup jobID :=
    fun state => Library.dlookup_filter_keys state.running (state.has session.sees)
  rw [← found first owned, agree, found second (has_congr agree jobID ▸ owned)]

theorem retrying_congr : jobID ∈ first.retrying ↔ jobID ∈ second.retrying := by
  have owned := has_of_getRow seen
  have found : ∀ state : State Score, state.has session.sees jobID = true →
      (jobID ∈ (state.portion session.sees).retrying ↔ jobID ∈ state.retrying) :=
    fun state owned => mem_filter.trans (and_iff_left owned)
  rw [← found first owned, agree, found second (has_congr agree jobID ▸ owned)]

end

theorem cacheSummaries_congr (jobID : Text) (row : Job) (stages : List (Text × StageData)) :
    cacheSummaries host first session jobID row stages =
      cacheSummaries host second session jobID row stages := by
  have created : jobsCreatedBy first session = jobsCreatedBy second session := by
    funext jobIDs
    simp only [jobsCreatedBy, getRow_congr agree]
  rw [cacheSummaries, cacheSummaries, created]

namespace Backend

theorem getJob_congr (jobID : Text) (includeCacheSummaries : Bool) :
    getJob host first session jobID includeCacheSummaries =
      getJob host second session jobID includeCacheSummaries := by
  have same := getRow_congr agree jobID
  cases seen : getRow first session jobID with
  | none => simp only [getJob, ← same, seen]
  | some row =>
    simp only [getJob, ← same, seen, getStages_congr agree seen, cacheSummaries_congr agree]

theorem listedRows_congr (status : Option Pipeline.JobStatus) :
    listedRows first session status = listedRows second session status := by
  have within : ∀ state : State Score,
      ((state.portion session.sees).jobs.filter fun entry => session.sees entry.2 &&
        (status.all fun wanted => entry.2.status = statusText wanted)) =
      state.jobs.entries.filter fun entry => session.sees entry.2 &&
        (status.all fun wanted => entry.2.status = statusText wanted) := by
    intro state
    apply filter_within
    intro entry _ kept
    rw [Bool.and_eq_true] at kept
    exact kept.1
  rw [listedRows, listedRows, ← within first, agree, within second]

theorem listJobs_congr (request : ListRequest) :
    listJobs host first session request = listJobs host second session request := by
  have rows := listedRows_congr agree request.status
  have page : (pageRows first session request).map (fun entry =>
        jobToProto host entry.1 entry.2 (getStages host first session entry.1) []) =
      (pageRows second session request).map fun entry =>
        jobToProto host entry.1 entry.2 (getStages host second session entry.1) [] := by
    rw [pageRows, pageRows, ← rows]
    apply map_congr_left
    intro entry mem
    rw [getStages_congr agree (getRow_of_mem_pageRows mem)]
  rw [listJobs, listJobs, ← rows]
  rw [pageRows, pageRows, ← rows] at page
  rw [page]

theorem cancelJob_congr (jobID : Text) :
    cancelJob first session jobID = cancelJob second session jobID := by
  have same := getRow_congr agree jobID
  cases seen : getRow first session jobID with
  | none => simp only [cancelJob, ← same, seen]
  | some row => simp only [cancelJob, ← same, seen, running_congr agree seen]

theorem retryJob_congr (limit : limitReached host first = limitReached host second)
    (jobID : Text) (fromFailure : Bool) :
    retryJob host first session jobID fromFailure =
      retryJob host second session jobID fromFailure := by
  have same := getRow_congr agree jobID
  cases seen : getRow first session jobID with
  | none => simp only [retryJob, ← same, seen]
  | some row =>
    have reserved : retryReserved first jobID = retryReserved second jobID := by
      simp only [retryReserved, running_congr agree seen, retrying_congr agree seen]
    simp only [retryJob, ← same, seen, reserved, limit, getStages_congr agree seen]

end Backend

theorem listSynthesized_congr
    (named : filter.jobID ≠ [] → first.has session.sees filter.jobID = true) :
    listSynthesized host first session filter = listSynthesized host second session filter := by
  have namedSecond : filter.jobID ≠ [] → second.has session.sees filter.jobID = true :=
    fun present => has_congr agree filter.jobID ▸ named present
  have within : ∀ state : State Score,
      (filter.jobID ≠ [] → state.has session.sees filter.jobID = true) →
        ((state.portion session.sees).summaries.filter fun entry =>
          selects host state session filter entry.1 entry.2) =
        state.summaries.entries.filter fun entry =>
          selects host state session filter entry.1 entry.2 := by
    intro state owned
    apply filter_within
    intro entry _ selected
    exact has_of_selects owned selected
  have selection : selects host first session filter = selects host second session filter := by
    funext key row
    simp only [selects, getRow_congr agree]
  rw [listSynthesized, listSynthesized, ← within first named, ← within second namedSecond,
    agree, selection]

theorem listAnalyzer_congr (named : first.has session.sees filter.jobID = true) :
    listAnalyzer host first session filter = listAnalyzer host second session filter := by
  have found : ∀ state : State Score, state.has session.sees filter.jobID = true →
      List.dlookup (filter.jobID, relationshipAnalyzer) (state.portion session.sees).results =
        state.results.lookup (filter.jobID, relationshipAnalyzer) :=
    fun state owned => Library.dlookup_filter_keys state.results
      (fun key => state.has session.sees key.1) owned
  rw [listAnalyzer, listAnalyzer, ← found first named, agree,
    found second (has_congr agree filter.jobID ▸ named)]

theorem listMappings_congr (tenantID : Text)
    (stage : filter.jobID = [] → filter.stage = .synthesized) :
    listMappings host first session tenantID filter =
      listMappings host second session tenantID filter := by
  by_cases absent : filter.jobID = []
  · have rows : listSynthesized host first session filter =
        listSynthesized host second session filter :=
      listSynthesized_congr agree fun present => absurd absent present
    simp only [listMappings, if_pos absent, listRows, stage absent, rows]
  · have same := getRow_congr agree filter.jobID
    cases seen : getRow first session filter.jobID with
    | none => simp only [listMappings, if_neg absent, requireCompleted, ← same, seen]
    | some row =>
      have owned := has_of_getRow seen
      have rows : listRows host first session filter = listRows host second session filter := by
        rw [listRows, listRows, listSynthesized_congr agree fun _ => owned,
          listAnalyzer_congr agree owned]
      simp only [listMappings, if_neg absent, requireCompleted, ← same, seen, rows]

end

end CrossCodex.Gateway
