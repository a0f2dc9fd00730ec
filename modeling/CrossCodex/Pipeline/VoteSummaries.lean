/-
The vote summaries of a job (internal/pipeline/vote_summaries.go) and the runs that write
them. A run that finds every analyzer completed returns before it gets there.
-/

import CrossCodex.Analyzer.Results
import CrossCodex.Library.Upsert
import CrossCodex.Library.Fallible
import CrossCodex.Pipeline.JobRun

namespace CrossCodex.Pipeline

open Library Analyzer

structure VoteSummaryPair where
  sourceID : Text
  targetID : Text
  analyzer : Text
  consensus : Text
  confidence : ℚ
deriving DecidableEq

structure SummaryKey where
  sourceID : Text
  targetID : Text
  analyzerName : Text
deriving DecidableEq

structure VoteSummary where
  consensus : Text
  confidence : ℚ
deriving DecidableEq

namespace VoteSummaryPair

def key (pair : VoteSummaryPair) : SummaryKey :=
  { sourceID := pair.sourceID, targetID := pair.targetID, analyzerName := pair.analyzer }

def entry (pair : VoteSummaryPair) : SummaryKey × VoteSummary :=
  (pair.key, { consensus := pair.consensus, confidence := pair.confidence })

end VoteSummaryPair

def requiresPair (result : RequiresResult) : VoteSummaryPair :=
  { sourceID := result.sourceID, targetID := result.targetID, analyzer := requiresAnalyzer,
    consensus := consensusRequires, confidence := result.confidence }

def relationshipPair (result : SemanticMatchResult) : VoteSummaryPair :=
  { sourceID := result.sourceID, targetID := result.targetID, analyzer := relationshipAnalyzer,
    consensus := result.relationshipType, confidence := result.confidence }

/-- How result data is stored and decoded. `jsonb` is what the database gives back for
data it stored; null is stored for an output without data. -/
structure ResultFormat (Data : Type) where
  isEmpty : Data → Bool
  null : Data
  jsonb : Data → Data
  requires : Data → Option (List RequiresResult)
  relationship : Data → Option (List SemanticMatchResult)
  jsonb_nonempty : ∀ data, isEmpty (jsonb data) = false
  requires_jsonb : ∀ data, requires (jsonb data) = requires data
  relationship_jsonb : ∀ data, relationship (jsonb data) = relationship data
  requires_null : requires null = some []
  relationship_null : relationship null = some []

variable {Data : Type}

namespace ResultFormat

def persisted (format : ResultFormat Data) (data : Data) : Data :=
  format.jsonb (if format.isEmpty data then format.null else data)

def decoded {Result : Type} (format : ResultFormat Data) (decode : Data → Option (List Result))
    (output : Option Data) : Option (List Result) :=
  match output with
  | none => some []
  | some data => if format.isEmpty data then some [] else decode data

end ResultFormat

inductive SummaryError where
  | undecodable (analyzer : Text)
  | repeatedPair (pair : SummaryKey)
deriving DecidableEq

/-- Adding rows one by one; a key that is already there is an error. -/
def addPairs (pairs : List VoteSummaryPair) :
    List VoteSummaryPair → Except SummaryError (List VoteSummaryPair)
  | [] => .ok pairs
  | pair :: rest =>
    if pair.key ∈ pairs.map VoteSummaryPair.key then .error (.repeatedPair pair.key)
    else addPairs (pairs ++ [pair]) rest

def decodedPairs {Result : Type} (analyzer : Text) (row : Result → VoteSummaryPair)
    (decoded : Option (List Result)) : Except SummaryError (List VoteSummaryPair) :=
  match decoded with
  | none => .error (.undecodable analyzer)
  | some results => .ok (results.map row)

def buildVoteSummaryPairs (format : ResultFormat Data) (outputs : Text → Option Data) :
    Except SummaryError (List VoteSummaryPair) := do
  let requires ← decodedPairs requiresAnalyzer requiresPair
    (format.decoded format.requires (outputs requiresAnalyzer))
  let pairs ← addPairs [] requires
  let relationship ← decodedPairs relationshipAnalyzer relationshipPair
    (format.decoded format.relationship (outputs relationshipAnalyzer))
  addPairs pairs relationship

abbrev VoteSummaries := Table SummaryKey VoteSummary

/-- writeVoteSummaries: a row that is already there stays as it is. Without pairs nothing
is written and nothing can fail. -/
def writeVoteSummaries (summaries : VoteSummaries) (pairs : List VoteSummaryPair)
    (write : Write) : VoteSummaries :=
  if write.applied then insertNew summaries (pairs.map VoteSummaryPair.entry) else summaries

/-- A job with its analysis_results and vote_summaries. `allOutputs` belongs to the current
run. `summarizing` is a run between its last pass and the end of runAnalysis, and
`summarized` says that the summaries were written since a result was last stored; the
program has no such record. -/
structure AnalysisJob (Data : Type) where
  job : Job
  results : Table Text Data
  summaries : VoteSummaries
  allOutputs : Text → Option Data
  summarizing : Bool
  summarized : Bool

inductive AnalysisEvent (Data : Type) where
  /-- A step of the job that is neither of the two below. -/
  | pipeline (event : JobEvent)
  | reports (name : Text) (attempt : Option Text) (output : Data) (write : Write)
  | summarizes (write : Write)

namespace AnalysisJob

def created (registry : Registry) (names : List Text) : AnalysisJob Data :=
  { job := Job.created registry names, results := ∅, summaries := ∅,
    allOutputs := fun _ => none, summarizing := false, summarized := false }

/-- The last pass of the run went through, and its summaries are next. -/
def passed (job : Job) (event : JobEvent) : Bool :=
  match event, job.run with
  | .passEnds, some run => run.phase = .due .synthesis
  | _, _ => false

/-- A run interrupts the writing of summaries only by an error, a cancel or a crash. -/
def interrupts : JobEvent → Bool
  | .errors | .cancels | .crashes => true
  | _ => false

variable (state : AnalysisJob Data)

/-- GetCompletedAnalysisResults at the start of a run. -/
def loads : Text → Option Data := fun name =>
  if name ∈ state.job.registry.analyzers ∧ name ∈ state.job.done then state.results.lookup name
  else none

def heldAfter : JobEvent → Text → Option Data
  | .starts => state.loads
  | _ => state.allOutputs

def pipeline (event : JobEvent) : Option (AnalysisJob Data) :=
  match event with
  | .analyzerCompletes _ _ _ => none
  | event =>
    if state.summarizing ∧ interrupts event = false then none
    else
      (state.job.step event).map fun job =>
        { state with
          job, allOutputs := state.heldAfter event, summarizing := passed job event }

/-- ReportStageCompleted: the result and the status are one transaction. -/
def reports (format : ResultFormat Data) (name : Text)
    (attempt : Option Text) (output : Data) (write : Write) : Option (AnalysisJob Data) :=
  (state.job.step (.analyzerCompletes name attempt write)).map fun job =>
    { state with
      job
      results :=
        if write.applied then state.results.insert name (format.persisted output)
        else state.results
      allOutputs :=
        if write = .stored then Function.update state.allOutputs name (some output)
        else state.allOutputs
      summarized := state.summarized && !write.applied }

def summarizes (format : ResultFormat Data) (write : Write) : Option (AnalysisJob Data) :=
  if state.summarizing then
    match buildVoteSummaryPairs format state.allOutputs with
    | .error _ =>
      (state.job.step .errors).map fun job => { state with job, summarizing := false }
    | .ok [] => some { state with summarizing := false, summarized := true }
    | .ok pairs =>
      let written :=
        { state with
          summaries := writeVoteSummaries state.summaries pairs write
          summarized := state.summarized || write.applied
          summarizing := false }
      if write = .stored then some written
      else (state.job.step .errors).map fun job => { written with job }
  else none

def step (format : ResultFormat Data) (state : AnalysisJob Data) :
    AnalysisEvent Data → Option (AnalysisJob Data)
  | .pipeline event => state.pipeline event
  | .reports name attempt output write => state.reports format name attempt output write
  | .summarizes write => state.summarizes format write

/-- runAnalysis has returned without an error, and the run has done nothing else yet. -/
def AnalysisSucceeded : Prop :=
  state.summarizing = false ∧ ∃ run, state.job.run = some run ∧ run.phase = .due .synthesis

/-- Each row is that of a pair of the persisted outputs, and each pair has its row. -/
def SummariesMatch (format : ResultFormat Data) (state : AnalysisJob Data) : Prop :=
  ∃ pairs, buildVoteSummaryPairs format state.results.lookup = .ok pairs ∧
    ∀ key, state.summaries.lookup key = firstRow (pairs.map VoteSummaryPair.entry) key

end AnalysisJob

end CrossCodex.Pipeline
