/-
What synthesis accepts of a job's own results. The values the analyzers compute are in
range; the length of an ID, the number of results and the sign of a mean similarity are
bounded by nothing before synthesis.
-/

import CrossCodex.Analyzer.ErrorRate
import CrossCodex.Pipeline.CandidateTables
import CrossCodex.Pipeline.SynthesisInputs
import Mathlib.Algebra.Order.BigOperators.Group.List

namespace CrossCodex.Pipeline

open Library Candidates Analyzer List

structure ControlItem where
  id : Text
  parentID : Text
deriving DecidableEq

inductive ImportError where
  | duplicateControlID (id : Text)
  | selfReferentialParent (id : Text)
deriving DecidableEq

def validateItemsFrom (seen : List Text) : List ControlItem → Except ImportError Unit
  | [] => .ok ()
  | item :: rest =>
    if item.id ∈ seen then .error (.duplicateControlID item.id)
    else if item.parentID = item.id then .error (.selfReferentialParent item.id)
    else validateItemsFrom (item.id :: seen) rest

def validateItems (items : List ControlItem) : Except ImportError Unit :=
  validateItemsFrom [] items

def controlID (catalogID itemID : Text) : Text := catalogID ++ '/' :: itemID

def Imported (imports : Text → List ControlItem) (id : Text) : Prop :=
  ∃ catalogID, ∃ item ∈ imports catalogID, id = controlID catalogID item.id

theorem Imported.ne_nil {imports : Text → List ControlItem} {id : Text}
    (imported : Imported imports id) : id ≠ [] := by
  obtain ⟨catalogID, item, _, rfl⟩ := imported
  simp [controlID]

/-- A pair analyzer's part of a job: the pairs it read and the results of its tasks. -/
structure PairStage where
  pairs : List CandidatePair
  tasks : List TaskResult

/-- A job whose analyzers have completed, as synthesis finds it. -/
structure AnalyzedJob where
  imports : Text → List ControlItem
  accepted : ∀ catalogID, validateItems (imports catalogID) = .ok ()
  formats : FloatFormats
  stat : StatPackage
  requiresConfig : RequiresConfig
  relationshipConfig : RelationshipConfig
  relationshipHost : RelationshipHost
  requiresStage : PairStage
  relationshipStage : PairStage
  ofImports : ∀ pair ∈ requiresStage.pairs ++ relationshipStage.pairs,
    Imported imports pair.sourceControlID ∧ Imported imports pair.targetControlID
  requiresPlanned : OfPairs requiresAnalyzer requiresConfig.toPanelConfig requiresStage.pairs
    requiresStage.tasks
  relationshipPlanned : OfPairs relationshipAnalyzer relationshipConfig.toPanelConfig
    relationshipStage.pairs relationshipStage.tasks
  /-- More tasks than a slice can hold would lose the count of votes. -/
  countable : relationshipStage.tasks.length ≤ 2 ^ 53
  classifyResults : List ClassifyResult
  requiresResults : List RequiresResult
  relResults : List SemanticMatchResult
  /-- Nothing is stored for an analyzer that is not part of the job. -/
  requiresReported : requiresResults ≠ [] →
    Requires.stageResult formats.double.round requiresConfig requiresStage.tasks =
      .ok requiresResults
  relationshipReported : relResults ≠ [] →
    Relationship.stageResult formats.double.round relationshipHost relationshipConfig
      relationshipStage.tasks = .ok relResults
  embeddingModels : List Text
  embedded : Text → EmbeddedControls

inductive SynthesisError where
  | similarities (cause : SimilarityError)
  | corrupt (cause : CorruptResult)
deriving DecidableEq

namespace AnalyzedJob

variable (job : AnalyzedJob)

def synthesisInputs :
    Except SynthesisError (List SynthesisInput × Table Text Classification) :=
  match readSimilarities job.formats job.embedded ∅ job.embeddingModels with
  | .error cause => .error (.similarities cause)
  | .ok similarityByModel =>
    match buildSynthesisInputs job.stat job.formats.double.round job.classifyResults
        job.requiresResults job.relResults similarityByModel with
    | .error cause => .error (.corrupt cause)
    | .ok built => .ok built

def stats (sourceID targetID : Text) : SimilarityStats :=
  statsOf job.stat job.formats.double.round
    (embeddedValues job.formats job.embedded job.embeddingModels sourceID targetID)

def reportedPairs : List (Text × Text) :=
  job.requiresResults.map (fun result => (result.sourceID, result.targetID)) ++
    job.relResults.map fun result => (result.sourceID, result.targetID)

structure WithinLimits : Prop where
  few : job.reportedPairs.length ≤ maxInputs
  shortIDs : ∀ pair ∈ job.reportedPairs, ShortID pair.1 ∧ ShortID pair.2
  similar : ∀ pair ∈ job.reportedPairs, 0 ≤ (job.stats pair.1 pair.2).mean

structure CandidatesWithinLimits : Prop where
  few : job.requiresStage.pairs.length + job.relationshipStage.pairs.length ≤ maxInputs
  requiresSamples : job.requiresConfig.samplesPerModel ≤ 2 ^ 63
  relationshipSamples : job.relationshipConfig.samplesPerModel ≤ 2 ^ 63
  requiresReadable : Readable job.requiresConfig.models job.requiresStage.pairs
  relationshipReadable : Readable job.relationshipConfig.models job.relationshipStage.pairs
  shortIDs : ∀ pair ∈ job.requiresStage.pairs ++ job.relationshipStage.pairs,
    byteLength pair.sourceControlID ≤ maxIDLen ∧ byteLength pair.targetControlID ≤ maxIDLen
  close : ∀ pair ∈ job.requiresStage.pairs ++ job.relationshipStage.pairs,
    ∀ model ∈ job.embeddingModels,
      (job.embedded model).distance pair.sourceControlID pair.targetControlID ≤ 1

variable {job} {result : SemanticMatchResult} {reported : Text × Text}

theorem requires_confidence {result : RequiresResult} (mem : result ∈ job.requiresResults) :
    0 ≤ result.confidence ∧ result.confidence ≤ 1 :=
  Requires.stageResult_confidence job.formats.double
    (job.requiresReported (ne_nil_of_mem mem)) mem

theorem relationship_group (mem : result ∈ job.relResults) :
    ∃ key group,
      (groupCasts (job.relationshipStage.tasks.filterMap
        (castVote relationshipAnalyzer job.relationshipConfig.models))).lookup key =
          some group ∧
      Relationship.pairResult job.formats.double.round job.relationshipHost
        job.relationshipConfig group = some result :=
  Relationship.mem_stageResult (job.relationshipReported (ne_nil_of_mem mem)) mem

theorem relationship_confidence (mem : result ∈ job.relResults) :
    0 ≤ result.confidence ∧ result.confidence ≤ 1 := by
  obtain ⟨key, group, lookup, produced⟩ := relationship_group mem
  rw [(Relationship.pairResult_some produced).2.2]
  apply Relationship.groupConsensus_confidence job.formats.double
  exact (group_casts_length_le lookup).trans job.countable

theorem mem_reportedPairs (limits : job.CandidatesWithinLimits)
    (mem : reported ∈ job.reportedPairs) :
    ∃ pair ∈ job.requiresStage.pairs ++ job.relationshipStage.pairs,
      reported = (pair.sourceControlID, pair.targetControlID) := by
  rcases mem_append.mp mem with ofRequires | ofRelationship
  · obtain ⟨result, inResults, rfl⟩ := mem_map.mp ofRequires
    obtain ⟨key, group, _, lookup, source, target, _⟩ :=
      Requires.mem_stageResult (job.requiresReported (ne_nil_of_mem inResults)) inResults
    obtain ⟨pair, listed, ownSource, ownTarget, _⟩ :=
      groupCasts_pair limits.requiresReadable limits.requiresSamples job.requiresPlanned lookup
    exact ⟨pair, mem_append_left _ listed,
      Prod.ext (source.trans ownSource) (target.trans ownTarget)⟩
  · obtain ⟨result, inResults, rfl⟩ := mem_map.mp ofRelationship
    obtain ⟨key, group, lookup, produced⟩ := relationship_group inResults
    obtain ⟨source, target, _⟩ := Relationship.pairResult_some produced
    obtain ⟨pair, listed, ownSource, ownTarget, _⟩ :=
      groupCasts_pair limits.relationshipReadable limits.relationshipSamples
        job.relationshipPlanned lookup
    exact ⟨pair, mem_append_right _ listed,
      Prod.ext (source.trans ownSource) (target.trans ownTarget)⟩

theorem reportedPairs_length_le (limits : job.CandidatesWithinLimits) :
    job.reportedPairs.length ≤
      job.requiresStage.pairs.length + job.relationshipStage.pairs.length := by
  have ofRequires : job.requiresResults.length ≤ job.requiresStage.pairs.length := by
    by_cases none : job.requiresResults = []
    · rw [none]
      exact Nat.zero_le _
    · exact Requires.stageResult_length_le limits.requiresReadable limits.requiresSamples
        job.requiresPlanned (job.requiresReported none)
  have ofRelationship : job.relResults.length ≤ job.relationshipStage.pairs.length := by
    by_cases none : job.relResults = []
    · rw [none]
      exact Nat.zero_le _
    · exact Relationship.stageResult_length_le limits.relationshipReadable
        limits.relationshipSamples job.relationshipPlanned (job.relationshipReported none)
  rw [reportedPairs, length_append, length_map, length_map]
  omega

theorem stats_mean_nonneg {sourceID targetID : Text} (close : ∀ model ∈ job.embeddingModels,
      (job.embedded model).distance sourceID targetID ≤ 1) :
    0 ≤ (job.stats sourceID targetID).mean := by
  apply statsOf_mean_nonneg
  intro value inValues
  obtain ⟨model, listed, read⟩ := mem_filterMap.mp inValues
  rw [mem_insertionSort, mem_dedup] at listed
  unfold EmbeddedControls.value? at read
  split at read
  · cases read
    exact similarityOf_nonneg job.formats (close model listed)
  · cases read

theorem CandidatesWithinLimits.withinLimits (limits : job.CandidatesWithinLimits) :
    job.WithinLimits := by
  refine ⟨(reportedPairs_length_le limits).trans limits.few, ?_, ?_⟩
  · intro reported mem
    obtain ⟨pair, listed, rfl⟩ := mem_reportedPairs limits mem
    obtain ⟨source, target⟩ := job.ofImports pair listed
    obtain ⟨shortSource, shortTarget⟩ := limits.shortIDs pair listed
    exact ⟨⟨source.ne_nil, shortSource⟩, ⟨target.ne_nil, shortTarget⟩⟩
  · intro reported mem
    obtain ⟨pair, listed, rfl⟩ := mem_reportedPairs limits mem
    exact stats_mean_nonneg (limits.close pair listed)

/-- An input that carries a result's pair, the statistics of that pair and a confidence in
range. -/
def Carries (job : AnalyzedJob) (reported : Text × Text) (input : SynthesisInput) : Prop :=
  input.sourceID = reported.1 ∧ input.targetID = reported.2 ∧
    input.similarityScore = .finite (job.stats reported.1 reported.2).mean ∧
    ∃ confidence, input.confidenceFraction = .finite confidence ∧ 0 ≤ confidence ∧ confidence ≤ 1

theorem Carries.inputFault_iff {input : SynthesisInput} (carries : job.Carries reported input) :
    inputFault input = none ↔ (ShortID reported.1 ∧ ShortID reported.2) ∧
      0 ≤ (job.stats reported.1 reported.2).mean := by
  obtain ⟨source, target, score, confidence, weighted, inRange⟩ := carries
  rw [inputFault_eq_none_iff score weighted inRange, source, target, and_assoc]

theorem synthesisInputs_carry (job : AnalyzedJob) :
    ∃ inputs classifications, job.synthesisInputs = .ok (inputs, classifications) ∧
      List.Forall₂ job.Carries job.reportedPairs inputs := by
  obtain ⟨similarityByModel, read, same⟩ := readSimilarities_stats job.stat
    job.formats.double.round job.formats job.embedded job.embeddingModels
  have ofRequires : List.Forall₂ job.Carries
      (job.requiresResults.map fun result => (result.sourceID, result.targetID))
      (job.requiresResults.map
        (requiresInput (similarityStats job.stat job.formats.double.round similarityByModel))) := by
    rw [forall₂_map_left_iff, forall₂_map_right_iff, forall₂_same]
    intro result mem
    refine ⟨rfl, rfl, ?_, _, rfl, requires_confidence mem⟩
    rw [requiresInput, same]
    rfl
  have ofRelationship : ∃ inputs,
      gatherEach (fun result => (relationshipInput
        (similarityStats job.stat job.formats.double.round similarityByModel) result).map ([·]))
          job.relResults = .ok inputs ∧
      List.Forall₂ job.Carries
        (job.relResults.map fun result => (result.sourceID, result.targetID)) inputs := by
    apply gatherEach_forall₂
    intro result mem
    obtain ⟨key, group, _, produced⟩ := relationship_group mem
    obtain ⟨contributionType, unanimous, properties⟩ := relationshipProperties_pairResult produced
    rw [relationshipInput, properties]
    refine ⟨_, rfl, rfl, rfl, ?_, _, rfl, relationship_confidence mem⟩
    rw [same]
    rfl
  obtain ⟨relationshipInputs, gathered, carried⟩ := ofRelationship
  refine ⟨job.requiresResults.map
    (requiresInput (similarityStats job.stat job.formats.double.round similarityByModel)) ++
      relationshipInputs, classificationsOf job.classifyResults, ?_, rel_append ofRequires carried⟩
  rw [synthesisInputs, read]
  simp only [buildSynthesisInputs, gathered]

theorem validateInputs_iff_withinLimits {inputs : List SynthesisInput}
    (carried : List.Forall₂ job.Carries job.reportedPairs inputs) :
    validateInputs inputs = .ok () ↔ job.WithinLimits := by
  rw [validateInputs_eq_ok_iff, ← carried.length_eq]
  have faults : (∀ input ∈ inputs, inputFault input = none) ↔
      ∀ pair ∈ job.reportedPairs, (ShortID pair.1 ∧ ShortID pair.2) ∧
        0 ≤ (job.stats pair.1 pair.2).mean := by
    generalize job.reportedPairs = reported at carried
    induction carried with
    | nil => simp
    | cons carries _ ih =>
      rw [forall_mem_cons, forall_mem_cons, ih, carries.inputFault_iff]
  rw [faults]
  constructor
  · rintro ⟨few, each⟩
    exact ⟨few, fun pair mem => (each pair mem).1, fun pair mem => (each pair mem).2⟩
  · rintro ⟨few, shortIDs, similar⟩
    exact ⟨few, fun pair mem => ⟨shortIDs pair mem, similar pair mem⟩⟩

/-- Synthesis accepts a job's own results exactly when there are at most 10000 of them,
their IDs are at most 256 bytes long and no pair's mean similarity is negative. -/
theorem synthesis_accepts_iff (job : AnalyzedJob) :
    ∃ inputs classifications, job.synthesisInputs = .ok (inputs, classifications) ∧
      (validateInputs inputs = .ok () ↔ job.WithinLimits) ∧
      (job.CandidatesWithinLimits → validateInputs inputs = .ok ()) := by
  obtain ⟨inputs, classifications, built, carried⟩ := job.synthesisInputs_carry
  have accepts := validateInputs_iff_withinLimits carried
  exact ⟨inputs, classifications, built, accepts, fun limits => accepts.mpr limits.withinLimits⟩

end AnalyzedJob

section LevelPair

def operational : Text := controlID ['k'] ['a']

def strategic : Text := controlID ['k'] ['b']

def twoItems (catalogID : Text) : List ControlItem :=
  if catalogID = ['k'] then [{ id := ['a'], parentID := [] }, { id := ['b'], parentID := [] }]
  else []

theorem twoItems_accepted (catalogID : Text) : validateItems (twoItems catalogID) = .ok () := by
  unfold twoItems
  split
  · decide
  · rfl

theorem operational_imported : Imported twoItems operational :=
  ⟨['k'], { id := ['a'], parentID := [] }, by decide, rfl⟩

theorem strategic_imported : Imported twoItems strategic :=
  ⟨['k'], { id := ['b'], parentID := [] }, by decide, rfl⟩

def exactFormats : FloatFormats :=
  { double := Rounding.ideal, single := id, singleMonotone := monotone_id, singleZero := rfl }

def plainStat : StatPackage where
  mean values := values.sum / values.length
  variance values :=
    let deviations := values.map (· - values.sum / values.length)
    (deviations.map (· ^ 2)).sum / (values.length - 1)
  meanNonneg _ nonneg := div_nonneg (sum_nonneg nonneg) (Nat.cast_nonneg _)

def embeddedApart (distance : ℚ) (bounds : 0 ≤ distance ∧ distance ≤ 2) : EmbeddedControls :=
  { controls := [operational, strategic]
    distinct := by decide
    distance := fun sourceID targetID => if sourceID = targetID then 0 else distance
    bounds := by
      intro sourceID targetID
      split
      · exact ⟨le_refl 0, by norm_num⟩
      · exact bounds
    order := id
    orders := fun _ => List.Perm.refl _ }

def levelPair : CandidatePair :=
  { sourceControlID := operational, targetControlID := strategic, score := 1 }

def agreedResult : RequiresResult :=
  { sourceID := operational, targetID := strategic, confidence := 1, unanimous := true
    validVotes := 1, totalVotes := 1, models := [['m']] }

def agreedTask : TaskResult :=
  { taskID := "requires-k/a--k/b-m-s0".toList, outcome := .ok (some "REQUIRES: YES".toList) }

def oneVote : RequiresConfig := { Requires.fourVotes with samplesPerModel := 1 }

def equalWeights : Relationship.ConfidenceWeights :=
  { high := 1, medium := 1, low := 1, lowPositive := zero_lt_one
    ordered := ⟨le_refl 1, le_refl 1⟩, bounded := le_refl 1 }

def levelJob (distance : ℚ) (bounds : 0 ≤ distance ∧ distance ≤ 2) : AnalyzedJob :=
  { imports := twoItems
    accepted := twoItems_accepted
    formats := exactFormats
    stat := plainStat
    requiresConfig := oneVote
    relationshipConfig := { oneVote.toPairConfig with confidenceWeights := equalWeights }
    relationshipHost :=
      { visit := id, visits := fun _ => List.Perm.refl _, formatFloat := fun _ => []
        itoa := fun _ => [] }
    requiresStage := { pairs := [levelPair], tasks := [agreedTask] }
    relationshipStage := { pairs := [], tasks := [] }
    ofImports := by
      intro pair listed
      rw [mem_singleton.mp listed]
      exact ⟨operational_imported, strategic_imported⟩
    requiresPlanned := by
      intro result listed
      rw [mem_singleton.mp listed]
      exact ⟨levelPair, mem_singleton.mpr rfl, by decide⟩
    relationshipPlanned := fun result listed => by cases listed
    countable := Nat.zero_le _
    classifyResults := []
    requiresResults := [agreedResult]
    relResults := []
    requiresReported := fun _ => by decide +kernel
    relationshipReported := fun some => absurd rfl some
    embeddingModels := [['e']]
    embedded := fun _ => embeddedApart distance bounds }

def levelControls : Controls :=
  ({ entries :=
      [⟨operational, { text := ['x'], type := [], level := "Operational".toList, ancestor := [] }⟩,
       ⟨strategic, { text := ['x'], type := [], level := "Strategic".toList, ancestor := [] }⟩]
     nodupKeys := by
       simp [List.NodupKeys, List.keys, operational, strategic, controlID] } : AList fun _ : Text => ControlData)

def levelAttempt (matrix : SimilarityMatrix) : Attempt :=
  { retriedAttempt [] [] .stored with
    controls := fun catalogID =>
      if catalogID = ['k'] then .ok levelControls else .error .failed
    own := by
      intro left right leftControls rightControls id ofLeft ofRight _ _
      have only : ∀ {catalogID : Text} {controls : Controls},
          (if catalogID = ['k'] then Except.ok levelControls
            else Except.error ReadError.failed) = .ok controls → catalogID = ['k'] := by
        intro catalogID controls read
        by_contra other
        rw [if_neg other] at read
        cases read
      rw [only ofLeft, only ofRight]
    embeddings := fun _ => .ok matrix }

theorem apartBounds : (0 : ℚ) ≤ 3 / 2 ∧ (3 : ℚ) / 2 ≤ 2 := by norm_num

theorem nearBounds : (0 : ℚ) ≤ 1 / 2 ∧ (1 : ℚ) / 2 ≤ 2 := by norm_num

def apartMatrix : SimilarityMatrix :=
  ((similarityMatrix ((embeddedApart (3 / 2) apartBounds).rows exactFormats)).toOption).getD
    noSimilarities

/-- The candidates the level generator proposes are the job's pair, at a cosine distance of
3/2. The panel agrees on it, and synthesis refuses the job. -/
theorem negative_similarity_refused :
    ((prepare levelOnly (levelAttempt apartMatrix) oneCatalog).toOption.map fun prepared =>
        (prepared.1.map Candidate.pair,
          prepared.2.value? operational strategic)) =
      some ([(operational, strategic)], some (-50)) ∧
    (levelJob (3 / 2) apartBounds).requiresStage.pairs = [levelPair] ∧
    ((levelJob (3 / 2) apartBounds).synthesisInputs.toOption.map fun built =>
        validateInputs built.1) =
      some (.error (.input 0 .negativeSimilarityScore)) := by
  refine ⟨?_, rfl, ?_⟩
  · decide +kernel
  · decide +kernel

theorem levelJob_candidatesWithinLimits :
    (levelJob (1 / 2) nearBounds).CandidatesWithinLimits := by
  refine ⟨by decide, by decide, by decide, by decide, by decide, by decide, ?_⟩
  intro pair listed model _
  rw [mem_singleton.mp listed]
  change (if operational = strategic then (0 : ℚ) else 1 / 2) ≤ 1
  decide +kernel

theorem near_pair_accepted :
    ∃ inputs classifications,
      (levelJob (1 / 2) nearBounds).synthesisInputs = .ok (inputs, classifications) ∧
        validateInputs inputs = .ok () := by
  obtain ⟨inputs, classifications, built, _, accepted⟩ :=
    AnalyzedJob.synthesis_accepts_iff (levelJob (1 / 2) nearBounds)
  exact ⟨inputs, classifications, built, accepted levelJob_candidatesWithinLimits⟩

end LevelPair

end CrossCodex.Pipeline
