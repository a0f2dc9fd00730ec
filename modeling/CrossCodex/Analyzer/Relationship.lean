/-
The relationship analyzer over the results of its tasks (internal/analyzer/relationship:
ParseResponse, ComputeConsensus, Aggregate).
-/

import CrossCodex.Analyzer.PairVotes
import CrossCodex.Analyzer.Results
import CrossCodex.Library.Rounding
import Mathlib.Data.Char
import Mathlib.Data.List.Lex
import Mathlib.Data.List.Sort
import Mathlib.Data.Rat.Floor

namespace CrossCodex.Analyzer

open Library List

/-- In the order of tie breaking. -/
inductive RelationshipType where
  | equivalent
  | supersetOf
  | subsetOf
  | contributesTo
  | complements
  | partiallyRelated
  | conflictsWith
  | noRelationship
deriving DecidableEq, Repr

def RelationshipType.name : RelationshipType → Text
  | .equivalent => "EQUIVALENT".toList
  | .supersetOf => "SUPERSET_OF".toList
  | .subsetOf => "SUBSET_OF".toList
  | .contributesTo => "CONTRIBUTES_TO".toList
  | .complements => "COMPLEMENTS".toList
  | .partiallyRelated => "PARTIAL".toList
  | .conflictsWith => "CONFLICTS_WITH".toList
  | .noRelationship => "NO_RELATIONSHIP".toList

def relationshipPriority : List RelationshipType :=
  [.equivalent, .supersetOf, .subsetOf, .contributesTo, .complements, .partiallyRelated,
    .conflictsWith, .noRelationship]

theorem mem_relationshipPriority (kind : RelationshipType) : kind ∈ relationshipPriority := by
  cases kind <;> decide

inductive ContributionType where
  | unspecified
  | integralTo
  | exampleOf
deriving DecidableEq, Repr

def ContributionType.name : ContributionType → Text
  | .unspecified => []
  | .integralTo => "INTEGRAL_TO".toList
  | .exampleOf => "EXAMPLE_OF".toList

def parseContributionType (word : Text) : ContributionType :=
  if word = ContributionType.integralTo.name then .integralTo
  else if word = ContributionType.exampleOf.name then .exampleOf
  else .unspecified

inductive ConfidenceLevel where
  | high
  | medium
  | low
deriving DecidableEq, Repr

structure RelationshipVote where
  relationship : RelationshipType
  contributionType : ContributionType
  confidence : ConfidenceLevel
deriving DecidableEq

namespace Relationship

def upperRelationshipType (word : Text) : Option RelationshipType :=
  relationshipPriority.find? fun kind => readsAs uppersTo kind.name word

def upperContributionType (word : Text) : ContributionType :=
  if readsAs uppersTo ContributionType.integralTo.name word then .integralTo
  else if readsAs uppersTo ContributionType.exampleOf.name word then .exampleOf
  else .unspecified

def upperConfidenceLevel (word : Text) : ConfidenceLevel :=
  if readsAs uppersTo "HIGH".toList word then .high
  else if readsAs uppersTo "MEDIUM".toList word then .medium
  else .low

/-- ParseResponse; `none` is PARSE_FAIL. -/
def parseResponse (raw : Text) : Option RelationshipVote :=
  match (labelledWord "RELATIONSHIP:".toList raw).bind upperRelationshipType with
  | none => none
  | some relationship =>
    some
      { relationship
        contributionType :=
          ((labelledWord "CONTRIBUTION_TYPE:".toList raw).map upperContributionType).getD
            .unspecified
        confidence :=
          ((labelledWord "CONFIDENCE:".toList raw).map upperConfidenceLevel).getD .low }

/-- Weights of the reported confidence, as config validation accepts them. -/
structure ConfidenceWeights where
  high : ℚ
  medium : ℚ
  low : ℚ
  lowPositive : 0 < low
  ordered : low ≤ medium ∧ medium ≤ high
  bounded : high ≤ 1

def ConfidenceWeights.of (weights : ConfidenceWeights) : ConfidenceLevel → ℚ
  | .high => weights.high
  | .medium => weights.medium
  | .low => weights.low

theorem ConfidenceWeights.of_nonneg (weights : ConfidenceWeights) (level : ConfidenceLevel) :
    0 ≤ weights.of level := by
  have low := weights.lowPositive.le
  have medium := low.trans weights.ordered.1
  cases level with
  | high => exact medium.trans weights.ordered.2
  | medium => exact medium
  | low => exact low

theorem ConfidenceWeights.of_le_one (weights : ConfidenceWeights) (level : ConfidenceLevel) :
    weights.of level ≤ 1 := by
  have medium := weights.ordered.2.trans weights.bounded
  cases level with
  | high => exact weights.bounded
  | medium => exact medium
  | low => exact weights.ordered.1.trans medium

structure Consensus where
  relationship : RelationshipType
  contributionType : ContributionType
  confidenceFraction : ℚ
  agreementFraction : ℚ
  unanimous : Bool
  validVoteCount : Nat
deriving DecidableEq

/-- math.Round. -/
def roundHalfAway (value : ℚ) : ℤ :=
  if 0 ≤ value then ⌊value + 1 / 2⌋ else -⌊-value + 1 / 2⌋

def toThreeDecimals (fl : ℚ → ℚ) (value : ℚ) : ℚ :=
  fl (roundHalfAway (fl (value * 1000)) / 1000)

variable (valid : List RelationshipVote)

def countOf (kind : RelationshipType) : Nat :=
  valid.countP fun vote => vote.relationship = kind

def maxCount : Nat :=
  (relationshipPriority.map (countOf valid)).foldl max 0

def winner : RelationshipType :=
  (relationshipPriority.find? fun kind => countOf valid kind = maxCount valid).getD .noRelationship

/-- The weights of the winning votes, added up in the order the votes are visited. -/
def weightSum (fl : ℚ → ℚ) (weights : ConfidenceWeights) (valid : List RelationshipVote) : ℚ :=
  (valid.filter fun vote => vote.relationship = winner valid).foldl
    (fun sum vote => fl (sum + weights.of vote.confidence)) 0

/-- INTEGRAL_TO wins ties. -/
def contributionOf : ContributionType :=
  let contributing := valid.filter fun vote => vote.relationship = .contributesTo
  let integral := contributing.countP fun vote => vote.contributionType = .integralTo
  let example_ := contributing.countP fun vote => vote.contributionType = .exampleOf
  if winner valid ≠ .contributesTo then .unspecified
  else if example_ ≤ integral ∧ 0 < integral then .integralTo
  else if 0 < example_ then .exampleOf
  else .unspecified

def noConsensus : Consensus where
  relationship := .noRelationship
  contributionType := .unspecified
  confidenceFraction := 0
  agreementFraction := 0
  unanimous := false
  validVoteCount := 0

/-- ComputeConsensus over the readable votes of a pair, in the order they are visited. -/
def computeConsensus (fl : ℚ → ℚ) (weights : ConfidenceWeights)
    (valid : List RelationshipVote) : Consensus :=
  if valid = [] then noConsensus
  else
    let top := maxCount valid
    let agreement := fl (fl top / fl valid.length)
    { relationship := winner valid
      contributionType := contributionOf valid
      confidenceFraction :=
        toThreeDecimals fl (fl (fl (agreement * weightSum fl weights valid) / fl top))
      agreementFraction := toThreeDecimals fl agreement
      unanimous := top = valid.length
      validVoteCount := valid.length }

end Relationship

structure RelationshipConfig extends PairConfig where
  confidenceWeights : Relationship.ConfidenceWeights

structure RelationshipHost where
  visit : List (Option RelationshipVote) → List (Option RelationshipVote)
  visits : ∀ votes, (visit votes).Perm votes
  formatFloat : ℚ → Text
  itoa : Nat → Text

namespace Relationship

def contributionTypeKey : Text := "contribution_type".toList

def unanimousKey : Text := "unanimous".toList

def formatBool (value : Bool) : Text :=
  if value then "true".toList else "false".toList

def groupVotes (group : PairGroup) : List (Option RelationshipVote) :=
  (upsertAll (∅ : Table Text (Option RelationshipVote)) (group.casts.map fun cast =>
    (cast.taskID, parseResponse cast.raw))).entries.map fun entry => entry.2

def groupConsensus (fl : ℚ → ℚ) (host : RelationshipHost) (cfg : RelationshipConfig)
    (group : PairGroup) : Consensus :=
  computeConsensus fl cfg.confidenceWeights ((host.visit (groupVotes group)).filterMap id)

def pairResult (fl : ℚ → ℚ) (host : RelationshipHost) (cfg : RelationshipConfig)
    (group : PairGroup) : Option SemanticMatchResult :=
  let consensus := groupConsensus fl host cfg group
  if consensus.relationship = .noRelationship then none
  else
    some
      { sourceID := group.source, targetID := group.target
        relationshipType := consensus.relationship.name
        confidence := consensus.confidenceFraction
        properties :=
          [(contributionTypeKey, consensus.contributionType.name),
            (unanimousKey, formatBool consensus.unanimous),
            ("valid_vote_count".toList, host.itoa consensus.validVoteCount),
            ("agreement_fraction".toList, host.formatFloat consensus.agreementFraction)] }

def aggregate (fl : ℚ → ℚ) (host : RelationshipHost) (cfg : RelationshipConfig)
    (results : List TaskResult) : List SemanticMatchResult :=
  let groups := groupCasts (results.filterMap (castVote relationshipAnalyzer cfg.models))
  (groups.keys.insertionSort (· ≤ ·)).filterMap fun key =>
    (groups.lookup key).bind (pairResult fl host cfg)

def stageResult (fl : ℚ → ℚ) (host : RelationshipHost) (cfg : RelationshipConfig)
    (results : List TaskResult) : Except StageFailure (List SemanticMatchResult) :=
  match aggregateInput results with
  | .error failure => .error failure
  | .ok input => .ok (aggregate fl host cfg input)

variable (rounding : Rounding) {cfg : RelationshipConfig} {host : RelationshipHost} {fl : ℚ → ℚ}
  {found : List SemanticMatchResult} {valid : List RelationshipVote} {result : SemanticMatchResult}
  {results : List TaskResult} {group : PairGroup}

theorem toThreeDecimals_bounds {value : ℚ} (nonneg : 0 ≤ value) (bounded : value ≤ 1) :
    0 ≤ toThreeDecimals rounding.round value ∧ toThreeDecimals rounding.round value ≤ 1 := by
  have scaled : 0 ≤ rounding.round (value * 1000) := rounding.round_nonneg (by linarith)
  have capped : rounding.round (value * 1000) ≤ (1000 : Nat) :=
    rounding.round_le_natCast (by norm_num) (by push_cast; linarith)
  have above : (0 : ℤ) ≤ roundHalfAway (rounding.round (value * 1000)) := by
    rw [roundHalfAway, if_pos scaled]
    exact Int.floor_nonneg.mpr (by linarith)
  have below : roundHalfAway (rounding.round (value * 1000)) ≤ 1000 := by
    rw [roundHalfAway, if_pos scaled]
    have room : rounding.round (value * 1000) + 1 / 2 < (1001 : ℤ) := by
      push_cast at capped ⊢
      linarith
    exact Int.le_of_lt_add_one (Int.floor_lt.mpr room)
  have aboveCast : (0 : ℚ) ≤ roundHalfAway (rounding.round (value * 1000)) := by
    exact_mod_cast above
  have belowCast : (roundHalfAway (rounding.round (value * 1000)) : ℚ) ≤ 1000 := by
    exact_mod_cast below
  constructor
  · exact rounding.round_nonneg (by linarith)
  · exact rounding.round_le_one (by linarith)

theorem foldl_max_spec (counts : List Nat) (start : Nat) :
    (counts.foldl max start = start ∨ counts.foldl max start ∈ counts) ∧
      ∀ count ∈ start :: counts, count ≤ counts.foldl max start := by
  induction counts generalizing start with
  | nil => simp
  | cons count rest ih =>
    obtain ⟨attained, above⟩ := ih (max start count)
    have top := above (max start count) mem_cons_self
    rw [foldl_cons]
    constructor
    · rcases attained with same | later
      · rcases max_choice start count with first | second
        · exact .inl (same.trans first)
        · exact .inr (mem_cons.mpr (.inl (same.trans second)))
      · exact .inr (mem_cons_of_mem _ later)
    · intro other mem
      rcases mem_cons.mp mem with rfl | inRest
      · exact (le_max_left other count).trans top
      · rcases mem_cons.mp inRest with rfl | later
        · exact (le_max_right start other).trans top
        · exact above other (mem_cons_of_mem _ later)

theorem countOf_le_maxCount (valid : List RelationshipVote) (kind : RelationshipType) :
    countOf valid kind ≤ maxCount valid :=
  (foldl_max_spec _ 0).2 _ (mem_cons_of_mem _
    (mem_map_of_mem (mem_relationshipPriority kind)))

theorem countOf_winner (valid : List RelationshipVote) :
    countOf valid (winner valid) = maxCount valid := by
  have attained : ∃ kind, countOf valid kind = maxCount valid := by
    rcases (foldl_max_spec (relationshipPriority.map (countOf valid)) 0).1 with none | attained
    · have least := countOf_le_maxCount valid .equivalent
      have zero : maxCount valid = 0 := none
      exact ⟨.equivalent, by omega⟩
    · obtain ⟨kind, _, count⟩ := mem_map.mp attained
      exact ⟨kind, count⟩
  unfold winner
  cases found : relationshipPriority.find? fun kind => countOf valid kind = maxCount valid with
  | some kind =>
    have matched := find?_some found
    exact of_decide_eq_true matched
  | none =>
    obtain ⟨kind, count⟩ := attained
    have missed := find?_eq_none.mp found kind (mem_relationshipPriority kind)
    exact absurd (decide_eq_true count) missed

theorem maxCount_le_length (valid : List RelationshipVote) : maxCount valid ≤ valid.length := by
  rw [← countOf_winner]
  exact countP_le_length

theorem weightSum_bounds (weights : ConfidenceWeights) (few : valid.length ≤ 2 ^ 53) :
    0 ≤ weightSum rounding.round weights valid ∧
      weightSum rounding.round weights valid ≤ (maxCount valid : ℚ) := by
  have extend : ∀ (votes : List RelationshipVote) (start : ℚ) (counted : Nat), 0 ≤ start →
      start ≤ counted → counted + votes.length ≤ 2 ^ 53 →
      0 ≤ votes.foldl (fun sum vote => rounding.round (sum + weights.of vote.confidence)) start ∧
        votes.foldl (fun sum vote => rounding.round (sum + weights.of vote.confidence)) start ≤
          ((counted + votes.length : Nat) : ℚ) := by
    intro votes
    induction votes with
    | nil =>
      intro start counted nonneg bounded _
      exact ⟨nonneg, bounded⟩
    | cons vote rest ih =>
      intro start counted nonneg bounded small
      rw [length_cons] at small ⊢
      have weight := weights.of_nonneg vote.confidence
      have light := weights.of_le_one vote.confidence
      have next := ih (rounding.round (start + weights.of vote.confidence)) (counted + 1)
        (rounding.round_nonneg (add_nonneg nonneg weight))
        (rounding.round_le_natCast (by omega) (by push_cast; linarith)) (by omega)
      rw [foldl_cons]
      rwa [show counted + (rest.length + 1) = counted + 1 + rest.length by omega]
  have winners : (valid.filter fun vote => vote.relationship = winner valid).length =
      maxCount valid := by
    rw [← countOf_winner, countOf, countP_eq_length_filter]
  have bounds := extend (valid.filter fun vote => vote.relationship = winner valid) 0 0
    (le_refl 0) (by simp) (by
      rw [winners, Nat.zero_add]
      exact (maxCount_le_length valid).trans few)
  rwa [winners, Nat.zero_add] at bounds

theorem computeConsensus_confidence (weights : ConfidenceWeights) (few : valid.length ≤ 2 ^ 53) :
    0 ≤ (computeConsensus rounding.round weights valid).confidenceFraction ∧
      (computeConsensus rounding.round weights valid).confidenceFraction ≤ 1 := by
  unfold computeConsensus
  split
  · exact ⟨le_refl 0, zero_le_one⟩
  · have topFew := (maxCount_le_length valid).trans few
    have top := rounding.exact (maxCount valid) topFew
    have total := rounding.exact valid.length few
    have topNonneg : (0 : ℚ) ≤ maxCount valid := Nat.cast_nonneg _
    have share : (maxCount valid : ℚ) ≤ valid.length := by
      exact_mod_cast maxCount_le_length valid
    obtain ⟨sumNonneg, sumBounded⟩ := weightSum_bounds rounding weights few
    have agreementNonneg : 0 ≤ rounding.round ((maxCount valid : ℚ) / valid.length) :=
      rounding.round_nonneg (div_nonneg topNonneg (Nat.cast_nonneg _))
    have agreementBounded : rounding.round ((maxCount valid : ℚ) / valid.length) ≤ 1 :=
      rounding.round_le_one (div_le_one_of_le₀ share (Nat.cast_nonneg _))
    have productBounded : rounding.round (rounding.round ((maxCount valid : ℚ) / valid.length) *
        weightSum rounding.round weights valid) ≤ maxCount valid := by
      apply rounding.round_le_natCast topFew
      calc rounding.round ((maxCount valid : ℚ) / valid.length) *
            weightSum rounding.round weights valid
          ≤ 1 * weightSum rounding.round weights valid :=
            mul_le_mul_of_nonneg_right agreementBounded sumNonneg
        _ ≤ maxCount valid := by rw [one_mul]; exact sumBounded
    have productNonneg := rounding.round_nonneg (mul_nonneg agreementNonneg sumNonneg)
    simp only [top, total]
    apply toThreeDecimals_bounds rounding
    · exact rounding.round_nonneg (div_nonneg productNonneg topNonneg)
    · exact rounding.round_le_one (div_le_one_of_le₀ productBounded topNonneg)

theorem groupVotes_length_le (group : PairGroup) :
    (groupVotes group).length ≤ group.casts.length := by
  have bound := length_upsertAll_le (∅ : Table Text (Option RelationshipVote))
    (group.casts.map fun cast => (cast.taskID, parseResponse cast.raw))
  simpa [groupVotes] using bound

theorem groupConsensus_confidence (host : RelationshipHost) (cfg : RelationshipConfig)
    (few : group.casts.length ≤ 2 ^ 53) :
    0 ≤ (groupConsensus rounding.round host cfg group).confidenceFraction ∧
      (groupConsensus rounding.round host cfg group).confidenceFraction ≤ 1 := by
  apply computeConsensus_confidence rounding
  calc ((host.visit (groupVotes group)).filterMap id).length
      ≤ (host.visit (groupVotes group)).length := length_filterMap_le _ _
    _ = (groupVotes group).length := (host.visits _).length_eq
    _ ≤ group.casts.length := groupVotes_length_le group
    _ ≤ 2 ^ 53 := few

theorem pairResult_some (produced : pairResult fl host cfg group = some result) :
    result.sourceID = group.source ∧ result.targetID = group.target ∧
      result.confidence = (groupConsensus fl host cfg group).confidenceFraction := by
  unfold pairResult at produced
  simp only at produced
  split at produced
  · cases produced
  · cases produced
    exact ⟨rfl, rfl, rfl⟩

theorem mem_stageResult (returned : stageResult fl host cfg results = .ok found)
    (mem : result ∈ found) :
    ∃ key group,
      (groupCasts (results.filterMap (castVote relationshipAnalyzer cfg.models))).lookup key =
        some group ∧ pairResult fl host cfg group = some result := by
  unfold stageResult at returned
  split at returned
  · cases returned
  rename_i input handed
  cases returned
  unfold aggregate at mem
  rw [aggregateInput_casts handed relationshipAnalyzer cfg.models] at mem
  obtain ⟨key, _, produced⟩ := mem_filterMap.mp mem
  obtain ⟨group, lookup, made⟩ := Option.bind_eq_some_iff.mp produced
  exact ⟨key, group, lookup, made⟩

theorem stageResult_length_le {pairs : List CandidatePair} (readable : Readable cfg.models pairs)
    (samples : cfg.samplesPerModel ≤ 2 ^ 63)
    (planned : OfPairs relationshipAnalyzer cfg.toPanelConfig pairs results)
    (returned : stageResult fl host cfg results = .ok found) : found.length ≤ pairs.length := by
  unfold stageResult at returned
  split at returned
  · cases returned
  rename_i input handed
  cases returned
  unfold aggregate
  rw [aggregateInput_casts handed relationshipAnalyzer cfg.models]
  apply (length_filterMap_le _ _).trans
  rw [length_insertionSort]
  exact groupCasts_length_le readable samples planned

end Relationship

end CrossCodex.Analyzer
