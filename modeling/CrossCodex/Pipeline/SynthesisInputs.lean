/-
buildSynthesisInputs and relationshipProperties (internal/pipeline/synthesis_inputs.go),
validateInputs (internal/synthesis/service.go). A score may be no number.
-/

import CrossCodex.Analyzer.Relationship
import CrossCodex.Pipeline.Similarities

namespace CrossCodex.Pipeline

open Library Candidates Analyzer
open Analyzer.Relationship (contributionTypeKey unanimousKey formatBool)

inductive Float64 where
  | finite (value : ℚ)
  | nan
  | infinite (positive : Bool)
deriving DecidableEq

namespace Float64

/-- `x < bound`; NaN compares as false. -/
def below (number : Float64) (bound : ℚ) : Bool :=
  match number with
  | .finite value => value < bound
  | .nan => false
  | .infinite positive => !positive

def above (number : Float64) (bound : ℚ) : Bool :=
  match number with
  | .finite value => bound < value
  | .nan => false
  | .infinite positive => positive

def isFinite : Float64 → Bool
  | .finite _ => true
  | .nan => false
  | .infinite _ => false

end Float64

structure SynthesisInput where
  sourceID : Text
  targetID : Text
  similarityScore : Float64
  similarityMedian : Float64
  similarityVar : Float64
  similarityCount : Nat
  consensusRelationship : Text
  analyzer : Text
  contributionType : Text
  confidenceFraction : Float64
  unanimous : Bool
deriving DecidableEq

structure ClassifyResult where
  controlID : Text
  type : Text
  level : Text

structure Classification where
  type : Text
  level : Text
deriving DecidableEq

inductive CorruptResult where
  | missingProperty (sourceID targetID key : Text)
  | unknownContributionType (sourceID targetID value : Text)
  | nonBoolean (sourceID targetID value : Text)
deriving DecidableEq

def parseBool (text : Text) : Option Bool :=
  if text ∈ ["1", "t", "T", "TRUE", "true", "True"].map String.toList then some true
  else if text ∈ ["0", "f", "F", "FALSE", "false", "False"].map String.toList then some false
  else none

def relationshipProperties (result : SemanticMatchResult) :
    Except CorruptResult (Text × Bool) :=
  match result.properties.lookup contributionTypeKey with
  | none => .error (.missingProperty result.sourceID result.targetID contributionTypeKey)
  | some contributionType =>
    if (parseContributionType contributionType).name ≠ contributionType then
      .error (.unknownContributionType result.sourceID result.targetID contributionType)
    else
      match result.properties.lookup unanimousKey with
      | none => .error (.missingProperty result.sourceID result.targetID unanimousKey)
      | some rawUnanimous =>
        match parseBool rawUnanimous with
        | none => .error (.nonBoolean result.sourceID result.targetID rawUnanimous)
        | some unanimous => .ok (contributionType, unanimous)

section Build

variable (stats : Text → Text → SimilarityStats)

def requiresInput (result : RequiresResult) : SynthesisInput :=
  let similarity := stats result.sourceID result.targetID
  { sourceID := result.sourceID
    targetID := result.targetID
    similarityScore := .finite similarity.mean
    similarityMedian := .finite similarity.median
    similarityVar := .finite similarity.variance
    similarityCount := similarity.count
    consensusRelationship := consensusRequires
    analyzer := requiresAnalyzer
    contributionType := []
    confidenceFraction := .finite result.confidence
    unanimous := result.unanimous }

def relationshipInput (result : SemanticMatchResult) :
    Except CorruptResult SynthesisInput :=
  match relationshipProperties result with
  | .error cause => .error cause
  | .ok (contributionType, unanimous) =>
    let similarity := stats result.sourceID result.targetID
    .ok
      { sourceID := result.sourceID
        targetID := result.targetID
        similarityScore := .finite similarity.mean
        similarityMedian := .finite similarity.median
        similarityVar := .finite similarity.variance
        similarityCount := similarity.count
        consensusRelationship := result.relationshipType
        analyzer := relationshipAnalyzer
        contributionType
        confidenceFraction := .finite result.confidence
        unanimous }

end Build

def classificationsOf (classifyResults : List ClassifyResult) : Table Text Classification :=
  upsertAll ∅ (classifyResults.map fun result => (result.controlID, ⟨result.type, result.level⟩))

def buildSynthesisInputs (stat : StatPackage) (fl : ℚ → ℚ)
    (classifyResults : List ClassifyResult) (requiresResults : List RequiresResult)
    (relResults : List SemanticMatchResult) (similarityByModel : Table Text SimilarityMatrix) :
    Except CorruptResult (List SynthesisInput × Table Text Classification) :=
  let stats := similarityStats stat fl similarityByModel
  match gatherEach (fun result => (relationshipInput stats result).map ([·])) relResults with
  | .error cause => .error cause
  | .ok relationshipInputs =>
    .ok (requiresResults.map (requiresInput stats) ++ relationshipInputs,
      classificationsOf classifyResults)

def maxInputs : Nat := 10000

def maxIDLen : Nat := 256

/-- `len` of a string: its bytes in UTF-8. -/
def byteLength (text : Text) : Nat := (text.map Char.utf8Size).sum

inductive InputFault where
  | emptySourceID
  | longSourceID
  | emptyTargetID
  | longTargetID
  | invalidSimilarityScore
  | negativeSimilarityScore
  | confidenceFractionOutside (value : Float64)
deriving DecidableEq

inductive InvalidInput where
  | tooManyInputs (count : Nat)
  | input (index : Nat) (fault : InputFault)
deriving DecidableEq

def inputFault (input : SynthesisInput) : Option InputFault :=
  if input.sourceID = [] then some .emptySourceID
  else if maxIDLen < byteLength input.sourceID then some .longSourceID
  else if input.targetID = [] then some .emptyTargetID
  else if maxIDLen < byteLength input.targetID then some .longTargetID
  else if !input.similarityScore.isFinite then some .invalidSimilarityScore
  else if input.similarityScore.below 0 then some .negativeSimilarityScore
  else if input.confidenceFraction.below 0 || input.confidenceFraction.above 1 then
    some (.confidenceFractionOutside input.confidenceFraction)
  else none

def validateFrom (index : Nat) : List SynthesisInput → Except InvalidInput Unit
  | [] => .ok ()
  | input :: rest =>
    match inputFault input with
    | some fault => .error (.input index fault)
    | none => validateFrom (index + 1) rest

def validateInputs (inputs : List SynthesisInput) : Except InvalidInput Unit :=
  if maxInputs < inputs.length then .error (.tooManyInputs inputs.length)
  else validateFrom 0 inputs

def ShortID (id : Text) : Prop := id ≠ [] ∧ byteLength id ≤ maxIDLen

instance decidableShortID (id : Text) : Decidable (ShortID id) :=
  inferInstanceAs (Decidable (_ ∧ _))

variable {inputs : List SynthesisInput}

theorem validateFrom_eq_ok_iff {index : Nat} :
    validateFrom index inputs = .ok () ↔ ∀ input ∈ inputs, inputFault input = none := by
  induction inputs generalizing index with
  | nil => simp [validateFrom]
  | cons input rest ih =>
    cases fault : inputFault input with
    | none => simp [validateFrom, fault, ih]
    | some found => simp [validateFrom, fault]

theorem validateInputs_eq_ok_iff :
    validateInputs inputs = .ok () ↔
      inputs.length ≤ maxInputs ∧ ∀ input ∈ inputs, inputFault input = none := by
  unfold validateInputs
  split
  · rename_i many
    simp only [reduceCtorEq, false_iff]
    rintro ⟨few, _⟩
    omega
  · rename_i few
    rw [validateFrom_eq_ok_iff]
    simp [Nat.le_of_not_lt few]

theorem inputFault_eq_none_iff {input : SynthesisInput} {score confidence : ℚ}
    (scored : input.similarityScore = .finite score)
    (weighted : input.confidenceFraction = .finite confidence)
    (inRange : 0 ≤ confidence ∧ confidence ≤ 1) :
    inputFault input = none ↔ ShortID input.sourceID ∧ ShortID input.targetID ∧ 0 ≤ score := by
  have above : ¬ confidence < 0 := not_lt.mpr inRange.1
  have below : ¬ 1 < confidence := not_lt.mpr inRange.2
  unfold inputFault ShortID
  rw [scored, weighted]
  simp only [Float64.isFinite, Float64.below, Float64.above, above, below]
  by_cases emptySource : input.sourceID = []
  · simp [emptySource]
  by_cases longSource : maxIDLen < byteLength input.sourceID
  · simp [emptySource, longSource, Nat.not_le.mpr longSource]
  by_cases emptyTarget : input.targetID = []
  · simp [emptySource, longSource, emptyTarget]
  by_cases longTarget : maxIDLen < byteLength input.targetID
  · simp [emptySource, longSource, emptyTarget, longTarget, Nat.not_le.mpr longTarget]
  simp [emptySource, longSource, emptyTarget, longTarget, Nat.le_of_not_lt longSource,
    Nat.le_of_not_lt longTarget]

theorem parseContributionType_name (kind : ContributionType) :
    parseContributionType kind.name = kind := by
  cases kind <;> decide

theorem parseBool_formatBool (value : Bool) : parseBool (formatBool value) = some value := by
  cases value <;> decide

theorem relationshipProperties_pairResult {fl : ℚ → ℚ} {host : RelationshipHost}
    {cfg : RelationshipConfig} {group : PairGroup} {result : SemanticMatchResult}
    (produced : Relationship.pairResult fl host cfg group = some result) :
    ∃ contributionType unanimous,
      relationshipProperties result = .ok (contributionType, unanimous) := by
  unfold Relationship.pairResult at produced
  simp only at produced
  split at produced
  · cases produced
  cases produced
  refine ⟨(Relationship.groupConsensus fl host cfg group).contributionType.name,
    (Relationship.groupConsensus fl host cfg group).unanimous, ?_⟩
  have other : (unanimousKey == contributionTypeKey) = false := by decide
  simp [relationshipProperties, List.lookup_cons, parseContributionType_name,
    parseBool_formatBool, other]

end CrossCodex.Pipeline
