/-
The artifacts analyzer over the results of its tasks (internal/analyzer/artifacts:
Aggregate). How a response is cut into artifacts and how names are compared are parameters.
-/

import CrossCodex.Analyzer.Relationship

namespace CrossCodex.Analyzer.Artifacts

open Library

/-- The order of the constructors is the order in which a tie is decided. -/
inductive ArtifactType where
  | policy
  | procedure
  | plan
  | report
  | record
  | configuration
  | mechanism
  | role
  | process
deriving DecidableEq, Repr

def ArtifactType.string : ArtifactType → Text
  | .policy => "POLICY".toList
  | .procedure => "PROCEDURE".toList
  | .plan => "PLAN".toList
  | .report => "REPORT".toList
  | .record => "RECORD".toList
  | .configuration => "CONFIGURATION".toList
  | .mechanism => "MECHANISM".toList
  | .role => "ROLE".toList
  | .process => "PROCESS".toList

def allArtifactTypes : List ArtifactType :=
  [.policy, .procedure, .plan, .report, .record, .configuration, .mechanism, .role, .process]

inductive ParseStatus where
  | ok
  | fail
  | none
deriving DecidableEq, Repr

structure ExtractedArtifact where
  name : Text
  type : ArtifactType
  frequency : Text
  ownerRole : Text
  description : Text
  properties : List (Text × Text)
deriving DecidableEq

structure Vote where
  voteKey : Text
  model : Text
  sampleIndex : Nat
  artifacts : List ExtractedArtifact
  rawResponse : Text
  parseStatus : ParseStatus
deriving DecidableEq

structure ConsensusArtifact where
  name : Text
  type : ArtifactType
  frequency : Text
  ownerRole : Text
  description : Text
  confidence : ℚ
  voterKeys : List Text
  voteCount : Nat
  unanimous : Bool
  properties : List (Text × Text)
deriving DecidableEq

structure ArtifactHost where
  parseResponse : Text → List ExtractedArtifact × ParseStatus
  normalizeArtifactName : Text → Text
  artifactNamesMatch : Text → Text → ℚ → Bool

structure TaggedArtifact where
  voterKey : Text
  artifact : ExtractedArtifact
deriving DecidableEq

/-- A group is never empty: its first artifact decides what joins it. -/
structure ArtifactGroup where
  first : TaggedArtifact
  others : List TaggedArtifact
deriving DecidableEq

def ArtifactGroup.members (group : ArtifactGroup) : List TaggedArtifact :=
  group.first :: group.others

def taggedArtifacts (votes : Table Text Vote) : List TaggedArtifact :=
  (votes.keys.insertionSort (· ≤ ·)).flatMap fun key =>
    match votes.lookup key with
    | none => []
    | some vote =>
      if vote.parseStatus = .ok then vote.artifacts.map fun artifact => ⟨vote.voteKey, artifact⟩
      else []

def joinGroup (host : ArtifactHost) (threshold : ℚ) (item : TaggedArtifact) :
    List ArtifactGroup → List ArtifactGroup
  | [] => [{ first := item, others := [] }]
  | group :: rest =>
    if host.artifactNamesMatch (host.normalizeArtifactName item.artifact.name)
        (host.normalizeArtifactName group.first.artifact.name) threshold then
      { group with others := group.others ++ [item] } :: rest
    else group :: joinGroup host threshold item rest

def groupArtifacts (host : ArtifactHost) (threshold : ℚ) (items : List TaggedArtifact) :
    List ArtifactGroup :=
  items.foldl (fun groups item => joinGroup host threshold item groups) []

/-- The type that most members give, the earliest of the taxonomy on a tie. -/
def majorityType (members : List TaggedArtifact) : ArtifactType :=
  let count := fun type => (members.filter fun item => item.artifact.type = type).length
  let maxCount := (allArtifactTypes.map count).foldl max 0
  (allArtifactTypes.find? fun type => count type = maxCount).getD .process

def firstNonEmpty (texts : List Text) : Text :=
  (texts.find? fun text => text ≠ []).getD []

def longest (texts : List Text) : Text :=
  let bytes := fun text : Text => (text.map Char.utf8Size).sum
  texts.foldl (fun kept text => if bytes kept < bytes text then text else kept) []

def mergeProperties (maps : List (List (Text × Text))) : List (Text × Text) :=
  maps.flatten.foldl
    (fun kept entry => if kept.any (fun old => old.1 = entry.1) then kept else kept ++ [entry]) []

def buildConsensusFromGroup (fl : ℚ → ℚ) (totalVoters : Nat) (group : ArtifactGroup) :
    ConsensusArtifact :=
  let members := group.members
  let voters := (members.map TaggedArtifact.voterKey).dedup
  { name := firstNonEmpty (members.map fun item => item.artifact.name)
    type := majorityType members
    frequency := firstNonEmpty (members.map fun item => item.artifact.frequency)
    ownerRole := firstNonEmpty (members.map fun item => item.artifact.ownerRole)
    description := longest (members.map fun item => item.artifact.description)
    confidence := Relationship.toThreeDecimals fl (fl (voters.length / totalVoters))
    voterKeys := voters.insertionSort (· ≤ ·)
    voteCount := voters.length
    unanimous := voters.length = totalVoters
    properties := mergeProperties (members.map fun item => item.artifact.properties) }

def ConsensusArtifact.listedBefore (left right : ConsensusArtifact) : Prop :=
  right.confidence < left.confidence ∨
    (left.confidence = right.confidence ∧ left.name ≤ right.name)

instance (left right : ConsensusArtifact) : Decidable (left.listedBefore right) :=
  inferInstanceAs (Decidable (_ ∨ _))

def computeConsensus (fl : ℚ → ℚ) (host : ArtifactHost) (votes : Table Text Vote)
    (totalVoters : Nat) (threshold : ℚ) : List ConsensusArtifact :=
  if totalVoters = 0 then []
  else
    ((groupArtifacts host threshold (taggedArtifacts votes)).map
      (buildConsensusFromGroup fl totalVoters)).insertionSort ConsensusArtifact.listedBefore

structure ConsensusConfig extends ArtifactsConfig where
  fuzzyThreshold : ℚ

/-- The loop body: failed tasks, unreadable task IDs, skipped sections and results without
response text cast no vote. -/
def castVote (host : ArtifactHost) (models : List Text) (result : TaskResult) :
    Option (Text × Vote) :=
  match result.outcome, parseControlTaskID result.taskID "artifacts".toList models with
  | .ok (some raw), some task =>
    if task.skipped then none
    else
      let parsed := host.parseResponse raw
      some
        (task.controlID,
          { voteKey := result.taskID, model := task.model, sampleIndex := task.sample
            artifacts := parsed.1, rawResponse := raw, parseStatus := parsed.2 })
  | _, _ => none

def addVote (groups : Table Text (Table Text Vote)) (cast : Text × Vote) :
    Table Text (Table Text Vote) :=
  groups.insert cast.1 (((groups.lookup cast.1).getD ∅).insert cast.2.voteKey cast.2)

def groupVotes (casts : List (Text × Vote)) : Table Text (Table Text Vote) :=
  casts.foldl addVote ∅

def reported (consensus : ConsensusArtifact) : Artifact :=
  { name := consensus.name, type := consensus.type.string, frequency := consensus.frequency
    ownerRole := consensus.ownerRole, confidence := consensus.confidence }

/-- A control whose consensus has no artifact is left out. -/
def controlResult (fl : ℚ → ℚ) (host : ArtifactHost) (cfg : ConsensusConfig) (controlID : Text)
    (votes : Table Text Vote) : Option ArtifactResult :=
  let consensus := computeConsensus fl host votes (cfg.models.length * cfg.samplesPerModel)
    cfg.fuzzyThreshold
  if consensus = [] then none else some { controlID, artifacts := consensus.map reported }

def aggregate (fl : ℚ → ℚ) (host : ArtifactHost) (cfg : ConsensusConfig)
    (results : List TaskResult) : List ArtifactResult :=
  let groups := groupVotes (results.filterMap (castVote host cfg.models))
  (groups.keys.insertionSort (· ≤ ·)).filterMap fun controlID =>
    (groups.lookup controlID).bind (controlResult fl host cfg controlID)

def stageResult (fl : ℚ → ℚ) (host : ArtifactHost) (cfg : ConsensusConfig)
    (results : List TaskResult) : Except StageFailure (List ArtifactResult) :=
  match aggregateInput results with
  | .error failure => .error failure
  | .ok input => .ok (aggregate fl host cfg input)

theorem cast_of_lookup_groupVotes {casts : List (Text × Vote)} {controlID : Text}
    {votes : Table Text Vote} (found : (groupVotes casts).lookup controlID = some votes) :
    ∃ vote, (controlID, vote) ∈ casts := by
  have extend : ∀ (rest : List (Text × Vote)) (start : Table Text (Table Text Vote)),
      (rest.foldl addVote start).lookup controlID = some votes →
        (∃ vote, (controlID, vote) ∈ rest) ∨ (start.lookup controlID).isSome := by
    intro rest
    induction rest with
    | nil =>
      intro start found
      exact .inr (Option.isSome_of_eq_some found)
    | cons cast rest ih =>
      intro start found
      rcases ih _ found with ⟨vote, later⟩ | earlier
      · exact .inl ⟨vote, List.mem_cons_of_mem _ later⟩
      · rw [addVote, lookup_insert_eq] at earlier
        split_ifs at earlier with same
        · exact .inl ⟨cast.2, by rw [← same]; exact List.mem_cons_self⟩
        · exact .inr earlier
  rcases extend casts ∅ found with cast | impossible
  · exact cast
  · simp at impossible

variable {fl : ℚ → ℚ} {host : ArtifactHost} {cfg : ConsensusConfig} {results : List TaskResult}
  {found : List ArtifactResult}

theorem stageResult_cast (returned : stageResult fl host cfg results = .ok found)
    {result : ArtifactResult} (mem : result ∈ found) :
    ∃ answer ∈ results, ∃ vote, castVote host cfg.models answer = some (result.controlID, vote) := by
  unfold stageResult at returned
  cases handed : aggregateInput results with
  | error failure => simp [handed] at returned
  | ok input =>
    simp only [handed, Except.ok.injEq] at returned
    subst found
    obtain ⟨controlID, _key, built⟩ := List.mem_filterMap.mp mem
    obtain ⟨votes, lookup, made⟩ := Option.bind_eq_some_iff.mp built
    have named : result.controlID = controlID := by
      unfold controlResult at made
      simp only at made
      split_ifs at made
      exact (congrArg ArtifactResult.controlID (Option.some.inj made)).symm
    obtain ⟨vote, cast⟩ := cast_of_lookup_groupVotes lookup
    obtain ⟨answer, given, casts⟩ := List.mem_filterMap.mp cast
    exact ⟨answer, mem_of_aggregateInput handed given, vote, by rw [casts, named]⟩

end CrossCodex.Analyzer.Artifacts
