/-
The requires analyzer over the results of its tasks (internal/analyzer/requires). Votes that
never reach Aggregate are in no group, so the error-rate ceiling is applied to the answers
that arrived and not to the planned votes.
-/

import CrossCodex.Analyzer.Consensus
import CrossCodex.Analyzer.PairVotes
import CrossCodex.Analyzer.Results
import Mathlib.Data.Char
import Mathlib.Data.List.Dedup
import Mathlib.Data.List.Lex
import Mathlib.Data.List.Sort

namespace CrossCodex.Analyzer

open Library

structure RequiresConfig extends PairConfig where
  consensusThreshold : ℚ
  maxErrorRate : ℚ

def RequiresConfig.computer (cfg : RequiresConfig) : Computer :=
  Computer.new cfg.consensusThreshold cfg.maxErrorRate

namespace Requires

/-- The decision of ParseResponse: the word after the first label. -/
def decision (raw : Text) : Option Bool :=
  match labelledWord "REQUIRES:".toList raw with
  | none => none
  | some word =>
    if readsAs uppersTo "YES".toList word then some true
    else if readsAs uppersTo "NO".toList word then some false
    else none

/-- ParseResponse; it leaves the weight unset. -/
def parseResponse (raw : Text) : Vote := { decision := decision raw, weight := 0 }

def pairResult (fl : ℚ → ℚ) (computer : Computer) (group : PairGroup) :
    Except ConsensusError (List RequiresResult) :=
  match computer.compute fl (group.casts.map fun cast => parseResponse cast.raw) with
  | .error (.insufficientVotes _ _ _ _) => .ok []
  | .error cause => .error cause
  | .ok consensus =>
    if consensus.decision && computer.meetsThreshold consensus then
      .ok
        [{ sourceID := group.source, targetID := group.target
           confidence := consensus.confidenceFraction, unanimous := consensus.unanimous
           validVotes := consensus.validVoteCount, totalVotes := consensus.totalVoteCount
           models := (group.casts.map CastVote.model).dedup.insertionSort (· ≤ ·) }]
    else .ok []

def aggregate (fl : ℚ → ℚ) (cfg : RequiresConfig) (results : List TaskResult) :
    Except ConsensusError (List RequiresResult) :=
  let groups := groupCasts (results.filterMap (castVote requiresAnalyzer cfg.models))
  gatherEach (fun key => match groups.lookup key with
    | none => .ok []
    | some group => pairResult fl cfg.computer group) (groups.keys.insertionSort (· ≤ ·))

def stageResult (fl : ℚ → ℚ) (cfg : RequiresConfig) (results : List TaskResult) :
    Except StageFailure (List RequiresResult) :=
  match aggregateInput results with
  | .error failure => .error failure
  | .ok input =>
    match aggregate fl cfg input with
    | .error _ => .error .aggregate
    | .ok found => .ok found

section Reports

variable {fl : ℚ → ℚ} {cfg : RequiresConfig} {results : List TaskResult}
  {found : List RequiresResult} {result : RequiresResult}

theorem stageResult_ok (returned : stageResult fl cfg results = .ok found) :
    let groups := groupCasts (results.filterMap (castVote requiresAnalyzer cfg.models))
    gatherEach (fun key => match groups.lookup key with
      | none => .ok []
      | some group => pairResult fl cfg.computer group)
      (groups.keys.insertionSort (· ≤ ·)) = .ok found := by
  unfold stageResult at returned
  split at returned
  · cases returned
  rename_i input handed
  split at returned
  · cases returned
  rename_i gathered aggregated
  cases returned
  unfold aggregate at aggregated
  rw [aggregateInput_casts handed requiresAnalyzer cfg.models] at aggregated
  exact aggregated

theorem pairResult_ok {computer : Computer} {group : PairGroup} {outputs : List RequiresResult}
    (produced : pairResult fl computer group = .ok outputs) :
    outputs.length ≤ 1 ∧
    (outputs ≠ [] ↔ ∃ consensus,
      computer.compute fl (group.casts.map fun cast => parseResponse cast.raw) = .ok consensus ∧
        consensus.decision = true ∧ computer.meetsThreshold consensus = true) ∧
    ∀ result ∈ outputs, result.sourceID = group.source ∧ result.targetID = group.target ∧
      ∃ consensus, computer.compute fl (group.casts.map fun cast => parseResponse cast.raw) =
        .ok consensus ∧ result.confidence = consensus.confidenceFraction := by
  unfold pairResult at produced
  split at produced
  · cases produced
    simp [*]
  · cases produced
  rename_i consensus computed
  split at produced
  · rename_i reported
    cases produced
    simpa [computed] using reported
  · rename_i refused
    cases produced
    simpa [computed] using refused

theorem mem_stageResult (returned : stageResult fl cfg results = .ok found) (mem : result ∈ found) :
    ∃ key group consensus,
      (groupCasts (results.filterMap (castVote requiresAnalyzer cfg.models))).lookup key =
        some group ∧
      result.sourceID = group.source ∧ result.targetID = group.target ∧
      cfg.computer.compute fl (group.casts.map fun cast => parseResponse cast.raw) =
        .ok consensus ∧ result.confidence = consensus.confidenceFraction := by
  obtain ⟨key, _, outputs, produced, inOutputs⟩ := (mem_gatherEach (stageResult_ok returned)).mp mem
  split at produced
  · cases produced
    cases inOutputs
  rename_i group lookup
  obtain ⟨source, target, consensus, computed, confidence⟩ :=
    (pairResult_ok produced).2.2 result inOutputs
  exact ⟨key, group, consensus, lookup, source, target, computed, confidence⟩

theorem stageResult_length_le {pairs : List CandidatePair} (readable : Readable cfg.models pairs)
    (samples : cfg.samplesPerModel ≤ 2 ^ 63)
    (planned : OfPairs requiresAnalyzer cfg.toPanelConfig pairs results)
    (returned : stageResult fl cfg results = .ok found) : found.length ≤ pairs.length := by
  have bound := gatherEach_length_le (fun key outputs produced => by
    split at produced
    · cases produced
      exact Nat.zero_le 1
    · exact (pairResult_ok produced).1) (stageResult_ok returned)
  rw [List.length_insertionSort] at bound
  exact bound.trans (groupCasts_length_le readable samples planned)

theorem stageResult_confidence (rounding : Rounding)
    (returned : stageResult rounding.round cfg results = .ok found) (mem : result ∈ found) :
    0 ≤ result.confidence ∧ result.confidence ≤ 1 := by
  obtain ⟨_, _, _, _, _, _, computed, confidence⟩ := mem_stageResult returned mem
  rw [confidence]
  apply Computer.compute_confidence rounding _ computed
  intro vote cast
  obtain ⟨_, _, rfl⟩ := List.mem_map.mp cast
  exact le_refl 0

end Reports

open List

variable {results : List TaskResult} {fl : ℚ → ℚ}

def plannedVotes (cfg : RequiresConfig) (pair : CandidatePair) : List Text :=
  (panelTaskIDs requiresAnalyzer pair.subject cfg.toPanelConfig).dedup

def validVote (outcome : Except TaskError (Option Text)) : Bool :=
  match outcome with
  | .ok (some raw) => (decision raw).isSome
  | _ => false

def failedFraction (fl : ℚ → ℚ) (cfg : RequiresConfig)
    (answer : Text → Except TaskError (Option Text)) (pair : CandidatePair) : ℚ :=
  fl (((plannedVotes cfg pair).countP fun taskID => !validVote (answer taskID)) /
    ((plannedVotes cfg pair).length : ℚ))

theorem failedFraction_le_one (rounding : Rounding) (cfg : RequiresConfig)
    (answer : Text → Except TaskError (Option Text)) (pair : CandidatePair) :
    failedFraction rounding.round cfg answer pair ≤ 1 := by
  apply rounding.round_le_one
  apply div_le_one_of_le₀
  · exact_mod_cast countP_le_length
  · exact Nat.cast_nonneg _

/-- The answers with a text whose task ID reads as one of the pair. -/
def arrived (cfg : RequiresConfig) (pair : CandidatePair) (results : List TaskResult) :
    List Text :=
  ((results.filterMap (castVote requiresAnalyzer cfg.models)).filter fun cast =>
    cast.source = pair.sourceControlID ∧ cast.target = pair.targetControlID).map CastVote.raw

/-- The answers by themselves carry the relationship: few enough are unreadable, and the rest
agree on it. -/
structure Carried (fl : ℚ → ℚ) (cfg : RequiresConfig) (answers : List Text) : Prop where
  given : answers ≠ []
  readable : Computer.errorRate fl answers.length
    (answers.countP fun raw => (decision raw).isSome) ≤ cfg.maxErrorRate
  outweighs : weighed fl (answers.countP fun raw => decision raw == some false) <
    weighed fl (answers.countP fun raw => decision raw == some true)
  agreed : cfg.computer.threshold ≤
    fl (weighed fl (answers.countP fun raw => decision raw == some true) /
      weighed fl (answers.countP fun raw => (decision raw).isSome))

theorem carried_iff {cfg : RequiresConfig} {answers : List Text}
    (zero : fl 0 = 0) (ceiling : cfg.computer.maxErrorRate = cfg.maxErrorRate)
    (positive : 0 < cfg.maxErrorRate) :
    Carried fl cfg answers ↔ ∃ consensus,
      cfg.computer.compute fl (answers.map parseResponse) = .ok consensus ∧
        consensus.decision = true ∧ cfg.computer.meetsThreshold consensus = true := by
  have unset : ∀ vote ∈ answers.map parseResponse, vote.weight = 0 := by simp [parseResponse]
  have counted := tally_unweighted fl unset
  have minimum : ¬ (0 < cfg.computer.minValidVotes) := Int.lt_irrefl 0
  simp only [countP_map, Function.comp_def, parseResponse] at counted
  unfold Computer.compute
  simp only [counted, length_map, length_eq_zero_iff, ceiling, minimum, false_and, if_false]
  by_cases none : answers = []
  · rw [if_pos none]
    exact ⟨fun carried => absurd none carried.given, fun ⟨_, failed, _⟩ => by cases failed⟩
  rw [if_neg none]
  by_cases excess : cfg.maxErrorRate < Computer.errorRate fl answers.length
      (answers.countP fun raw => (decision raw).isSome)
  · have missing : (answers.countP fun raw => (decision raw).isSome) < answers.length := by
      apply lt_of_le_of_ne countP_le_length
      intro all
      rw [Computer.errorRate, all, Nat.sub_self, Nat.cast_zero, zero_div, zero] at excess
      exact lt_asymm positive excess
    rw [if_pos ⟨positive, missing, excess⟩]
    exact ⟨fun carried => absurd excess (not_lt.mpr carried.readable),
      fun ⟨_, failed, _⟩ => by cases failed⟩
  rw [if_neg fun refused => excess refused.2.2]
  by_cases unread : (answers.countP fun raw => (decision raw).isSome) = 0
  · rw [if_pos unread]
    constructor
    · intro carried
      have none : ∀ answer, (answers.countP fun raw => decision raw == some answer) = 0 := by
        intro answer
        refine Nat.le_zero.mp (unread ▸ countP_mono_left fun raw _ decided => ?_)
        rw [beq_iff_eq.mp decided, Option.isSome_some]
      have outweighs := carried.outweighs
      rw [none true, none false] at outweighs
      exact absurd outweighs (lt_irrefl _)
    · rintro ⟨_, made, decided, _⟩
      cases made
      cases decided
  · rw [if_neg unread]
    constructor
    · rintro ⟨_, _, outweighs, agreed⟩
      refine ⟨_, rfl, decide_eq_true outweighs, ?_⟩
      simpa [Computer.meetsThreshold, Computer.majority, outweighs] using agreed
    · rintro ⟨_, made, decided, met⟩
      cases made
      have outweighs := of_decide_eq_true decided
      refine ⟨none, not_lt.mp excess, outweighs, ?_⟩
      simpa [Computer.meetsThreshold, Computer.majority, outweighs] using met

theorem groupCasts_arrived {cfg : RequiresConfig} {pair : CandidatePair} {key : Text}
    {group : PairGroup}
    (lookup : (groupCasts (results.filterMap (castVote requiresAnalyzer cfg.models))).lookup key =
      some group)
    (source : group.source = pair.sourceControlID) (target : group.target = pair.targetControlID) :
    (group.casts.map fun cast => parseResponse cast.raw) =
      (arrived cfg pair results).map parseResponse := by
  have grouped := groupCasts_grouped (results.filterMap (castVote requiresAnalyzer cfg.models))
  have named := grouped.named key group lookup
  rw [grouped.gathered key group lookup, arrived, map_map]
  congr 1
  apply filter_congr
  intro cast mem
  obtain ⟨result, _, voted⟩ := mem_filterMap.mp mem
  obtain ⟨first, firstMem, ofSource, ofTarget⟩ := grouped.cast key group lookup
  obtain ⟨_, _, firstVoted⟩ := mem_filterMap.mp firstMem
  rw [decide_eq_decide, ← source, ← target, ← named]
  constructor
  · intro same
    rw [← ofSource, ← ofTarget] at same ⊢
    exact key_injective (castVote_recovered voted) (castVote_recovered firstVoted) same
  · rintro ⟨ownSource, ownTarget⟩
    rw [CastVote.key, ownSource, ownTarget]

theorem reported_iff_carried {cfg : RequiresConfig} {found : List RequiresResult}
    (returned : stageResult fl cfg results = .ok found) (zero : fl 0 = 0)
    (ceiling : cfg.computer.maxErrorRate = cfg.maxErrorRate) (positive : 0 < cfg.maxErrorRate)
    (pair : CandidatePair) :
    (∃ result ∈ found, result.sourceID = pair.sourceControlID ∧
      result.targetID = pair.targetControlID) ↔ Carried fl cfg (arrived cfg pair results) := by
  rw [carried_iff zero ceiling positive]
  constructor
  · rintro ⟨result, inFound, source, target⟩
    obtain ⟨key, _, outputs, produced, inOutputs⟩ :=
      (mem_gatherEach (stageResult_ok returned)).mp inFound
    split at produced
    · cases produced
      cases inOutputs
    rename_i group lookup
    obtain ⟨_, carries, names⟩ := pairResult_ok produced
    obtain ⟨ofSource, ofTarget, _⟩ := names result inOutputs
    rw [← groupCasts_arrived lookup (ofSource ▸ source) (ofTarget ▸ target)]
    exact carries.mp (ne_nil_of_mem inOutputs)
  · rintro ⟨consensus, computed, decided, met⟩
    have grouped := groupCasts_grouped (results.filterMap (castVote requiresAnalyzer cfg.models))
    have some : arrived cfg pair results ≠ [] := by
      intro none
      rw [none] at computed
      cases computed
    obtain ⟨raw, listed⟩ := exists_mem_of_ne_nil _ some
    obtain ⟨cast, inCasts, _⟩ := mem_map.mp listed
    obtain ⟨mem, ofPair⟩ := mem_filter.mp inCasts
    obtain ⟨source, target⟩ := of_decide_eq_true ofPair
    obtain ⟨_, _, voted⟩ := mem_filterMap.mp mem
    cases lookup : (groupCasts (results.filterMap
        (castVote requiresAnalyzer cfg.models))).lookup cast.key with
    | none => exact absurd rfl (grouped.absent cast.key lookup cast mem)
    | some group =>
      obtain ⟨first, firstMem, ofSource, ofTarget⟩ := grouped.cast cast.key group lookup
      obtain ⟨_, _, firstVoted⟩ := mem_filterMap.mp firstMem
      have named : first.key = cast.key := by
        rw [CastVote.key, ofSource, ofTarget, grouped.named cast.key group lookup]
      obtain ⟨sources, targets⟩ :=
        key_injective (castVote_recovered firstVoted) (castVote_recovered voted) named
      have groupSource := ofSource.symm.trans (sources.trans source)
      have groupTarget := ofTarget.symm.trans (targets.trans target)
      rw [← groupCasts_arrived lookup groupSource groupTarget] at computed
      have present : cast.key ∈ (groupCasts (results.filterMap
          (castVote requiresAnalyzer cfg.models))).keys :=
        AList.mem_keys.mp (AList.lookup_isSome.mp (by rw [lookup]; rfl))
      have made : ∃ reported, pairResult fl cfg.computer group = .ok [reported] ∧
          reported.sourceID = group.source ∧ reported.targetID = group.target := by
        rw [pairResult, computed]
        exact ⟨_, if_pos (by rw [decided, met]; rfl), rfl, rfl⟩
      obtain ⟨reported, produced, itsSource, itsTarget⟩ := made
      refine ⟨reported, (mem_gatherEach (stageResult_ok returned)).mpr ⟨cast.key,
        (mem_insertionSort _).mpr present, [reported], ?_, mem_cons_self⟩,
        itsSource.trans groupSource, itsTarget.trans groupTarget⟩
      rw [lookup]
      exact produced

def plannedResults (cfg : RequiresConfig) (pairs : List CandidatePair)
    (answer : Text → Except TaskError (Option Text)) : List TaskResult :=
  (pairs.flatMap fun pair =>
    panelTaskIDs requiresAnalyzer pair.subject cfg.toPanelConfig).dedup.map fun taskID =>
      { taskID, outcome := answer taskID }

theorem Carried.perm {cfg : RequiresConfig} {answers others : List Text}
    (same : answers.Perm others) (carried : Carried fl cfg answers) : Carried fl cfg others := by
  obtain ⟨given, readable, outweighs, agreed⟩ := carried
  simp only [same.countP_eq, same.length_eq] at readable outweighs agreed
  refine ⟨fun none => given ?_, readable, outweighs, agreed⟩
  rw [none] at same
  exact same.eq_nil

/-- A pair whose votes failed at a rate above the ceiling has no result, exactly unless the
answers that arrived carry the relationship by themselves. -/
theorem no_result_over_error_rate (rounding : Rounding) {env : Environment}
    {cfg : RequiresConfig} {parameters : Text → Option Text} {pairs : List CandidatePair}
    {tasks : List Task} {answer : Text → Except TaskError (Option Text)}
    {results : List TaskResult} {found : List RequiresResult}
    (generated : Requires.generateWork env cfg.toPairConfig parameters (.ok pairs) = .ok tasks)
    (collected : results.Perm ((tasks.map Task.taskID).dedup.map fun taskID =>
      { taskID, outcome := answer taskID }))
    (returned : stageResult rounding.round cfg results = .ok found)
    (positive : 0 < cfg.maxErrorRate) (pair : CandidatePair) :
    (cfg.maxErrorRate < failedFraction rounding.round cfg answer pair →
      ∀ result ∈ found, ¬(result.sourceID = pair.sourceControlID ∧
        result.targetID = pair.targetControlID)) ↔
    (cfg.maxErrorRate < failedFraction rounding.round cfg answer pair →
      ¬ Carried rounding.round cfg (arrived cfg pair (plannedResults cfg pairs answer))) := by
  obtain ⟨listed, read, taskIDs⟩ := pairGenerateWork_taskIDs generated
  cases read
  rw [taskIDs] at collected
  have votes : (arrived cfg pair results).Perm
      (arrived cfg pair (plannedResults cfg pairs answer)) :=
    ((collected.filterMap _).filter _).map _
  refine forall_congr' fun exceeds => ?_
  have ceiling : cfg.computer.maxErrorRate = cfg.maxErrorRate := by
    have bounded := exceeds.trans_le (failedFraction_le_one rounding cfg answer pair)
    apply if_neg
    rintro (negative | large)
    · exact absurd (positive.trans negative) (lt_irrefl 0)
    · exact absurd (bounded.trans large) (lt_irrefl _)
  have reported := reported_iff_carried returned rounding.round_zero ceiling positive pair
  have shuffled : Carried rounding.round cfg (arrived cfg pair results) ↔
      Carried rounding.round cfg (arrived cfg pair (plannedResults cfg pairs answer)) :=
    ⟨Carried.perm votes, Carried.perm votes.symm⟩
  rw [← shuffled, ← reported]
  simp only [not_exists, not_and]

section Panel

def fourVotes : RequiresConfig where
  models := [['m']]
  samplesPerModel := 4
  samplingTemperature := 0
  maxTokens := 100
  maxSourceChars := 100
  maxTargetChars := 100
  consensusThreshold := 1 / 2
  maxErrorRate := 1 / 4

def doubtful : CandidatePair :=
  { sourceControlID := ['a'], targetControlID := ['b'], score := 1 }

def agreed : CandidatePair :=
  { sourceControlID := ['a'], targetControlID := ['c'], score := 1 }

def pairParameters (key : Text) : Option Text := some key

/-- Every vote says yes, except that all but the first of the doubtful pair end in the given
way. -/
def mostlyYes (others : Except TaskError (Option Text)) (taskID : Text) :
    Except TaskError (Option Text) :=
  if taskID ∈ ["requires-a--b-m-s1".toList, "requires-a--b-m-s2".toList,
    "requires-a--b-m-s3".toList] then others
  else .ok (some "REQUIRES: YES".toList)

def panelOfPairs : List Task :=
  ((Requires.generateWork plainEnvironment fourVotes.toPairConfig pairParameters
    (.ok [doubtful, agreed])).toOption).getD []

def panelResults (answer : Text → Except TaskError (Option Text)) : List TaskResult :=
  (panelOfPairs.map Task.taskID).dedup.map fun taskID => { taskID, outcome := answer taskID }

def unanimousYes (target : Text) (votes : Nat) : RequiresResult :=
  { sourceID := ['a'], targetID := target, confidence := 1, unanimous := true,
    validVotes := votes, totalVotes := votes, models := [['m']] }

theorem panelOfPairs_generated :
    Requires.generateWork plainEnvironment fourVotes.toPairConfig pairParameters
      (.ok [doubtful, agreed]) = .ok panelOfPairs := by
  decide +kernel

/-- Three unreadable answers out of four: only the other pair has a result. -/
theorem no_result_over_error_rate_unreadable :
    stageResult Rounding.ideal.round fourVotes
        (panelResults (mostlyYes (.ok (some "MAYBE".toList)))) = .ok [unanimousYes ['c'] 4] ∧
      ∀ result ∈ [unanimousYes ['c'] 4],
        ¬(result.sourceID = doubtful.sourceControlID ∧
          result.targetID = doubtful.targetControlID) := by
  have returned : stageResult Rounding.ideal.round fourVotes
      (panelResults (mostlyYes (.ok (some "MAYBE".toList)))) = .ok [unanimousYes ['c'] 4] := by
    decide +kernel
  refine ⟨returned, (no_result_over_error_rate Rounding.ideal panelOfPairs_generated
    (List.Perm.refl _) returned (by decide +kernel) doubtful).mpr ?_ (by decide +kernel)⟩
  intro _exceeds carried
  exact absurd carried.readable (by decide +kernel)

/-- Three failed tasks out of four, where a quarter is allowed: the pair is reported with
the one vote that arrived. -/
theorem failed_tasks_escape_error_rate :
    Requires.generateWork plainEnvironment fourVotes.toPairConfig pairParameters
        (.ok [doubtful, agreed]) = .ok panelOfPairs ∧
      failedFraction Rounding.ideal.round fourVotes (mostlyYes (.error .other)) doubtful = 3 / 4 ∧
      fourVotes.maxErrorRate = 1 / 4 ∧
      stageResult Rounding.ideal.round fourVotes (panelResults (mostlyYes (.error .other))) =
        .ok [unanimousYes ['b'] 1, unanimousYes ['c'] 4] := by
  refine ⟨panelOfPairs_generated, ?_, rfl, ?_⟩
  · decide +kernel
  · decide +kernel

end Panel

end Requires

end CrossCodex.Analyzer
