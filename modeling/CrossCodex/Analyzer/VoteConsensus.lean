/-
ComputeConsensus of the relationship analyzer over the whole map of votes, the unreadable
ones included, with weights as exact rationals.
-/

import CrossCodex.Analyzer.Relationship

namespace CrossCodex.Analyzer.Relationship

open Library List

/-- An entry of the map: a nil pointer, or a vote with its parse status. -/
inductive Ballot where
  | nilVote
  | parseFail
  | parseError
  | parseOK (vote : RelationshipVote)

def Ballot.valid : Ballot → Option RelationshipVote
  | .parseOK vote => some vote
  | _ => none

def Ballot.name : Ballot → Text
  | .nilVote => "NIL_VOTE".toList
  | .parseFail => "PARSE_FAIL".toList
  | .parseError => "PARSE_ERROR".toList
  | .parseOK vote => vote.relationship.name

def ballots (votes : Table Text Ballot) : List Ballot :=
  votes.entries.map fun entry => entry.2

def validVotes (votes : Table Text Ballot) : List RelationshipVote :=
  (ballots votes).filterMap Ballot.valid

def agreement (valid : List RelationshipVote) : ℚ :=
  maxCount valid / valid.length

def confidence (weight : ConfidenceLevel → ℚ) (valid : List RelationshipVote) : ℚ :=
  let winning := valid.filter fun vote => vote.relationship = winner valid
  agreement valid * (winning.map fun vote => weight vote.confidence).sum / maxCount valid

def exactConsensus (weight : ConfidenceLevel → ℚ) (valid : List RelationshipVote) : Consensus :=
  if valid = [] then noConsensus
  else
    { relationship := winner valid
      contributionType := contributionOf valid
      confidenceFraction := toThreeDecimals id (confidence weight valid)
      agreementFraction := toThreeDecimals id (agreement valid)
      unanimous := maxCount valid = valid.length
      validVoteCount := valid.length }

structure MapConsensus extends Consensus where
  allVotes : List Text

def consensusOf (weight : ConfidenceLevel → ℚ) (votes : Table Text Ballot) : MapConsensus :=
  { exactConsensus weight (validVotes votes) with
    allVotes := (votes.entries.insertionSort fun left right => left.1 ≤ right.1).map
      fun entry => entry.2.name }

/-- With weights that config validation accepts it is the consensus of Aggregate. -/
theorem computeConsensus_exact (weights : ConfidenceWeights) (valid : List RelationshipVote) :
    computeConsensus id weights valid = exactConsensus weights.of valid := by
  simp only [computeConsensus, exactConsensus, id, confidence, agreement, weightSum, sum_eq_foldl,
    foldl_map]

variable {weight : ConfidenceLevel → ℚ} {valid other rest : List RelationshipVote}
  {kind : RelationshipType} {old : RelationshipVote}

theorem find_winner (valid : List RelationshipVote) :
    relationshipPriority.find? (fun kind => countOf valid kind = maxCount valid) =
      some (winner valid) := by
  unfold winner
  cases found : relationshipPriority.find? fun kind => countOf valid kind = maxCount valid with
  | some kind => rfl
  | none =>
    have missed := find?_eq_none.mp found _ (mem_relationshipPriority (winner valid))
    exact absurd (decide_eq_true (countOf_winner valid)) missed

theorem winner_first (differs : kind ≠ winner valid) :
    countOf valid kind < countOf valid (winner valid) ∨
      countOf valid kind = countOf valid (winner valid) ∧
        [winner valid, kind] <+ relationshipPriority := by
  rw [countOf_winner]
  rcases (countOf_le_maxCount valid kind).lt_or_eq with fewer | same
  · exact .inl fewer
  · obtain ⟨_, before, after, split, earlier⟩ := find?_eq_some_iff_append.mp (find_winner valid)
    have mem := mem_relationshipPriority kind
    rw [split, mem_append, mem_cons] at mem
    rcases mem with lost | equal | later
    · simpa [same] using earlier kind lost
    · exact absurd equal differs
    · refine .inr ⟨same, ?_⟩
      rw [split]
      exact (cons_sublist_cons.mpr (singleton_sublist.mpr later)).trans (sublist_append_right _ _)

theorem eq_winner (most : ∀ other, other ≠ kind → countOf valid other < countOf valid kind) :
    winner valid = kind := by
  by_contra differs
  have fewer := most _ differs
  rw [countOf_winner] at fewer
  exact absurd (countOf_le_maxCount valid kind) (by omega)

theorem winner_turned {new : RelationshipVote} (lost : old.relationship ≠ winner (old :: rest))
    (won : new.relationship = winner (old :: rest)) :
    winner (new :: rest) = winner (old :: rest) ∧
      maxCount (old :: rest) ≤ maxCount (new :: rest) := by
  have most := countOf_winner (old :: rest)
  have gained : countOf (new :: rest) (winner (old :: rest)) = maxCount (old :: rest) + 1 := by
    rw [← most]
    simp [countOf, won, lost]
  constructor
  · apply eq_winner
    intro kind differs
    have fewer := countOf_le_maxCount (old :: rest) kind
    have kept : countOf (new :: rest) kind ≤ countOf (old :: rest) kind := by
      simp [countOf, countP_cons, won, differs.symm]
    omega
  · have bound := countOf_le_maxCount (new :: rest) (winner (old :: rest))
    omega

theorem exactConsensus_winner (some : valid ≠ []) :
    (exactConsensus weight valid).relationship = winner valid := by
  rw [exactConsensus, if_neg some]

theorem unanimous_iff :
    (exactConsensus weight valid).unanimous = true ↔ valid ≠ [] ∧
      ∀ vote ∈ valid, vote.relationship = (exactConsensus weight valid).relationship := by
  by_cases none : valid = []
  · simp [exactConsensus, noConsensus, none]
  · rw [exactConsensus_winner none, exactConsensus, if_neg none, decide_eq_true_iff,
      ← countOf_winner, countOf, countP_eq_length]
    simp [none]

theorem toThreeDecimals_mono {low high : ℚ} (nonneg : 0 ≤ low) (ordered : low ≤ high) :
    toThreeDecimals id low ≤ toThreeDecimals id high := by
  have scaled : ⌊low * 1000 + 1 / 2⌋ ≤ ⌊high * 1000 + 1 / 2⌋ := Int.floor_mono (by linarith)
  have cast : (⌊low * 1000 + 1 / 2⌋ : ℚ) ≤ ⌊high * 1000 + 1 / 2⌋ := by exact_mod_cast scaled
  simp only [toThreeDecimals, id, roundHalfAway, if_pos (by linarith : 0 ≤ low * 1000),
    if_pos (by linarith : 0 ≤ high * 1000)]
  linarith

theorem agreement_bounds (valid : List RelationshipVote) :
    0 ≤ agreement valid ∧ agreement valid ≤ 1 := by
  have bounded : (maxCount valid : ℚ) ≤ valid.length := by exact_mod_cast maxCount_le_length valid
  exact ⟨div_nonneg (Nat.cast_nonneg _) (Nat.cast_nonneg _),
    div_le_one_of_le₀ bounded (Nat.cast_nonneg _)⟩

section

variable (inRange : ∀ level, 0 < weight level ∧ weight level ≤ 1)
include inRange

theorem weights_bounds (votes : List RelationshipVote) :
    0 ≤ (votes.map fun vote => weight vote.confidence).sum ∧
      (votes.map fun vote => weight vote.confidence).sum ≤ votes.length := by
  induction votes with
  | nil => simp
  | cons vote rest ih =>
    have range := inRange vote.confidence
    rw [map_cons, sum_cons, length_cons]
    push_cast
    constructor <;> linarith

theorem confidence_bounds (valid : List RelationshipVote) :
    0 ≤ confidence weight valid ∧ confidence weight valid ≤ agreement valid := by
  have nonneg := (agreement_bounds valid).1
  have range := weights_bounds inRange (valid.filter fun vote => vote.relationship = winner valid)
  rw [← countP_eq_length_filter, ← countOf, countOf_winner] at range
  unfold confidence
  rw [mul_div_assoc]
  constructor
  · exact mul_nonneg nonneg (div_nonneg range.1 (Nat.cast_nonneg _))
  · exact mul_le_of_le_one_right nonneg (div_le_one_of_le₀ range.2 (Nat.cast_nonneg _))

theorem exactConsensus_bounds (valid : List RelationshipVote) : let consensus := exactConsensus weight valid
    0 ≤ consensus.confidenceFraction ∧
      consensus.confidenceFraction ≤ consensus.agreementFraction ∧
      consensus.agreementFraction ≤ 1 := by
  have agreed := agreement_bounds valid
  have confident := confidence_bounds inRange valid
  unfold exactConsensus
  split
  · norm_num [noConsensus]
  · exact ⟨(toThreeDecimals_bounds .ideal confident.1 (confident.2.trans agreed.2)).1,
      toThreeDecimals_mono confident.1 confident.2,
      (toThreeDecimals_bounds .ideal agreed.1 agreed.2).2⟩

end

section

variable (same : valid ~ other)
include same

theorem countOf_perm : countOf valid = countOf other := by
  funext kind
  exact same.countP_eq _

theorem maxCount_perm : maxCount valid = maxCount other := by
  rw [maxCount, maxCount, countOf_perm same]

theorem winner_perm : winner valid = winner other := by
  rw [winner, winner, maxCount_perm same, countOf_perm same]

theorem agreement_perm : agreement valid = agreement other := by
  rw [agreement, agreement, maxCount_perm same, same.length_eq]

theorem contributionOf_perm : contributionOf valid = contributionOf other := by
  have contributing := same.filter fun vote => vote.relationship = .contributesTo
  simp only [contributionOf, winner_perm same, contributing.countP_eq]

theorem confidence_perm : confidence weight valid = confidence weight other := by
  have winning := same.filter fun vote => vote.relationship = winner other
  have weighed := (winning.map fun vote => weight vote.confidence).sum_eq
  simp only [confidence, agreement_perm same, winner_perm same, weighed, maxCount_perm same]

theorem exactConsensus_perm : exactConsensus weight valid = exactConsensus weight other := by
  have empty : valid = [] ↔ other = [] :=
    ⟨fun none => (none ▸ same).symm.eq_nil, fun none => (none ▸ same).eq_nil⟩
  unfold exactConsensus
  by_cases none : other = []
  · rw [if_pos none, if_pos (empty.mpr none)]
  · rw [if_neg none, if_neg (mt empty.mp none), winner_perm same, contributionOf_perm same,
      confidence_perm same, agreement_perm same, maxCount_perm same, same.length_eq]

end

theorem allVotes_perm (votes : Table Text Ballot) :
    (consensusOf weight votes).allVotes ~ (ballots votes).map Ballot.name := by
  rw [ballots, map_map]
  exact (perm_insertionSort _ _).map _

/-- Replacing the vote under a key, up to the order of the map. -/
theorem validVotes_insert {votes : Table Text Ballot} {key : Text} (new : RelationshipVote)
    (found : votes.lookup key = some (.parseOK old)) :
    ∃ rest, validVotes votes ~ old :: rest ∧
      validVotes (votes.insert key (.parseOK new)) = new :: rest := by
  have mem : key ∈ votes.keys := AList.mem_keys.mp (AList.lookup_isSome.mp (by simp [found]))
  obtain ⟨ballot, before, after, fresh, entries, erased⟩ := exists_of_kerase mem
  have same : ballot = .parseOK old := by
    rw [AList.lookup, entries, dlookup_append, dlookup_eq_none.mpr fresh] at found
    simpa using found
  refine ⟨(before ++ after).filterMap fun entry => entry.2.valid, ?_, ?_⟩
  · simp only [validVotes, ballots, filterMap_map, entries, filterMap_append, same]
    exact perm_middle
  · simp only [validVotes, ballots, AList.entries_insert, erased, filterMap_map]
    rfl

/-- Of every map with a valid vote: the winner has the most of them, the earliest of the
priority on a tie, and is unanimous if all are for it; confidence and agreement are fractions
in this order; a losing vote that turns to the winner keeps it and lowers no agreement.
Without a valid vote the map is not unanimous and both fractions are zero. Only the votes
matter, not their keys. -/
theorem vote_consensus (weight : ConfidenceLevel → ℚ)
    (inRange : ∀ level, 0 < weight level ∧ weight level ≤ 1) (votes : Table Text Ballot) :
    let valid := validVotes votes
    let consensus := consensusOf weight votes
    (valid ≠ [] → ∀ kind, kind ≠ consensus.relationship →
      countOf valid kind < countOf valid consensus.relationship ∨
        countOf valid kind = countOf valid consensus.relationship ∧
          [consensus.relationship, kind] <+ relationshipPriority) ∧
    (valid = [] → consensus.relationship = .noRelationship) ∧
    (consensus.unanimous = true ↔
      valid ≠ [] ∧ ∀ vote ∈ valid, vote.relationship = consensus.relationship) ∧
    (0 ≤ confidence weight valid ∧ confidence weight valid ≤ agreement valid ∧
      agreement valid ≤ 1) ∧
    (0 ≤ consensus.confidenceFraction ∧
      consensus.confidenceFraction ≤ consensus.agreementFraction ∧
      consensus.agreementFraction ≤ 1) ∧
    (∀ key old new, votes.lookup key = some (.parseOK old) →
      old.relationship ≠ consensus.relationship → new.relationship = consensus.relationship →
      let turned := votes.insert key (.parseOK new)
      (consensusOf weight turned).relationship = consensus.relationship ∧
        agreement valid ≤ agreement (validVotes turned) ∧
        consensus.agreementFraction ≤ (consensusOf weight turned).agreementFraction) ∧
    ∀ others, ballots others ~ ballots votes →
      (consensusOf weight others).toConsensus = consensus.toConsensus ∧
        (consensusOf weight others).allVotes ~ consensus.allVotes := by
  intro valid consensus
  have confident := confidence_bounds inRange valid
  refine ⟨?_, ?_, unanimous_iff, ⟨confident.1, confident.2, (agreement_bounds valid).2⟩,
    exactConsensus_bounds inRange valid, ?_, ?_⟩
  · intro some kind differs
    have wins : consensus.relationship = winner valid := exactConsensus_winner some
    rw [wins] at differs ⊢
    exact winner_first differs
  · intro none
    exact congrArg Consensus.relationship (if_pos none)
  · intro key old new found lost won turned
    obtain ⟨rest, same, replaced⟩ := validVotes_insert new found
    have before : exactConsensus weight valid = exactConsensus weight (old :: rest) :=
      exactConsensus_perm same
    simp only [consensus, consensusOf, valid] at before lost won ⊢
    simp only [turned, replaced, agreement_perm same, before] at lost won ⊢
    rw [exactConsensus_winner (cons_ne_nil _ _)] at lost won ⊢
    obtain ⟨kept, more⟩ := winner_turned lost won
    have agreed : agreement (old :: rest) ≤ agreement (new :: rest) := by
      have cast : (maxCount (old :: rest) : ℚ) ≤ maxCount (new :: rest) := by exact_mod_cast more
      exact div_le_div_of_nonneg_right cast (Nat.cast_nonneg _)
    refine ⟨by rw [exactConsensus_winner (cons_ne_nil _ _), kept], agreed, ?_⟩
    simp only [exactConsensus, if_neg (cons_ne_nil _ _)]
    exact toThreeDecimals_mono (agreement_bounds _).1 agreed
  · intro others same
    exact ⟨exactConsensus_perm (same.filterMap _),
      (allVotes_perm others).trans ((same.map _).trans (allVotes_perm votes).symm)⟩

def dividedVotes : Table Text Ballot :=
  upsertAll ∅ [("a".toList, .parseOK ⟨.subsetOf, .unspecified, .high⟩),
    ("b".toList, .parseOK ⟨.equivalent, .unspecified, .low⟩), ("c".toList, .nilVote)]

theorem vote_consensus_divided :
    (consensusOf (fun _ => 1 / 2) dividedVotes).relationship = .equivalent ∧
      (consensusOf (fun _ => 1 / 2) dividedVotes).agreementFraction ≤ 1 :=
  ⟨by decide, (vote_consensus _ (fun _ => by norm_num) dividedVotes).2.2.2.2.1.2.2⟩

/-- With no valid vote all types tie, the last of the priority wins, and the result is not
unanimous although no valid vote is for another type. -/
theorem vote_consensus_unread :
    let votes : Table Text Ballot := AList.singleton "a".toList .parseFail
    let consensus := consensusOf (fun _ => 1 / 2) votes
    (∀ kind, countOf (validVotes votes) kind = 0) ∧ consensus.relationship = .noRelationship ∧
      [.equivalent, consensus.relationship] <+ relationshipPriority ∧
      consensus.unanimous = false ∧
      ∀ vote ∈ validVotes votes, vote.relationship = consensus.relationship := by
  refine ⟨fun _ => rfl, rfl, by decide, rfl, ?_⟩
  intro vote mem
  cases mem

end CrossCodex.Analyzer.Relationship
