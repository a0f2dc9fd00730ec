/-
What rank fusion computes. pairKey joins two identifiers with a colon, so pairs can share a
key and are then fused: the result is right exactly if no such pair is among the best.
-/

import CrossCodex.Candidates.Fusion
import Mathlib.Algebra.BigOperators.Group.List.Basic
import Mathlib.Algebra.Order.BigOperators.Group.List
import Mathlib.Data.List.SplitBy
import Mathlib.Tactic.Positivity
import Mathlib.Tactic.Ring

namespace CrossCodex.Candidates

open Library
open Analyzer (Text)
open List Function

abbrev Sets := List (List Candidate)

abbrev Entry := Candidate × ℚ

abbrev Pair := Text × Text

variable {visit : Visit} {sets others : Sets}
  {runs : List (List (Candidate × Nat))} {fused set : List Candidate}
  {ranked : List Entry} {pair : Pair} {candidate : Candidate}

def scoresOf (entries : List (Candidate × Nat)) : List ℚ := entries.map fun entry => entry.1.score

/-- The next run starts below the last score of a run, and everything after it is no higher. -/
theorem lower_of_breaks {run : List (Candidate × Nat)}
    (sorted : (run :: runs).flatten.Pairwise fun one other => other.1.score ≤ one.1.score)
    (tied : ∀ one ∈ run, ∀ other ∈ run, one.1.score = other.1.score)
    (breaks : (run :: runs).IsChain fun one other => ∃ (some : one ≠ []) (more : other ≠ []),
      ((one.getLast some).1.score == (other.head more).1.score) = false)
    {one other : Candidate × Nat} (inRun : one ∈ run) (later : other ∈ runs.flatten) :
    other.1.score < one.1.score := by
  cases runs with
  | nil => cases later
  | cons next runs =>
    obtain ⟨some, more, differ⟩ := (isChain_cons_cons.mp breaks).1
    rw [flatten_cons, pairwise_append] at sorted
    have headIn : next.head more ∈ (next :: runs).flatten :=
      mem_flatten.mpr ⟨next, mem_cons_self, head_mem more⟩
    have below : (next.head more).1.score < one.1.score := by
      apply lt_of_le_of_ne (sorted.2.2 one inRun _ headIn)
      rw [tied one inRun _ (getLast_mem some)]
      exact Ne.symm (beq_eq_false_iff_ne.mp differ)
    apply lt_of_le_of_lt _ below
    have ordered := sorted.2.1
    obtain ⟨first, rest, rfl⟩ := exists_cons_of_ne_nil more
    rcases mem_cons.mp later with rfl | inRest
    · exact le_refl _
    · exact (pairwise_cons.mp ordered).1 other inRest

theorem assignRanks_eq (start : Nat)
    (sorted : runs.flatten.Pairwise fun one other => other.1.score ≤ one.1.score)
    (tied : ∀ run ∈ runs, ∀ one ∈ run, ∀ other ∈ run, one.1.score = other.1.score)
    (breaks : runs.IsChain fun one other => ∃ (some : one ≠ []) (more : other ≠ []),
      ((one.getLast some).1.score == (other.head more).1.score) = false) :
    assignRanks start runs = runs.flatten.map fun entry =>
      (entry.2, start + meanRank (scoresOf runs.flatten) entry.1.score) := by
  induction runs generalizing start with
  | nil => rfl
  | cons run runs ih =>
    have lower : ∀ one ∈ run, ∀ other ∈ runs.flatten, other.1.score < one.1.score :=
      fun _ inRun _ later => lower_of_breaks sorted (tied run mem_cons_self) breaks inRun later
    have joined : scoresOf (run :: runs).flatten = scoresOf run ++ scoresOf runs.flatten :=
      map_append
    have length : (scoresOf run).length = run.length := length_map _
    rw [flatten_cons, pairwise_append] at sorted
    rw [assignRanks, ih _ sorted.2.1 (fun later mem => tied later (mem_cons_of_mem run mem))
      (isChain_cons.mp breaks).2, joined, flatten_cons, map_append]
    congr 1
    · apply map_congr_left
      intro entry inRun
      rw [meanRank_first, length]
      · push_cast
        congr 1
        ring
      · intro score inScores
        obtain ⟨other, inRun', rfl⟩ := mem_map.mp inScores
        exact tied run mem_cons_self other inRun' entry inRun
      · intro score inScores
        obtain ⟨other, later, rfl⟩ := mem_map.mp inScores
        exact lower entry inRun other later
    · apply map_congr_left
      intro entry later
      rw [meanRank_append, length, Nat.cast_add, add_assoc]
      intro score inScores
      obtain ⟨other, inRun, rfl⟩ := mem_map.mp inScores
      exact lower other inRun entry later

theorem precedes_total (one other : Candidate) : one.Precedes other ∨ other.Precedes one :=
  ahead_total Candidate.score Candidate.targetID one other

theorem precedes_trans (one other third : Candidate) :
    one.Precedes other → other.Precedes third → one.Precedes third :=
  ahead_trans Candidate.score Candidate.targetID one other third

theorem precedes_ahead {one other : Candidate} (precedes : one.Precedes other) :
    Ahead Candidate.score Candidate.targetID one other := precedes

theorem assignRanks_sorted (group : List Candidate) :
    let order := group.zipIdx.insertionSort fun left right => left.1.Precedes right.1
    assignRanks 0 (order.splitBy fun left right => left.1.score == right.1.score) =
      order.map fun entry => (entry.2, meanRank (group.map Candidate.score) entry.1.score) := by
  intro order
  have totality : Std.Total fun left right : Candidate × Nat => left.1.Precedes right.1 :=
    ⟨fun left right => precedes_total left.1 right.1⟩
  have transitivity : IsTrans (Candidate × Nat) fun left right => left.1.Precedes right.1 :=
    ⟨fun left middle right => precedes_trans left.1 middle.1 right.1⟩
  have sorted : order.Pairwise fun one other => other.1.score ≤ one.1.score :=
    (pairwise_insertionSort _ group.zipIdx).imp fun precedes => (precedes_ahead precedes).value_le
  have tied : ∀ run ∈ order.splitBy (fun left right => left.1.score == right.1.score),
      ∀ one ∈ run, ∀ other ∈ run, one.1.score = other.1.score := by
    intro run mem one inRun other inRun'
    have chain : run.IsChain fun left right => left.1.score = right.1.score :=
      (isChain_of_mem_splitBy mem).imp fun _ _ equal => beq_iff_eq.mp equal
    have same : ∀ entry ∈ run,
        (fun left right : Candidate × Nat => left.1.score = right.1.score) entry entry :=
      fun _ _ => rfl
    exact List.Pairwise.forall_of_forall same chain.pairwise inRun inRun'
  have flat := flatten_splitBy (fun left right : Candidate × Nat =>
    left.1.score == right.1.score) order
  have breaks := isChain_getLast_head_splitBy (fun left right : Candidate × Nat =>
    left.1.score == right.1.score) order
  have ranks := assignRanks_eq 0 (flat.symm ▸ sorted) tied breaks
  have scores : (scoresOf order).Perm (group.map Candidate.score) := by
    have permuted := (perm_insertionSort (fun left right : Candidate × Nat =>
      left.1.Precedes right.1) group.zipIdx).map fun entry => entry.1.score
    refine permuted.trans (List.Perm.of_eq ?_)
    rw [← zipIdx_map_fst 0 group, map_map]
    simp
  rw [flat] at ranks
  refine ranks.trans (map_congr_left fun entry _ => ?_)
  rw [Nat.cast_zero, zero_add, meanRank_perm scores]

theorem fractionalRanks_eq (group : List Candidate) :
    fractionalRanks group =
      group.map fun candidate => meanRank (group.map Candidate.score) candidate.score := by
  have permuted := perm_insertionSort (fun left right : Candidate × Nat =>
    left.1.Precedes right.1) group.zipIdx
  have ranked := assignRanks_sorted group
  unfold fractionalRanks
  simp only at ranked ⊢
  rw [ranked]
  generalize group.zipIdx.insertionSort (fun left right : Candidate × Nat =>
    left.1.Precedes right.1) = order at permuted ⊢
  have nodup : ((order.map fun entry =>
      (entry.2, meanRank (group.map Candidate.score) entry.1.score)).map Prod.fst).Nodup := by
    rw [map_map]
    apply (permuted.map _).nodup_iff.mpr
    have indices : group.zipIdx.map Prod.snd = List.range' 0 group.length :=
      zipIdx_map_snd 0 group
    exact indices ▸ nodup_range'
  apply ext_getElem
  · simp
  intro index _ inGroup
  rw [length_map] at inGroup
  have listed : (group[index], index) ∈ order :=
    permuted.mem_iff.mpr (mk_mem_zipIdx_iff_getElem?.mpr (getElem?_eq_getElem inGroup))
  rw [getElem_map, getElem_map, getElem_range,
    (find?_key_iff Prod.fst nodup).mpr ⟨mem_map_of_mem listed, rfl⟩]
  rfl

theorem sum_assignRanks (start : Nat) (runs : List (List (Candidate × Nat))) :
    ((assignRanks start runs).map Prod.snd).sum =
      runs.flatten.length * start + runs.flatten.length * (runs.flatten.length + 1) / 2 := by
  induction runs generalizing start with
  | nil => simp [assignRanks]
  | cons run runs ih =>
    rw [assignRanks, map_append, sum_append, ih, map_map, flatten_cons,
      length_append, comp_def, map_const', sum_replicate, nsmul_eq_mul]
    push_cast
    ring

theorem sum_fractionalRanks (group : List Candidate) :
    (fractionalRanks group).sum = (group.length * (group.length + 1) : ℚ) / 2 := by
  have permuted := perm_insertionSort (fun left right : Candidate × Nat =>
    left.1.Precedes right.1) group.zipIdx
  have total := sum_assignRanks 0 ((group.zipIdx.insertionSort fun left right =>
    left.1.Precedes right.1).splitBy fun left right => left.1.score == right.1.score)
  rw [assignRanks_sorted group, flatten_splitBy, permuted.length_eq, length_zipIdx,
    map_map, (permuted.map _).sum_eq, Nat.cast_zero, mul_zero, zero_add] at total
  rw [fractionalRanks_eq, ← total]
  conv_lhs => rw [← zipIdx_map_fst 0 group, map_map, zipIdx_map_fst]
  rfl

abbrev ofSource (set : List Candidate) (source : Text) : List Candidate :=
  set.filter fun candidate => candidate.sourceID = source

/-- The position of a candidate among those of its source in a generator's list. -/
def rankIn (set : List Candidate) (candidate : Candidate) : ℚ :=
  meanRank ((ofSource set candidate.sourceID).map Candidate.score)
    candidate.score

def contributionOf (ranked : Entry) : Contribution where
  generatorID := ranked.1.generatorID
  score := ranked.1.score
  weight := ranked.1.weight
  rank := ranked.2
  metadata := ranked.1.metadata

def rankedSet (set : List Candidate) : List Entry :=
  set.map fun candidate => (candidate, rankIn set candidate)

abbrev rankedSets (sets : Sets) : List Entry := sets.flatMap rankedSet

theorem rankedSets_fst (sets : Sets) : (rankedSets sets).map Prod.fst = sets.flatten := by
  simp only [map_flatMap, rankedSet, map_map, comp_def, map_id', flatMap_id']

def keyOf (pair : Pair) : Text := pairKey pair.1 pair.2

theorem eq_of_keyOf {other : Pair} (sources : pair.1 = other.1)
    (same : keyOf pair = keyOf other) : pair = other := by
  rw [keyOf, keyOf, pairKey, pairKey, sources] at same
  exact Prod.ext sources (List.cons.inj (append_cancel_left same)).2

def ofKey (key : Text) (ranked : List Entry) : List Entry :=
  ranked.filter fun entry => keyOf entry.1.pair = key

def ofPair (pair : Pair) (ranked : List Entry) : List Entry :=
  ranked.filter fun entry => entry.1.pair = pair

def proposedPairs (sets : Sets) : List Pair :=
  (sets.flatten.map Candidate.pair).dedup

theorem mem_proposedPairs : pair ∈ proposedPairs sets ↔
    ∃ entry ∈ rankedSets sets, entry.1.pair = pair := by
  rw [proposedPairs, mem_dedup, ← rankedSets_fst, map_map, mem_map]
  rfl

/-- No other proposed pair has the key of this one. -/
def Own (sets : Sets) (pair : Pair) : Prop :=
  ∀ other ∈ proposedPairs sets, keyOf other = keyOf pair → other = pair

instance : DecidablePred (Own sets) :=
  fun pair => inferInstanceAs (Decidable (∀ other ∈ proposedPairs sets,
    keyOf other = keyOf pair → other = pair))

def fusedFrom (pair : Pair) (ranked : List Entry) : Candidate where
  sourceID := pair.1
  targetID := pair.2
  score := 0
  weight := 1
  generatorID := []
  metadata := []
  contributions := ranked.map contributionOf

def fusedPair (sets : Sets) (pair : Pair) : Candidate :=
  finish id (fusedFrom pair (ofPair pair (rankedSets sets)))

/-- Generators with IDs of their own, each listing a pair at most once. -/
structure Proposals (sets : Sets) : Prop where
  once : ∀ set ∈ sets, (set.map Candidate.pair).Nodup
  distinct : sets.Pairwise fun left right =>
    ∀ one ∈ left, ∀ other ∈ right, one.generatorID ≠ other.generatorID

def Visit.Permutes (visit : Visit) : Prop := ∀ set sources, (visit set sources).Perm sources

def visitedSet (visit : Visit) (set : List Candidate) :
    List Entry :=
  ((visit set (set.map Candidate.sourceID).dedup).flatMap fun source =>
    set.filter fun candidate => candidate.sourceID = source).map fun candidate =>
      (candidate, rankIn set candidate)

abbrev visitedSets (visit : Visit) (sets : Sets) : List Entry := sets.flatMap (visitedSet visit)

def contributeRanked (pairs : Pairs) (ranked : Entry) : Pairs :=
  contribute pairs ranked.1 ranked.2

theorem contributeGroup_eq (set : List Candidate) (source : Text) (pairs : Pairs) :
    contributeGroup pairs (ofSource set source) =
      ((ofSource set source).map fun candidate =>
        (candidate, rankIn set candidate)).foldl contributeRanked pairs := by
  unfold contributeGroup
  rw [fractionalRanks_eq, ← map_prod_left_eq_zip]
  congr 1
  apply map_congr_left
  intro candidate mem
  have own : candidate.sourceID = source := of_decide_eq_true (mem_filter.mp mem).2
  rw [rankIn, own]

theorem foldl_contributeSet (visit : Visit) (sets : Sets) (pairs : Pairs) :
    sets.foldl (contributeSet visit) pairs =
      (visitedSets visit sets).foldl contributeRanked pairs := by
  rw [foldl_flatMap]
  congr 1
  funext pairs set
  rw [visitedSet, map_flatMap, foldl_flatMap, contributeSet]
  congr 1
  funext pairs source
  exact contributeGroup_eq set source pairs

theorem visitedSet_perm (visits : visit.Permutes) (set : List Candidate) :
    (visitedSet visit set).Perm (rankedSet set) := by
  have order := visits set (set.map Candidate.sourceID).dedup
  refine (flatMap_filter_perm Candidate.sourceID
    (order.nodup_iff.mpr (nodup_dedup _)) ?_).map _
  intro candidate mem
  exact order.mem_iff.mpr (mem_dedup.mpr (mem_map_of_mem mem))

theorem visitedSets_perm (visits : visit.Permutes) (sets : Sets) :
    (visitedSets visit sets).Perm (rankedSets sets) :=
  List.Perm.flatMap_left _ fun set _ => visitedSet_perm visits set

/-- The first mention of a key names the pair, every mention contributes. -/
def rowOf : List Entry → Option Candidate
  | [] => none
  | first :: rest => some (fusedFrom first.1.pair (first :: rest))

theorem rowOf_append (entries : List Entry) (last : Entry) :
    rowOf (entries ++ [last]) = some { (rowOf entries).getD (fusedFrom last.1.pair [])
      with contributions := ((rowOf entries).getD (fusedFrom last.1.pair [])).contributions ++
        [contributionOf last] } := by
  cases entries with
  | nil => rfl
  | cons first rest => simp [rowOf, fusedFrom]

theorem ofKey_append (key : Text) (earlier : List Entry) (last : Entry) :
    ofKey key (earlier ++ [last]) =
      if keyOf last.1.pair = key then ofKey key earlier ++ [last] else ofKey key earlier := by
  unfold ofKey
  split <;> simp_all

theorem lookup_contributed (key : Text) :
    (ranked.foldl contributeRanked ∅).lookup key = rowOf (ofKey key ranked) := by
  induction ranked using List.reverseRecOn with
  | nil => rfl
  | append_singleton earlier last ih =>
    rw [foldl_append, foldl_cons, foldl_nil, contributeRanked, contribute, lookup_insert_eq,
      ofKey_append]
    by_cases here : keyOf last.1.pair = key
    · subst key
      rw [if_pos rfl, rowOf_append, ← ih]
      exact if_pos rfl
    · rw [if_neg here, ← ih]
      exact if_neg here

theorem mem_fusedCandidates : candidate ∈ fusedCandidates id visit sets ↔
    ∃ key first rest, ofKey key (visitedSets visit sets) = first :: rest ∧
      candidate = finish id (fusedFrom first.1.pair (first :: rest)) := by
  rw [fusedCandidates, mem_map]
  constructor
  · rintro ⟨⟨key, fused⟩, mem, rfl⟩
    have found := AList.mem_lookup_iff.mpr mem
    rw [foldl_contributeSet, lookup_contributed, Option.mem_def] at found
    cases entries : ofKey key (visitedSets visit sets) with
    | nil =>
      rw [entries] at found
      cases found
    | cons first rest =>
      rw [entries] at found
      cases found
      exact ⟨key, first, rest, entries, rfl⟩
  · rintro ⟨key, first, rest, entries, rfl⟩
    refine ⟨⟨key, fusedFrom first.1.pair (first :: rest)⟩, AList.mem_lookup_iff.mp ?_, rfl⟩
    rw [foldl_contributeSet, lookup_contributed, entries]
    rfl

theorem mem_ofKey {key : Text} {entry : Entry} :
    entry ∈ ofKey key ranked ↔ entry ∈ ranked ∧ keyOf entry.1.pair = key := by
  simp [ofKey]

theorem finish_perm {entries others : List Entry} (same : entries.Perm others)
    (nodup : ((entries.map contributionOf).map Contribution.generatorID).Nodup) (pair : Pair) :
    finish id (fusedFrom pair entries) = finish id (fusedFrom pair others) := by
  have sorted : ((entries.map contributionOf).insertionSort fun left right =>
      left.generatorID ≤ right.generatorID) =
      (others.map contributionOf).insertionSort fun left right =>
        left.generatorID ≤ right.generatorID := by
    refine insertionSort_eq_of_perm ?_ ?_ (same.map _) ?_
    · intro one other
      exact le_total one.generatorID other.generatorID
    · intro one other third
      exact le_trans
    · intro one inOne other inOther before after
      exact inj_on_of_nodup_map nodup inOne inOther (le_antisymm before after)
  simp only [finish, fusedFrom, sorted]

theorem filter_pair_subsingleton (once : (set.map Candidate.pair).Nodup) (pair : Pair) :
    (set.filter fun candidate => candidate.pair = pair).length ≤ 1 := by
  have count := nodup_iff_count_le_one.mp once pair
  rw [List.count, countP_map] at count
  rw [← countP_eq_length_filter]
  refine le_trans (countP_mono_left fun candidate _ same => ?_) count
  simpa using same

def Contributors (sets : Sets) : Prop :=
  ∀ pair, (((ofPair pair (rankedSets sets)).map contributionOf).map
    Contribution.generatorID).Nodup

theorem contributors_nodup (proposals : Proposals sets) : Contributors sets := by
  intro pair
  have flat : ((ofPair pair (rankedSets sets)).map contributionOf).map Contribution.generatorID =
      sets.flatMap fun set =>
        (set.filter fun candidate => candidate.pair = pair).map Candidate.generatorID := by
    simp only [ofPair, rankedSet, filter_flatMap, map_flatMap, filter_map, map_map, comp_def,
      contributionOf]
  rw [flat, nodup_flatMap]
  constructor
  · intro set mem
    have short := filter_pair_subsingleton (proposals.once set mem) pair
    generalize set.filter _ = listed at short
    match listed, short with
    | [], _ => exact nodup_nil
    | [candidate], _ => exact nodup_singleton _
  · apply proposals.distinct.imp
    intro left right ne generatorID inLeft inRight
    obtain ⟨one, ofLeft, rfl⟩ := mem_map.mp inLeft
    obtain ⟨other, ofRight, same⟩ := mem_map.mp inRight
    exact ne one (mem_of_mem_filter ofLeft) other (mem_of_mem_filter ofRight)
      same.symm

theorem ofKey_of_own (own : Own sets pair) :
    ofKey (keyOf pair) (rankedSets sets) = ofPair pair (rankedSets sets) := by
  apply filter_congr
  intro entry mem
  rw [decide_eq_decide]
  exact ⟨own _ (mem_proposedPairs.mpr ⟨entry, mem, rfl⟩), congrArg keyOf⟩

section

-- the sets in any order, visited in any order
variable (visited : (visitedSets visit others).Perm (rankedSets sets))
include visited

theorem fused_entries (mem : candidate ∈ fusedCandidates id visit others) :
    candidate.pair ∈ proposedPairs sets ∧
      ∃ entries, entries.Perm (ofKey (keyOf candidate.pair) (rankedSets sets)) ∧
        candidate = finish id (fusedFrom candidate.pair entries) := by
  obtain ⟨key, first, rest, entries, rfl⟩ := mem_fusedCandidates.mp mem
  obtain ⟨inVisited, named⟩ := mem_ofKey.mp (entries ▸ mem_cons_self : first ∈ ofKey key _)
  refine ⟨mem_proposedPairs.mpr ⟨first, visited.mem_iff.mp inVisited, rfl⟩, first :: rest, ?_, rfl⟩
  rw [← entries, ← named]
  exact visited.filter _

theorem exists_fused (proposed : pair ∈ proposedPairs sets) :
    ∃ candidate ∈ fusedCandidates id visit others, keyOf candidate.pair = keyOf pair := by
  obtain ⟨entry, mem, rfl⟩ := mem_proposedPairs.mp proposed
  have keyed := mem_ofKey.mpr ⟨visited.mem_iff.mpr mem, rfl⟩
  obtain ⟨first, rest, entries⟩ := exists_cons_of_ne_nil (ne_nil_of_mem keyed)
  refine ⟨_, mem_fusedCandidates.mpr ⟨_, first, rest, entries, rfl⟩, ?_⟩
  exact (mem_ofKey.mp (entries ▸ mem_cons_self)).2

theorem own_fused (proposed : pair ∈ proposedPairs sets) (own : Own sets pair) :
    pair ∈ (fusedCandidates id visit others).map Candidate.pair := by
  obtain ⟨fused, made, sameKey⟩ := exists_fused visited proposed
  cases own fused.pair (fused_entries visited made).1 sameKey
  exact mem_map_of_mem made

theorem eq_fusedPair (contributors : Contributors sets)
    (mem : candidate ∈ fusedCandidates id visit others)
    (own : Own sets candidate.pair) : candidate = fusedPair sets candidate.pair := by
  obtain ⟨_, entries, same, made⟩ := fused_entries visited mem
  rw [ofKey_of_own own] at same
  exact made.trans (finish_perm same.symm (contributors _) candidate.pair).symm

end

def keptOf (fused : List Candidate) (maxPerSource : Nat) : List Candidate :=
  ((fused.map Candidate.sourceID).dedup.insertionSort (· ≤ ·)).flatMap
    (topOfSource fused maxPerSource)

theorem aggregateRankFusion_eq (visit : Visit)
    (sets : Sets) {maxPerSource : Int} (positive : 1 ≤ maxPerSource) :
    aggregateRankFusion id visit sets maxPerSource =
      .ok (keptOf (fusedCandidates id visit sets) maxPerSource.toNat) :=
  if_neg (by omega)

theorem filter_keptOf (fused : List Candidate) (maxPerSource : Nat) (source : Text) :
    ((keptOf fused maxPerSource).filter fun candidate => candidate.sourceID = source) =
      topOfSource fused maxPerSource source := by
  have sources : ((fused.map Candidate.sourceID).dedup.insertionSort (· ≤ ·)).Nodup :=
    (perm_insertionSort _ _).nodup_iff.mpr (nodup_dedup _)
  rw [keptOf, filter_flatMap_key Candidate.sourceID sources fun _ _ mem =>
    (mem_of_mem_topOfSource mem).2]
  split
  · rfl
  rename_i absent
  rw [mem_insertionSort, mem_dedup] at absent
  apply Eq.symm
  apply eq_nil_iff_forall_not_mem.mpr
  intro candidate mem
  obtain ⟨inFused, rfl⟩ := mem_of_mem_topOfSource mem
  exact absent (mem_map_of_mem inFused)

/-- The same lists, in another order and each in another order. -/
def Reordered (sets others : Sets) : Prop :=
  ∃ middle, sets.Perm middle ∧ List.Forall₂ List.Perm middle others

theorem rankedSet_perm {other : List Candidate} (same : set.Perm other) :
    (rankedSet set).Perm (rankedSet other) := by
  have ranks : rankIn set = rankIn other := by
    funext candidate
    exact meanRank_perm ((same.filter _).map _) _
  unfold rankedSet
  rw [ranks]
  exact same.map _

theorem Reordered.rankedSets (reordered : Reordered sets others) :
    (rankedSets others).Perm (rankedSets sets) := by
  obtain ⟨middle, shuffled, same⟩ := reordered
  refine List.Perm.trans ?_ (shuffled.flatMap_right rankedSet).symm
  clear shuffled
  induction same with
  | nil => exact List.Perm.nil
  | cons first _ ih =>
    rw [Candidates.rankedSets, flatMap_cons, flatMap_cons]
    exact (rankedSet_perm first).symm.append ih

/-- The sum, over the generators that propose a pair, of weight / (60 + rank). -/
def proposedScore (sets : Sets) (pair : Pair) : ℚ :=
  (sets.flatMap fun set => (set.filter fun candidate => candidate.pair = pair).map
    fun candidate => candidate.weight / (60 + rankIn set candidate)).sum

def Better (sets : Sets) (left right : Pair) : Prop :=
  proposedScore sets right < proposedScore sets left ∨
    proposedScore sets left = proposedScore sets right ∧ left.2 < right.2

theorem foldl_fusedScore (contributions : List Contribution) (start : ℚ) :
    contributions.foldl (fun score contribution =>
        id (score + id (contribution.weight / id (rrfK + contribution.rank)))) start =
      start + (contributions.map fun contribution =>
        contribution.weight / (60 + contribution.rank)).sum := by
  induction contributions generalizing start with
  | nil => simp
  | cons first rest ih =>
    rw [foldl_cons, ih, map_cons, sum_cons]
    simp only [id, rrfK, add_assoc]

def entryScore (entry : Entry) : ℚ := entry.1.weight / (60 + entry.2)

theorem finish_score (entries : List Entry) (pair : Pair) :
    (finish id (fusedFrom pair entries)).score = (entries.map entryScore).sum := by
  have sorted := perm_insertionSort (fun left right : Contribution =>
    left.generatorID ≤ right.generatorID) (entries.map contributionOf)
  have score := foldl_fusedScore ((entries.map contributionOf).insertionSort fun left right =>
    left.generatorID ≤ right.generatorID) 0
  rw [zero_add, (sorted.map _).sum_eq, map_map] at score
  exact score

theorem proposedScore_eq (sets : Sets) (pair : Pair) :
    proposedScore sets pair =
      ((ofPair pair (rankedSets sets)).map entryScore).sum := by
  simp only [ofPair, rankedSet, filter_flatMap, map_flatMap, filter_map, map_map, comp_def,
    entryScore, proposedScore]

theorem fusedPair_score (sets : Sets) (pair : Pair) :
    (fusedPair sets pair).score = proposedScore sets pair := by
  rw [proposedScore_eq]
  exact finish_score _ pair

def keyScore (sets : Sets) (key : Text) : ℚ :=
  ((ofKey key (rankedSets sets)).map entryScore).sum

theorem fused_score (visited : (visitedSets visit others).Perm (rankedSets sets))
    (mem : candidate ∈ fusedCandidates id visit others) :
    candidate.score = keyScore sets (keyOf candidate.pair) := by
  obtain ⟨_, entries, same, made⟩ := fused_entries visited mem
  have score := congrArg Candidate.score made
  rw [finish_score, (same.map _).sum_eq] at score
  exact score

theorem keyScore_own (own : Own sets pair) :
    keyScore sets (keyOf pair) = proposedScore sets pair := by
  rw [keyScore, ofKey_of_own own, proposedScore_eq]

def Weighted (sets : Sets) : Prop :=
  ∀ candidate ∈ sets.flatten, 0 < candidate.weight

theorem entryScore_pos (weighted : Weighted sets) {entry : Entry}
    (mem : entry ∈ rankedSets sets) : 0 < entryScore entry := by
  obtain ⟨set, inSets, inRanked⟩ := mem_flatMap.mp mem
  obtain ⟨candidate, inSet, rfl⟩ := mem_map.mp inRanked
  have weight := weighted candidate (mem_flatten.mpr ⟨set, inSets, inSet⟩)
  rw [entryScore, rankIn, meanRank]
  positivity

theorem proposedScore_lt (weighted : Weighted sets) (shared : ¬ Own sets pair) :
    proposedScore sets pair < keyScore sets (keyOf pair) := by
  rw [Own] at shared
  push Not at shared
  obtain ⟨other, proposed, sameKey, differs⟩ := shared
  obtain ⟨entry, mem, rfl⟩ := mem_proposedPairs.mp proposed
  have split := (filter_append_perm (fun entry : Entry => entry.1.pair = pair)
    (ofKey (keyOf pair) (rankedSets sets))).map entryScore
  have within : (ofKey (keyOf pair) (rankedSets sets)).filter
      (fun entry => entry.1.pair = pair) = ofPair pair (rankedSets sets) := by
    rw [ofKey, filter_filter]
    apply filter_congr
    intro entry _
    rw [Bool.eq_iff_iff]
    simp only [Bool.and_eq_true, decide_eq_true_eq, and_iff_left_iff_imp]
    exact congrArg keyOf
  rw [keyScore, ← split.sum_eq, map_append, sum_append, within, proposedScore_eq,
    lt_add_iff_pos_right]
  apply sum_pos
  · intro score inScores
    obtain ⟨shares, inRest, rfl⟩ := mem_map.mp inScores
    exact entryScore_pos weighted (mem_ofKey.mp (mem_of_mem_filter inRest)).1
  · apply ne_nil_of_mem
    apply mem_map_of_mem
    exact mem_filter.mpr ⟨mem_ofKey.mpr ⟨mem, sameKey⟩, by simpa using differs⟩

theorem sum_rankIn (set : List Candidate) (source : Text) :
    ((ofSource set source).map (rankIn set)).sum =
      ((ofSource set source).length *
        ((ofSource set source).length + 1) : ℚ) / 2 := by
  rw [← sum_fractionalRanks, fractionalRanks_eq]
  congr 1
  apply map_congr_left
  intro candidate mem
  have own : candidate.sourceID = source := of_decide_eq_true (mem_filter.mp mem).2
  rw [rankIn, own]

def ranking (score : Pair → ℚ) (pairs : List Pair) (source : Text) : List Pair :=
  (pairs.filter fun pair => pair.1 = source).insertionSort (Ahead score Prod.snd)

theorem topOfSource_pair (score : Pair → ℚ)
    (scores : ∀ candidate ∈ fused, candidate.score = score candidate.pair)
    (maxPerSource : Nat) (source : Text) :
    (topOfSource fused maxPerSource source).map Candidate.pair =
      (ranking score (fused.map Candidate.pair) source).take maxPerSource := by
  rw [topOfSource, map_take, map_insertionSort (r := Candidate.Precedes)
    (s := Ahead score Prod.snd), ranking, filter_map]
  · rfl
  intro one inOne other inOther
  rw [Candidate.Precedes, scores one (mem_of_mem_filter inOne),
    scores other (mem_of_mem_filter inOther)]
  rfl

theorem ranking_antisymm {score : Pair → ℚ} {pairs : List Pair} {source : Text} :
    ∀ one ∈ pairs.filter (fun pair => pair.1 = source),
      ∀ other ∈ pairs.filter (fun pair => pair.1 = source),
        Ahead score Prod.snd one other → Ahead score Prod.snd other one → one = other := by
  intro one inOne other inOther before after
  have sources := (of_decide_eq_true (mem_filter.mp inOne).2).trans
    (of_decide_eq_true (mem_filter.mp inOther).2).symm
  exact Prod.ext sources (before.key_eq after)

theorem ranking_better (sets : Sets) (source : Text) :
    (ranking (proposedScore sets) (proposedPairs sets) source).Pairwise (Better sets) := by
  have totality : Std.Total (Ahead (proposedScore sets) Prod.snd) := ⟨ahead_total _ _⟩
  have transitivity : IsTrans Pair (Ahead (proposedScore sets) Prod.snd) := ⟨ahead_trans _ _⟩
  have permuted := perm_insertionSort (Ahead (proposedScore sets) Prod.snd)
    ((proposedPairs sets).filter fun pair => pair.1 = source)
  have apart := permuted.nodup_iff.mpr ((nodup_dedup _).filter _)
  refine List.Pairwise.imp_of_mem ?_ ((pairwise_insertionSort _ _).and apart)
  intro one other inOne inOther both
  have sources := (of_decide_eq_true (mem_filter.mp (permuted.mem_iff.mp inOne)).2).trans
    (of_decide_eq_true (mem_filter.mp (permuted.mem_iff.mp inOther)).2).symm
  exact both.1.imp_right fun tie =>
    ⟨tie.1, lt_of_le_of_ne tie.2 fun targets => both.2 (Prod.ext sources targets)⟩

/-- The best pairs of every source, each fused from its own mentions. -/
def bestOf (sets : Sets) (maxPerSource : Nat) : List Candidate :=
  (((proposedPairs sets).map Prod.fst).dedup.insertionSort (· ≤ ·)).flatMap fun source =>
    ((ranking (proposedScore sets) (proposedPairs sets) source).take maxPerSource).map
      (fusedPair sets)

/-- The pairs with keys of their own that come before a pair of their source, if that has the
score of all pairs of its key. -/
def ownAhead (sets : Sets) (pair : Pair) : List Pair :=
  (proposedPairs sets).filter fun other =>
    Own sets other ∧ other.1 = pair.1 ∧
      (keyScore sets (keyOf pair) < proposedScore sets other ∨
        keyScore sets (keyOf pair) = proposedScore sets other ∧
          other.2 < pair.2)

/-- A pair that shares its key is not among the best of its source, whatever it is fused with. -/
def Hidden (sets : Sets) (maxPerSource : Nat) : Prop :=
  ∀ pair ∈ proposedPairs sets, ¬ Own sets pair →
    maxPerSource ≤ (ownAhead sets pair).length

section

variable {maxPerSource : Nat} (hidden : Hidden sets maxPerSource)
include hidden

theorem ranking_own {score : Pair → ℚ} {pairs : List Pair}
    (alone : ∀ pair, Own sets pair → score pair = proposedScore sets pair)
    (bounded : ∀ pair, ¬ Own sets pair → score pair ≤ keyScore sets (keyOf pair))
    (proposed : pairs ⊆ proposedPairs sets)
    (same : (pairs.filter fun pair => Own sets pair).Perm
      ((proposedPairs sets).filter fun pair => Own sets pair)) (source : Text) :
    (ranking score pairs source).take maxPerSource =
      (ranking (proposedScore sets) ((proposedPairs sets).filter fun pair => Own sets pair)
        source).take maxPerSource := by
  have scores : ∀ owned : List Pair, (∀ pair ∈ owned, Own sets pair) →
      owned.insertionSort (Ahead score Prod.snd) =
        owned.insertionSort (Ahead (proposedScore sets) Prod.snd) := by
    intro owned own
    have mapped := map_insertionSort (r := Ahead score Prod.snd)
      (s := Ahead (proposedScore sets) Prod.snd) id owned fun one inOne other inOther => by
        rw [Ahead, Ahead, alone one (own one inOne), alone other (own other inOther)]
        rfl
    rwa [map_id, map_id] at mapped
  rw [ranking, take_insertionSort_filter (ahead_total _ _) (ahead_trans _ _) ranking_antisymm,
    filter_comm, scores _ fun pair mem => of_decide_eq_true
      (mem_filter.mp (mem_of_mem_filter mem)).2,
    insertionSort_eq_of_perm (ahead_total _ _) (ahead_trans _ _) (same.filter _) ranking_antisymm]
  · rfl
  intro pair mem shared
  obtain ⟨inPairs, sourced⟩ := mem_filter.mp mem
  rw [decide_eq_false_iff_not] at shared
  refine (hidden pair (proposed inPairs) shared).trans ?_
  rw [countP_eq_length_filter]
  apply (subperm_of_subset ((nodup_dedup _).filter _) _).length_le
  intro other ahead
  obtain ⟨listed, conditions⟩ := mem_filter.mp ahead
  obtain ⟨own, sources, better⟩ := of_decide_eq_true conditions
  have kept := mem_of_mem_filter
    (same.mem_iff.mpr (mem_filter.mpr ⟨listed, decide_eq_true own⟩))
  have strictly : ¬ Ahead score Prod.snd pair other := by
    have low := bounded pair shared
    rw [Ahead, alone other own, not_or, not_and]
    rcases better with above | ⟨tied, before⟩
    · exact ⟨(low.trans_lt above).not_gt, fun same => absurd same (low.trans_lt above).ne⟩
    · exact ⟨(tied ▸ low).not_gt, fun _ => not_le.mpr before⟩
  refine mem_filter.mpr ⟨mem_filter.mpr ⟨kept, ?_⟩, by simp [strictly, own]⟩
  exact decide_eq_true (sources.trans (of_decide_eq_true sourced))

variable (weighted : Weighted sets) (visited : (visitedSets visit others).Perm (rankedSets sets))
include weighted

theorem ranking_proposed (source : Text) :
    (ranking (proposedScore sets) (proposedPairs sets) source).take maxPerSource =
      (ranking (proposedScore sets) ((proposedPairs sets).filter fun pair => Own sets pair)
        source).take maxPerSource :=
  ranking_own hidden (fun _ _ => rfl) (fun _ shared => (proposedScore_lt weighted shared).le)
    (Subset.refl _) (List.Perm.refl _) source

include visited

theorem top_fused (source : Text) :
    (topOfSource (fusedCandidates id visit others) maxPerSource source).map Candidate.pair =
      (ranking (proposedScore sets) (proposedPairs sets) source).take maxPerSource := by
  rw [topOfSource_pair (fun pair => keyScore sets (keyOf pair)) fun _ mem => fused_score visited mem,
    ranking_own hidden (fun _ => keyScore_own) (fun _ _ => le_refl _),
    ranking_proposed hidden weighted]
  · intro pair mem
    obtain ⟨candidate, made, rfl⟩ := mem_map.mp mem
    exact (fused_entries visited made).1
  refine (perm_ext_iff_of_nodup ((fusedCandidates_nodup id visit others).filter _)
    ((nodup_dedup _).filter _)).mpr fun pair => ?_
  rw [mem_filter, mem_filter, decide_eq_true_eq]
  apply and_congr_left
  intro own
  refine ⟨fun mem => ?_, fun proposed => own_fused visited proposed own⟩
  obtain ⟨candidate, made, rfl⟩ := mem_map.mp mem
  exact (fused_entries visited made).1

theorem topOfSource_fused (contributors : Contributors sets) (source : Text) :
    topOfSource (fusedCandidates id visit others) maxPerSource source =
      ((ranking (proposedScore sets) (proposedPairs sets) source).take maxPerSource).map
        (fusedPair sets) := by
  rw [← top_fused hidden weighted visited, map_map]
  refine (map_id _).symm.trans (map_congr_left fun candidate inTop => ?_)
  apply eq_fusedPair visited contributors (mem_of_mem_topOfSource inTop).1
  have ranked := mem_map_of_mem (f := Candidate.pair) inTop
  rw [top_fused hidden weighted visited, ranking_proposed hidden weighted] at ranked
  have inRanking := mem_of_mem_take ranked
  rw [ranking, mem_insertionSort] at inRanking
  exact of_decide_eq_true (mem_filter.mp (mem_of_mem_filter inRanking)).2

omit weighted in
theorem sources_fused (positive : 1 ≤ maxPerSource) :
    ((fusedCandidates id visit others).map Candidate.sourceID).dedup.Perm
      ((proposedPairs sets).map Prod.fst).dedup := by
  rw [perm_ext_iff_of_nodup (nodup_dedup _) (nodup_dedup _)]
  intro source
  rw [mem_dedup, mem_dedup]
  constructor
  · intro mem
    obtain ⟨candidate, made, rfl⟩ := mem_map.mp mem
    exact mem_map_of_mem (fused_entries visited made).1
  · intro mem
    obtain ⟨pair, proposed, rfl⟩ := mem_map.mp mem
    obtain ⟨other, listed, own, sources⟩ : ∃ other ∈ proposedPairs sets,
        Own sets other ∧ other.1 = pair.1 := by
      by_cases own : Own sets pair
      · exact ⟨pair, proposed, own, rfl⟩
      · obtain ⟨other, ahead⟩ := exists_mem_of_length_pos
          (positive.trans (hidden pair proposed own))
        obtain ⟨listed, conditions⟩ := mem_filter.mp ahead
        obtain ⟨ownToo, sources, _⟩ := of_decide_eq_true conditions
        exact ⟨other, listed, ownToo, sources⟩
    obtain ⟨candidate, made, rfl⟩ := mem_map.mp (own_fused visited listed own)
    exact mem_map.mpr ⟨candidate, made, sources⟩

theorem keptOf_fused (contributors : Contributors sets) (positive : 1 ≤ maxPerSource) :
    keptOf (fusedCandidates id visit others) maxPerSource = bestOf sets maxPerSource := by
  rw [keptOf, bestOf, insertionSort_eq_of_perm le_total (fun _ _ _ => le_trans)
    (sources_fused hidden visited positive) fun _ _ _ _ => le_antisymm]
  exact flatMap_congr fun source _ =>
    topOfSource_fused hidden weighted visited contributors source

end

def visitFirst (source : Text) : Visit := fun _ sources =>
  if source ∈ sources then source :: sources.erase source else sources

theorem visitFirst_permutes (source : Text) : (visitFirst source).Permutes := by
  intro set sources
  rw [visitFirst]
  split
  · next mem => exact (perm_cons_erase mem).symm
  · exact List.Perm.refl _

/-- Every pair of a key can be the one whose fused candidate is made. -/
theorem exists_first (proposed : pair ∈ proposedPairs sets) :
    ∃ others, Reordered sets others ∧
      ∃ candidate ∈ fusedCandidates id (visitFirst pair.1) others, candidate.pair = pair := by
  obtain ⟨listed, inFlat, rfl⟩ := mem_map.mp (mem_dedup.mp proposed)
  obtain ⟨set, inSets, inSet⟩ := mem_flatten.mp inFlat
  refine ⟨set :: sets.erase set, ⟨_, perm_cons_erase inSets, forall₂_same.mpr fun _ _ =>
    List.Perm.refl _⟩, ?_⟩
  have source : listed.sourceID ∈ (set.map Candidate.sourceID).dedup :=
    mem_dedup.mpr (mem_map_of_mem inSet)
  obtain ⟨later, visited⟩ : ∃ later, visitedSets (visitFirst listed.sourceID)
      (set :: sets.erase set) =
        (ofSource set listed.sourceID).map (fun candidate => (candidate, rankIn set candidate)) ++
          later := by
    rw [visitedSets, flatMap_cons, visitedSet, visitFirst, if_pos source, flatMap_cons, map_append,
      append_assoc]
    exact ⟨_, rfl⟩
  have inGroup : (listed, rankIn set listed) ∈ ofKey (keyOf listed.pair)
      ((ofSource set listed.sourceID).map fun candidate => (candidate, rankIn set candidate)) :=
    mem_ofKey.mpr ⟨mem_map_of_mem (mem_filter.mpr ⟨inSet, decide_eq_true rfl⟩), rfl⟩
  obtain ⟨first, rest, entries⟩ := exists_cons_of_ne_nil (ne_nil_of_mem inGroup)
  -- pairs of one source with one key are one pair
  obtain ⟨grouped, sameKey⟩ := mem_ofKey.mp (entries ▸ mem_cons_self : first ∈ _)
  obtain ⟨candidate, ofGroup, rfl⟩ := mem_map.mp grouped
  have same : candidate.pair = listed.pair :=
    eq_of_keyOf (of_decide_eq_true (mem_filter.mp ofGroup).2) sameKey
  refine ⟨_, mem_fusedCandidates.mpr ⟨keyOf listed.pair, (candidate, rankIn set candidate),
    rest ++ ofKey (keyOf listed.pair) later, ?_, rfl⟩, same⟩
  change ofKey _ (visitedSets (visitFirst listed.sourceID) _) = _
  rw [visited, ofKey, filter_append, ← ofKey, entries]
  rfl

/-- The result of fusion as it should be: every pair has its own score, every source keeps
its best pairs, and no order matters. -/
structure Correct (sets : Sets) (maxPerSource : Int)
    (output : List Candidate) : Prop where
  distinct : (output.map Candidate.pair).Nodup
  scores : ∀ candidate ∈ output, candidate.score = proposedScore sets candidate.pair
  ranks : ∀ set ∈ sets, ∀ source,
    ((ofSource set source).map (rankIn set)).sum =
      ((ofSource set source).length * ((ofSource set source).length + 1) : ℚ) / 2
  best : ∀ source, ∃ ranking : List Pair,
    ranking.Perm ((proposedPairs sets).filter fun pair => pair.1 = source) ∧
    ranking.Pairwise (Better sets) ∧
    (output.filter fun candidate => candidate.sourceID = source).map Candidate.pair =
      ranking.take maxPerSource.toNat
  stable : ∀ (visit : Visit) (others : Sets),
    visit.Permutes → Reordered sets others →
      aggregateRankFusion id visit others maxPerSource = .ok output

theorem ahead_of_topOfSource {maxPerSource : Nat} (mem : candidate ∈ fused)
    (out : candidate ∉ topOfSource fused maxPerSource candidate.sourceID) :
    (topOfSource fused maxPerSource candidate.sourceID).length = maxPerSource ∧
      ∀ other ∈ topOfSource fused maxPerSource candidate.sourceID, other.Precedes candidate := by
  have totality : Std.Total Candidate.Precedes := ⟨precedes_total⟩
  have transitivity : IsTrans Candidate Candidate.Precedes := ⟨precedes_trans⟩
  have sorted := pairwise_insertionSort Candidate.Precedes
    (fused.filter fun other => other.sourceID = candidate.sourceID)
  have listed : candidate ∈ (fused.filter fun other =>
      other.sourceID = candidate.sourceID).insertionSort Candidate.Precedes := by
    rw [mem_insertionSort, mem_filter]
    exact ⟨mem, decide_eq_true rfl⟩
  rw [topOfSource] at out ⊢
  generalize (fused.filter fun other => other.sourceID = candidate.sourceID).insertionSort
    Candidate.Precedes = ranking at sorted listed out ⊢
  rw [← take_append_drop maxPerSource ranking] at sorted listed
  have dropped := (mem_append.mp listed).resolve_left out
  constructor
  · have long := length_pos_of_mem dropped
    rw [length_drop] at long
    rw [length_take]
    omega
  · intro other taken
    exact (pairwise_append.mp sorted).2.2 other taken candidate dropped

theorem Correct.hidden {maxPerSource : Int} {output : List Candidate}
    (correct : Correct sets maxPerSource output) (weighted : Weighted sets)
    (positive : 1 ≤ maxPerSource) : Hidden sets maxPerSource.toNat := by
  intro pair proposed shared
  obtain ⟨others, reordered, candidate, made, rfl⟩ := exists_first proposed
  have visits := visitFirst_permutes candidate.pair.1
  have visited := (visitedSets_perm visits others).trans reordered.rankedSets
  have ended := correct.stable _ _ visits reordered
  rw [aggregateRankFusion_eq _ _ positive] at ended
  have top := filter_keptOf (fusedCandidates id (visitFirst candidate.pair.1) others)
    maxPerSource.toNat candidate.sourceID
  rw [Except.ok.inj ended] at top
  -- a kept candidate has the score of its pair alone, so no other pair has its key
  have own : ∀ other ∈ topOfSource (fusedCandidates id (visitFirst candidate.pair.1) others)
      maxPerSource.toNat candidate.sourceID,
      other.score = proposedScore sets other.pair ∧ Own sets other.pair := by
    intro other inTop
    have inFused := (mem_of_mem_topOfSource inTop).1
    rw [← top] at inTop
    have alone := correct.scores other (mem_of_mem_filter inTop)
    refine ⟨alone, ?_⟩
    by_contra sharedToo
    have strictly := proposedScore_lt weighted sharedToo
    rw [← fused_score visited inFused, ← alone] at strictly
    exact strictly.false
  obtain ⟨full, ahead⟩ := ahead_of_topOfSource made fun inTop => shared (own candidate inTop).2
  rw [← full, ← length_map Candidate.pair]
  apply (subperm_of_subset (topOfSource_nodup (fusedCandidates_nodup _ _ _) _ _) _).length_le
  intro other inPairs
  obtain ⟨kept, inTop, rfl⟩ := mem_map.mp inPairs
  obtain ⟨inFused, source⟩ := mem_of_mem_topOfSource inTop
  obtain ⟨alone, ownToo⟩ := own kept inTop
  refine mem_filter.mpr ⟨(fused_entries visited inFused).1,
    decide_eq_true ⟨ownToo, source, ?_⟩⟩
  rw [← fused_score visited made, ← alone]
  refine (ahead kept inTop).imp_right fun tie => ⟨tie.1.symm, lt_of_le_of_ne tie.2 ?_⟩
  intro targets
  exact shared ((Prod.ext source targets : kept.pair = candidate.pair) ▸ ownToo)

/-- Fusion in exact arithmetic is correct exactly if the pairs that share a key are not among
the best of their sources. -/
theorem rankFusion_correct {maxPerSource : Int} (positive : 1 ≤ maxPerSource)
    (proposals : Proposals sets) (weighted : Weighted sets) :
    (∃ output, Correct sets maxPerSource output) ↔
      Hidden sets maxPerSource.toNat := by
  constructor
  · rintro ⟨output, correct⟩
    exact correct.hidden weighted positive
  intro hidden
  have some : 1 ≤ maxPerSource.toNat := by omega
  have contributors := contributors_nodup proposals
  have plain : (visitedSets (fun _ => id) sets).Perm (rankedSets sets) :=
    visitedSets_perm (fun _ _ => List.Perm.refl _) sets
  have kept := keptOf_fused hidden weighted plain contributors some
  have made := aggregateRankFusion_eq (fun _ => id) sets positive
  rw [kept] at made
  refine ⟨bestOf sets maxPerSource.toNat, (aggregateRankFusion_spec made).distinct, ?_,
    fun set _ => sum_rankIn set, ?_, ?_⟩
  · intro candidate mem
    obtain ⟨source, _, inTop⟩ := mem_flatMap.mp mem
    obtain ⟨pair, _, rfl⟩ := mem_map.mp inTop
    exact fusedPair_score sets pair
  · intro source
    refine ⟨_, perm_insertionSort _ _, ranking_better sets source, ?_⟩
    rw [← kept, filter_keptOf, top_fused hidden weighted plain]
    rfl
  · intro visit others visits reordered
    rw [aggregateRankFusion_eq visit others positive, keptOf_fused hidden weighted
      ((visitedSets_perm visits others).trans reordered.rankedSets) contributors some]

def proposal (sourceID targetID generatorID : String) (score : ℚ) : Candidate where
  sourceID := sourceID.toList
  targetID := targetID.toList
  score
  weight := 1
  generatorID := generatorID.toList
  metadata := []
  contributions := []

/-- Two generators that agree on the best pair of either source; the second pairs share a
key. -/
def agreeingSets : Sets :=
  [[proposal "a" "x" "level" 2, proposal "a" "b:c" "level" 1, proposal "a:b" "y" "level" 1],
    [proposal "a:b" "y" "keyword" 2, proposal "a" "x" "keyword" 1, proposal "a:b" "c" "keyword" 1]]

theorem rankFusion_correct_agreeing :
    ∃ output, Correct agreeingSets 1 output ∧
      output.map (fun candidate => (candidate.pair, candidate.score)) =
        [(("a".toList, "x".toList), 2 / 61), (("a:b".toList, "y".toList), 2 / 61)] := by
  have hidden : Hidden agreeingSets 1 := by
    unfold Hidden
    decide +kernel
  have weighted : Weighted agreeingSets := by
    unfold Weighted
    decide +kernel
  obtain ⟨output, correct⟩ :=
    (rankFusion_correct (Int.le_refl 1) ⟨by decide, by decide⟩ weighted).mpr hidden
  have made := correct.stable (fun _ => id) agreeingSets (fun _ _ => List.Perm.refl _)
    ⟨_, List.Perm.refl _, forall₂_same.mpr fun _ _ => List.Perm.refl _⟩
  have pairs : (aggregateRankFusion id (fun _ => id) agreeingSets 1).map (List.map fun candidate =>
      (candidate.pair, candidate.score)) =
        .ok [(("a".toList, "x".toList), 2 / 61), (("a:b".toList, "y".toList), 2 / 61)] := by
    decide +kernel
  rw [made] at pairs
  exact ⟨output, correct, Except.ok.inj pairs⟩

/-- Two generators, two pairs, one key: the second pair is lost in the first. -/
theorem colon_pairs_merged :
    Proposals [[proposal "a:b" "c" "level" 1], [proposal "a" "b:c" "keyword" 1]] ∧
      (aggregateRankFusion id (fun _ => id)
        [[proposal "a:b" "c" "level" 1], [proposal "a" "b:c" "keyword" 1]] 20).map
          (List.map Candidate.pair) = .ok [("a:b".toList, "c".toList)] ∧
      (aggregateRankFusion id (fun _ => id)
        [[proposal "a" "b:c" "keyword" 1], [proposal "a:b" "c" "level" 1]] 20).map
          (List.map Candidate.pair) = .ok [("a".toList, "b:c".toList)] :=
  ⟨⟨by decide, by decide⟩, rfl, rfl⟩

end CrossCodex.Candidates
