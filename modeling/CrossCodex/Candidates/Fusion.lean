/-
Rank fusion (pkg/analyzer/candidate/aggregation.go). Scores are rationals; `round` rounds a
float64 operation. `visit` is the order in which Go visits the sources of a generator's
list. sort.Slice keeps equal elements in order, which matters only for a pair listed twice.
-/

import CrossCodex.Analyzer.TaskId
import CrossCodex.Library.Ranking
import CrossCodex.Library.Upsert
import Mathlib.Data.Char
import Mathlib.Data.List.Lex

namespace CrossCodex.Candidates

open Library
open Analyzer (Text)
open List

abbrev Metadata := List (Text × Text)

structure Contribution where
  generatorID : Text
  score : ℚ
  weight : ℚ
  rank : ℚ
  metadata : Metadata
deriving DecidableEq

structure Candidate where
  sourceID : Text
  targetID : Text
  score : ℚ
  weight : ℚ
  generatorID : Text
  metadata : Metadata
  contributions : List Contribution
deriving DecidableEq

def Candidate.pair (candidate : Candidate) : Text × Text :=
  (candidate.sourceID, candidate.targetID)

/-- The order of sort.Slice in fractionalRanks and of the fused candidates of a source:
the score descending, then the target. -/
def Candidate.Precedes (left right : Candidate) : Prop :=
  left.score > right.score ∨ left.score = right.score ∧ left.targetID ≤ right.targetID

instance : DecidableRel Candidate.Precedes :=
  fun _ _ => inferInstanceAs (Decidable (_ ∨ _ ∧ _))

def pairKey (sourceID targetID : Text) : Text := sourceID ++ ':' :: targetID

/-- The runs of equal scores, each index with the mean of the positions its run spans;
`start` positions are taken. -/
def assignRanks : Nat → List (List (Candidate × Nat)) → List (Nat × ℚ)
  | _, [] => []
  | start, run :: rest =>
    let mean : ℚ := ((start + 1 + (start + run.length) : Nat) : ℚ) / 2
    run.map (fun entry => (entry.2, mean)) ++ assignRanks (start + run.length) rest

/-- 1-based ranks by descending score, in the order of the input; equal scores share the
mean of their positions. -/
def fractionalRanks (group : List Candidate) : List ℚ :=
  let order := group.zipIdx.insertionSort fun left right => left.1.Precedes right.1
  let ranked := assignRanks 0 (order.splitBy fun left right => left.1.score == right.1.score)
  (List.range group.length).map fun index =>
    ((ranked.find? fun entry => entry.1 = index).map Prod.snd).getD 0

abbrev Pairs := Table Text Candidate

/-- A pair's first mention creates its fused candidate; each mention contributes. -/
def contribute (pairs : Pairs) (candidate : Candidate) (rank : ℚ) : Pairs :=
  let key := pairKey candidate.sourceID candidate.targetID
  let fused := (pairs.lookup key).getD
    { sourceID := candidate.sourceID, targetID := candidate.targetID, score := 0, weight := 1,
      generatorID := [], metadata := [], contributions := [] }
  pairs.insert key
    { fused with
      contributions := fused.contributions ++
        [{ generatorID := candidate.generatorID, score := candidate.score,
           weight := candidate.weight, rank, metadata := candidate.metadata }] }

def contributeGroup (pairs : Pairs) (group : List Candidate) : Pairs :=
  (group.zip (fractionalRanks group)).foldl
    (fun pairs ranked => contribute pairs ranked.1 ranked.2) pairs

/-- The order in which the sources of a generator's list are visited. -/
abbrev Visit := List Candidate → List Text → List Text

def contributeSet (visit : Visit) (pairs : Pairs) (set : List Candidate) :
    Pairs :=
  (visit set (set.map Candidate.sourceID).dedup).foldl
    (fun pairs source =>
      contributeGroup pairs (set.filter fun candidate => candidate.sourceID = source)) pairs

def rrfK : ℚ := 60

/-- The fused score sums the contributions in the order of their generators. -/
def fusedScore (round : ℚ → ℚ) (contributions : List Contribution) : ℚ :=
  contributions.foldl
    (fun score contribution =>
      round (score + round (contribution.weight / round (rrfK + contribution.rank)))) 0

def finish (round : ℚ → ℚ) (fused : Candidate) : Candidate :=
  let contributions := fused.contributions.insertionSort fun left right =>
    left.generatorID ≤ right.generatorID
  { fused with
    contributions
    score := fusedScore round contributions
    generatorID := List.intercalate ['+'] (contributions.map Contribution.generatorID) }

inductive FusionError where
  | maxPerSource (given : Int)
deriving DecidableEq

def fusedCandidates (round : ℚ → ℚ) (visit : Visit)
    (candidateSets : List (List Candidate)) : List Candidate :=
  (candidateSets.foldl (contributeSet visit) ∅).entries.map fun entry => finish round entry.2

def topOfSource (fused : List Candidate) (maxPerSource : Nat) (source : Text) :
    List Candidate :=
  ((fused.filter fun candidate => candidate.sourceID = source).insertionSort
    Candidate.Precedes).take maxPerSource

def aggregateRankFusion (round : ℚ → ℚ) (visit : Visit)
    (candidateSets : List (List Candidate)) (maxPerSource : Int) :
    Except FusionError (List Candidate) :=
  if maxPerSource < 1 then .error (.maxPerSource maxPerSource)
  else
    let fused := fusedCandidates round visit candidateSets
    let sourceIDs := (fused.map Candidate.sourceID).dedup.insertionSort (· ≤ ·)
    .ok (sourceIDs.flatMap (topOfSource fused maxPerSource.toNat))

/-! ### What fusion returns -/

/-- Every fused candidate stands under its own key and is a pair some generator listed. -/
def Traced (listed : List (Text × Text)) (pairs : Pairs) : Prop :=
  ∀ key fused, pairs.lookup key = some fused →
    key = pairKey fused.sourceID fused.targetID ∧ fused.pair ∈ listed

variable {listed : List (Text × Text)} {pairs : Pairs} {candidate : Candidate} {visit : Visit}

theorem Traced.contribute (traced : Traced listed pairs) (mem : candidate.pair ∈ listed)
    (rank : ℚ) : Traced listed (contribute pairs candidate rank) := by
  intro key fused found
  rw [Candidates.contribute, lookup_insert_eq] at found
  split at found
  · rename_i same
    subst key
    cases found
    cases earlier : pairs.lookup (pairKey candidate.sourceID candidate.targetID) with
    | none => exact ⟨rfl, mem⟩
    | some first =>
      obtain ⟨keyed, known⟩ := traced _ first earlier
      exact ⟨keyed, known⟩
  · exact traced key fused found

theorem Traced.contributeGroup {group : List Candidate} (traced : Traced listed pairs)
    (members : ∀ candidate ∈ group, candidate.pair ∈ listed) :
    Traced listed (contributeGroup pairs group) := by
  have each : ∀ ranked ∈ group.zip (fractionalRanks group), ranked.1.pair ∈ listed :=
    fun ranked mem => members ranked.1 (of_mem_zip mem).1
  unfold Candidates.contributeGroup
  generalize group.zip (fractionalRanks group) = rankedGroup at each
  induction rankedGroup generalizing pairs with
  | nil => exact traced
  | cons ranked rest ih =>
    rw [foldl_cons]
    apply ih (traced.contribute (each ranked mem_cons_self) ranked.2)
    intro later mem
    exact each later (mem_cons_of_mem ranked mem)

theorem Traced.contributeSet {set : List Candidate} (traced : Traced listed pairs)
    (members : ∀ candidate ∈ set, candidate.pair ∈ listed) :
    Traced listed (contributeSet visit pairs set) := by
  unfold Candidates.contributeSet
  generalize visit set (set.map Candidate.sourceID).dedup = sources
  induction sources generalizing pairs with
  | nil => exact traced
  | cons source rest ih =>
    rw [foldl_cons]
    apply ih
    apply traced.contributeGroup
    intro candidate mem
    exact members candidate (mem_of_mem_filter mem)

variable {candidateSets : List (List Candidate)} {fused : List Candidate} {round : ℚ → ℚ}

theorem traced_foldl (members : ∀ set ∈ candidateSets, ∀ candidate ∈ set, candidate.pair ∈ listed)
    (traced : Traced listed pairs) :
    Traced listed (candidateSets.foldl (contributeSet visit) pairs) := by
  induction candidateSets generalizing pairs with
  | nil => exact traced
  | cons set rest ih =>
    rw [foldl_cons]
    apply ih
    · intro later mem
      exact members later (mem_cons_of_mem set mem)
    · exact traced.contributeSet (members set mem_cons_self)

theorem Traced.empty (listed : List (Text × Text)) : Traced listed ∅ := by
  intro key fused found
  cases found

theorem Traced.nodup (traced : Traced listed pairs) :
    (pairs.entries.map fun entry => entry.2.pair).Nodup := by
  have keyed : ∀ entry ∈ pairs.entries, entry.1 = pairKey entry.2.sourceID entry.2.targetID :=
    fun entry mem => (traced entry.1 entry.2 (AList.mem_lookup_iff.mpr mem)).1
  have keys : (pairs.entries.map Sigma.fst).Nodup := pairs.nodupKeys
  have joined : pairs.entries.map Sigma.fst =
      (pairs.entries.map fun entry => entry.2.pair).map fun pair => pairKey pair.1 pair.2 := by
    rw [map_map]
    exact map_congr_left keyed
  rw [joined] at keys
  exact List.Nodup.of_map _ keys

theorem traced_fused (visit : Visit) (candidateSets : List (List Candidate)) :
    Traced (candidateSets.flatten.map Candidate.pair)
      (candidateSets.foldl (contributeSet visit) ∅) := by
  apply traced_foldl _ (Traced.empty _)
  intro set inSets candidate inSet
  exact mem_map_of_mem (mem_flatten.mpr ⟨set, inSets, inSet⟩)

theorem fusedCandidates_nodup (round : ℚ → ℚ) (visit : Visit)
    (candidateSets : List (List Candidate)) :
    ((fusedCandidates round visit candidateSets).map Candidate.pair).Nodup := by
  unfold fusedCandidates
  rw [map_map]
  exact (traced_fused visit candidateSets).nodup

theorem listed_of_mem_fusedCandidates
    (mem : candidate ∈ fusedCandidates round visit candidateSets) :
    ∃ set ∈ candidateSets, ∃ listed ∈ set, listed.pair = candidate.pair := by
  obtain ⟨entry, inPairs, rfl⟩ := mem_map.mp mem
  have known := (traced_fused visit candidateSets entry.1 entry.2
    (AList.mem_lookup_iff.mpr inPairs)).2
  obtain ⟨listed, inFlat, same⟩ := mem_map.mp known
  obtain ⟨set, inSets, inSet⟩ := mem_flatten.mp inFlat
  exact ⟨set, inSets, listed, inSet, same⟩

theorem mem_of_mem_topOfSource {maxPerSource : Nat} {source : Text}
    (mem : candidate ∈ topOfSource fused maxPerSource source) :
    candidate ∈ fused ∧ candidate.sourceID = source := by
  have inSorted := mem_of_mem_take mem
  rw [mem_insertionSort, mem_filter] at inSorted
  exact ⟨inSorted.1, of_decide_eq_true inSorted.2⟩

theorem topOfSource_nodup (nodup : (fused.map Candidate.pair).Nodup) (maxPerSource : Nat)
    (source : Text) : ((topOfSource fused maxPerSource source).map Candidate.pair).Nodup := by
  have kept : ((fused.filter fun candidate => candidate.sourceID = source).map
      Candidate.pair).Nodup := nodup.sublist (filter_sublist.map _)
  have sorted := ((perm_insertionSort Candidate.Precedes _).map Candidate.pair).nodup_iff.mpr kept
  exact sorted.sublist ((take_sublist _ _).map _)

/-- What a successful fusion returns: distinct pairs that a generator listed, at most
`maxPerSource` for each source. -/
structure Fused (candidateSets : List (List Candidate)) (maxPerSource : Int)
    (result : List Candidate) : Prop where
  distinct : (result.map Candidate.pair).Nodup
  listed : ∀ candidate ∈ result,
    ∃ set ∈ candidateSets, ∃ listed ∈ set, listed.pair = candidate.pair
  capped : ∀ source,
    ((result.filter fun candidate => candidate.sourceID = source).length : Int) ≤ maxPerSource

theorem aggregateRankFusion_spec {maxPerSource : Int} {result : List Candidate}
    (fusion : aggregateRankFusion round visit candidateSets maxPerSource = .ok result) :
    Fused candidateSets maxPerSource result := by
  unfold aggregateRankFusion at fusion
  split at fusion
  · cases fusion
  cases fusion
  generalize gathered : fusedCandidates round visit candidateSets = fused
  have nodup : (fused.map Candidate.pair).Nodup :=
    gathered ▸ fusedCandidates_nodup round visit candidateSets
  have sources : ((fused.map Candidate.sourceID).dedup.insertionSort (· ≤ ·)).Nodup :=
    (perm_insertionSort _ _).nodup_iff.mpr (nodup_dedup _)
  have own : ∀ source, ∀ candidate ∈ topOfSource fused maxPerSource.toNat source,
      candidate.sourceID = source := fun _ _ mem => (mem_of_mem_topOfSource mem).2
  constructor
  · rw [map_flatMap, nodup_flatMap]
    refine ⟨fun source _ => topOfSource_nodup nodup _ source, ?_⟩
    apply sources.imp
    intro left right ne pair inLeft inRight
    obtain ⟨leftCandidate, ofLeft, rfl⟩ := mem_map.mp inLeft
    obtain ⟨rightCandidate, ofRight, same⟩ := mem_map.mp inRight
    have sourcesAgree : rightCandidate.sourceID = leftCandidate.sourceID :=
      congrArg Prod.fst same
    rw [own right _ ofRight, own left _ ofLeft] at sourcesAgree
    exact ne sourcesAgree.symm
  · intro candidate mem
    obtain ⟨source, _, inTop⟩ := mem_flatMap.mp mem
    have inFused := (mem_of_mem_topOfSource inTop).1
    rw [← gathered] at inFused
    exact listed_of_mem_fusedCandidates inFused
  · intro source
    rw [filter_flatMap_key Candidate.sourceID sources own source]
    split
    · have short : (topOfSource fused maxPerSource.toNat source).length ≤ maxPerSource.toNat :=
        length_take_le _ _
      omega
    · simp only [length_nil, Nat.cast_zero]
      omega

end CrossCodex.Candidates
