/-
The consensus computer (pkg/analyzer/consensus/consensus.go). Floats are rationals; `fl`
rounds the result of each operation.
-/

import CrossCodex.Library.Rounding
import Mathlib.Data.List.Induction
import Mathlib.Data.Rat.Floor

namespace CrossCodex.Analyzer

open Library List

/-- `decision` is absent for a vote that could not be read. -/
structure Vote where
  decision : Option Bool
  weight : ℚ
deriving DecidableEq

structure Computer where
  threshold : ℚ
  minValidVotes : Int
  maxErrorRate : ℚ

/-- New with WithThreshold and WithMaxErrorRate: a value outside [0, 1] is replaced. -/
def Computer.new (threshold maxErrorRate : ℚ) : Computer :=
  { threshold := if threshold < 0 ∨ 1 < threshold then 1 / 2 else threshold
    minValidVotes := 0
    maxErrorRate := if maxErrorRate < 0 ∨ 1 < maxErrorRate then 0 else maxErrorRate }

structure ConsensusResult where
  decision : Bool
  confidenceFraction : ℚ
  unanimous : Bool
  validVoteCount : Nat
  totalVoteCount : Nat
  totalWeight : ℚ
deriving DecidableEq

inductive ConsensusError where
  | noVotes
  | insufficientVotes (validCount : Nat) (requiredMin : Int) (totalCount errorCount : Nat)
deriving DecidableEq

structure Tally where
  yesWeight : ℚ
  noWeight : ℚ
  totalWeight : ℚ
  validCount : Nat

def Tally.empty : Tally := { yesWeight := 0, noWeight := 0, totalWeight := 0, validCount := 0 }

def Vote.effectiveWeight (vote : Vote) : ℚ := if vote.weight = 0 then 1 else vote.weight

def Tally.count (fl : ℚ → ℚ) (tally : Tally) (vote : Vote) : Tally :=
  match vote.decision with
  | none => tally
  | some yes =>
    { yesWeight :=
        if yes then fl (tally.yesWeight + vote.effectiveWeight) else tally.yesWeight
      noWeight :=
        if yes then tally.noWeight else fl (tally.noWeight + vote.effectiveWeight)
      totalWeight := fl (tally.totalWeight + vote.effectiveWeight)
      validCount := tally.validCount + 1 }

def tally (fl : ℚ → ℚ) (votes : List Vote) : Tally :=
  votes.foldl (Tally.count fl) .empty

namespace Computer

def errorRate (fl : ℚ → ℚ) (total valid : Nat) : ℚ :=
  fl ((total - valid : Nat) / (total : ℚ))

def majority (fl : ℚ → ℚ) (total : Nat) (count : Tally) : ConsensusResult :=
  let decision := count.noWeight < count.yesWeight
  { decision
    confidenceFraction :=
      fl ((if decision then count.yesWeight else count.noWeight) / count.totalWeight)
    unanimous := count.yesWeight = count.totalWeight ∨ count.noWeight = count.totalWeight
    validVoteCount := count.validCount
    totalVoteCount := total
    totalWeight := count.totalWeight }

def compute (fl : ℚ → ℚ) (computer : Computer) (votes : List Vote) :
    Except ConsensusError ConsensusResult :=
  let total := votes.length
  let count := tally fl votes
  let valid := count.validCount
  if total = 0 then .error .noVotes
  else if 0 < computer.minValidVotes ∧ (valid : Int) < computer.minValidVotes then
    .error (.insufficientVotes valid computer.minValidVotes total (total - valid))
  else if 0 < computer.maxErrorRate ∧ valid < total ∧
      computer.maxErrorRate < errorRate fl total valid then
    .error (.insufficientVotes valid ⌊fl (fl (1 - computer.maxErrorRate) * total)⌋ total
      (total - valid))
  else if valid = 0 then
    .ok
      { decision := false, confidenceFraction := 0, unanimous := false, validVoteCount := 0,
        totalVoteCount := total, totalWeight := 0 }
  else .ok (majority fl total count)

def meetsThreshold (computer : Computer) (result : ConsensusResult) : Bool :=
  computer.threshold ≤ result.confidenceFraction

end Computer

theorem tally_validCount (fl : ℚ → ℚ) (votes : List Vote) :
    (tally fl votes).validCount = votes.countP fun vote => vote.decision.isSome := by
  have extend : ∀ (votes : List Vote) (start : Tally),
      (votes.foldl (Tally.count fl) start).validCount =
        start.validCount + votes.countP fun vote => vote.decision.isSome := by
    intro votes
    induction votes with
    | nil =>
      intro start
      rfl
    | cons vote rest ih =>
      intro start
      rw [foldl_cons, ih, countP_cons]
      cases decided : vote.decision <;> simp [Tally.count, decided]
      omega
  rw [tally, extend, Tally.empty, Nat.zero_add]

variable {votes : List Vote} {computer : Computer}

/-- The weight of so many votes of weight one, rounded after each. -/
def weighed (fl : ℚ → ℚ) (count : Nat) : ℚ := (fun weight => fl (weight + 1))^[count] 0

theorem tally_unweighted (fl : ℚ → ℚ) (unset : ∀ vote ∈ votes, vote.weight = 0) :
    tally fl votes =
      { yesWeight := weighed fl (votes.countP fun vote => vote.decision == some true)
        noWeight := weighed fl (votes.countP fun vote => vote.decision == some false)
        totalWeight := weighed fl (votes.countP fun vote => vote.decision.isSome)
        validCount := votes.countP fun vote => vote.decision.isSome } := by
  induction votes using List.reverseRecOn with
  | nil => rfl
  | append_singleton earlier last ih =>
    have weight := unset last (mem_append_right _ mem_cons_self)
    have before := ih fun vote mem => unset vote (mem_append_left _ mem)
    rw [tally] at before ⊢
    rw [foldl_append, foldl_cons, foldl_nil, before]
    rcases decided : last.decision with _ | _ | _ <;>
      simp [Tally.count, decided, Vote.effectiveWeight, weight, countP_append, weighed,
        Function.iterate_succ_apply']

/-- Neither side outweighs the total, whatever was rounded on the way. -/
structure Tally.Bounded (rounding : Rounding) (tally : Tally) : Prop where
  yesNonneg : 0 ≤ tally.yesWeight
  noNonneg : 0 ≤ tally.noWeight
  yesBounded : tally.yesWeight ≤ tally.totalWeight
  noBounded : tally.noWeight ≤ tally.totalWeight
  representable : rounding.round tally.totalWeight = tally.totalWeight

variable {vote : Vote}

theorem Vote.effectiveWeight_nonneg (nonneg : 0 ≤ vote.weight) : 0 ≤ vote.effectiveWeight := by
  unfold effectiveWeight
  split
  · exact zero_le_one
  · exact nonneg

theorem Tally.Bounded.count {rounding : Rounding} {tally : Tally}
    (bounded : tally.Bounded rounding) (nonneg : 0 ≤ vote.weight) :
    (tally.count rounding.round vote).Bounded rounding := by
  have weight := vote.effectiveWeight_nonneg nonneg
  have grows := rounding.le_round_add bounded.representable weight
  unfold Tally.count
  split
  · exact bounded
  · rename_i yes _
    cases yes with
    | true =>
      refine ⟨?_, bounded.noNonneg, ?_, bounded.noBounded.trans grows, rounding.idempotent _⟩
      · exact rounding.round_nonneg (add_nonneg bounded.yesNonneg weight)
      · exact rounding.monotone (add_le_add_left bounded.yesBounded _)
    | false =>
      refine ⟨bounded.yesNonneg, ?_, bounded.yesBounded.trans grows, ?_, rounding.idempotent _⟩
      · exact rounding.round_nonneg (add_nonneg bounded.noNonneg weight)
      · exact rounding.monotone (add_le_add_left bounded.noBounded _)

theorem tally_bounded (rounding : Rounding) (nonneg : ∀ vote ∈ votes, 0 ≤ vote.weight) :
    (tally rounding.round votes).Bounded rounding := by
  have extend : ∀ (votes : List Vote) (start : Tally), start.Bounded rounding →
      (∀ vote ∈ votes, 0 ≤ vote.weight) →
      (votes.foldl (Tally.count rounding.round) start).Bounded rounding := by
    intro votes
    induction votes with
    | nil =>
      intro start bounded _
      exact bounded
    | cons vote rest ih =>
      intro start bounded nonneg
      apply ih _ (bounded.count (nonneg vote mem_cons_self))
      exact fun other mem => nonneg other (mem_cons_of_mem _ mem)
  exact extend votes .empty ⟨le_refl 0, le_refl 0, le_refl 0, le_refl 0, rounding.round_zero⟩ nonneg

theorem Computer.compute_confidence (rounding : Rounding) {result : ConsensusResult}
    (nonneg : ∀ vote ∈ votes, 0 ≤ vote.weight)
    (computed : computer.compute rounding.round votes = .ok result) :
    0 ≤ result.confidenceFraction ∧ result.confidenceFraction ≤ 1 := by
  have bounded := tally_bounded rounding nonneg
  unfold compute at computed
  simp only at computed
  split_ifs at computed
  · cases computed
    exact ⟨le_refl 0, zero_le_one⟩
  · cases computed
    have total := bounded.yesNonneg.trans bounded.yesBounded
    unfold majority
    simp only
    split
    · exact ⟨rounding.round_nonneg (div_nonneg bounded.yesNonneg total),
        rounding.round_le_one (div_le_one_of_le₀ bounded.yesBounded total)⟩
    · exact ⟨rounding.round_nonneg (div_nonneg bounded.noNonneg total),
        rounding.round_le_one (div_le_one_of_le₀ bounded.noBounded total)⟩

end CrossCodex.Analyzer
