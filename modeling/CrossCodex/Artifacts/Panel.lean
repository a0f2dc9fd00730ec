/-
The panel that decides a pair (internal/analyzer/artifacts/adjudicate.go): from the outcomes of
its calls to what becomes of the pair. Weights are exact.
-/

import CrossCodex.Analyzer.Consensus
import CrossCodex.Artifacts.VerdictStore

namespace CrossCodex.Artifacts

open Analyzer Library List

/-- The fields of an enabled configuration that the panel reads. -/
structure AdjudicationConfig where
  models : List Text
  samplesPerModel : Int
  allowEvenSamples : Bool
  consensusThreshold : ℚ
  maxErrorRate : ℚ

/-- A call fails, for a reason of the system or not, or is answered. An answer that cannot be
parsed is a vote without a decision, and a parsed one has weight zero, which counts as one. -/
inductive CallOutcome where
  | answered (vote : Vote)
  | failed (system : Bool)
deriving DecidableEq

namespace CallOutcome

def vote : CallOutcome → Vote
  | .answered vote => vote
  | .failed _ => { decision := none, weight := 0 }

def systemFailure : CallOutcome → Bool
  | .answered _ => false
  | .failed system => system

end CallOutcome

structure PanelVerdict where
  status : VerdictStatus
  confidence : ℚ
  validVotes : Nat
  totalVotes : Nat
deriving DecidableEq

inductive PanelError where
  | llmUnavailable
  | consensus (cause : ConsensusError)

inductive PairOutcome where
  | expired
  | stopped
  | failure
  | commits (verdict : PanelVerdict)
deriving DecidableEq

def PairOutcome.status : PairOutcome → Option VerdictStatus
  | .commits verdict => some verdict.status
  | _ => none

abbrev votes (outcomes : List CallOutcome) : List Vote := outcomes.map CallOutcome.vote

def panelError (outcomes : List CallOutcome) (cause : ConsensusError) : PanelError :=
  if outcomes ≠ [] ∧ outcomes.all CallOutcome.systemFailure then .llmUnavailable
  else .consensus cause

namespace AdjudicationConfig

variable (cfg : AdjudicationConfig) (outcomes : List CallOutcome)

def validate : Bool :=
  cfg.models ≠ [] && 0 < cfg.samplesPerModel &&
    (cfg.allowEvenSamples || cfg.samplesPerModel % 2 ≠ 0) &&
    1 / 2 ≤ cfg.consensusThreshold && cfg.consensusThreshold ≤ 1 &&
    0 ≤ cfg.maxErrorRate && cfg.maxErrorRate ≤ 1

def consensus : Computer :=
  { Computer.new cfg.consensusThreshold cfg.maxErrorRate with minValidVotes := 1 }

def panel : Except PanelError PanelVerdict :=
  match cfg.consensus.compute id (votes outcomes) with
  | .error cause => .error (panelError outcomes cause)
  | .ok result =>
    .ok
      { status :=
          if 1 / 2 < result.confidenceFraction && cfg.consensus.meetsThreshold result then
            if result.decision then .confirmed else .rejected
          else .undecided
        confidence := result.confidenceFraction
        validVotes := result.validVoteCount
        totalVotes := result.totalVoteCount }

/-- Where the lease has expired no call is made; a cancelled context stops the run. -/
def adjudicatePair (expired cancelled : Bool) : PairOutcome :=
  if expired then .expired
  else if cancelled then .stopped
  else
    match cfg.panel outcomes with
    | .error (.consensus (.insufficientVotes _ _ _ _)) => .failure
    | .error _ => .stopped
    | .ok verdict => .commits verdict

def validVotes : Nat := (votes outcomes).countP fun vote => vote.decision.isSome

/-- The minimum of valid votes and the ceiling of the error rate, which zero switches off. -/
def WithinLimits : Prop :=
  0 < validVotes outcomes ∧ (0 < cfg.maxErrorRate →
    (outcomes.length - validVotes outcomes : Nat) / (outcomes.length : ℚ) ≤ cfg.maxErrorRate)

def weightOf (votes : List Vote) (answer : Bool) : ℚ :=
  ((votes.filter fun vote => vote.decision = some answer).map Vote.effectiveWeight).sum

/-- The part of the valid votes' weight that is for the answer. -/
def share (answer : Bool) : ℚ :=
  weightOf (votes outcomes) answer /
    (weightOf (votes outcomes) true + weightOf (votes outcomes) false)

def qualifies (answer : Bool) : Bool :=
  1 / 2 < share outcomes answer && cfg.consensusThreshold ≤ share outcomes answer

theorem tally_weights (votes : List Vote) :
    (tally id votes).yesWeight = weightOf votes true ∧
      (tally id votes).noWeight = weightOf votes false ∧
      (tally id votes).totalWeight = weightOf votes true + weightOf votes false := by
  have extend : ∀ (votes : List Vote) (start : Tally),
      let final := votes.foldl (Tally.count id) start
      final.yesWeight = start.yesWeight + weightOf votes true ∧
        final.noWeight = start.noWeight + weightOf votes false ∧
        final.totalWeight = start.totalWeight + (weightOf votes true + weightOf votes false) := by
    intro votes
    induction votes with
    | nil => simp [weightOf]
    | cons vote rest ih =>
      intro start
      obtain ⟨yes, no, total⟩ := ih (start.count id vote)
      simp only [foldl_cons, yes, no, total]
      cases decided : vote.decision with
      | none => simp [Tally.count, weightOf, decided]
      | some answer => cases answer <;> simp [Tally.count, weightOf, decided] <;> ring_nf <;> simp
  simpa [tally, Tally.empty] using extend votes .empty

variable {cfg outcomes}

theorem consensus_eq (accepted : cfg.validate = true) :
    cfg.consensus = ⟨cfg.consensusThreshold, 1, cfg.maxErrorRate⟩ := by
  simp only [validate, Bool.and_eq_true, decide_eq_true_eq] at accepted
  obtain ⟨⟨⟨⟨_, low⟩, high⟩, nonneg⟩, bounded⟩ := accepted
  have positive : 0 ≤ cfg.consensusThreshold := le_trans (by norm_num) low
  simp [consensus, Computer.new, not_lt.mpr, positive, high, nonneg, bounded]

theorem compute_cases (accepted : cfg.validate = true) (called : outcomes ≠ []) :
    cfg.WithinLimits outcomes ∧ cfg.consensus.compute id (votes outcomes) =
        .ok (Computer.majority id outcomes.length (tally id (votes outcomes))) ∨
      ¬ cfg.WithinLimits outcomes ∧ ∃ valid required total errors,
        cfg.consensus.compute id (votes outcomes) =
          .error (.insufficientVotes valid required total errors) := by
  unfold Computer.compute WithinLimits validVotes
  simp only [tally_validCount, consensus_eq accepted, length_map]
  split_ifs with none few faulty short
  · exact absurd (length_eq_zero_iff.mp none) called
  · exact .inr ⟨fun limits => by omega, _, _, _, _, rfl⟩
  · exact .inr ⟨fun limits => absurd (limits.2 faulty.1) (not_le_of_gt faulty.2.2), _, _, _, _, rfl⟩
  · omega
  · refine .inl ⟨⟨Nat.pos_of_ne_zero short, fun positive => not_lt.mp fun exceeds => ?_⟩, rfl⟩
    refine faulty ⟨positive, lt_of_not_ge fun all => ?_, exceeds⟩
    rw [Nat.sub_eq_zero_of_le all, Nat.cast_zero, zero_div] at exceeds
    exact absurd exceeds (not_lt_of_gt positive)

def leading (outcomes : List CallOutcome) : Bool :=
  weightOf (votes outcomes) false < weightOf (votes outcomes) true

theorem leading_of_share (weights : ∀ outcome ∈ outcomes, 0 ≤ outcome.vote.weight) {answer : Bool}
    (most : 1 / 2 < share outcomes answer) : leading outcomes = answer := by
  have bounded := tally_bounded Rounding.ideal (forall_mem_map.mpr weights)
  have nonneg := bounded.yesNonneg.trans bounded.yesBounded
  change 0 ≤ (tally id (votes outcomes)).totalWeight at nonneg
  rw [(tally_weights _).2.2] at nonneg
  unfold share at most
  rcases nonneg.eq_or_lt with zero | positive
  · rw [← zero, div_zero] at most
    exact absurd most (by norm_num)
  · rw [lt_div_iff₀ positive] at most
    cases answer with
    | true => exact decide_eq_true (by linarith)
    | false => exact decide_eq_false (by linarith)

def verdictOf (answer : Bool) : VerdictStatus := if answer then .confirmed else .rejected

theorem majority_eq (total : Nat) :
    (Computer.majority id total (tally id (votes outcomes))).decision = leading outcomes ∧
      (Computer.majority id total (tally id (votes outcomes))).confidenceFraction =
        share outcomes (leading outcomes) := by
  by_cases ahead : weightOf (votes outcomes) false < weightOf (votes outcomes) true <;>
    simp [Computer.majority, leading, share, tally_weights, ahead]

/-- A pair is decided as its panel's outcomes say, whatever they are. Where all calls fail for
reasons of the system the run stops, and any other shortfall is a failed attempt. -/
theorem panel_verdict (accepted : cfg.validate = true)
    (calls : (outcomes.length : Int) = cfg.models.length * cfg.samplesPerModel)
    (weights : ∀ outcome ∈ outcomes, 0 ≤ outcome.vote.weight) :
    let outcome := cfg.adjudicatePair outcomes false false
    (∀ answer, outcome.status = some (verdictOf answer) ↔
        cfg.WithinLimits outcomes ∧ cfg.qualifies outcomes answer = true) ∧
      (outcome.status = some .undecided ↔
        cfg.WithinLimits outcomes ∧ ∀ answer, cfg.qualifies outcomes answer = false) ∧
      (¬ cfg.WithinLimits outcomes → outcome =
        if outcomes.all CallOutcome.systemFailure then .stopped else .failure) ∧
      (outcomes.all CallOutcome.systemFailure → ¬ cfg.WithinLimits outcomes) := by
  have called : outcomes ≠ [] := by
    rintro rfl
    simp only [validate, Bool.and_eq_true, decide_eq_true_eq] at accepted
    obtain ⟨⟨⟨⟨⟨⟨some_, positive⟩, _⟩, _⟩, _⟩, _⟩, _⟩ := accepted
    have panel := Int.mul_pos (Int.natCast_pos.mpr (length_pos_of_ne_nil some_)) positive
    rw [← calls] at panel
    exact absurd panel (by decide)
  have silent : outcomes.all CallOutcome.systemFailure → ¬ cfg.WithinLimits outcomes := by
    intro system limits
    obtain ⟨vote, mem, decided⟩ := countP_pos_iff.mp limits.1
    obtain ⟨outcome, present, rfl⟩ := mem_map.mp mem
    have failed := all_eq_true.mp system outcome present
    cases outcome with
    | answered vote => cases failed
    | failed system => cases decided
  have trails : cfg.qualifies outcomes (!leading outcomes) = false := by
    rw [qualifies, Bool.and_eq_false_iff, decide_eq_false_iff_not]
    exact .inl fun most => absurd (leading_of_share weights most) (by simp)
  rcases compute_cases accepted called with ⟨limits, computed⟩ | ⟨short, _, _, _, _, computed⟩
  · obtain ⟨decision, fraction⟩ := @majority_eq outcomes outcomes.length
    have status : (cfg.adjudicatePair outcomes false false).status = some
        (if cfg.qualifies outcomes (leading outcomes) then verdictOf (leading outcomes)
          else .undecided) := by
      unfold adjudicatePair panel
      rw [computed]
      simp only [PairOutcome.status, Computer.meetsThreshold, decision, fraction,
        consensus_eq accepted]
      rfl
    cases lead : leading outcomes <;> cases decides : cfg.qualifies outcomes (leading outcomes) <;>
      simp_all [verdictOf]
  · have outcome : cfg.adjudicatePair outcomes false false =
        if outcomes.all CallOutcome.systemFailure then .stopped else .failure := by
      unfold adjudicatePair panel
      rw [computed]
      by_cases system : outcomes.all CallOutcome.systemFailure = true <;>
        simp [panelError, called, system]
    have none : (cfg.adjudicatePair outcomes false false).status = none := by
      rw [outcome]
      split <;> rfl
    exact ⟨by simp [none, short], by simp [none, short], fun _ => outcome, silent⟩

def sampleConfig : AdjudicationConfig :=
  { models := ["m".toList]
    samplesPerModel := 3
    allowEvenSamples := false
    consensusThreshold := 3 / 5
    maxErrorRate := 1 / 2 }

def sampleOutcomes : List CallOutcome :=
  [.answered ⟨some true, 0⟩, .failed true, .answered ⟨some true, 2⟩]

theorem panel_verdict_confirms :
    (sampleConfig.adjudicatePair sampleOutcomes false false).status = some .confirmed := by
  have verdict := @panel_verdict sampleConfig sampleOutcomes (by decide +kernel) (by decide)
    (by decide)
  exact (verdict.1 true).mpr ⟨⟨by decide, fun _ => by decide +kernel⟩, by decide +kernel⟩

end AdjudicationConfig

end CrossCodex.Artifacts
