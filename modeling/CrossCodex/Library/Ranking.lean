/-
Positions in a descending order with ties, and lists that a sort or a grouping brings into
one form.
-/

import Mathlib.Algebra.Order.Field.Rat
import Mathlib.Data.List.Dedup
import Mathlib.Data.List.Perm.Basic
import Mathlib.Data.List.Sort
import Mathlib.Tactic.Ring

namespace CrossCodex.Library

open List

variable {Item Key : Type*} {items : List Item} {keys : List Key}

/-- The mean of the positions that the values equal to `value` span in descending order. -/
def meanRank (values : List ℚ) (value : ℚ) : ℚ :=
  ((values.countP (fun other => value < other) + 1 +
    values.countP (fun other => value ≤ other) : Nat) : ℚ) / 2

theorem meanRank_perm {values others : List ℚ} (same : values.Perm others) (value : ℚ) :
    meanRank values value = meanRank others value := by
  rw [meanRank, meanRank, same.countP_eq, same.countP_eq]

theorem meanRank_append {above values : List ℚ} {value : ℚ}
    (higher : ∀ other ∈ above, value < other) :
    meanRank (above ++ values) value = above.length + meanRank values value := by
  rw [meanRank, meanRank, countP_append, countP_append,
    countP_eq_length.mpr fun other mem => decide_eq_true (higher other mem),
    countP_eq_length.mpr fun other mem => decide_eq_true (higher other mem).le]
  push_cast
  ring

theorem meanRank_first {run after : List ℚ} {value : ℚ} (tied : ∀ other ∈ run, other = value)
    (lower : ∀ other ∈ after, other < value) :
    meanRank (run ++ after) value = ((1 + run.length : Nat) : ℚ) / 2 := by
  rw [meanRank, countP_append, countP_append,
    countP_eq_zero.mpr fun other mem => by simp [tied other mem],
    countP_eq_zero.mpr fun other mem => by simpa using (lower other mem).le,
    countP_eq_length.mpr fun other mem => decide_eq_true (tied other mem).ge,
    countP_eq_zero.mpr fun other mem => by simpa using lower other mem, zero_add]
  rfl

section Ahead

variable [LinearOrder Key]

def Ahead (value : Item → ℚ) (key : Item → Key) (one other : Item) : Prop :=
  value one > value other ∨ value one = value other ∧ key one ≤ key other

instance {value : Item → ℚ} {key : Item → Key} : DecidableRel (Ahead value key) :=
  fun _ _ => inferInstanceAs (Decidable (_ ∨ _ ∧ _))

variable (value : Item → ℚ) (key : Item → Key)

theorem ahead_total (one other : Item) : Ahead value key one other ∨ Ahead value key other one := by
  rcases lt_trichotomy (value one) (value other) with below | same | above
  · exact .inr (.inl below)
  · rcases le_total (key one) (key other) with first | second
    · exact .inl (.inr ⟨same, first⟩)
    · exact .inr (.inr ⟨same.symm, second⟩)
  · exact .inl (.inl above)

theorem ahead_trans (one other third : Item) (first : Ahead value key one other)
    (second : Ahead value key other third) : Ahead value key one third := by
  rcases first with above | ⟨same, keys⟩
  · rcases second with higher | ⟨equal, _⟩
    · exact .inl (lt_trans higher above)
    · exact .inl (equal ▸ above)
  · rcases second with higher | ⟨equal, later⟩
    · exact .inl (same ▸ higher)
    · exact .inr ⟨same.trans equal, le_trans keys later⟩

variable {value key}

theorem Ahead.value_le {one other : Item} (ahead : Ahead value key one other) :
    value other ≤ value one := by
  rcases ahead with above | same
  · exact le_of_lt above
  · exact ge_of_eq same.1

theorem Ahead.key_eq {one other : Item} (before : Ahead value key one other)
    (after : Ahead value key other one) : key one = key other := by
  have values := le_antisymm after.value_le before.value_le
  have first := before.resolve_left (by simp [values])
  have second := after.resolve_left (by simp [values])
  exact le_antisymm first.2 second.2

end Ahead

theorem insertionSort_eq_of_perm {relation : Item → Item → Prop} [DecidableRel relation]
    (total : ∀ one other, relation one other ∨ relation other one)
    (trans : ∀ one other third, relation one other → relation other third → relation one third)
    {left right : List Item} (same : left.Perm right)
    (antisymm : ∀ one ∈ left, ∀ other ∈ left, relation one other → relation other one →
      one = other) :
    left.insertionSort relation = right.insertionSort relation := by
  have totality : Std.Total relation := ⟨total⟩
  have transitivity : IsTrans Item relation := ⟨trans⟩
  have sorted := (perm_insertionSort relation left).trans
    (same.trans (perm_insertionSort relation right).symm)
  apply sorted.eq_of_pairwise _ (pairwise_insertionSort relation left)
    (pairwise_insertionSort relation right)
  intro one other inLeft inRight
  exact antisymm one (mem_insertionSort relation |>.mp inLeft) other
    (same.mem_iff.mpr (mem_insertionSort relation |>.mp inRight))

/-- What has `count` kept items ahead of it is not among the first `count`. -/
theorem take_insertionSort_filter {relation : Item → Item → Prop} [DecidableRel relation]
    (total : ∀ one other, relation one other ∨ relation other one)
    (trans : ∀ one other third, relation one other → relation other third → relation one third)
    (antisymm : ∀ one ∈ items, ∀ other ∈ items, relation one other → relation other one →
      one = other) {keep : Item → Bool} {count : Nat}
    (behind : ∀ item ∈ items, keep item = false →
      count ≤ items.countP fun other => keep other && !decide (relation item other)) :
    (items.insertionSort relation).take count =
      ((items.filter keep).insertionSort relation).take count := by
  have totality : Std.Total relation := ⟨total⟩
  have transitivity : IsTrans Item relation := ⟨trans⟩
  have permuted := perm_insertionSort relation items
  have sorted := pairwise_insertionSort relation items
  have filtered : (items.filter keep).insertionSort relation =
      (items.insertionSort relation).filter keep := by
    rw [insertionSort_eq_of_perm total trans (permuted.filter keep).symm fun one inOne other inOther =>
      antisymm one (mem_of_mem_filter inOne) other (mem_of_mem_filter inOther)]
    exact (sorted.filter keep).insertionSort_eq
  rw [filtered]
  generalize items.insertionSort relation = ranking at permuted sorted
  have across := (pairwise_append.mp ((take_append_drop count ranking).symm ▸ sorted)).2.2
  have kept : ∀ item ∈ ranking.take count, keep item = true := by
    intro item taken
    by_contra out
    rw [Bool.not_eq_true] at out
    have ahead := behind item (permuted.mem_iff.mp (mem_of_mem_take taken)) out
    -- nothing after the cut is ahead of the item, and the item is not kept itself
    have below : (ranking.drop count).countP
        (fun other => keep other && !decide (relation item other)) = 0 := by
      apply countP_eq_zero.mpr
      intro other dropped
      simp [across item taken other dropped]
    have itself : (ranking.take count).countP
        (fun other => keep other && !decide (relation item other)) <
          (ranking.take count).length := by
      apply lt_of_le_of_ne countP_le_length
      intro all
      have counted := countP_eq_length.mp all item taken
      simp [out] at counted
    have size := length_take_le count ranking
    rw [← permuted.countP_eq, ← take_append_drop count ranking, countP_append, below] at ahead
    omega
  conv_rhs => rw [← take_append_drop count ranking, filter_append, filter_eq_self.mpr kept,
    take_append, take_take, min_self, length_take]
  rcases le_total count ranking.length with long | short
  · rw [min_eq_left long, Nat.sub_self, take_zero, append_nil]
  · rw [drop_eq_nil_of_le short, filter_nil, take_nil, append_nil]

theorem flatMap_filter_perm [DecidableEq Key] (key : Item → Key) (nodup : keys.Nodup)
    (covered : ∀ item ∈ items, key item ∈ keys) :
    (keys.flatMap fun wanted => items.filter fun item => key item = wanted).Perm items := by
  induction keys generalizing items with
  | nil =>
    cases items with
    | nil => exact List.Perm.nil
    | cons item items => cases covered item mem_cons_self
  | cons first keys ih =>
    obtain ⟨fresh, nodup⟩ := nodup_cons.mp nodup
    have others : ∀ item ∈ items.filter (fun item => !decide (key item = first)),
        key item ∈ keys := by
      intro item mem
      obtain ⟨listed, ne⟩ := mem_filter.mp mem
      exact (mem_cons.mp (covered item listed)).resolve_left (by simpa using ne)
    have unmoved : (keys.flatMap fun wanted => items.filter fun item => key item = wanted) =
        keys.flatMap fun wanted => (items.filter fun item => !decide (key item = first)).filter
          fun item => key item = wanted := by
      apply flatMap_congr
      intro wanted mem
      rw [filter_filter]
      apply filter_congr
      intro item _
      by_cases here : key item = wanted
      · have ne : wanted ≠ first := fun same => fresh (same ▸ mem)
        simp [here, ne]
      · simp [here]
    rw [flatMap_cons, unmoved]
    exact ((ih nodup others).append_left _).trans
      (filter_append_perm (fun item => decide (key item = first)) items)

theorem filter_flatMap_key [DecidableEq Key] (key : Item → Key) {kept : Key → List Item}
    (nodup : keys.Nodup) (own : ∀ wanted, ∀ item ∈ kept wanted, key item = wanted) (wanted : Key) :
    ((keys.flatMap kept).filter fun item => key item = wanted) =
      if wanted ∈ keys then kept wanted else [] := by
  induction keys with
  | nil => rfl
  | cons first rest ih =>
    obtain ⟨fresh, nodup⟩ := nodup_cons.mp nodup
    rw [flatMap_cons, filter_append, ih nodup]
    by_cases here : first = wanted
    · subst first
      have all : (kept wanted).filter (fun item => key item = wanted) = kept wanted := by
        apply filter_eq_self.mpr
        intro item mem
        exact decide_eq_true (own wanted item mem)
      rw [all, if_neg fresh, if_pos mem_cons_self, append_nil]
    · have none : (kept first).filter (fun item => key item = wanted) = [] := by
        apply filter_eq_nil_iff.mpr
        intro item mem
        rw [own first item mem]
        simpa using here
      rw [none, nil_append]
      simp [Ne.symm here]

end CrossCodex.Library
