/-
Rounding of rationals to a floating-point format, as far as bounds need it. Overflow is
outside the model.
-/

import Mathlib.Algebra.Order.Field.Rat

namespace CrossCodex.Library

structure Rounding where
  round : ℚ → ℚ
  monotone : Monotone round
  idempotent : ∀ value, round (round value) = round value
  exact : ∀ value : Nat, value ≤ 2 ^ 53 → round value = value

namespace Rounding

variable (rounding : Rounding) {value : ℚ}

@[simp] theorem round_zero : rounding.round 0 = 0 := by
  have exact := rounding.exact 0 (Nat.zero_le _)
  simpa using exact

@[simp] theorem round_one : rounding.round 1 = 1 := by
  have exact := rounding.exact 1 Nat.one_le_two_pow
  simpa using exact

theorem round_nonneg (nonneg : 0 ≤ value) : 0 ≤ rounding.round value := by
  rw [← rounding.round_zero]
  exact rounding.monotone nonneg

theorem round_le_one (bounded : value ≤ 1) : rounding.round value ≤ 1 := by
  rw [← rounding.round_one]
  exact rounding.monotone bounded

theorem round_le_natCast {bound : Nat} (small : bound ≤ 2 ^ 53) (bounded : value ≤ bound) :
    rounding.round value ≤ bound := by
  rw [← rounding.exact bound small]
  exact rounding.monotone bounded

theorem le_round_add {addend : ℚ} (representable : rounding.round value = value)
    (nonneg : 0 ≤ addend) : value ≤ rounding.round (value + addend) := by
  calc value = rounding.round value := representable.symm
    _ ≤ rounding.round (value + addend) := rounding.monotone (le_add_of_nonneg_right nonneg)

def ideal : Rounding where
  round := id
  monotone := monotone_id
  idempotent _ := rfl
  exact _ _ := rfl

end Rounding

end CrossCodex.Library
