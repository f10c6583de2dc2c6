import Mathlib.Algebra.Order.Field.Basic
import Mathlib.Tactic.Linarith
import Mathlib.Tactic.Ring

/-!
# Foundations - Exponential backoff

The delays between the tries of an operation: each is twice the last one, up to a cap.

Main results:

- Definition `delay`: the delay after a number of tries.
- Theorem `min_two_mul_delay`: doubling and capping one delay gives the next.
-/

namespace Foundations
namespace Backoff

variable {K : Type*} [Field K] [LinearOrder K]

/-! ## Delays -/

/-- The delay after `n` tries. -/
def delay (initial cap : K) (n : ℕ) : K :=
  min (initial * 2 ^ n) cap

@[simp]
theorem delay_zero {initial cap : K} (h : initial ≤ cap) : delay initial cap 0 = initial := by
  simp [delay, h]

variable [IsStrictOrderedRing K]

/-- Doubling and capping one delay gives the next. -/
theorem min_two_mul_delay {initial cap : K} (hcap : 0 ≤ cap) (n : ℕ) :
    min (delay initial cap n * 2) cap = delay initial cap (n + 1) := by
  unfold delay
  rcases le_total (initial * 2 ^ n) cap with h | h
  · rw [min_eq_left h, pow_succ, mul_assoc]
  · have hdouble : cap ≤ initial * 2 ^ (n + 1) := by
      rw [pow_succ, ← mul_assoc]
      linarith
    rw [min_eq_right h, min_eq_right hdouble, min_eq_right (by linarith)]

end Backoff
end Foundations
