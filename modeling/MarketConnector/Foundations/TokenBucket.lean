import Mathlib.Algebra.Order.Archimedean.Basic
import Mathlib.Tactic.Linarith

/-!
# Foundations - Token buckets

The level of a bucket that is refilled at a constant rate up to its capacity, and how the
levels of two buckets compare that the same requests are charged to.

Main results:

- Theorem `refill_le_mul_refill`: a bucket whose capacity and rate are large enough, in
  requests, stays ahead of the other.
- Theorem `exists_short`: a bucket that refills less than one token a period runs short.
- Theorem `exists_period`: a period in which every bucket of a list is refilled.
-/

namespace Foundations
namespace TokenBucket

variable {K : Type*} [Field K] [LinearOrder K]

/-! ## Levels -/

/-- Level after some time without requests. -/
def refill (capacity rate level time : K) : K :=
  min capacity (level + rate * time)

theorem refill_le_capacity (capacity rate level time : K) :
    refill capacity rate level time ≤ capacity :=
  min_le_left _ _

theorem refill_le_add (capacity rate level time : K) :
    refill capacity rate level time ≤ level + rate * time :=
  min_le_right _ _

/-- Enough time refills the bucket. -/
theorem refill_eq_capacity {capacity rate level time : K}
    (h : capacity ≤ level + rate * time) : refill capacity rate level time = capacity :=
  min_eq_left h

/-! ## Two buckets -/

variable [IsStrictOrderedRing K]

/-- When a request takes one token from one bucket and `w` from the other, the first keeps as
many requests as the second, as long as it starts with as many and is refilled as fast. -/
theorem refill_le_mul_refill {w capacity rate level capacity' rate' level' time : K}
    (hw : 0 ≤ w) (htime : 0 ≤ time) (hcapacity : capacity' ≤ w * capacity)
    (hrate : rate' ≤ w * rate) (hlevel : level' ≤ w * level) :
    refill capacity' rate' level' time ≤ w * refill capacity rate level time := by
  unfold refill
  rw [mul_min_of_nonneg _ _ hw]
  refine min_le_min hcapacity ?_
  have hadded : rate' * time ≤ w * rate * time := mul_le_mul_of_nonneg_right hrate htime
  calc level' + rate' * time ≤ w * level + w * rate * time := add_le_add hlevel hadded
    _ = w * (level + rate * time) := by ring

/-! ## Periodic requests -/

/-- Level after `n` periods with one request at the end of each, from a full bucket. -/
def periodic (capacity rate period : K) : ℕ → K
  | 0 => capacity
  | n + 1 => refill capacity rate (periodic capacity rate period n) period - 1

theorem periodic_le (capacity rate period : K) (n : ℕ) :
    periodic capacity rate period n ≤ capacity - n * (1 - rate * period) := by
  induction n with
  | zero => simp [periodic]
  | succ n ih =>
      have hadd := refill_le_add capacity rate (periodic capacity rate period n) period
      rw [periodic]
      push_cast
      linarith

/-- A bucket that gets less than one token back each period cannot serve a request each
period for ever. -/
theorem exists_short [Archimedean K] (capacity : K) {rate period : K} (h : rate * period < 1) :
    ∃ n, refill capacity rate (periodic capacity rate period n) period < 1 := by
  have hloss : 0 < 1 - rate * period := sub_pos.2 h
  obtain ⟨n, hn⟩ := exists_lt_nsmul hloss capacity
  refine ⟨n, ?_⟩
  have hadd := refill_le_add capacity rate (periodic capacity rate period n) period
  have hlevel := periodic_le capacity rate period n
  rw [nsmul_eq_mul] at hn
  linarith

/-- Buckets with their cost and rate that refill faster than their cost times `rate` have a
common period in which each gets its cost back, and another of that rate less than one token. -/
theorem exists_period {rate : K} (hrate : 0 ≤ rate) (buckets : List (K × K))
    (h : ∀ b ∈ buckets, 0 < b.2 ∧ b.1 * rate < b.2) :
    ∃ period, 0 ≤ period ∧ rate * period < 1 ∧ ∀ b ∈ buckets, b.1 ≤ b.2 * period := by
  induction buckets with
  | nil => exact ⟨0, le_rfl, by simp, by simp⟩
  | cons b buckets ih =>
      rw [List.forall_mem_cons] at h
      obtain ⟨⟨hpos, hfast⟩, hrest⟩ := h
      obtain ⟨period, hnonneg, hslow, hall⟩ := ih hrest
      refine ⟨max period (b.1 / b.2), le_max_of_le_left hnonneg, ?_, ?_⟩
      · rw [mul_max_of_nonneg _ _ hrate]
        refine max_lt hslow ?_
        rw [mul_div_assoc', div_lt_one hpos, mul_comm]
        exact hfast
      · intro b' hb'
        rcases List.mem_cons.1 hb' with rfl | hb'
        · calc b'.1 = b'.2 * (b'.1 / b'.2) := by field_simp
            _ ≤ b'.2 * max period (b'.1 / b'.2) :=
              mul_le_mul_of_nonneg_left (le_max_right _ _) hpos.le
        · exact (hall b' hb').trans
            (mul_le_mul_of_nonneg_left (le_max_left _ _) (hrest b' hb').1.le)

end TokenBucket
end Foundations
