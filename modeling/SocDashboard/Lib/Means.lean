/-
# Means rebuilt from rounded means

Numbers that come in groups, of which only the size and a rounded mean of each
group are known. The mean of all of them is rebuilt by weighting every rounded
mean with the size of its group. Where no group's mean was rounded by more
than `e`, the rebuilt mean is off by no more than `e`, for any number of
groups of any sizes.

Key definitions: `mean`, `rebuiltSum`, `rebuilt`.
Key theorems: `abs_rebuiltSum_sub_le`, `abs_rebuilt_sub_mean_le`.
-/
import Mathlib.Algebra.BigOperators.Group.List.Lemmas
import Mathlib.Algebra.Order.Field.Basic
import Mathlib.Tactic.Ring

namespace Means

variable {K : Type*} [Field K] [LinearOrder K]

def mean (xs : List K) : K := xs.sum / xs.length

/-- The sum of all numbers, from groups with their rounded means. -/
def rebuiltSum (groups : List (K × List K)) : K := (groups.map fun g => g.1 * (g.2.length : K)).sum

/-- The mean of all numbers, from groups with their rounded means. -/
def rebuilt (groups : List (K × List K)) : K := rebuiltSum groups / (groups.flatMap Prod.snd).length

variable [IsStrictOrderedRing K] {groups : List (K × List K)} {e : K}

theorem length_pos {xs : List K} (h : xs ≠ []) : (0 : K) < xs.length :=
  Nat.cast_pos.mpr (List.length_pos_iff.mpr h)

theorem mean_mul_length {xs : List K} (h : xs ≠ []) : mean xs * xs.length = xs.sum :=
  div_mul_cancel₀ _ (length_pos h).ne'

/-- Weighted with its size, a group's error is at most that of each of its numbers. -/
theorem abs_weighted_sub_sum_le {r : K} {xs : List K} (h : xs ≠ [] → |r - mean xs| ≤ e) :
    |r * xs.length - xs.sum| ≤ e * xs.length := by
  by_cases hxs : xs = []
  · simp [hxs]
  · have hpos : (0 : K) < xs.length := length_pos hxs
    calc |r * xs.length - xs.sum| = |r - mean xs| * xs.length := by
          rw [← mean_mul_length hxs, ← sub_mul, abs_mul, abs_of_pos hpos]
      _ ≤ e * xs.length := mul_le_mul_of_nonneg_right (h hxs) hpos.le

/-- The errors of the groups add up to no more than `e` for every number. -/
theorem abs_rebuiltSum_sub_le (h : ∀ g ∈ groups, g.2 ≠ [] → |g.1 - mean g.2| ≤ e) :
    |rebuiltSum groups - (groups.flatMap Prod.snd).sum| ≤ e * (groups.flatMap Prod.snd).length := by
  induction groups with
  | nil => simp [rebuiltSum]
  | cons g groups ih =>
    have hhead : |g.1 * g.2.length - g.2.sum| ≤ e * g.2.length :=
      abs_weighted_sub_sum_le (h g List.mem_cons_self)
    have htail := ih fun g' hg' => h g' (List.mem_cons_of_mem _ hg')
    have hsum : rebuiltSum (g :: groups) = g.1 * g.2.length + rebuiltSum groups := rfl
    rw [hsum, List.flatMap_cons, List.sum_append, List.length_append, Nat.cast_add, mul_add]
    calc |g.1 * g.2.length + rebuiltSum groups - (g.2.sum + (groups.flatMap Prod.snd).sum)|
        = |(g.1 * g.2.length - g.2.sum) + (rebuiltSum groups - (groups.flatMap Prod.snd).sum)| := by
          congr 1
          ring
      _ ≤ |g.1 * g.2.length - g.2.sum| + |rebuiltSum groups - (groups.flatMap Prod.snd).sum| := abs_add_le _ _
      _ ≤ e * g.2.length + e * (groups.flatMap Prod.snd).length := add_le_add hhead htail

/-- **A mean rebuilt from rounded means** is off by no more than the rounding of each. -/
theorem abs_rebuilt_sub_mean_le (hne : groups.flatMap Prod.snd ≠ [])
    (h : ∀ g ∈ groups, g.2 ≠ [] → |g.1 - mean g.2| ≤ e) :
    |rebuilt groups - mean (groups.flatMap Prod.snd)| ≤ e := by
  have hpos : (0 : K) < (groups.flatMap Prod.snd).length := length_pos hne
  rw [rebuilt, mean, ← sub_div, abs_div, abs_of_pos hpos, div_le_iff₀ hpos]
  exact abs_rebuiltSum_sub_le h

end Means
