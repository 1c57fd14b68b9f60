/-
# Correct rounding to a double

A finite double stands for a rational, and an operation that is correctly
rounded returns the double nearest its exact result, the even one of two.
`double x` is that rounding within the normal range: the exponent of `x` fixes
the unit of the last of 53 binary digits, and `x` is rounded to a whole number
of units.

Key definitions: `roundEven`, `unit`, `double`.
Key theorems: `double_le`, `le_double`, `lt_double`, `zpow_log_le_double`.
-/
import Mathlib.Data.Int.Log
import Mathlib.Data.Rat.Floor
import Mathlib.Tactic.Linarith
import Mathlib.Tactic.NormNum
import Mathlib.Tactic.Ring
import Mathlib.Tactic.Positivity
import Mathlib.Tactic.FieldSimp

namespace Double

/-- The nearest integer, the even one of two. -/
def roundEven (x : ℚ) : ℤ :=
  if x - ⌊x⌋ < 1 / 2 ∨ (x - ⌊x⌋ = 1 / 2 ∧ ⌊x⌋ % 2 = 0) then ⌊x⌋ else ⌊x⌋ + 1

/-- The value of the last binary digit of a double near `x`. -/
def unit (x : ℚ) : ℚ := (2 : ℚ) ^ (Int.log 2 |x| - 52)

/-- The double nearest `x`. -/
def double (x : ℚ) : ℚ := roundEven (x / unit x) * unit x

/-! ### Rounding to an integer -/

theorem floor_le_roundEven (x : ℚ) : ⌊x⌋ ≤ roundEven x := by
  unfold roundEven
  split_ifs
  · exact le_rfl
  · exact Int.le_add_one le_rfl

theorem roundEven_le_floor_add_one (x : ℚ) : roundEven x ≤ ⌊x⌋ + 1 := by
  unfold roundEven
  split_ifs
  · exact Int.le_add_one le_rfl
  · exact le_rfl

/-- An integer above `x` is above its rounding. -/
theorem roundEven_le {x : ℚ} {n : ℤ} (h : x ≤ n) : roundEven x ≤ n := by
  rcases h.lt_or_eq with hlt | rfl
  · have hf : ⌊x⌋ < n := Int.floor_lt.mpr hlt
    have := roundEven_le_floor_add_one x
    omega
  · simp [roundEven]

/-- An integer below `x` is below its rounding. -/
theorem le_roundEven {x : ℚ} {n : ℤ} (h : (n : ℚ) ≤ x) : n ≤ roundEven x :=
  (Int.le_floor.mpr h).trans (floor_le_roundEven x)

theorem roundEven_intCast (n : ℤ) : roundEven n = n :=
  le_antisymm (roundEven_le le_rfl) (le_roundEven le_rfl)

/-- Rounding takes away a half at most. -/
theorem sub_half_le_roundEven (x : ℚ) : x - 1 / 2 ≤ roundEven x := by
  have hlt : x < ⌊x⌋ + 1 := Int.lt_floor_add_one x
  unfold roundEven
  split_ifs with h
  · rcases h with h | ⟨h, -⟩
    · linarith
    · linarith
  · push_cast
    linarith

/-! ### Rounding to a double -/

theorem unit_pos (x : ℚ) : 0 < unit x := zpow_pos (by norm_num) _

theorem div_mul_unit (x : ℚ) : x / unit x * unit x = x := div_mul_cancel₀ x (unit_pos x).ne'

theorem double_nonpos {x : ℚ} (h : x ≤ 0) : double x ≤ 0 := by
  have hr : roundEven (x / unit x) ≤ 0 :=
    roundEven_le (by simpa using div_nonpos_of_nonpos_of_nonneg h (unit_pos x).le)
  exact mul_nonpos_of_nonpos_of_nonneg (by exact_mod_cast hr) (unit_pos x).le

theorem double_nonneg {x : ℚ} (h : 0 ≤ x) : 0 ≤ double x := by
  have hr : 0 ≤ roundEven (x / unit x) := le_roundEven (by simpa using div_nonneg h (unit_pos x).le)
  exact mul_nonneg (by exact_mod_cast hr) (unit_pos x).le

/-- Below `2^53` an integer is a whole number of units. -/
theorem exists_units {x : ℚ} (hx : |x| < 2 ^ 53) (n : ℤ) : ∃ k : ℤ, (n : ℚ) = k * unit x := by
  rcases eq_or_ne x 0 with rfl | hne
  · refine ⟨n * 2 ^ 52, ?_⟩
    norm_num [unit]
    ring
  · have hlog : Int.log 2 |x| < 53 :=
      (Int.lt_zpow_iff_log_lt (by norm_num) (abs_pos.mpr hne)).mp (by exact_mod_cast hx)
    obtain ⟨d, hd⟩ := Int.eq_ofNat_of_zero_le (show 0 ≤ 52 - Int.log 2 |x| by omega)
    refine ⟨n * 2 ^ d, ?_⟩
    have hz : Int.log 2 |x| - 52 = -(d : ℤ) := by omega
    unfold unit
    rw [hz, zpow_neg, zpow_natCast]
    push_cast
    field_simp

/-- An integer above `x` is above the double nearest `x`. -/
theorem double_le {x : ℚ} {n : ℤ} (hx : |x| < 2 ^ 53) (h : x ≤ n) : double x ≤ n := by
  obtain ⟨k, hk⟩ := exists_units hx n
  have hdiv : x / unit x ≤ k := (div_le_iff₀ (unit_pos x)).mpr (hk ▸ h)
  have hr : (roundEven (x / unit x) : ℚ) ≤ k := by exact_mod_cast roundEven_le hdiv
  rw [hk]
  exact mul_le_mul_of_nonneg_right hr (unit_pos x).le

/-- An integer below `x` is below the double nearest `x`. -/
theorem le_double {x : ℚ} {n : ℤ} (hx : |x| < 2 ^ 53) (h : (n : ℚ) ≤ x) : n ≤ double x := by
  obtain ⟨k, hk⟩ := exists_units hx n
  have hdiv : (k : ℚ) ≤ x / unit x := (le_div_iff₀ (unit_pos x)).mpr (hk ▸ h)
  have hr : (k : ℚ) ≤ roundEven (x / unit x) := by exact_mod_cast le_roundEven hdiv
  rw [hk]
  exact mul_le_mul_of_nonneg_right hr (unit_pos x).le

/-- A whole number is a double. -/
theorem double_intCast {n : ℤ} (h : |(n : ℚ)| < 2 ^ 53) : double n = n :=
  le_antisymm (double_le h le_rfl) (le_double h le_rfl)

/-- What is half a unit below `x` is below the double nearest `x`. -/
theorem lt_double {x y : ℚ} (h : y < x - unit x / 2) : y < double x := by
  have hr := mul_le_mul_of_nonneg_right (sub_half_le_roundEven (x / unit x)) (unit_pos x).le
  calc y < x - unit x / 2 := h
    _ = (x / unit x - 1 / 2) * unit x := by rw [sub_mul, div_mul_unit]; ring
    _ ≤ double x := hr

/-- Rounding does not lower the exponent. -/
theorem zpow_log_le_double {x : ℚ} (h : 0 < x) : (2 : ℚ) ^ Int.log 2 x ≤ double x := by
  have hle : (2 : ℚ) ^ Int.log 2 x ≤ x := by exact_mod_cast Int.zpow_log_le_self (b := 2) (by norm_num) h
  have hu : (2 : ℚ) ^ Int.log 2 x = ((2 ^ 52 : ℤ) : ℚ) * unit x := by
    unfold unit
    rw [abs_of_pos h, zpow_sub₀ (by norm_num)]
    push_cast
    field_simp
  have hdiv : ((2 ^ 52 : ℤ) : ℚ) ≤ x / unit x := (le_div_iff₀ (unit_pos x)).mpr (hu ▸ hle)
  have hr : ((2 ^ 52 : ℤ) : ℚ) ≤ roundEven (x / unit x) := by exact_mod_cast le_roundEven hdiv
  rw [hu]
  exact mul_le_mul_of_nonneg_right hr (unit_pos x).le

end Double
