import Mathlib.Algebra.Order.Round
import Mathlib.Algebra.Ring.Int.Parity
import Mathlib.Data.Int.Log
import Mathlib.Data.Rat.Floor
import Mathlib.Tactic.FieldSimp
import Mathlib.Tactic.Linarith
import Mathlib.Tactic.Positivity

/-!
# Rounding

Rounding to the nearest integer, ties to the even one, and to a number of decimals,
over any ordered field with a floor.  Dividing an integer by a scale, rounding to
decimals, multiplying back and rounding again returns the integer as long as the scale
stays below the precision.  What rounds to at least or at most a bound is an inequality.
Rounding to 53 binary digits is what an operation on doubles does to its exact result.
-/

namespace NasaCpp.General.Rounding

universe u

variable {α : Type u} [Field α] [LinearOrder α] [IsStrictOrderedRing α] [FloorRing α]

/-- The nearest integer, the even one of two. -/
def roundHalfEven (x : α) : ℤ :=
  if x - ⌊x⌋ < 1 / 2 then ⌊x⌋
  else if 1 / 2 < x - ⌊x⌋ then ⌊x⌋ + 1
  else if ⌊x⌋ % 2 = 0 then ⌊x⌋
  else ⌊x⌋ + 1

/-- The nearest integer, the larger of two. -/
def roundHalfUp (x : α) : ℤ := ⌊x + 1 / 2⌋

/-- The integer part, towards zero. -/
def trunc (x : α) : ℤ := if x < 0 then ⌈x⌉ else ⌊x⌋

omit [IsStrictOrderedRing α] in
theorem trunc_mono {x y : α} (le : x ≤ y) : trunc x ≤ trunc y := by
  unfold trunc
  by_cases hx : x < 0
  · rw [if_pos hx]
    by_cases hy : y < 0
    · rw [if_pos hy]
      exact Int.ceil_le_ceil le
    · rw [if_neg hy]
      have below : ⌈x⌉ ≤ 0 := Int.ceil_le.mpr (by simpa using hx.le)
      exact below.trans (Int.floor_nonneg.mpr (not_lt.mp hy))
  · rw [if_neg hx, if_neg (not_lt.mpr ((not_lt.mp hx).trans le))]
    exact Int.floor_le_floor le

def roundDecimals (places : ℕ) (x : α) : α := roundHalfEven (x * 10 ^ places) / 10 ^ places

theorem abs_sub_roundHalfEven (x : α) : |x - roundHalfEven x| ≤ 1 / 2 := by
  have lower := Int.floor_le x
  have upper := Int.lt_floor_add_one x
  unfold roundHalfEven
  split_ifs <;> rw [abs_le] <;> push_cast <;> constructor <;> linarith

theorem abs_roundHalfUp_sub (x : α) : |(roundHalfUp x : α) - x| ≤ 1 / 2 := by
  have lower := Int.floor_le (x + 1 / 2)
  have upper := Int.lt_floor_add_one (x + 1 / 2)
  rw [roundHalfUp, abs_le]
  constructor <;> linarith

theorem roundHalfUp_mono {x y : α} (le : x ≤ y) : roundHalfUp x ≤ roundHalfUp y :=
  Int.floor_le_floor (add_le_add_left le _)

/-- An integer closer than one half is the one rounded to. -/
theorem roundHalfEven_eq {x : α} {n : ℤ} (near : |x - n| < 1 / 2) : roundHalfEven x = n := by
  have error := abs_sub_roundHalfEven x
  rw [abs_lt] at near
  rw [abs_le] at error
  have above : ((roundHalfEven x - n : ℤ) : α) < 1 := by
    push_cast
    linarith
  have below : (-1 : α) < ((roundHalfEven x - n : ℤ) : α) := by
    push_cast
    linarith
  have above' : roundHalfEven x - n < 1 := by exact_mod_cast above
  have below' : -1 < roundHalfEven x - n := by exact_mod_cast below
  omega

@[simp] theorem roundHalfEven_intCast (n : ℤ) : roundHalfEven (n : α) = n :=
  roundHalfEven_eq (by simp)

@[simp] theorem trunc_intCast (n : ℤ) : trunc (n : α) = n := by
  unfold trunc
  split_ifs <;> simp

@[simp] theorem roundDecimals_intCast (places : ℕ) (n : ℤ) :
    roundDecimals places (n : α) = n := by
  have whole : (n : α) * 10 ^ places = ((n * 10 ^ places : ℤ) : α) := by push_cast; rfl
  have positive : (0 : α) < 10 ^ places := by positivity
  rw [roundDecimals, whole, roundHalfEven_intCast]
  push_cast
  exact mul_div_cancel_right₀ _ positive.ne'

theorem abs_sub_roundDecimals (places : ℕ) (x : α) :
    |x - roundDecimals places x| ≤ 1 / (2 * 10 ^ places) := by
  have positive : (0 : α) < 10 ^ places := by positivity
  have error := abs_sub_roundHalfEven (x * 10 ^ places)
  have scaled : x - roundDecimals places x =
      (x * 10 ^ places - roundHalfEven (x * 10 ^ places)) / 10 ^ places := by
    rw [roundDecimals]
    field_simp
  rw [scaled, abs_div, abs_of_pos positive, div_le_iff₀ positive]
  calc |x * 10 ^ places - roundHalfEven (x * 10 ^ places)| ≤ 1 / 2 := error
    _ = 1 / (2 * 10 ^ places) * 10 ^ places := by field_simp

/-- A scale below the precision is undone by rounding. -/
theorem roundHalfEven_scale_back {places k : ℕ} (positive : 0 < k) (small : k + 1 < 10 ^ places)
    (n : ℤ) :
    roundHalfEven (roundDecimals places (roundDecimals places ((n : α) / k) * k)) = n := by
  have precision : (0 : α) < 2 * 10 ^ places := by positivity
  have scale : (0 : α) < k := by exact_mod_cast positive
  have coarse : (k : α) + 1 < 10 ^ places := by exact_mod_cast small
  have shown := abs_sub_roundDecimals places ((n : α) / k)
  have back := abs_sub_roundDecimals places (roundDecimals places ((n : α) / k) * k)
  generalize roundDecimals places ((n : α) / k) = display at shown back ⊢
  generalize roundDecimals places (display * k) = result at back ⊢
  have scaled : |n - display * k| ≤ k / (2 * 10 ^ places) := by
    have factored : n - display * k = (n / k - display) * k := by field_simp
    rw [factored, abs_mul, abs_of_pos scale]
    calc |(n : α) / k - display| * k ≤ 1 / (2 * 10 ^ places) * k :=
          mul_le_mul_of_nonneg_right shown scale.le
      _ = k / (2 * 10 ^ places) := by field_simp
  have total : (k : α) / (2 * 10 ^ places) + 1 / (2 * 10 ^ places) < 1 / 2 := by
    rw [← add_div, div_lt_iff₀ precision]
    linarith
  apply roundHalfEven_eq
  rw [abs_lt]
  rw [abs_le] at scaled back
  constructor <;> linarith

/-! ## Order -/

/-- An integer halfway away is rounded to only if it is even. -/
theorem even_roundHalfEven {x : α} (tie : |x - roundHalfEven x| = 1 / 2) :
    Even (roundHalfEven x) := by
  have lower := Int.floor_le x
  have upper := Int.lt_floor_add_one x
  unfold roundHalfEven at tie ⊢
  by_cases less : x - ⌊x⌋ < 1 / 2
  · rw [if_pos less, abs_of_nonneg (by linarith)] at tie
    exact absurd tie less.ne
  · rw [if_neg less] at tie ⊢
    by_cases more : 1 / 2 < x - ⌊x⌋
    · rw [if_pos more, abs_of_nonpos (by push_cast; linarith)] at tie
      push_cast at tie
      linarith
    · rw [if_neg more]
      split_ifs with even
      · exact Int.even_iff.mpr even
      · exact Int.even_add_one.mpr fun both => even (Int.even_iff.mp both)

/-- What rounds to an integer or more: everything above the half before it, and that half
if the integer is even. -/
theorem le_roundHalfEven_iff {x : α} {n : ℤ} :
    n ≤ roundHalfEven x ↔ (n : α) - 1 / 2 < x ∨ x = (n : α) - 1 / 2 ∧ Even n := by
  have error := abs_le.mp (abs_sub_roundHalfEven x)
  have tie : |x - roundHalfEven x| = 1 / 2 → Even (roundHalfEven x) := even_roundHalfEven
  generalize roundHalfEven x = r at error tie ⊢
  constructor
  · intro le
    have cast : (n : α) ≤ r := by exact_mod_cast le
    rcases (show (n : α) - 1 / 2 ≤ x by linarith).lt_or_eq with above | here
    · exact .inl above
    · have same : r = n := by
        have cast : (r : α) ≤ n := by linarith
        exact le_antisymm (by exact_mod_cast cast) le
      subst same
      refine .inr ⟨here.symm, tie ?_⟩
      rw [← here, abs_of_nonpos (by linarith)]
      ring
  · intro rounds
    by_contra less
    have before : r + 1 ≤ n := by omega
    have cast : (r : α) + 1 ≤ n := by exact_mod_cast before
    rcases rounds with above | ⟨here, even⟩
    · linarith
    · have last : n = r + 1 := by
        have cast : (n : α) ≤ r + 1 := by linarith
        exact le_antisymm (by exact_mod_cast cast) before
      subst last
      push_cast at here
      refine Int.even_add_one.mp even (tie ?_)
      rw [here, abs_of_nonneg (by linarith)]
      ring

theorem roundHalfEven_le_iff {x : α} {n : ℤ} :
    roundHalfEven x ≤ n ↔ x < (n : α) + 1 / 2 ∨ x = (n : α) + 1 / 2 ∧ Even n := by
  have next := @le_roundHalfEven_iff α _ _ _ _ x (n + 1)
  have middle : ((n + 1 : ℤ) : α) - 1 / 2 = n + 1 / 2 := by
    push_cast
    ring
  rw [middle, Int.even_add_one] at next
  rw [← not_iff_not, not_le, ← Int.add_one_le_iff, next, not_or, not_lt, not_and]
  constructor
  · rintro (above | ⟨here, odd⟩)
    · exact ⟨above.le, fun same => absurd same above.ne'⟩
    · exact ⟨here.ge, fun _ => odd⟩
  · rintro ⟨le, odd⟩
    rcases le.lt_or_eq with above | here
    · exact .inl above
    · exact .inr ⟨here.symm, odd here.symm⟩

theorem le_roundDecimals_iff {places : ℕ} {x y : α} :
    y ≤ roundDecimals places x ↔
      (⌈y * 10 ^ places⌉ : α) - 1 / 2 < x * 10 ^ places ∨
        x * 10 ^ places = (⌈y * 10 ^ places⌉ : α) - 1 / 2 ∧ Even ⌈y * 10 ^ places⌉ := by
  have positive : (0 : α) < 10 ^ places := by positivity
  rw [roundDecimals, le_div_iff₀ positive, ← Int.ceil_le, le_roundHalfEven_iff]

theorem roundDecimals_le_iff {places : ℕ} {x y : α} :
    roundDecimals places x ≤ y ↔
      x * 10 ^ places < (⌊y * 10 ^ places⌋ : α) + 1 / 2 ∨
        x * 10 ^ places = (⌊y * 10 ^ places⌋ : α) + 1 / 2 ∧ Even ⌊y * 10 ^ places⌋ := by
  have positive : (0 : α) < 10 ^ places := by positivity
  rw [roundDecimals, div_le_iff₀ positive, ← Int.le_floor, roundHalfEven_le_iff]

/-! ## Binary digits -/

/-- The nearest double to a number of a magnitude that does not overflow. -/
def roundDouble (x : ℚ) : ℚ :=
  let place : ℚ := 2 ^ max (Int.log 2 |x| - 52) (-1074)
  roundHalfEven (x / place) * place

example : roundDouble (1 / 10) = 3602879701896397 / 36028797018963968 := by decide +kernel

end NasaCpp.General.Rounding
