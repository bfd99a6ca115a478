import Mathlib.Data.Rat.Cast.Order
import Mathlib.Tactic.FieldSimp
import Mathlib.Tactic.Positivity
import SchemaModels.Double

/-!
# Floating-point numbers by their value

A finite number has a rational `value`, which is the fraction that `ratio?` gives (`ratio?_finite`).
An integer is compared with a number by this value: `AtMost` is what it means for the number not to
be above the integer, and `atMost_iff` that the comparison says just that.
-/

namespace SchemaModels.Double

variable {negative : Bool} {m : Nat} {e n : Int}

/-- The value of a finite number. -/
def value (negative : Bool) (m : Nat) (e : Int) : ℚ :=
  (if negative then -(m : ℚ) else m) * 2 ^ e

/-- **The number is at most the integer.** This is so of minus infinity, and of nothing that is no
number. -/
def AtMost : Double → Int → Prop
  | .nan, _ => False
  | .infinite negative, _ => negative = true
  | .finite negative m e, n => value negative m e ≤ n

theorem scaled_eq (m : Nat) (e : Int) :
    0 < (scaled m 1 (-e)).2 ∧ (m : ℚ) * 2 ^ e = (scaled m 1 (-e)).1 / (scaled m 1 (-e)).2 := by
  unfold scaled
  by_cases he : 0 ≤ -e
  · have hpow : (2 : ℚ) ^ e = ((2 : ℚ) ^ (-e).toNat)⁻¹ := by
      rw [← zpow_natCast, ← zpow_neg, Int.toNat_of_nonneg he, neg_neg]
    simp only [if_pos he, Nat.pow_eq, one_mul, Nat.cast_pow, Nat.cast_ofNat]
    exact ⟨by positivity, by rw [hpow, div_eq_mul_inv]⟩
  · have hpow : (2 : ℚ) ^ e = (2 : ℚ) ^ e.toNat := by
      rw [← zpow_natCast, Int.toNat_of_nonneg (by omega)]
    simp only [if_neg he, Nat.pow_eq, neg_neg, Nat.cast_mul, Nat.cast_pow, Nat.cast_ofNat]
    exact ⟨one_pos, by rw [hpow, Nat.cast_one, div_one]⟩

/-- **The fraction of a finite number is its value.** -/
theorem ratio?_finite (negative : Bool) (m : Nat) (e : Int) : ∃ num den,
    ratio? (.finite negative m e) = some (num, den) ∧ 0 < den ∧
      value negative m e = (num : ℚ) / (den : ℚ) := by
  obtain ⟨hden, hscaled⟩ := scaled_eq m e
  refine ⟨_, _, rfl, hden, ?_⟩
  unfold value
  cases negative with
  | false => simpa using hscaled
  | true => simpa [neg_div] using hscaled

/-- **Comparing an integer with a number** is comparing it with the value. -/
theorem atMost_iff (x : Double) (n : Int) :
    (x.compareInt? n == some .gt || x.compareInt? n == some .eq) = true ↔ x.AtMost n := by
  cases x with
  | nan => exact iff_of_false (by simp [compareInt?]) not_false
  | infinite negative => cases negative <;> simp [compareInt?, AtMost]
  | finite negative m e =>
    obtain ⟨num, den, hratio, hden, hvalue⟩ := ratio?_finite negative m e
    have hcompare : compareInt? n (.finite negative m e) = some (compare (n * den) num) := by
      unfold compareInt?
      rw [hratio]
      rfl
    have hle : num ≤ n * den ↔ value negative m e ≤ n := by
      rw [hvalue, div_le_iff₀ (by exact_mod_cast hden)]
      exact_mod_cast Iff.rfl
    rw [hcompare, AtMost, ← hle]
    rcases lt_trichotomy (n * den) num with h | h | h
    · simp [compare_lt_iff_lt.mpr h, not_le.mpr h]
    · simp [h]
    · simp [compare_gt_iff_gt.mpr h, h.le]

instance (x : Double) (n : Int) : Decidable (x.AtMost n) := decidable_of_iff _ (x.atMost_iff n)

end SchemaModels.Double
