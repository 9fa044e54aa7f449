/-
EditorAnalysis.Proofs.Number.Binary64 — which fractions are rounded to a finite number.

The exponent of a fraction is at most `k` exactly when the fraction is below 2^(k + 53)
(`exponentOf_le_iff`). So below 2^1023 the exponent is less than the greatest one, and rounding
may well lead to the next power of two; from 2^1024 on the exponent is too great. In between the
mantissa decides: it is rounded up to 2^53 from half a step below on, for its neighbour
below is odd (`roundDiv_lt_iff`). Hence the bound of `isFinite_ofRatio_iff`.
-/
import EditorAnalysis.Number.Binary64
import Mathlib.Tactic.Ring

namespace EditorAnalysis.Number

theorem div_le_roundDiv (n d : Nat) : n / d ≤ roundDiv n d := by
  unfold roundDiv
  dsimp only
  split_ifs <;> omega

theorem roundDiv_le_succ (n d : Nat) : roundDiv n d ≤ n / d + 1 := by
  unfold roundDiv
  dsimp only
  split_ifs <;> omega

/-- A quotient above an odd number is rounded down to it only below the half. -/
theorem roundDiv_eq_div_iff_of_odd {n d : Nat} (hodd : n / d % 2 = 1) :
    roundDiv n d = n / d ↔ 2 * (n % d) < d := by
  unfold roundDiv
  dsimp only
  rw [hodd]
  split_ifs <;> simp_all

/-- Below an even number are rounded the quotients that are more than a half below it: the
half itself goes to the even number. -/
theorem roundDiv_lt_iff {n d m : Nat} (hd : 0 < d) (heven : m % 2 = 0) (hm : 0 < m) :
    roundDiv n d < m ↔ 2 * n < (2 * m - 1) * d := by
  have hn : d * (n / d) + n % d = n := Nat.div_add_mod n d
  have hr : n % d < d := Nat.mod_lt n hd
  have hlow := div_le_roundDiv n d
  have hhigh := roundDiv_le_succ n d
  obtain hq | hq | hq : n / d + 2 ≤ m ∨ n / d + 1 = m ∨ m ≤ n / d := by omega
  · have hstep : (2 * (n / d) + 3) * d ≤ (2 * m - 1) * d := Nat.mul_le_mul_right d (by omega)
    have hmul : (2 * (n / d) + 3) * d = 2 * (d * (n / d)) + 3 * d := by ring
    omega
  · have hround := @roundDiv_eq_div_iff_of_odd n d (by omega)
    have hmul : (2 * (n / d) + 1) * d = 2 * (d * (n / d)) + d := by ring
    rw [show 2 * m - 1 = 2 * (n / d) + 1 by omega, hmul]
    omega
  · have hstep : (2 * m - 1) * d ≤ 2 * (n / d) * d := Nat.mul_le_mul_right d (by omega)
    have hmul : 2 * (n / d) * d = 2 * (d * (n / d)) := by ring
    omega

namespace Binary64

theorem scaled_natCast (num den k : Nat) : scaled num den (k : Int) = (num, den * 2 ^ k) := by
  simp [scaled, twoTo]

/-- The exponent leaves 53 bits to the mantissa, so it says between which powers of two the
fraction is. -/
theorem exponentOf_le_iff {num den : Nat} (hnum : num ≠ 0) (hden : den ≠ 0) (k : Nat) :
    exponentOf num den ≤ k ↔ num < den * 2 ^ (k + 53) := by
  have hnum_low : 2 ^ num.log2 ≤ num := Nat.log2_self_le hnum
  have hnum_high : num < 2 ^ (num.log2 + 1) := Nat.lt_log2_self
  have hden_low : 2 ^ den.log2 ≤ den := Nat.log2_self_le hden
  have hden_high : den < 2 ^ (den.log2 + 1) := Nat.lt_log2_self
  unfold exponentOf minExponent
  dsimp only
  generalize num.log2 = a at *
  generalize den.log2 = b at *
  obtain hlow | hnext | hhigh :
      (a : Int) - b - 52 ≤ k ∨ (a : Int) - b - 52 = (k + 1 : Nat) ∨
        (k : Int) + 2 ≤ (a : Int) - b - 52 := by
    omega
  · have hpow : 2 ^ (a + 1) ≤ 2 ^ b * 2 ^ (k + 53) := by
      rw [← pow_add]
      exact Nat.pow_le_pow_right (by decide) (by omega)
    have hbelow : num < den * 2 ^ (k + 53) :=
      Nat.lt_of_lt_of_le hnum_high (hpow.trans (Nat.mul_le_mul_right _ hden_low))
    simp only [hbelow, iff_true]
    split <;> omega
  · -- the estimate is one above `k`, and the quotient decides
    have hquotient : num / (den * 2 ^ (k + 1)) < 2 ^ 52 ↔ num < den * 2 ^ (k + 53) := by
      rw [Nat.div_lt_iff_lt_mul (Nat.mul_pos (Nat.pos_of_ne_zero hden) (Nat.two_pow_pos _)),
        Nat.mul_comm, Nat.mul_assoc, ← pow_add]
    rw [hnext, scaled_natCast, ← hquotient]
    change max _ (if num / (den * 2 ^ (k + 1)) < 2 ^ 52 then _ else _) ≤ _ ↔ _
    split <;> omega
  · have hpow : 2 ^ (b + 1) * 2 ^ (k + 53) ≤ 2 ^ a := by
      rw [← pow_add]
      exact Nat.pow_le_pow_right (by decide) (by omega)
    have habove : ¬ num < den * 2 ^ (k + 53) := by
      refine Nat.not_lt.mpr (Nat.le_trans ?_ (hpow.trans hnum_low))
      exact Nat.mul_le_mul_right _ hden_high.le
    simp only [habove, iff_false]
    split <;> omega

/-- What is rounded to a finite number is below the middle between the greatest finite number,
(2^53 - 1) · 2^971, and the number that would come next. -/
def finiteBound : Nat := (2 ^ 54 - 1) * 2 ^ 970

/-- At the greatest exponent a fraction below the next power of two is rounded to a finite
number, if it is not rounded up to that power. -/
theorem roundDiv_lt_iff_finiteBound (num : Nat) {den d : Nat} (hden : 0 < den)
    (hd : d = den * 2 ^ 971) : roundDiv num d < 2 ^ 53 ↔ num < den * finiteBound := by
  have hpow : (2 : Nat) ^ 971 = 2 * 2 ^ 970 := by rw [← pow_succ']
  have hmul : (2 * 2 ^ 53 - 1) * d = 2 * (den * finiteBound) := by
    rw [hd, finiteBound, hpow]
    generalize (2 : Nat) ^ 970 = unit
    ring
  have hpos : 0 < d := by simp only [hd, Nat.mul_pos hden, Nat.two_pow_pos]
  rw [roundDiv_lt_iff hpos (by decide) (by decide), hmul]
  omega

/-- A fraction is rounded to a finite number unless its exponent is too great, or becomes so
when the mantissa is rounded up to a bit more. -/
theorem isFinite_ofRatio_iff_exponent (negative : Bool) {num : Nat} (hnum : num ≠ 0) (den : Nat) :
    (ofRatio negative num den).isFinite = true ↔
      exponentOf num den ≤ 970 ∨ exponentOf num den = 971 ∧
        roundDiv (scaled num den (exponentOf num den)).1 (scaled num den (exponentOf num den)).2
          ≠ 2 ^ 53 := by
  rw [ofRatio, if_neg hnum]
  dsimp only
  generalize exponentOf num den = e
  generalize roundDiv (scaled num den e).1 (scaled num den e).2 = m
  change (if 971 < (if m = 2 ^ 53 then (2 ^ 52, e + 1) else (m, e)).2 then infinity negative
    else _).isFinite = true ↔ _
  by_cases hm : m = 2 ^ 53
  · rw [if_pos hm]
    split <;> simp [isFinite, hm] <;> omega
  · rw [if_neg hm]
    split <;> simp [isFinite] <;> omega

/-- A fraction is rounded to a finite number exactly when it is below the bound. -/
theorem isFinite_ofRatio_iff (negative : Bool) (num : Nat) {den : Nat} (hden : 0 < den) :
    (ofRatio negative num den).isFinite = true ↔ num < den * finiteBound := by
  have hlow : den * 2 ^ (970 + 53) ≤ den * finiteBound := by
    rw [finiteBound, Nat.add_comm, pow_add]
    exact Nat.mul_le_mul_left _ (Nat.mul_le_mul_right _ (by decide))
  have hhigh : den * finiteBound ≤ den * 2 ^ (971 + 53) := by
    rw [finiteBound, show 971 + 53 = 54 + 970 by rfl, pow_add]
    exact Nat.mul_le_mul_left _ (Nat.mul_le_mul_right _ (by decide))
  by_cases hnum : num = 0
  · subst hnum
    have hpos : 0 < den * finiteBound :=
      Nat.lt_of_lt_of_le (Nat.mul_pos hden (Nat.two_pow_pos _)) hlow
    simp [ofRatio, isFinite, hpos]
  · have h970 := exponentOf_le_iff hnum hden.ne' 970
    have h971 := exponentOf_le_iff hnum hden.ne' 971
    rw [isFinite_ofRatio_iff_exponent negative hnum den]
    by_cases hmax : exponentOf num den = 971
    · -- the mantissa has 53 bits, and is rounded up to one more or not
      have hbelow : num < den * 2 ^ (971 + 53) := h971.mp (by omega)
      have hquotient : num / (den * 2 ^ 971) < 2 ^ 53 := by
        rw [pow_add, ← Nat.mul_assoc] at hbelow
        exact Nat.div_lt_of_lt_mul hbelow
      have hle := roundDiv_le_succ num (den * 2 ^ 971)
      have hround := roundDiv_lt_iff_finiteBound num hden rfl
      rw [hmax, show (971 : Int) = (971 : Nat) by rfl, scaled_natCast, ← hround]
      dsimp only
      omega
    · omega

end Binary64

end EditorAnalysis.Number
