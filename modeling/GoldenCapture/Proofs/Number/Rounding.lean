import GoldenCapture.Number.Double
import Mathlib.Algebra.Group.Nat.Defs

/-!
# How large a rounded double can be

Rounding never yields a NaN, and a quotient below `2 ^ k` yields a double not far above it. Exact
bounds are not needed: each rounded step may be four powers of two too large, which leaves doubles
of 64-bit naturals far from the infinities.
-/

namespace GoldenCapture.Double

/-! ## Magnitudes -/

theorem magnitude_ofMagnitude {negative : Bool} {m : Nat} (h : m ≤ infinityMagnitude) :
    (ofMagnitude negative m).magnitude = m := by
  simp only [infinityMagnitude, Nat.pow_eq] at h
  cases negative <;> simp [ofMagnitude, magnitude] <;> omega

@[simp] theorem magnitude_neg (x : Double) : x.neg.magnitude = x.magnitude := by
  have h : x.magnitude < 2 ^ 63 := Nat.mod_lt _ (by decide)
  simp only [neg, ofMagnitude]
  cases x.isNegative <;> simp [magnitude] at h ⊢

theorem isFinite_of_magnitude_le {x : Double} {e : Nat} (h : x.magnitude ≤ e * 2 ^ 52)
    (he : e < 2047) : x.isFinite = true := by
  have : infinityMagnitude = 2047 * 2 ^ 52 := rfl
  simp only [isFinite, decide_eq_true_eq]
  omega

theorem exponentField_le {x : Double} {e : Nat} (h : x.magnitude ≤ e * 2 ^ 52) :
    x.exponentField ≤ e := by
  simp only [exponentField, Nat.pow_eq]
  omega

theorem significand_lt (x : Double) : x.significand < 2 ^ 53 := by
  have h : x.fractionField < 2 ^ 52 := Nat.mod_lt _ (by decide)
  simp only [significand, Nat.pow_eq]
  split <;> omega

theorem scale_le {x : Double} {e : Nat} (he : 1 ≤ e) (h : x.magnitude ≤ e * 2 ^ 52) :
    x.scale ≤ (e : Int) - 1075 := by
  have := exponentField_le h
  simp only [scale]
  split <;> omega

/-! ## Ratios -/

theorem magnitude_ofRatio_le (negative : Bool) (num den : Nat) :
    (ofRatio negative num den).magnitude ≤ infinityMagnitude := by
  unfold ofRatio
  split
  · rw [magnitude_ofMagnitude (Nat.zero_le _)]
    exact Nat.zero_le _
  · rw [magnitude_ofMagnitude (Nat.min_le_right _ _)]
    exact Nat.min_le_right _ _

theorem isFinite_ofRatio {negative : Bool} {num den : Nat}
    (h : (ofRatio negative num den).isInfinite = false) :
    (ofRatio negative num den).isFinite = true := by
  have := magnitude_ofRatio_le negative num den
  simp only [isInfinite, beq_eq_false_iff_ne] at h
  simp only [isFinite, decide_eq_true_eq]
  omega

theorem roundQuotient_le (num den : Nat) : roundQuotient num den ≤ num / den + 1 := by
  simp only [roundQuotient]
  split
  · omega
  · split
    · omega
    · split <;> omega

theorem le_lastPlace (num den : Nat) :
    (num.log2 : Int) - den.log2 - 53 ≤ lastPlace num den := by
  simp only [lastPlace]
  split <;> omega

theorem lastPlace_le (num den : Nat) :
    lastPlace num den ≤ max ((num.log2 : Int) - den.log2 - 52) (-1074) := by
  simp only [lastPlace]
  split <;> omega

theorem significand_ofRatio_le (num : Nat) {den : Nat} (hden : den ≠ 0) :
    roundQuotient (num * 2 ^ (-lastPlace num den).toNat) (den * 2 ^ (lastPlace num den).toNat) ≤
      2 ^ 54 := by
  have hplace := le_lastPlace num den
  generalize lastPlace num den = place at hplace ⊢
  have hlt : num * 2 ^ (-place).toNat < 2 ^ 54 * (den * 2 ^ place.toNat) :=
    calc num * 2 ^ (-place).toNat
        < 2 ^ (num.log2 + 1) * 2 ^ (-place).toNat :=
          Nat.mul_lt_mul_of_pos_right Nat.lt_log2_self (Nat.two_pow_pos _)
      _ = 2 ^ (num.log2 + 1 + (-place).toNat) := (Nat.pow_add ..).symm
      _ ≤ 2 ^ (54 + (den.log2 + place.toNat)) :=
          Nat.pow_le_pow_right (by decide) (by omega)
      _ = 2 ^ 54 * (2 ^ den.log2 * 2 ^ place.toNat) := by simp only [Nat.pow_add]
      _ ≤ 2 ^ 54 * (den * 2 ^ place.toNat) :=
          Nat.mul_le_mul_left _ (Nat.mul_le_mul_right _ (Nat.log2_self_le hden))
  have hdiv : num * 2 ^ (-place).toNat / (den * 2 ^ place.toNat) < 2 ^ 54 :=
    Nat.div_lt_of_lt_mul (Nat.lt_of_lt_of_eq hlt (Nat.mul_comm ..))
  exact Nat.le_trans (roundQuotient_le _ _) hdiv

theorem magnitude_ofRatio_le_of_lt (negative : Bool) {num den k : Nat} (h : num < den * 2 ^ k)
    (hk : k ≤ 1021) : (ofRatio negative num den).magnitude ≤ (k + 1026) * 2 ^ 52 := by
  unfold ofRatio
  split
  · rw [magnitude_ofMagnitude (Nat.zero_le _)]
    exact Nat.zero_le _
  · rename_i hnum
    have hden : den ≠ 0 := by
      rintro rfl
      simp at h
    have hlog : num.log2 < den.log2 + 1 + k := by
      rw [Nat.log2_lt hnum, Nat.pow_add]
      exact Nat.lt_of_lt_of_le h (Nat.mul_le_mul_right _ (Nat.le_of_lt Nat.lt_log2_self))
    have hplace := lastPlace_le num den
    have hsignificand := significand_ofRatio_le num hden
    simp only [Nat.pow_eq]
    rw [magnitude_ofMagnitude (Nat.min_le_right _ _)]
    refine Nat.le_trans (Nat.min_le_left _ _) ?_
    have hexponent : (lastPlace num den + 1074).toNat ≤ k + 1022 := by omega
    calc (lastPlace num den + 1074).toNat * 2 ^ 52 + _
        ≤ (k + 1022) * 2 ^ 52 + 2 ^ 54 :=
          Nat.add_le_add (Nat.mul_le_mul_right _ hexponent) hsignificand
      _ = (k + 1026) * 2 ^ 52 := by omega

theorem magnitude_ofNat_le {n k : Nat} (h : n < 2 ^ k) (hk : k ≤ 1021) :
    (ofNat n).magnitude ≤ (k + 1026) * 2 ^ 52 :=
  magnitude_ofRatio_le_of_lt false (by simpa using h) hk

/-! ## Products and quotients -/

theorem isFinite_mul {x y : Double} (h : (x.mul y).isInfinite = false) :
    (x.mul y).isFinite = true :=
  isFinite_ofRatio h

theorem magnitude_div_le {x y : Double} {e : Nat} (hy : 1023 ≤ y.exponentField) (he : 1023 ≤ e)
    (he' : e ≤ 2043) (hx : x.magnitude ≤ e * 2 ^ 52) :
    (x.div y).magnitude ≤ (e + 4) * 2 ^ 52 := by
  have hxscale := scale_le (by omega) hx
  have hyscale : -52 ≤ y.scale := by
    simp only [scale]
    split <;> omega
  have hysignificand : 2 ^ 52 ≤ y.significand := by
    simp only [significand, Nat.pow_eq]
    split <;> omega
  generalize hscale : x.scale - y.scale = scale
  have hlt : x.significand * 2 ^ scale.toNat <
      y.significand * 2 ^ (-scale).toNat * 2 ^ (e - 1022) :=
    calc x.significand * 2 ^ scale.toNat
        < 2 ^ 53 * 2 ^ scale.toNat :=
          Nat.mul_lt_mul_of_pos_right x.significand_lt (Nat.two_pow_pos _)
      _ = 2 ^ (53 + scale.toNat) := (Nat.pow_add ..).symm
      _ ≤ 2 ^ (52 + (-scale).toNat + (e - 1022)) := Nat.pow_le_pow_right (by decide) (by omega)
      _ = 2 ^ 52 * 2 ^ (-scale).toNat * 2 ^ (e - 1022) := by simp only [Nat.pow_add]
      _ ≤ y.significand * 2 ^ (-scale).toNat * 2 ^ (e - 1022) :=
          Nat.mul_le_mul_right _ (Nat.mul_le_mul_right _ hysignificand)
  have hle := magnitude_ofRatio_le_of_lt (x.isNegative != y.isNegative) hlt (by omega)
  rw [show e + 4 = e - 1022 + 1026 by omega]
  simpa only [div, ofScaledRatio, hscale, Nat.pow_eq] using hle

theorem le_exponentField_power {k : Nat} (h : k ≤ 308) :
    1023 ≤ (ofDecimal false 1 k).exponentField := by
  have : ∀ k : Fin 309, 1023 ≤ (ofDecimal false 1 (k.val : Int)).exponentField := by
    decide +kernel
  exact this ⟨k, by omega⟩

end GoldenCapture.Double
