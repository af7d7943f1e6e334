import GoldenCapture.Number.Shortest
import GoldenCapture.Proofs.Number.Rounding
import Mathlib.Data.Int.Log
import Mathlib.Data.Rat.Floor
import Mathlib.Tactic.FieldSimp
import Mathlib.Tactic.NormNum
import Mathlib.Tactic.Positivity
import Mathlib.Tactic.Linarith

/-!
# Rounding looks at the number only

To which double a fraction is rounded depends on its value, not on how it is written. The fraction
of a finite double is rounded to that double.
-/

namespace GoldenCapture

namespace Double

variable {num den num' den' : Nat}

/-! ## Quotients -/

theorem roundQuotient_mul_left {k : Nat} (hk : 0 < k) (num den : Nat) :
    roundQuotient (k * num) (k * den) = roundQuotient num den := by
  have htwice : ∀ r, 2 * (k * r) = k * (2 * r) := fun r => by ring
  unfold roundQuotient
  simp only [Nat.mul_div_mul_left _ _ hk, Nat.mul_mod_mul_left, htwice, Nat.mul_lt_mul_left hk]

theorem roundQuotient_congr (hden : 0 < den) (hden' : 0 < den') (h : num * den' = num' * den) :
    roundQuotient num den = roundQuotient num' den' := by
  rw [← roundQuotient_mul_left hden', ← roundQuotient_mul_left hden num', Nat.mul_comm den' num, h,
    Nat.mul_comm num', Nat.mul_comm den']

theorem roundQuotient_mul (m : Nat) (hden : 0 < den) : roundQuotient (m * den) den = m := by
  unfold roundQuotient
  rw [Nat.mul_div_cancel _ hden, Nat.mul_mod_left]
  simp [hden]

theorem div_le_roundQuotient (num den : Nat) : num / den ≤ roundQuotient num den := by
  simp only [roundQuotient]
  split_ifs <;> omega

theorem roundQuotient_eq_zero (h : 2 * num < den) : roundQuotient num den = 0 := by
  have hlt : num < den := by omega
  unfold roundQuotient
  rw [Nat.div_eq_of_lt hlt, Nat.mod_eq_of_lt hlt]
  exact if_pos h

/-! ## Powers with any exponent -/

theorem zpow_eq_div {b : ℚ} (hb : b ≠ 0) (t : Int) : b ^ t = b ^ t.toNat / b ^ (-t).toNat := by
  rw [eq_div_iff (pow_ne_zero _ hb), ← zpow_natCast, ← zpow_natCast, ← zpow_add₀ hb]
  congr 1
  omega

theorem zpow_le_div_iff {b : Nat} (hb : 0 < b) (hden : 0 < den) (t : Int) :
    (b : ℚ) ^ t ≤ num / den ↔ den * b ^ t.toNat ≤ num * b ^ (-t).toNat := by
  have hb' : (0 : ℚ) < b := by exact_mod_cast hb
  have hden' : (0 : ℚ) < den := by exact_mod_cast hden
  rw [zpow_eq_div hb'.ne', div_le_div_iff₀ (by positivity) hden', mul_comm]
  exact_mod_cast Iff.rfl

theorem log_eq_iff {q : ℚ} (hq : 0 < q) {t : Int} :
    Int.log 2 q = t ↔ (2 : ℚ) ^ t ≤ q ∧ q < (2 : ℚ) ^ (t + 1) := by
  have hle := Int.zpow_le_iff_le_log (R := ℚ) (b := 2) one_lt_two (x := t) hq
  have hlt := Int.lt_zpow_iff_log_lt (R := ℚ) (b := 2) one_lt_two (x := t + 1) hq
  rw [Nat.cast_ofNat] at hle hlt
  rw [hle, hlt]
  omega

/-! ## The last place -/

theorem div_pos_of_ne_zero (hnum : num ≠ 0) (hden : 0 < den) : (0 : ℚ) < (num : ℚ) / den := by
  have hnum' : (0 : ℚ) < num := by exact_mod_cast Nat.pos_of_ne_zero hnum
  positivity

theorem log_div_bounds (hnum : num ≠ 0) (hden : 0 < den) :
    (2 : ℚ) ^ ((num.log2 : Int) - den.log2 - 1) < num / den ∧
      (num : ℚ) / den < 2 ^ ((num.log2 : Int) - den.log2 + 1) := by
  have hnum₁ : (2 : ℚ) ^ num.log2 ≤ num := by exact_mod_cast Nat.log2_self_le hnum
  have hnum₂ : (num : ℚ) < 2 ^ (num.log2 + 1) := by exact_mod_cast Nat.lt_log2_self
  have hden₁ : (2 : ℚ) ^ den.log2 ≤ den := by exact_mod_cast Nat.log2_self_le hden.ne'
  have hden₂ : (den : ℚ) < 2 ^ (den.log2 + 1) := by exact_mod_cast Nat.lt_log2_self
  have hden' : (0 : ℚ) < den := by exact_mod_cast hden
  rw [lt_div_iff₀ hden', div_lt_iff₀ hden']
  constructor
  · calc (2 : ℚ) ^ ((num.log2 : Int) - den.log2 - 1) * den
        < 2 ^ ((num.log2 : Int) - den.log2 - 1) * 2 ^ (den.log2 + 1) :=
          mul_lt_mul_of_pos_left hden₂ (zpow_pos two_pos _)
      _ = 2 ^ num.log2 := by
          rw [← zpow_natCast, ← zpow_natCast, ← zpow_add₀ two_ne_zero]
          congr 1
          push_cast
          ring
      _ ≤ num := hnum₁
  · calc (num : ℚ) < 2 ^ (num.log2 + 1) := hnum₂
      _ = 2 ^ ((num.log2 : Int) - den.log2 + 1) * 2 ^ den.log2 := by
          rw [← zpow_natCast, ← zpow_natCast, ← zpow_add₀ two_ne_zero]
          congr 1
          push_cast
          ring
      _ ≤ 2 ^ ((num.log2 : Int) - den.log2 + 1) * den :=
          mul_le_mul_of_nonneg_left hden₁ (zpow_pos two_pos _).le

theorem lastPlace_eq (hnum : num ≠ 0) (hden : 0 < den) :
    lastPlace num den = max (Int.log 2 ((num : ℚ) / den) - 52) (-1074) := by
  have hq := div_pos_of_ne_zero hnum hden
  obtain ⟨hlow, hhigh⟩ := log_div_bounds hnum hden
  have hreaches := @zpow_le_div_iff num den 2 two_pos hden ((num.log2 : Int) - den.log2)
  rw [Nat.cast_ofNat] at hreaches
  have htop : (52 : Int) + ((num.log2 : Int) - den.log2 - 52) = num.log2 - den.log2 := by ring
  simp only [lastPlace, Nat.pow_eq, htop, decide_eq_true_eq]
  split
  · rename_i h
    rw [(log_eq_iff hq).mpr ⟨hreaches.mpr h, hhigh⟩]
  · rename_i h
    have hlt : (num : ℚ) / den < 2 ^ ((num.log2 : Int) - den.log2) := by
      rw [← not_le, hreaches]
      exact h
    rw [(log_eq_iff hq).mpr ⟨hlow.le, by rwa [sub_add_cancel]⟩]
    congr 1
    ring

theorem lastPlace_congr (hnum : num ≠ 0) (hnum' : num' ≠ 0) (hden : 0 < den) (hden' : 0 < den')
    (h : num * den' = num' * den) : lastPlace num den = lastPlace num' den' := by
  have hd : (den : ℚ) ≠ 0 := by exact_mod_cast hden.ne'
  have hd' : (den' : ℚ) ≠ 0 := by exact_mod_cast hden'.ne'
  have heq : (num : ℚ) / den = num' / den' := (div_eq_div_iff hd hd').mpr (by exact_mod_cast h)
  rw [lastPlace_eq hnum hden, lastPlace_eq hnum' hden', heq]

/-! ## Fractions -/

variable {negative : Bool}

theorem ofRatio_zero (negative : Bool) (den : Nat) :
    ofRatio negative 0 den = ofMagnitude negative 0 := if_pos rfl

theorem ofRatio_congr (hden : 0 < den) (hden' : 0 < den') (h : num * den' = num' * den) :
    ofRatio negative num den = ofRatio negative num' den' := by
  by_cases hnum : num = 0
  · subst hnum
    have hnum' : num' = 0 := by
      rw [Nat.zero_mul, eq_comm, Nat.mul_eq_zero] at h
      exact h.resolve_right hden.ne'
    rw [hnum', ofRatio_zero, ofRatio_zero]
  · have hnum' : num' ≠ 0 := by
      rintro rfl
      rw [Nat.zero_mul, Nat.mul_eq_zero] at h
      exact h.elim hnum hden'.ne'
    have hround : ∀ a b : Nat, roundQuotient (num * 2 ^ a) (den * 2 ^ b) =
        roundQuotient (num' * 2 ^ a) (den' * 2 ^ b) := fun a b =>
      roundQuotient_congr (by positivity) (by positivity)
        (by rw [mul_mul_mul_comm, h, mul_mul_mul_comm])
    unfold ofRatio
    rw [if_neg hnum, if_neg hnum', lastPlace_congr hnum hnum' hden hden' h]
    simp only [Nat.pow_eq, hround]

theorem ofRatio_of_place (hnum : num ≠ 0) {place : Int} (hplace : lastPlace num den = place) :
    ofRatio negative num den = ofMagnitude negative
      (min ((place + 1074).toNat * 2 ^ 52 +
        roundQuotient (num * 2 ^ (-place).toNat) (den * 2 ^ place.toNat)) infinityMagnitude) := by
  subst hplace
  exact if_neg hnum

theorem ofRatio_of_small {k : Nat} (hk : 1075 ≤ k) (h : num * 2 ^ k < den) :
    ofRatio negative num den = ofMagnitude negative 0 := by
  by_cases hnum : num = 0
  · rw [hnum, ofRatio_zero]
  have hden : 0 < den := Nat.zero_lt_of_lt h
  have hlog : Int.log 2 ((num : ℚ) / den) < -k := by
    have hlt := Int.lt_zpow_iff_log_lt (R := ℚ) (b := 2) one_lt_two (x := -k)
      (div_pos_of_ne_zero hnum hden)
    have hle := @zpow_le_div_iff num den 2 two_pos hden (-k)
    rw [neg_neg, Int.toNat_natCast, Int.toNat_neg_natCast, pow_zero, mul_one] at hle
    rw [← hlt, ← not_le, hle]
    omega
  have hplace : lastPlace num den = -1074 := by
    rw [lastPlace_eq hnum hden]
    omega
  have hround : roundQuotient (num * 2 ^ (-(-1074 : Int)).toNat) (den * 2 ^ (-1074 : Int).toNat) =
      0 := by
    have hlow : (-(-1074 : Int)).toNat + 1 ≤ k := by omega
    generalize (-(-1074 : Int)).toNat = low at hlow
    rw [show (-1074 : Int).toNat = 0 from rfl, pow_zero, mul_one]
    apply roundQuotient_eq_zero
    calc 2 * (num * 2 ^ low) = num * 2 ^ (low + 1) := by ring
      _ ≤ num * 2 ^ k := Nat.mul_le_mul_left _ (Nat.pow_le_pow_right two_pos hlow)
      _ < den := h
  rw [ofRatio_of_place hnum hplace, hround]
  rfl

theorem ofRatio_of_large {k : Nat} (hk : 1024 ≤ k) (hden : 0 < den) (h : den * 2 ^ k ≤ num) :
    ofRatio negative num den = ofMagnitude negative infinityMagnitude := by
  have hnum : num ≠ 0 := (Nat.lt_of_lt_of_le (Nat.mul_pos hden (Nat.two_pow_pos k)) h).ne'
  have hlog : k ≤ Int.log 2 ((num : ℚ) / den) := by
    have hle := Int.zpow_le_iff_le_log (R := ℚ) (b := 2) one_lt_two (x := k)
      (div_pos_of_ne_zero hnum hden)
    rw [← hle, zpow_le_div_iff two_pos hden, Int.toNat_natCast, Int.toNat_neg_natCast, pow_zero,
      mul_one]
    exact h
  generalize hexponent : Int.log 2 ((num : ℚ) / den) = e at hlog
  have hplace : lastPlace num den = e - 52 := by
    rw [lastPlace_eq hnum hden, hexponent]
    omega
  have hround :
      2 ^ 52 ≤ roundQuotient (num * 2 ^ (-(e - 52)).toNat) (den * 2 ^ (e - 52).toNat) := by
    refine le_trans ?_ (div_le_roundQuotient _ _)
    have hpow := Int.zpow_log_le_self (R := ℚ) one_lt_two (div_pos_of_ne_zero hnum hden)
    rw [hexponent, zpow_le_div_iff two_pos hden, show e.toNat = (e - 52).toNat + 52 by omega,
      pow_add, ← mul_assoc] at hpow
    rw [Nat.le_div_iff_mul_le (Nat.mul_pos hden (Nat.two_pow_pos _)), mul_comm,
      show (-(e - 52)).toNat = (-e).toNat by omega]
    exact hpow
  rw [ofRatio_of_place hnum hplace, min_eq_right]
  have hmagnitude : infinityMagnitude = 2047 * 2 ^ 52 := rfl
  omega

/-! ## Doubles as fractions -/

def value (x : Double) : ℚ := x.significand * (2 : ℚ) ^ x.scale

theorem ratio_snd_pos (x : Double) : 0 < x.ratio.2 := Nat.two_pow_pos _

theorem div_ratio (x : Double) : (x.ratio.1 : ℚ) / x.ratio.2 = x.value := by
  unfold ratio value
  rw [zpow_eq_div two_ne_zero, ← mul_div_assoc]
  simp only [Nat.pow_eq, Nat.cast_mul, Nat.cast_pow, Nat.cast_ofNat]

theorem significand_cases (x : Double) :
    (x.scale = -1074 ∧ x.significand < 2 ^ 52 ∧ x.magnitude = x.significand) ∨
    (-1074 ≤ x.scale ∧ 2 ^ 52 ≤ x.significand ∧
      x.magnitude = (x.scale + 1074).toNat * 2 ^ 52 + x.significand) := by
  have hfields := Nat.div_add_mod x.magnitude (2 ^ 52)
  have hfraction : x.magnitude % 2 ^ 52 < 2 ^ 52 := Nat.mod_lt _ (by decide)
  unfold significand scale exponentField fractionField
  simp only [Nat.pow_eq]
  split
  · exact .inl ⟨rfl, hfraction, by omega⟩
  · exact .inr ⟨by omega, by omega, by omega⟩

theorem lastPlace_ratio {x : Double} (h : x.significand ≠ 0) :
    lastPlace x.ratio.1 x.ratio.2 = x.scale := by
  have hnum : x.ratio.1 ≠ 0 := Nat.mul_ne_zero h (Nat.two_pow_pos _).ne'
  have hsig : (0 : ℚ) < x.significand := by exact_mod_cast Nat.pos_of_ne_zero h
  have hvalue : 0 < x.value := mul_pos hsig (zpow_pos two_pos _)
  have hbelow : ∀ k : Nat, x.significand < 2 ^ k → Int.log 2 x.value < k + x.scale := by
    intro k hk
    have hlt := Int.lt_zpow_iff_log_lt (R := ℚ) (b := 2) one_lt_two (x := k + x.scale) hvalue
    rw [Nat.cast_ofNat, zpow_add₀ two_ne_zero, zpow_natCast] at hlt
    refine hlt.mp (mul_lt_mul_of_pos_right ?_ (zpow_pos two_pos _))
    exact_mod_cast hk
  rw [lastPlace_eq hnum x.ratio_snd_pos, div_ratio]
  obtain ⟨hscale, hsmall, -⟩ | ⟨hscale, hlarge, -⟩ := x.significand_cases
  · have := hbelow 52 hsmall
    omega
  · have hlog : 52 + x.scale ≤ Int.log 2 x.value := by
      have hle := Int.zpow_le_iff_le_log (R := ℚ) (b := 2) one_lt_two (x := 52 + x.scale) hvalue
      rw [Nat.cast_ofNat, zpow_add₀ two_ne_zero] at hle
      refine hle.mp (mul_le_mul_of_nonneg_right ?_ (zpow_pos two_pos _).le)
      exact_mod_cast hlarge
    have := hbelow 53 x.significand_lt
    omega

theorem ofRatio_ratio {x : Double} (h : x.isFinite = true) :
    (ofRatio negative x.ratio.1 x.ratio.2).magnitude = x.magnitude := by
  have hcases := x.significand_cases
  by_cases hzero : x.significand = 0
  · have hnum : x.ratio.1 = 0 := by
      unfold ratio
      rw [hzero, Nat.zero_mul]
    rw [hnum, ofRatio_zero, magnitude_ofMagnitude (Nat.zero_le _)]
    omega
  have hnum : x.ratio.1 ≠ 0 := Nat.mul_ne_zero hzero (Nat.two_pow_pos _).ne'
  have hexact : x.ratio.1 * 2 ^ (-x.scale).toNat =
      x.significand * (x.ratio.2 * 2 ^ x.scale.toNat) := by
    unfold ratio
    simp only [Nat.pow_eq]
    ring
  rw [ofRatio_of_place hnum (lastPlace_ratio hzero), hexact,
    roundQuotient_mul _ (Nat.mul_pos x.ratio_snd_pos (Nat.two_pow_pos _))]
  have hmagnitude : (x.scale + 1074).toNat * 2 ^ 52 + x.significand = x.magnitude := by
    omega
  have hle : x.magnitude ≤ infinityMagnitude := by
    unfold isFinite at h
    rw [decide_eq_true_eq] at h
    exact h.le
  rw [hmagnitude, min_eq_left hle, magnitude_ofMagnitude hle]

/-! ## Decimals -/

theorem two_pow_le_ten_pow (k : Nat) : 2 ^ (3 * k) ≤ 10 ^ k := by
  rw [pow_mul]
  exact Nat.pow_le_pow_left (by decide) k

theorem ofRatio_of_far_below {digits k : Nat} {exponent : Int} (hk : 1075 ≤ 3 * k)
    (h : exponent + digits.log2 + 1 < -k) :
    ofRatio negative (digits * 10 ^ exponent.toNat) (10 ^ (-exponent).toNat) =
      ofMagnitude negative 0 := by
  rw [show exponent.toNat = 0 by omega, pow_zero, mul_one]
  refine ofRatio_of_small hk ?_
  calc digits * 2 ^ (3 * k)
      < 2 ^ (digits.log2 + 1) * 2 ^ (3 * k) :=
        Nat.mul_lt_mul_of_pos_right Nat.lt_log2_self (Nat.two_pow_pos _)
    _ ≤ 10 ^ (digits.log2 + 1) * 10 ^ k :=
        Nat.mul_le_mul (Nat.pow_le_pow_left (by decide) _) (two_pow_le_ten_pow k)
    _ = 10 ^ (digits.log2 + 1 + k) := (pow_add ..).symm
    _ ≤ 10 ^ (-exponent).toNat := Nat.pow_le_pow_right (by decide) (by omega)

theorem ofRatio_of_far_above {digits k : Nat} {exponent : Int} (hk : 1024 ≤ 3 * k)
    (hdigits : digits ≠ 0) (h : k ≤ exponent) :
    ofRatio negative (digits * 10 ^ exponent.toNat) (10 ^ (-exponent).toNat) =
      ofMagnitude negative infinityMagnitude := by
  rw [show (-exponent).toNat = 0 by omega, pow_zero]
  refine ofRatio_of_large hk Nat.one_pos ?_
  calc 1 * 2 ^ (3 * k) ≤ 1 * 10 ^ k := Nat.mul_le_mul_left _ (two_pow_le_ten_pow k)
    _ ≤ digits * 10 ^ exponent.toNat :=
        Nat.mul_le_mul (Nat.pos_of_ne_zero hdigits) (Nat.pow_le_pow_right (by decide) (by omega))

theorem ofDecimal_eq (negative : Bool) (digits : Nat) (exponent : Int) :
    ofDecimal negative digits exponent =
      ofRatio negative (digits * 10 ^ exponent.toNat) (10 ^ (-exponent).toNat) := by
  unfold ofDecimal
  split
  · rename_i hsmall
    by_cases hdigits : digits = 0
    · rw [hdigits, Nat.zero_mul, ofRatio_zero]
    · exact (ofRatio_of_far_below (k := 400) (by decide) (hsmall.resolve_left hdigits)).symm
  · rename_i hdigits
    rw [not_or] at hdigits
    split
    · exact (ofRatio_of_far_above (k := 401) (by decide) hdigits.1 (by omega)).symm
    · rfl

end Double

namespace Decimal

variable {d d' : Decimal} {x : Double}

def value (d : Decimal) : ℚ := d.digits * (10 : ℚ) ^ d.exponent

theorem ofDecimal_congr {negative : Bool} (h : d.value = d'.value) :
    Double.ofDecimal negative d.digits d.exponent =
      Double.ofDecimal negative d'.digits d'.exponent := by
  unfold value at h
  rw [Double.zpow_eq_div (by norm_num), Double.zpow_eq_div (by norm_num), ← mul_div_assoc,
    ← mul_div_assoc, div_eq_div_iff (by positivity) (by positivity)] at h
  rw [Double.ofDecimal_eq, Double.ofDecimal_eq]
  exact Double.ofRatio_congr (by positivity) (by positivity) (by exact_mod_cast h)

theorem value_trim (fuel : Nat) (d : Decimal) : (trim fuel d).value = d.value := by
  induction fuel generalizing d with
  | zero => rfl
  | succ fuel ih =>
    unfold trim
    split
    · rename_i hzero
      rw [ih]
      have hten : d.digits = d.digits / 10 * 10 := by omega
      unfold value
      rw [zpow_add_one₀ (by norm_num)]
      nth_rewrite 2 [hten]
      push_cast
      ring
    · rfl

theorem readsBack_congr (h : d.value = d'.value) : d.readsBack x = d'.readsBack x := by
  unfold readsBack
  rw [ofDecimal_congr h]

end Decimal

namespace Double

theorem value_exactDecimal (x : Double) : x.exactDecimal.value = x.value := by
  have hten : ∀ k : Nat, (10 : ℚ) ^ (-(k : Int)) = (2 ^ k)⁻¹ * (5 ^ k)⁻¹ := fun k => by
    rw [zpow_neg, zpow_natCast, ← mul_inv, ← mul_pow]
    norm_num
  unfold exactDecimal Decimal.value value
  rw [hten, zpow_eq_div two_ne_zero x.scale]
  simp only [Nat.pow_eq]
  push_cast
  field_simp

theorem readsBack_exactDecimal {x : Double} (h : x.isFinite = true) :
    x.exactDecimal.readsBack x = true := by
  have hvalue := x.value_exactDecimal
  rw [← div_ratio, Decimal.value, zpow_eq_div (by norm_num), ← mul_div_assoc,
    div_eq_div_iff (by positivity) (by exact_mod_cast x.ratio_snd_pos.ne')] at hvalue
  unfold Decimal.readsBack
  rw [beq_iff_eq, ofDecimal_eq, ← @ofRatio_ratio false x h]
  exact congrArg magnitude
    (ofRatio_congr (by positivity) x.ratio_snd_pos (by exact_mod_cast hvalue))

/-- The shortest decimal reads back to its double. -/
theorem readsBack_shortest {x : Double} (h : x.isFinite = true) :
    x.shortest.readsBack x = true := by
  unfold shortest
  rw [Decimal.readsBack_congr (Decimal.value_trim ..)]
  cases hfound : List.find? (Decimal.readsBack x) _ with
  | none => exact readsBack_exactDecimal h
  | some found => exact List.find?_some hfound

end Double

end GoldenCapture
