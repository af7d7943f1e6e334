import GoldenCapture.Proofs.Number.Ratios
import GoldenCapture.Proofs.Text.Quoting
import GoldenCapture.Proofs.Value.Sameness
import GoldenCapture.Value.Display

/-!
# Numerals in reports

A report writes every digit of a number, so the number can be read off its text. Two doubles that
are written alike are the same.
-/

namespace GoldenCapture

/-! ## Digits with a point -/

/-- A text of digits, with or without a point, and the number that it stands for. -/
inductive PointText : List Char → ℚ → Prop
  | integral {digits : List Char} (hdigits : ∀ c ∈ digits, c.isDigit = true) (hne : digits ≠ []) :
      PointText digits (Nat.ofDigitChars 10 digits 0)
  | decimal {whole fraction : List Char} (hwhole : ∀ c ∈ whole, c.isDigit = true) (hne : whole ≠ [])
      (hfraction : ∀ c ∈ fraction, c.isDigit = true) :
      PointText (whole ++ '.' :: fraction)
        (Nat.ofDigitChars 10 (whole ++ fraction) 0 / 10 ^ fraction.length)

namespace PointText

variable {text : List Char} {q q' : ℚ}

theorem point_not_mem {digits : List Char} (h : ∀ c ∈ digits, c.isDigit = true) : '.' ∉ digits :=
  fun hmem => absurd (h _ hmem) (by decide)

theorem unique (h : PointText text q) (h' : PointText text q') : q = q' := by
  cases h with
  | integral hdigits =>
    cases h' with
    | integral => rfl
    | decimal => exact absurd (by simp) (point_not_mem hdigits)
  | @decimal whole fraction hwhole =>
    generalize htext : whole ++ '.' :: fraction = text at h'
    cases h' with
    | integral hdigits => exact absurd (htext ▸ by simp) (point_not_mem hdigits)
    | decimal hwhole' =>
      obtain ⟨rfl, rfl⟩ := append_delimiter_injective (point_not_mem hwhole)
        (point_not_mem hwhole') htext
      rfl

theorem isDigit_head {c : Char} {rest : List Char} (h : PointText (c :: rest) q) :
    c.isDigit = true := by
  generalize htext : c :: rest = text at h
  cases h with
  | integral hdigits hne => exact hdigits c (htext ▸ List.mem_cons_self)
  | @decimal whole fraction hwhole hne =>
    obtain ⟨d, more, rfl⟩ := List.exists_cons_of_ne_nil hne
    rw [(List.cons.inj htext).1]
    exact hwhole d List.mem_cons_self

theorem ne_nil (h : PointText text q) : text ≠ [] := by
  cases h with
  | integral _ hne => exact hne
  | decimal => exact List.append_ne_nil_of_right_ne_nil _ (List.cons_ne_nil _ _)

theorem ofNat (n : Nat) : PointText (Nat.toDigits 10 n) n := by
  have h := @integral (Nat.toDigits 10 n)
    (fun c hc => Nat.isDigit_of_mem_toDigits (by decide) (by decide) hc) Nat.toDigits_ne_nil
  rwa [Nat.ofDigitChars_toDigits (by decide) (by decide)] at h

end PointText

theorem Decimal.ofDigitChars_text (d : Decimal) : Nat.ofDigitChars 10 d.text 0 = d.digits :=
  Nat.ofDigitChars_toDigits (by decide) (by decide)

theorem Decimal.pointText (d : Decimal) :
    PointText (reportLayout.positionalText d.text d.pointPlace).toList d.value := by
  have hdigits : ∀ c ∈ d.text, c.isDigit = true := fun c hc =>
    Nat.isDigit_of_mem_toDigits (by decide) (by decide) hc
  have hne : d.text ≠ [] := Nat.toDigits_ne_nil
  have hzeros : ∀ n : Nat, ∀ c ∈ List.replicate n '0', c.isDigit = true := fun n c hc => by
    rw [List.eq_of_mem_replicate hc]
    decide
  have hvalue : ∀ n : Nat, d.exponent = -n → (d.digits : ℚ) / 10 ^ n = d.value := fun n hn => by
    unfold value
    rw [hn, zpow_neg, zpow_natCast, div_eq_mul_inv]
  have hexponent : d.exponent = d.pointPlace - d.text.length := by
    unfold pointPlace
    omega
  unfold NumberLayout.positionalText NumberLayout.zeros
  generalize d.pointPlace = place at hexponent ⊢
  split
  case isTrue hplace =>
    have htext := @PointText.decimal ['0']
      (List.replicate (-place).toNat '0' ++ d.text) (by simp) (by simp)
      (fun c hc => (List.mem_append.mp hc).elim (hzeros _ c) (hdigits c))
    rw [List.singleton_append, List.singleton_append, Nat.ofDigitChars_cons,
      Nat.ofDigitChars_append, Nat.sub_self, Nat.mul_zero, Nat.ofDigitChars_replicate_zero,
      Nat.mul_zero, ofDigitChars_text, List.length_append, List.length_replicate,
      hvalue _ (by omega)] at htext
    simpa using htext
  case isFalse hplace =>
    split
    case isTrue hlength =>
      have htext := @PointText.integral (d.text ++
        List.replicate (place - d.text.length).toNat '0')
        (fun c hc => (List.mem_append.mp hc).elim (hdigits c) (hzeros _ c)) (by simp [hne])
      rw [Nat.ofDigitChars_append, Nat.ofDigitChars_replicate_zero, ofDigitChars_text] at htext
      have hpower : ((10 ^ (place - d.text.length).toNat * d.digits : Nat) : ℚ) = d.value := by
        unfold value
        rw [show d.exponent = ((place - d.text.length).toNat : Int) by omega, zpow_natCast]
        push_cast
        ring
      rw [hpower] at htext
      simpa [reportLayout] using htext
    case isFalse hlength =>
      have htext := @PointText.decimal (d.text.take place.toNat)
        (d.text.drop place.toNat) (fun c hc => hdigits c (List.mem_of_mem_take hc))
        (by simp [hne]; omega) (fun c hc => hdigits c (List.mem_of_mem_drop hc))
      rw [List.take_append_drop, ofDigitChars_text, List.length_drop, hvalue _ (by omega)] at htext
      simpa using htext

/-! ## Numbers -/

/-- What a number is to its reader. -/
inductive Numeral where
  | nan
  | infinite (negative : Bool)
  /-- A sign, which zero can have too, and an absolute value. -/
  | finite (negative : Bool) (absolute : ℚ)

/-- A double is shown to its reader as its shortest decimal. -/
def Double.numeral (x : Double) : Numeral :=
  if x.isNaN then .nan
  else if x.isInfinite then .infinite x.isNegative
  else .finite x.isNegative (if x.isZero then 0 else x.shortest.value)

/-- A text and the numeral that is written so. -/
inductive Numeral.WrittenAs : List Char → Numeral → Prop
  | nan : WrittenAs ['N', 'a', 'N'] .nan
  | infinity : WrittenAs ['i', 'n', 'f'] (.infinite false)
  | negativeInfinity : WrittenAs ['-', 'i', 'n', 'f'] (.infinite true)
  | positive {text : List Char} {q : ℚ} (h : PointText text q) : WrittenAs text (.finite false q)
  | negative {text : List Char} {q : ℚ} (h : PointText text q) :
      WrittenAs ('-' :: text) (.finite true q)

theorem Numeral.WrittenAs.unique {text : List Char} {n n' : Numeral} (h : WrittenAs text n)
    (h' : WrittenAs text n') : n = n' := by
  -- What is not finite begins with no digit, also behind a sign.
  have hdigit : ∀ {c : Char} {rest : List Char} {q : ℚ}, c.isDigit = false →
      ¬ PointText (c :: rest) q := fun hc htext => by
    rw [htext.isDigit_head] at hc
    cases hc
  cases h with
  | nan =>
    cases h' with
    | nan => rfl
    | positive htext => exact absurd htext (hdigit rfl)
  | infinity =>
    cases h' with
    | infinity => rfl
    | positive htext => exact absurd htext (hdigit rfl)
  | negativeInfinity =>
    cases h' with
    | negativeInfinity => rfl
    | positive htext => exact absurd htext (hdigit rfl)
    | negative htext => exact absurd htext (hdigit rfl)
  | positive htext =>
    cases h' with
    | nan => exact absurd htext (hdigit rfl)
    | infinity => exact absurd htext (hdigit rfl)
    | negativeInfinity => exact absurd htext (hdigit rfl)
    | positive htext' => rw [htext.unique htext']
    | negative => exact absurd htext (hdigit rfl)
  | negative htext =>
    cases h' with
    | negativeInfinity => exact absurd htext (hdigit rfl)
    | positive htext' => exact absurd htext' (hdigit rfl)
    | negative htext' => rw [htext.unique htext']

theorem Numeral.WrittenAs.ne_nil {text : List Char} {n : Numeral} (h : WrittenAs text n) :
    text ≠ [] := by
  cases h with
  | positive h => exact h.ne_nil
  | nan | infinity | negativeInfinity | negative => exact List.cons_ne_nil _ _

theorem Numeral.writtenAs_signed {text : String} {q : ℚ} (h : PointText text.toList q)
    (negative : Bool) :
    WrittenAs ((if negative then "-" else "") ++ text).toList (.finite negative q) := by
  rw [String.toList_append]
  cases negative
  · exact .positive h
  · exact .negative h

theorem Double.writtenAs (x : Double) :
    Numeral.WrittenAs (reportLayout.text x).toList x.numeral := by
  have hzero : PointText ("0" ++ "").toList 0 := by
    simpa using PointText.ofNat 0
  unfold NumberLayout.text numeral
  split
  · exact .nan
  split
  · cases x.isNegative
    · exact .infinity
    · exact .negativeInfinity
  by_cases hx : x.isZero
  · simp only [hx, if_true, String.append_assoc]
    exact Numeral.writtenAs_signed hzero x.isNegative
  · simp only [hx, Bool.false_eq_true, if_false]
    exact Numeral.writtenAs_signed x.shortest.pointText x.isNegative

/-! ## Doubles that are written alike -/

namespace Double

variable {x y : Double}

theorem ext_of_magnitude (hsign : x.isNegative = y.isNegative)
    (hmagnitude : x.magnitude = y.magnitude) : x = y := by
  have hx := x.bits.toNat_lt
  have hy := y.bits.toNat_lt
  simp only [isNegative, magnitude, Nat.pow_eq, decide_eq_decide] at hsign hmagnitude
  have hbits : x.bits.toNat = y.bits.toNat := by
    by_cases h : 2 ^ 63 ≤ x.bits.toNat
    · have := hsign.mp h
      omega
    · have := hsign.not.mp h
      omega
  exact (bits_beq_iff x y).mp (beq_iff_eq.mpr (UInt64.toNat_inj.mp hbits))

theorem magnitude_eq_of_value_shortest (hx : x.isFinite = true) (hy : y.isFinite = true)
    (h : x.shortest.value = y.shortest.value) : x.magnitude = y.magnitude := by
  have hreads := readsBack_shortest hx
  have hreads' := readsBack_shortest hy
  unfold Decimal.readsBack at hreads hreads'
  rw [beq_iff_eq] at hreads hreads'
  rw [← hreads, ← hreads', Decimal.ofDecimal_congr h]

theorem value_shortest_ne_zero (hx : x.isFinite = true) (h : x.isZero = false) :
    x.shortest.value ≠ 0 := by
  intro hvalue
  have hnothing : x.shortest.value = Decimal.value ⟨0, 0⟩ := by
    rw [hvalue]
    simp [Decimal.value]
  have hreads := readsBack_shortest hx
  have hzero : (ofDecimal false 0 0).magnitude = 0 := by decide
  unfold Decimal.readsBack at hreads
  rw [Decimal.ofDecimal_congr hnothing, beq_iff_eq, hzero] at hreads
  simp [isZero, ← hreads] at h

theorem isFinite_of_not (hnan : ¬ x.isNaN = true) (hinfinite : ¬ x.isInfinite = true) :
    x.isFinite = true := by
  simp only [isNaN, isInfinite, isFinite, decide_eq_true_eq, beq_iff_eq] at *
  omega

theorem numeral_cases (x : Double) :
    (x.isNaN = true ∧ x.numeral = .nan) ∨
    (x.magnitude = infinityMagnitude ∧ x.numeral = .infinite x.isNegative) ∨
    (x.isZero = true ∧ x.numeral = .finite x.isNegative 0) ∨
    (x.isFinite = true ∧ x.isZero = false ∧
      x.numeral = .finite x.isNegative x.shortest.value) := by
  unfold numeral
  split
  · exact .inl ⟨‹_›, rfl⟩
  rename_i hnan
  split
  · exact .inr (.inl ⟨by simpa [isInfinite] using ‹x.isInfinite = true›, rfl⟩)
  rename_i hinfinite
  have hfinite := isFinite_of_not hnan hinfinite
  cases hzero : x.isZero
  · exact .inr (.inr (.inr ⟨hfinite, rfl, rfl⟩))
  · exact .inr (.inr (.inl ⟨rfl, rfl⟩))

theorem same_of_numeral (h : x.numeral = y.numeral) : x.same y = true := by
  have hnan : x.isNaN = true → y.isNaN = true → x.same y = true := fun hx hy => by
    simp [same, hx, hy]
  have hbits : x.isNegative = y.isNegative → x.magnitude = y.magnitude → x.same y = true :=
    fun hsign hmagnitude => by simp [same, ext_of_magnitude hsign hmagnitude]
  obtain ⟨hx, hnx⟩ | ⟨hx, hnx⟩ | ⟨hx, hnx⟩ | ⟨hx, hx', hnx⟩ := x.numeral_cases <;>
    obtain ⟨hy, hny⟩ | ⟨hy, hny⟩ | ⟨hy, hny⟩ | ⟨hy, hy', hny⟩ := y.numeral_cases <;>
    rw [hnx, hny] at h <;> try contradiction
  · exact hnan hx hy
  · exact hbits (Numeral.infinite.inj h) (hx.trans hy.symm)
  · simp [same, hx, hy]
  · exact absurd (Numeral.finite.inj h).2.symm (value_shortest_ne_zero hy hy')
  · exact absurd (Numeral.finite.inj h).2 (value_shortest_ne_zero hx hx')
  · obtain ⟨hsign, hvalue⟩ := Numeral.finite.inj h
    exact hbits hsign (magnitude_eq_of_value_shortest hx hy hvalue)

end Double

end GoldenCapture
