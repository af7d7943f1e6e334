import GoldenCapture.Value

/-!
# Sameness of values is equality of canonical forms

In a canonical form every NaN is one value and the two zeros are one number. Values are the same
exactly if their canonical forms are equal, so sameness is an equivalence relation.
-/

namespace GoldenCapture

/-! ## Doubles -/

namespace Double

/-- The double that stands for all that are the same as `x`. -/
def canonical (x : Double) : Double :=
  if x.isNaN then nan else if x.isZero then zero else x

theorem not_isNaN_of_isZero {x : Double} (h : x.isZero = true) : x.isNaN = false := by
  simp only [isZero, beq_iff_eq] at h
  simp [isNaN, h]

theorem bits_beq_iff (x y : Double) : (x.bits == y.bits) = true ↔ x = y := by
  rw [beq_iff_eq]
  constructor
  · intro h
    cases x; cases y
    simpa using h
  · rintro rfl
    rfl

theorem same_iff (x y : Double) : x.same y = true ↔ x.canonical = y.canonical := by
  have hnan : nan.isNaN = true := by decide
  have hzero : zero.isZero = true := by decide
  simp only [same, Bool.or_eq_true, Bool.and_eq_true, bits_beq_iff]
  constructor
  · rintro ((⟨hx, hy⟩ | ⟨hx, hy⟩) | rfl)
    · rw [canonical, canonical, if_pos hx, if_pos hy]
    · simp [canonical, hx, hy, not_isNaN_of_isZero hx, not_isNaN_of_isZero hy]
    · rfl
  · -- A canonical form shows its class: a NaN, a zero or one double of its own.
    intro h
    unfold canonical at h
    have := @not_isNaN_of_isZero zero hzero
    grind

end Double

/-! ## Values -/

namespace Value

mutual

/-- The value with every double inside in canonical form. -/
def canonical : Value → Value
  | double d => double d.canonical
  | seq items => seq (canonicalItems items)
  | map fields => map (canonicalFields fields)
  | v => v

def canonicalItems : List Value → List Value
  | [] => []
  | v :: rest => canonical v :: canonicalItems rest

def canonicalFields : List (String × Value) → List (String × Value)
  | [] => []
  | (key, v) :: rest => (key, canonical v) :: canonicalFields rest

end

mutual

theorem same_iff : ∀ a b : Value, a.same b = true ↔ a.canonical = b.canonical
  | double x, b => by cases b <;> simp [same, canonical, Double.same_iff]
  | seq as, b => by cases b <;> simp [same, canonical, sameItems_iff as]
  | map as, b => by cases b <;> simp [same, canonical, sameFields_iff as]
  | bool _, b => by cases b <;> simp [same, canonical]
  | int _, b => by cases b <;> simp [same, canonical]
  | uint _, b => by cases b <;> simp [same, canonical]
  | string _, b => by cases b <;> simp [same, canonical]
  | empty, b => by cases b <;> simp [same, canonical]

theorem sameItems_iff : ∀ as bs : List Value,
    sameItems as bs = true ↔ canonicalItems as = canonicalItems bs
  | [], bs => by cases bs <;> simp [sameItems, canonicalItems]
  | a :: as, bs => by
    cases bs with
    | nil => simp [sameItems, canonicalItems]
    | cons b bs => simp [sameItems, canonicalItems, same_iff a b, sameItems_iff as bs]

theorem sameFields_iff : ∀ as bs : List (String × Value),
    sameFields as bs = true ↔ canonicalFields as = canonicalFields bs
  | [], bs => by cases bs <;> simp [sameFields, canonicalFields]
  | (k, a) :: as, bs => by
    cases bs with
    | nil => simp [sameFields, canonicalFields]
    | cons b bs =>
      obtain ⟨l, b⟩ := b
      simp [sameFields, canonicalFields, same_iff a b, sameFields_iff as bs, and_assoc]

end

/-- Equality of values, where every NaN is one value and the two zeros are one number. -/
def Equal (a b : Value) : Prop := a.canonical = b.canonical

theorem same_iff_equal_swap (e a : Value) : e.same a = true ↔ a.Equal e := by
  rw [same_iff]
  exact eq_comm

theorem equal_equivalence : Equivalence Equal where
  refl _ := rfl
  symm h := h.symm
  trans h h' := h.trans h'

end Value

end GoldenCapture
