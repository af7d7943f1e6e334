import GoldenCapture.Proofs.Number.Numerals

/-!
# Sameness by shape and leaves

A value is a tree with scalars at its leaves. Two values are the same exactly if their trees have
one shape, with the same keys, and their leaves are equal pair by pair. Doubles are equal as
numbers: the two zeros are one number, and every NaN counts as every other.
-/

namespace GoldenCapture

/-! ## Doubles as numbers -/

namespace Double

variable {x y : Double}

def number (x : Double) : ℚ := if x.isNegative then -x.value else x.value

/-- Two NaNs, one infinity twice, or finite doubles of one number. -/
inductive Equal (x y : Double) : Prop
  | nan (hx : x.isNaN = true) (hy : y.isNaN = true)
  | infinite (hx : x.isInfinite = true) (hy : y.isInfinite = true)
      (hsign : x.isNegative = y.isNegative)
  | finite (hx : x.isFinite = true) (hy : y.isFinite = true) (hnumber : x.number = y.number)

theorem value_nonneg (x : Double) : 0 ≤ x.value :=
  mul_nonneg (Nat.cast_nonneg _) (zpow_pos two_pos _).le

theorem value_eq_zero_iff : x.value = 0 ↔ x.isZero = true := by
  have hpower : (2 : ℚ) ^ x.scale ≠ 0 := (zpow_pos two_pos _).ne'
  rw [value, mul_eq_zero, or_iff_left hpower, Nat.cast_eq_zero, isZero, beq_iff_eq]
  obtain ⟨-, -, hmagnitude⟩ | ⟨-, hlarge, hmagnitude⟩ := x.significand_cases
  · rw [hmagnitude]
  · omega

theorem isFinite_of_isZero (h : x.isZero = true) : x.isFinite = true := by
  rw [isZero, beq_iff_eq] at h
  rw [isFinite, h]
  decide

theorem number_of_isZero (h : x.isZero = true) : x.number = 0 := by
  rw [number, value_eq_zero_iff.mpr h, neg_zero, ite_self]

theorem magnitude_eq_of_value (hx : x.isFinite = true) (hy : y.isFinite = true)
    (h : x.value = y.value) : x.magnitude = y.magnitude := by
  have hposx : (x.ratio.2 : ℚ) ≠ 0 := by exact_mod_cast x.ratio_snd_pos.ne'
  have hposy : (y.ratio.2 : ℚ) ≠ 0 := by exact_mod_cast y.ratio_snd_pos.ne'
  rw [← div_ratio, ← div_ratio, div_eq_div_iff hposx hposy] at h
  -- Each of the two is what its own fraction is rounded to.
  rw [← @ofRatio_ratio false x hx, ← @ofRatio_ratio false y hy]
  exact congrArg magnitude (ofRatio_congr x.ratio_snd_pos y.ratio_snd_pos (by exact_mod_cast h))

theorem eq_or_isZero_of_number (hx : x.isFinite = true) (hy : y.isFinite = true)
    (h : x.number = y.number) : x = y ∨ (x.isZero = true ∧ y.isZero = true) := by
  by_cases hsign : x.isNegative = y.isNegative
  · left
    have hvalue : x.value = y.value := by
      unfold number at h
      rw [hsign] at h
      split at h
      · exact neg_injective h
      · exact h
    exact ext_of_magnitude hsign (magnitude_eq_of_value hx hy hvalue)
  · right
    -- A number on both sides of zero is zero.
    have hnonnegx := x.value_nonneg
    have hnonnegy := y.value_nonneg
    have hsum : x.value + y.value = 0 := by
      unfold number at h
      cases hneg : x.isNegative with
      | false =>
        have hneg' : y.isNegative = true := by simpa [hneg] using hsign
        rw [hneg, hneg', if_neg Bool.false_ne_true, if_pos rfl] at h
        linarith
      | true =>
        have hneg' : y.isNegative = false := by simpa [hneg] using hsign
        rw [hneg, hneg', if_pos rfl, if_neg Bool.false_ne_true] at h
        linarith
    rw [← value_eq_zero_iff, ← value_eq_zero_iff]
    constructor <;> linarith

theorem equal_self (x : Double) : x.Equal x := by
  by_cases hnan : x.isNaN = true
  · exact .nan hnan hnan
  by_cases hinfinite : x.isInfinite = true
  · exact .infinite hinfinite hinfinite rfl
  · have hfinite := isFinite_of_not hnan hinfinite
    exact .finite hfinite hfinite rfl

theorem same_iff_equal (x y : Double) : x.same y = true ↔ x.Equal y := by
  simp only [same, Bool.or_eq_true, Bool.and_eq_true, bits_beq_iff]
  constructor
  · rintro ((⟨hx, hy⟩ | ⟨hx, hy⟩) | rfl)
    · exact .nan hx hy
    · refine .finite (isFinite_of_isZero hx) (isFinite_of_isZero hy) ?_
      rw [number_of_isZero hx, number_of_isZero hy]
    · exact equal_self x
  · rintro (⟨hx, hy⟩ | ⟨hx, hy, hsign⟩ | ⟨hx, hy, hnumber⟩)
    · exact .inl (.inl ⟨hx, hy⟩)
    · right
      rw [isInfinite, beq_iff_eq] at hx hy
      exact ext_of_magnitude hsign (hx.trans hy.symm)
    · rcases eq_or_isZero_of_number hx hy hnumber with heq | hzero
      · exact .inr heq
      · exact .inl (.inr hzero)

end Double

/-! ## Shape and leaves -/

/-- A tree of which only the types of the scalars are left. -/
inductive Shape where
  | leaf (typeName : String)
  | seq (items : List Shape)
  | map (fields : List (String × Shape))

namespace Shape

mutual

def size : Shape → Nat
  | leaf _ => 1
  | seq items => sizeItems items
  | map fields => sizeFields fields

def sizeItems : List Shape → Nat
  | [] => 0
  | shape :: rest => size shape + sizeItems rest

def sizeFields : List (String × Shape) → Nat
  | [] => 0
  | (_, shape) :: rest => size shape + sizeFields rest

end

end Shape

namespace Value

mutual

def shape : Value → Shape
  | seq items => .seq (shapeItems items)
  | map fields => .map (shapeFields fields)
  | v => .leaf v.typeName

def shapeItems : List Value → List Shape
  | [] => []
  | v :: rest => shape v :: shapeItems rest

def shapeFields : List (String × Value) → List (String × Shape)
  | [] => []
  | (key, v) :: rest => (key, shape v) :: shapeFields rest

end

mutual

def leaves : Value → List Value
  | seq items => leavesItems items
  | map fields => leavesFields fields
  | v => [v]

def leavesItems : List Value → List Value
  | [] => []
  | v :: rest => leaves v ++ leavesItems rest

def leavesFields : List (String × Value) → List Value
  | [] => []
  | (_, v) :: rest => leaves v ++ leavesFields rest

end

/-- Two scalars of one type that are equal. -/
@[mk_iff]
inductive LeafEqual : Value → Value → Prop
  | bool (b : Bool) : LeafEqual (bool b) (bool b)
  | int (i : Int64) : LeafEqual (int i) (int i)
  | uint (u : UInt64) : LeafEqual (uint u) (uint u)
  | double {x y : Double} (h : x.Equal y) : LeafEqual (double x) (double y)
  | string (s : String) : LeafEqual (string s) (string s)
  | empty : LeafEqual empty empty

mutual

theorem length_leaves : ∀ v : Value, v.leaves.length = v.shape.size
  | seq items => length_leavesItems items
  | map fields => length_leavesFields fields
  | bool _ | int _ | uint _ | double _ | string _ | empty => rfl

theorem length_leavesItems : ∀ items : List Value,
    (leavesItems items).length = Shape.sizeItems (shapeItems items)
  | [] => rfl
  | v :: rest => by
    rw [leavesItems, List.length_append, length_leaves v, length_leavesItems rest]
    rfl

theorem length_leavesFields : ∀ fields : List (String × Value),
    (leavesFields fields).length = Shape.sizeFields (shapeFields fields)
  | [] => rfl
  | (_, v) :: rest => by
    rw [leavesFields, List.length_append, length_leaves v, length_leavesFields rest]
    rfl

end

end Value

theorem forall₂_append_iff {α β : Type} {r : α → β → Prop} {as as' : List α} {bs bs' : List β}
    (h : as.length = bs.length) :
    List.Forall₂ r (as ++ as') (bs ++ bs') ↔ List.Forall₂ r as bs ∧ List.Forall₂ r as' bs' := by
  induction as generalizing bs with
  | nil => simp [List.eq_nil_of_length_eq_zero h.symm]
  | cons a as ih =>
    cases bs with
    | nil => simp at h
    | cons b bs => simp [ih (Nat.succ.inj h), and_assoc]

namespace Value

theorem shape_and_leaves_append {a b : Value} {as bs : List Value} {p : Prop} :
    a.shape = b.shape ∧ p ∧ List.Forall₂ LeafEqual (a.leaves ++ as) (b.leaves ++ bs) ↔
      a.shape = b.shape ∧ List.Forall₂ LeafEqual a.leaves b.leaves ∧
        p ∧ List.Forall₂ LeafEqual as bs := by
  refine and_congr_right fun hshape => ?_
  have hlength : a.leaves.length = b.leaves.length := by
    rw [length_leaves, length_leaves, hshape]
  rw [forall₂_append_iff hlength, and_left_comm]

mutual

theorem same_iff_leaves : ∀ a b : Value,
    a.same b = true ↔ a.shape = b.shape ∧ List.Forall₂ LeafEqual a.leaves b.leaves
  | seq as, b => by cases b <;> simp [same, shape, leaves, typeName, sameItems_iff_leaves as]
  | map as, b => by cases b <;> simp [same, shape, leaves, typeName, sameFields_iff_leaves as]
  | bool _, b => by
    cases b <;> simp [same, shape, leaves, typeName, leafEqual_iff]
    exact eq_comm
  | int _, b => by
    cases b <;> simp [same, shape, leaves, typeName, leafEqual_iff]
    exact eq_comm
  | uint _, b => by
    cases b <;> simp [same, shape, leaves, typeName, leafEqual_iff]
    exact eq_comm
  | double _, b => by
    cases b <;> simp [same, shape, leaves, typeName, leafEqual_iff, Double.same_iff_equal]
  | string _, b => by
    cases b <;> simp [same, shape, leaves, typeName, leafEqual_iff]
    exact eq_comm
  | empty, b => by cases b <;> simp [same, shape, leaves, typeName, leafEqual_iff]

theorem sameItems_iff_leaves : ∀ as bs : List Value,
    sameItems as bs = true ↔
      shapeItems as = shapeItems bs ∧ List.Forall₂ LeafEqual (leavesItems as) (leavesItems bs)
  | [], bs => by cases bs <;> simp [sameItems, shapeItems, leavesItems]
  | a :: as, bs => by
    cases bs with
    | nil => simp [sameItems, shapeItems]
    | cons b bs =>
      simp only [sameItems, shapeItems, leavesItems, Bool.and_eq_true, same_iff_leaves a b,
        sameItems_iff_leaves as bs, List.cons.injEq, and_assoc, shape_and_leaves_append]

theorem sameFields_iff_leaves : ∀ as bs : List (String × Value),
    sameFields as bs = true ↔
      shapeFields as = shapeFields bs ∧ List.Forall₂ LeafEqual (leavesFields as) (leavesFields bs)
  | [], bs => by cases bs <;> simp [sameFields, shapeFields, leavesFields]
  | (k, a) :: as, bs => by
    cases bs with
    | nil => simp [sameFields, shapeFields]
    | cons b bs =>
      obtain ⟨l, b⟩ := b
      simp only [sameFields, shapeFields, leavesFields, Bool.and_eq_true, beq_iff_eq,
        same_iff_leaves a b, sameFields_iff_leaves as bs, List.cons.injEq, Prod.mk.injEq,
        and_assoc, shape_and_leaves_append]

end

end Value

end GoldenCapture
