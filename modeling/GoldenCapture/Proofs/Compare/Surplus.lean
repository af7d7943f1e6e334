import GoldenCapture.Proofs.Compare.Pairing

/-!
# What the pairing of equal items leaves

Of each class of equivalent items, the pairing takes as many as there are on both sides, by index
from the first on. So what it leaves on a side is said without the pairing: the items with more
equivalent items up to their own index than there are on the other side.
-/

namespace GoldenCapture

variable {ι α : Type}

section

variable (r : α → α → Prop) [DecidableRel r]

/-- Whether, up to and including index `i`, there are more items equivalent to the one at `i` than
there are in `ys`. -/
def Surplus (xs ys : List α) (i : Nat) : Prop :=
  ∃ x, xs[i]? = some x ∧ ys.countP (r · x) < (xs.take (i + 1)).countP (r · x)

/-- Equivalent items that have the same number of their class up to them, each in its list. -/
def Twins (xs ys : List α) (i j : Nat) : Prop :=
  ∃ x y, xs[i]? = some x ∧ ys[j]? = some y ∧ r x y ∧
    (xs.take (i + 1)).countP (r · x) = (ys.take (j + 1)).countP (r · y)

/-- A budget of items for each class, with one item less for the class of `x`. -/
def spend (budget : α → Nat) (x y : α) : Nat := if r x y then budget y - 1 else budget y

/-- A budget with one item more for the class of `e`. -/
def grant (budget : α → Nat) (e y : α) : Nat := budget y + if r e y then 1 else 0

/-- The items, by index, that are left once each class has used up its budget. -/
def spare (budget : α → Nat) (i : Nat) : List α → List (Nat × α)
  | [] => []
  | x :: xs =>
    if budget x = 0 then (i, x) :: spare budget (i + 1) xs
    else spare (spend r budget x) (i + 1) xs

end

variable {r : α → α → Prop} [DecidableRel r] {budget : α → Nat} {i : Nat}

/-! ## Classes -/

theorem rel_congr_left {r : α → α → Prop} (hr : Equivalence r) {x y z : α} (h : r x y) :
    r x z ↔ r y z :=
  ⟨hr.trans (hr.symm h), hr.trans h⟩

theorem rel_congr_right {r : α → α → Prop} (hr : Equivalence r) {x y z : α} (h : r x y) :
    r z x ↔ r z y :=
  ⟨(hr.trans · h), (hr.trans · (hr.symm h))⟩

theorem countP_class (hr : Equivalence r) {x y : α} (h : r x y) (xs : List α) :
    xs.countP (r · x) = xs.countP (r · y) := by
  simp only [rel_congr_right hr h]

theorem countP_take_pos (hr : Equivalence r) {xs : List α} {x : α} {k : Nat}
    (hx : xs[k]? = some x) : 0 < (xs.take (k + 1)).countP (r · x) :=
  List.countP_pos_iff.mpr ⟨x, List.mem_of_getElem? (i := k) (by simpa using hx),
    by simpa using hr.refl x⟩

/-! ## Twins -/

theorem exists_rank {xs : List α} {x : α} {n : Nat} (hpos : 0 < n)
    (hn : n ≤ xs.countP (r · x)) :
    ∃ i y, xs[i]? = some y ∧ r y x ∧ (xs.take (i + 1)).countP (r · x) = n := by
  induction xs generalizing n with
  | nil => simp at hn; omega
  | cons y xs ih =>
    by_cases hy : r y x
    · by_cases hone : n = 1
      · exact ⟨0, y, rfl, hy, by simp [hy, hone]⟩
      · have hn : n - 1 ≤ xs.countP (r · x) := by simp [hy] at hn; omega
        obtain ⟨i, z, hz, hzx, hrank⟩ := ih (show 0 < n - 1 by omega) hn
        exact ⟨i + 1, z, hz, hzx, by simp [hy, hrank]; omega⟩
    · obtain ⟨i, z, hz, hzx, hrank⟩ := ih hpos (by simpa [hy] using hn)
      exact ⟨i + 1, z, hz, hzx, by simp [hy, hrank]⟩

theorem surplus_iff_forall_not_twins (hr : Equivalence r) {xs ys : List α} {x : α}
    (hx : xs[i]? = some x) : Surplus r xs ys i ↔ ∀ j, ¬ Twins r xs ys i j := by
  constructor
  · rintro ⟨x', hx', hlt⟩ j ⟨x'', y, hx'', hy, hxy, hrank⟩
    obtain rfl := Option.some.inj (hx.symm.trans hx')
    obtain rfl := Option.some.inj (hx.symm.trans hx'')
    have hle : (ys.take (j + 1)).countP (r · y) ≤ ys.countP (r · y) :=
      (List.take_sublist _ _).countP_le
    rw [countP_class hr hxy ys] at hlt
    omega
  · intro h
    refine ⟨x, hx, not_le.mp fun hle => ?_⟩
    obtain ⟨j, y, hy, hyx, hrank⟩ := exists_rank (countP_take_pos hr hx) hle
    exact h j ⟨x, y, hx, hy, hr.symm hyx, by rw [countP_class hr hyx, hrank]⟩

/-! ## Budgets -/

theorem spend_class (hr : Equivalence r) (hbudget : ∀ u v, r u v → budget u = budget v) {x u v : α}
    (h : r u v) : spend r budget x u = spend r budget x v := by
  simp only [spend, rel_congr_right hr h, hbudget u v h]

theorem spend_grant (hr : Equivalence r) {x e : α} (h : r x e) :
    spend r (grant r budget e) x = budget := by
  funext y
  by_cases hy : r e y <;> simp [spend, grant, rel_congr_left hr h, hy]

theorem spend_grant_comm (hr : Equivalence r) {x e : α} (h : ¬ r x e) :
    spend r (grant r budget e) x = grant r (spend r budget x) e := by
  funext y
  by_cases hy : r x y
  · have hey : ¬ r e y := fun hey => h (hr.trans hy (hr.symm hey))
    simp [spend, grant, hy, hey]
  · simp [spend, grant, hy]

theorem spend_countP (hr : Equivalence r) {a e : α} (h : r a e) (pre post : List α) :
    spend r (fun y => (pre ++ a :: post).countP (r · y)) e =
      fun y => (pre ++ post).countP (r · y) := by
  funext y
  by_cases hy : r e y <;> simp [spend, rel_congr_left hr h, hy, ← Nat.add_assoc]

/-! ## Spare items -/

theorem le_of_mem_spare {xs : List α} {x : Nat × α} (h : x ∈ spare r budget i xs) : i ≤ x.1 := by
  induction xs generalizing budget i with
  | nil => simp [spare] at h
  | cons y xs ih =>
    rw [spare] at h
    split at h
    · rcases List.mem_cons.mp h with rfl | h
      · exact le_rfl
      · exact Nat.le_of_succ_le (ih h)
    · exact Nat.le_of_succ_le (ih h)

theorem spare_pairwise (r : α → α → Prop) [DecidableRel r] (budget : α → Nat) (i : Nat)
    (xs : List α) : (spare r budget i xs).Pairwise (·.1 < ·.1) := by
  induction xs generalizing budget i with
  | nil => exact .nil
  | cons y xs ih =>
    rw [spare]
    split
    · exact List.pairwise_cons.mpr ⟨fun x hx => le_of_mem_spare hx, ih _ _⟩
    · exact ih _ _

theorem mem_spare (hr : Equivalence r) (hbudget : ∀ x y, r x y → budget x = budget y)
    {xs : List α} {j : Nat} {x : α} :
    (j, x) ∈ spare r budget i xs ↔
      ∃ k, j = i + k ∧ xs[k]? = some x ∧ budget x < (xs.take (k + 1)).countP (r · x) := by
  induction xs generalizing budget i with
  | nil => simp [spare]
  | cons y xs ih =>
    have hpos : ∀ k, xs[k]? = some x → 0 < (xs.take (k + 1)).countP (r · x) :=
      fun _ => countP_take_pos hr
    -- The first item has rank one; each other one moves up by one if it is of the same class.
    rw [← Nat.or_exists_add_one, spare]
    simp only [List.getElem?_cons_zero, List.getElem?_cons_succ, List.take_succ_cons,
      List.countP_cons, List.take_zero, List.countP_nil]
    split
    · rename_i hzero
      rw [List.mem_cons, ih hbudget]
      refine or_congr ?_ (exists_congr fun k => ?_)
      · constructor
        · rintro ⟨rfl, rfl⟩
          simp [hzero, hr.refl]
        · rintro ⟨rfl, hx, -⟩
          simp_all
      · by_cases hyx : r y x
        · have := hbudget y x hyx
          grind
        · grind
    · rename_i hzero
      rw [ih fun u v => spend_class hr hbudget, or_iff_right]
      · refine exists_congr fun k => ?_
        by_cases hyx : r y x
        · have := hbudget y x hyx
          grind [spend]
        · grind [spend]
      · rintro ⟨-, hx, hlt⟩
        simp_all [hr.refl]

theorem mem_spare_countP (hr : Equivalence r) {xs ys : List α} {j : Nat} {x : α} :
    (j, x) ∈ spare r (fun y => ys.countP (r · y)) 0 xs ↔ xs[j]? = some x ∧ Surplus r xs ys j := by
  rw [mem_spare hr fun u v huv => countP_class hr huv ys]
  simp only [Nat.zero_add, exists_eq_left', Surplus]
  exact ⟨fun h => ⟨h.1, x, h⟩, fun ⟨hx, y, hy, hlt⟩ => ⟨hx, by simp_all⟩⟩

/-! ## Both sides of the pairing -/

theorem map_snd_spare (budget : α → Nat) (i j : Nat) (xs : List α) :
    (spare r budget i xs).map Prod.snd = (spare r budget j xs).map Prod.snd := by
  induction xs generalizing budget i j with
  | nil => rfl
  | cons x xs ih =>
    simp only [spare]
    split
    · simp only [List.map_cons, ih budget (i + 1) (j + 1)]
    · exact ih _ _ _

theorem map_snd_spare_zero (r : α → α → Prop) [DecidableRel r] (i : Nat) (xs : List α) :
    (spare r (fun _ => 0) i xs).map Prod.snd = xs := by
  induction xs generalizing i with
  | nil => rfl
  | cons x xs ih => simp [spare, ih]

theorem map_snd_spare_grant (hr : Equivalence r) (budget : α → Nat) (e : α) (i : Nat)
    (xs : List α) :
    (spare r (grant r budget e) i xs).map Prod.snd =
      (spare r budget i ((takeFirst? (fun a => r a e) xs).getD xs)).map Prod.snd := by
  induction xs generalizing budget i with
  | nil => rfl
  | cons x xs ih =>
    by_cases hx : r x e
    · have hgranted : grant r budget e x ≠ 0 := by simp [grant, hr.symm hx]
      simp only [spare, hgranted, if_false, spend_grant hr hx, takeFirst?, hx, decide_true,
        if_true, Option.getD_some]
      exact map_snd_spare _ _ _ _
    · have hrest : (takeFirst? (fun a => r a e) (x :: xs)).getD (x :: xs) =
          x :: (takeFirst? (fun a => r a e) xs).getD xs := by
        rw [takeFirst?]
        cases takeFirst? (fun a => decide (r a e)) xs <;> simp [hx]
      have hgranted : grant r budget e x = budget x := by
        simp [grant, show ¬ r e x from fun h => hx (hr.symm h)]
      rw [hrest]
      simp only [spare, hgranted, spend_grant_comm hr hx]
      split
      · simp only [List.map_cons, ih]
      · exact ih _ _

section

variable {compare : α → α → Option (Mismatch ι)} {actual expected : List α}

theorem pairEqual_left (hr : Equivalence r) (hcompare : ∀ a e, compare a e = none ↔ r a e) :
    (pairEqual compare i actual expected).1 =
      spare r (fun y => actual.countP (r · y)) i expected := by
  induction expected generalizing i actual with
  | nil => rfl
  | cons e expected ih =>
    simp only [pairEqual, spare]
    split
    · rename_i rest hrest
      obtain ⟨pre, a, post, rfl, rfl, ha⟩ := of_takeFirst?_eq_some hrest
      have hae : r a e := (hcompare a e).mp (by simpa using ha)
      rw [ih, spend_countP hr hae, if_neg]
      simp [hae]
    · rename_i hnone
      have hzero : actual.countP (r · e) = 0 := by
        refine List.countP_eq_zero.mpr fun a ha => ?_
        have := takeFirst?_eq_none.mp hnone a ha
        simpa [← hcompare, ← Option.isSome_iff_ne_none] using this
      rw [if_pos hzero, ih]

theorem pairEqual_unused (hr : Equivalence r) (hcompare : ∀ a e, compare a e = none ↔ r a e) :
    (pairEqual compare i actual expected).2 =
      (spare r (fun y => expected.countP (r · y)) 0 actual).map Prod.snd := by
  induction expected generalizing i actual with
  | nil => simp [pairEqual, map_snd_spare_zero]
  | cons e expected ih =>
    have hpass : (fun a => (compare a e).isNone) = fun a => decide (r a e) := by
      funext a
      rw [Bool.eq_iff_iff]
      simp [hcompare]
    have hrest : (pairEqual compare i actual (e :: expected)).2 =
        (pairEqual compare (i + 1) ((takeFirst? (fun a => r a e) actual).getD actual)
          expected).2 := by
      rw [pairEqual, hpass]
      cases takeFirst? (fun a => decide (r a e)) actual <;> rfl
    have hcount : (fun y => (e :: expected).countP (r · y)) =
        grant r (fun y => expected.countP (r · y)) e := by
      funext y
      simp [grant, List.countP_cons]
    rw [hrest, ih, hcount, map_snd_spare_grant hr]

theorem pairEqual_length (compare : α → α → Option (Mismatch ι)) (i : Nat)
    (actual expected : List α) :
    (pairEqual compare i actual expected).1.length + actual.length =
      (pairEqual compare i actual expected).2.length + expected.length := by
  induction expected generalizing i actual with
  | nil => simp [pairEqual]
  | cons e expected ih =>
    simp only [pairEqual]
    split
    · rename_i rest hrest
      obtain ⟨pre, a, post, rfl, rfl, -⟩ := of_takeFirst?_eq_some hrest
      have := ih (i + 1) (pre ++ post)
      simp only [List.length_append, List.length_cons] at this ⊢
      omega
    · have := ih (i + 1) actual
      simp only [List.length_cons]
      omega

end

end GoldenCapture
