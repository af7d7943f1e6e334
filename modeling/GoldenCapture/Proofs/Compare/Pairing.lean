import GoldenCapture.Compare
import Mathlib.Data.List.FinRange
import Mathlib.Data.List.Forall2
import Mathlib.Logic.Equiv.Fin.Basic

/-!
# Pairing

Lists compared without regard to order are paired greedily: each expected item takes the first
equal actual item that is left. For an equivalence this finds a pairing of all items whenever
there is one, and the comparison of what is left then has nothing to report.
-/

namespace GoldenCapture

variable {ι α β : Type}

/-! ## Pairings of two lists -/

/-- The items of one list stand one to one for related items of the other. -/
def Paired (r : α → β → Prop) (as : List α) (bs : List β) : Prop :=
  ∃ σ : Fin as.length ≃ Fin bs.length, ∀ i, r as[i] bs[σ i]

namespace Paired

theorem length_eq {r : α → β → Prop} {as : List α} {bs : List β} (h : Paired r as bs) :
    as.length = bs.length := by
  obtain ⟨σ, -⟩ := h
  exact Fin.equiv_iff_eq.mp ⟨σ⟩

theorem refl {r : α → α → Prop} (hr : Equivalence r) (as : List α) : Paired r as as :=
  ⟨Equiv.refl _, fun i => hr.refl as[i]⟩

theorem symm {r : α → α → Prop} (hr : Equivalence r) {as bs : List α} (h : Paired r as bs) :
    Paired r bs as := by
  obtain ⟨σ, hσ⟩ := h
  refine ⟨σ.symm, fun j => hr.symm ?_⟩
  simpa using hσ (σ.symm j)

theorem trans {r : α → α → Prop} (hr : Equivalence r) {as bs cs : List α}
    (h : Paired r as bs) (h' : Paired r bs cs) : Paired r as cs := by
  obtain ⟨σ, hσ⟩ := h
  obtain ⟨τ, hτ⟩ := h'
  exact ⟨σ.trans τ, fun i => hr.trans (hσ i) (hτ (σ i))⟩

end Paired

theorem exists_equiv_of_perm {as bs : List α} (h : as.Perm bs) :
    ∃ σ : Fin as.length ≃ Fin bs.length, ∀ i, as[i] = bs[σ i] := by
  induction h with
  | nil => exact ⟨Equiv.refl _, fun i => i.elim0⟩
  | cons x _ ih =>
    obtain ⟨σ, hσ⟩ := ih
    refine ⟨(finSuccEquiv _).trans (σ.optionCongr.trans (finSuccEquiv _).symm), fun i => ?_⟩
    cases i using Fin.cases with
    | zero => simp
    | succ i => simpa using hσ i
  | swap x y l =>
    refine ⟨Equiv.swap ⟨0, by simp⟩ ⟨1, by simp⟩, fun i => ?_⟩
    obtain ⟨i, hi⟩ := i
    match i, hi with
    | 0, _ => simp
    | 1, _ => simp
    | i + 2, hi => simp [Equiv.swap_apply_def, Fin.ext_iff]
  | trans _ _ ih₁ ih₂ =>
    obtain ⟨σ, hσ⟩ := ih₁
    obtain ⟨τ, hτ⟩ := ih₂
    exact ⟨σ.trans τ, fun i => (hσ i).trans (hτ (σ i))⟩

theorem ofFn_comp_equiv_perm {n m : Nat} (σ : Fin m ≃ Fin n) (f : Fin n → α) :
    (List.ofFn (f ∘ σ)).Perm (List.ofFn f) := by
  obtain rfl := Fin.equiv_iff_eq.mp ⟨σ⟩
  exact Equiv.Perm.ofFn_comp_perm σ f

theorem paired_iff_perm {r : α → β → Prop} {as : List α} {bs : List β} :
    Paired r as bs ↔ ∃ cs, as.Perm cs ∧ List.Forall₂ r cs bs := by
  constructor
  · rintro ⟨σ, hσ⟩
    refine ⟨List.ofFn (as.get ∘ σ.symm), ?_, ?_⟩
    · simpa using (ofFn_comp_equiv_perm σ.symm as.get).symm
    · refine List.forall₂_iff_get.mpr ⟨by simp, fun i h₁ h₂ => ?_⟩
      simpa using hσ (σ.symm ⟨i, h₂⟩)
  · rintro ⟨cs, hperm, hcs⟩
    obtain ⟨σ, hσ⟩ := exists_equiv_of_perm hperm
    obtain ⟨hlen, hget⟩ := List.forall₂_iff_get.mp hcs
    refine ⟨σ.trans (finCongr hlen), fun i => ?_⟩
    rw [hσ i]
    exact hget (σ i) (σ i).isLt (hlen ▸ (σ i).isLt)

theorem Paired.exists_of_mem {r : α → β → Prop} {as : List α} {bs : List β} (h : Paired r as bs)
    {b : β} (hb : b ∈ bs) : ∃ a ∈ as, r a b := by
  obtain ⟨σ, hσ⟩ := h
  obtain ⟨j, hj, rfl⟩ := List.mem_iff_getElem.mp hb
  refine ⟨as[σ.symm ⟨j, hj⟩], List.getElem_mem _, ?_⟩
  simpa using hσ (σ.symm ⟨j, hj⟩)

theorem paired_nil_right {r : α → β → Prop} {as : List α} : Paired r as [] ↔ as = [] := by
  constructor
  · intro h
    exact List.eq_nil_of_length_eq_zero h.length_eq
  · rintro rfl
    exact ⟨Equiv.refl _, fun i => i.elim0⟩

theorem Paired.cons {r : α → β → Prop} {pre post : List α} {a : α} {b : β} {bs : List β}
    (hab : r a b) (h : Paired r (pre ++ post) bs) : Paired r (pre ++ a :: post) (b :: bs) := by
  obtain ⟨cs, hperm, hcs⟩ := paired_iff_perm.mp h
  exact paired_iff_perm.mpr ⟨a :: cs, List.perm_middle.trans (hperm.cons a), .cons hab hcs⟩

theorem Paired.of_perm {r : α → α → Prop} (hr : Equivalence r) {as bs : List α}
    (h : as.Perm bs) : Paired r as bs := by
  obtain ⟨σ, hσ⟩ := exists_equiv_of_perm h
  refine ⟨σ, fun i => ?_⟩
  rw [hσ i]
  exact hr.refl _

theorem Paired.of_cons {r : α → α → Prop} (hr : Equivalence r) {pre post : List α} {a b : α}
    {bs : List α} (h : Paired r (pre ++ a :: post) (b :: bs)) (hab : r a b) :
    Paired r (pre ++ post) bs := by
  obtain ⟨cs, hperm, hcs⟩ := paired_iff_perm.mp h
  cases hcs with
  | @cons c _ cs _ hcb hcs =>
    have hperm : (a :: (pre ++ post)).Perm (c :: cs) := List.perm_middle.symm.trans hperm
    rcases List.mem_cons.mp (hperm.mem_iff.mp List.mem_cons_self) with rfl | ha
    · exact paired_iff_perm.mpr ⟨cs, hperm.cons_inv, hcs⟩
    · -- `a` stood for another item than `b`; now `c`, which stood for `b`, stands for that one.
      obtain ⟨u, v, rfl⟩ := List.append_of_mem ha
      have hca : r c a := hr.trans hcb (hr.symm hab)
      have hswap : (a :: (pre ++ post)).Perm (a :: (u ++ c :: v)) :=
        hperm.trans ((List.perm_middle.cons c).trans
          ((List.Perm.swap a c (u ++ v)).trans (List.perm_middle.symm.cons a)))
      have hrest : Paired r (pre ++ post) (u ++ c :: v) := .of_perm hr hswap.cons_inv
      have hstand : Paired r (u ++ c :: v) (a :: (u ++ v)) := (Paired.refl hr (u ++ v)).cons hca
      have hback : Paired r (a :: (u ++ v)) (u ++ a :: v) := .of_perm hr List.perm_middle.symm
      have hbs : Paired r (u ++ a :: v) bs := paired_iff_perm.mpr ⟨_, .refl _, hcs⟩
      exact ((hrest.trans hr hstand).trans hr hback).trans hr hbs

/-! ## Pairing equal items -/

theorem takeFirst?_eq_none {pass : α → Bool} {as : List α} :
    takeFirst? pass as = none ↔ ∀ a ∈ as, pass a = false := by
  induction as with
  | nil => simp [takeFirst?]
  | cons a as ih => by_cases h : pass a <;> simp [takeFirst?, h, ih]

theorem of_takeFirst?_eq_some {pass : α → Bool} {as rest : List α}
    (h : takeFirst? pass as = some rest) :
    ∃ pre a post, as = pre ++ a :: post ∧ rest = pre ++ post ∧ pass a = true := by
  induction as generalizing rest with
  | nil => simp [takeFirst?] at h
  | cons x as ih =>
    by_cases hx : pass x = true
    · simp only [takeFirst?, hx, if_true, Option.some.injEq] at h
      exact ⟨[], x, as, rfl, h.symm, hx⟩
    · simp only [takeFirst?, hx, if_false, Option.map_eq_some_iff, Bool.false_eq_true] at h
      obtain ⟨rest, hrest, rfl⟩ := h
      obtain ⟨pre, a, post, rfl, rfl, ha⟩ := ih hrest
      exact ⟨x :: pre, a, post, rfl, rfl, ha⟩

section

variable {compare : α → α → Option (Mismatch ι)} {i : Nat} {actual expected : List α}

theorem mem_of_mem_unused {a : α} (h : a ∈ (pairEqual compare i actual expected).2) :
    a ∈ actual := by
  induction expected generalizing i actual with
  | nil => simpa [pairEqual] using h
  | cons e expected ih =>
    simp only [pairEqual] at h
    split at h
    · rename_i rest hrest
      obtain ⟨pre, x, post, rfl, rfl, -⟩ := of_takeFirst?_eq_some hrest
      have := ih h
      simp only [List.mem_append, List.mem_cons] at this ⊢
      tauto
    · exact ih h

theorem ne_none_of_left {x : Nat × α} {a : α}
    (hx : x ∈ (pairEqual compare i actual expected).1)
    (ha : a ∈ (pairEqual compare i actual expected).2) : compare a x.2 ≠ none := by
  induction expected generalizing i actual with
  | nil => simp [pairEqual] at hx
  | cons e expected ih =>
    simp only [pairEqual] at hx ha
    split at hx
    · rename_i rest hrest
      rw [hrest] at ha
      exact ih hx ha
    · rename_i hnone
      rw [hnone] at ha
      rcases List.mem_cons.mp hx with rfl | hx
      · have := takeFirst?_eq_none.mp hnone a (mem_of_mem_unused ha)
        simpa [Option.ne_none_iff_isSome] using this
      · exact ih hx ha

/-- Everything on the expected side finds an equal item exactly if the lists can be paired. -/
theorem left_eq_nil_iff {r : α → α → Prop} (hr : Equivalence r)
    (hcompare : ∀ a e, compare a e = none ↔ r a e) (hlen : actual.length = expected.length) :
    (pairEqual compare i actual expected).1 = [] ↔ Paired r actual expected := by
  induction expected generalizing i actual with
  | nil => simpa [pairEqual, paired_nil_right] using hlen
  | cons e expected ih =>
    simp only [pairEqual]
    split
    · rename_i rest hrest
      obtain ⟨pre, a, post, rfl, rfl, ha⟩ := of_takeFirst?_eq_some hrest
      have ha : r a e := (hcompare a e).mp (by simpa using ha)
      have hlen : (pre ++ post).length = expected.length := by simpa [← Nat.add_assoc] using hlen
      rw [ih hlen]
      exact ⟨fun h => h.cons ha, fun h => h.of_cons hr ha⟩
    · rename_i hnone
      simp only [reduceCtorEq, false_iff]
      intro h
      obtain ⟨a, ha, hae⟩ := h.exists_of_mem List.mem_cons_self
      have := takeFirst?_eq_none.mp hnone a ha
      simp [(hcompare a e).mpr hae] at this

end

/-! ## Comparing what is left -/

theorem mem_of_takeBest? {score : α → Nat} {as others : List α} {best : α}
    (h : takeBest? score as = some (best, others)) : best ∈ as := by
  induction as generalizing best others with
  | nil => simp [takeBest?] at h
  | cons a as ih =>
    simp only [takeBest?] at h
    split at h
    · simp only [Option.some.injEq, Prod.mk.injEq] at h
      simp [h.1]
    · rename_i b bs hb
      split at h
      · simp only [Option.some.injEq, Prod.mk.injEq] at h
        rw [← h.1]
        exact List.mem_cons_of_mem _ (ih hb)
      · simp only [Option.some.injEq, Prod.mk.injEq] at h
        simp [h.1]

theorem compareLeft_eq_none_iff {compare : α → α → Option (Mismatch ι)} {likeness : α → α → Nat}
    {left : List (Nat × α)} {unused : List α}
    (h : ∀ x ∈ left, ∀ a ∈ unused, compare a x.2 ≠ none) :
    compareLeft compare likeness left unused = none ↔ left = [] := by
  cases left with
  | nil => simp [compareLeft]
  | cons x left =>
    obtain ⟨i, e⟩ := x
    simp only [compareLeft, reduceCtorEq, iff_false]
    split
    · simp
    · rename_i a rest hbest
      have := h (i, e) List.mem_cons_self a (mem_of_takeBest? hbest)
      split
      · simp
      · contradiction

/-! ## Lists -/

/-- When two lists of one level count as equal: item by item, or as far as order is ignored under
some pairing of all their items. -/
def ListsAgree (unordered : Bool) (agree : α → α → Prop) (as bs : List α) : Prop :=
  as.length = bs.length ∧
    if unordered then Paired agree as bs
    else ∀ i (ha : i < as.length) (hb : i < bs.length), agree as[i] bs[i]

theorem ListsAgree.equivalence {agree : α → α → Prop} (h : Equivalence agree) (unordered : Bool) :
    Equivalence (ListsAgree unordered agree) := by
  cases unordered with
  | true =>
    constructor
    · exact fun as => ⟨rfl, .refl h as⟩
    · exact fun hab => ⟨hab.1.symm, hab.2.symm h⟩
    · exact fun hab hbc => ⟨hab.1.trans hbc.1, hab.2.trans h hbc.2⟩
  | false =>
    constructor
    · exact fun as => ⟨rfl, fun i _ _ => h.refl as[i]⟩
    · exact fun hab => ⟨hab.1.symm, fun i hb ha => h.symm (hab.2 i ha hb)⟩
    · intro as bs cs hab hbc
      exact ⟨hab.1.trans hbc.1, fun i ha hc => h.trans (hab.2 i ha (hab.1 ▸ ha)) (hbc.2 i _ hc)⟩

theorem comparePositions_eq_none_iff {compare : α → α → Option (Mismatch ι)}
    {agree : α → α → Prop} (hcompare : ∀ a e, compare a e = none ↔ agree a e) {i : Nat}
    {actual expected : List α} :
    comparePositions compare i actual expected = none ↔
      ∀ j (ha : j < actual.length) (he : j < expected.length), agree actual[j] expected[j] := by
  induction actual generalizing i expected with
  | nil => simp [comparePositions]
  | cons a actual ih =>
    cases expected with
    | nil => simp [comparePositions]
    | cons e expected =>
      simp only [comparePositions]
      split
      · rename_i m hm
        simp only [reduceCtorEq, false_iff]
        intro h
        have := (hcompare a e).mpr (h 0 (by simp) (by simp))
        simp [hm] at this
      · rename_i hnone
        rw [ih]
        constructor
        · intro h j ha he
          cases j with
          | zero => exact (hcompare a e).mp hnone
          | succ j => exact h j (by simpa using ha) (by simpa using he)
        · exact fun h j ha he => h (j + 1) (by simpa using ha) (by simpa using he)

theorem compareList_eq_none_iff {compare : α → α → Option (Mismatch ι)} {agree : α → α → Prop}
    (hagree : Equivalence agree) (hcompare : ∀ a e, compare a e = none ↔ agree a e)
    (unordered : Bool) (likeness : α → α → Nat) (actual expected : List α) :
    compareList unordered compare likeness actual expected = none ↔
      ListsAgree unordered agree actual expected := by
  by_cases hlen : actual.length = expected.length
  · cases unordered with
    | true =>
      simp only [compareList, ListsAgree, hlen, ne_eq, not_true_eq_false, if_false, if_true,
        true_and]
      rw [compareLeft_eq_none_iff fun x hx a ha => ne_none_of_left hx ha,
        left_eq_nil_iff hagree hcompare hlen]
    | false =>
      simp [compareList, ListsAgree, hlen, comparePositions_eq_none_iff hcompare]
  · simp [compareList, ListsAgree, hlen]

end GoldenCapture
