import GoldenCapture.Proofs.Compare.FirstDifference
import GoldenCapture.Proofs.Value.Shape
import Mathlib.Data.Set.Card

/-!
# What two attribute maps have in common

The overlap of two maps is the number of keys that both have with the same value. Main statement:
sameness of values is an equivalence, said by shape and leaves, and so the overlap does not depend
on the side, and is full exactly if the comparison of the maps has nothing to report.
-/

namespace GoldenCapture

namespace Attributes

variable {a b : Attributes} {key : String} {v : Value}

/-! ## Fields and keys -/

theorem keys_nodup (a : Attributes) : a.keys.Nodup := a.keys_pairwise.imp ne_of_lt

theorem get?_eq_some_iff : a.get? key = some v ↔ (key, v) ∈ a.fields := by
  rw [get?, List.lookup_eq_some_iff]
  constructor
  · rintro ⟨before, after, hfields, -⟩
    rw [hfields]
    exact List.mem_append_right before List.mem_cons_self
  · intro hmem
    obtain ⟨before, after, hfields⟩ := List.append_of_mem hmem
    refine ⟨before, after, hfields, fun field hfield => ?_⟩
    -- No key stands twice, so no field before this one has its key.
    have hkeys := a.keys_nodup
    rw [keys, hfields, List.map_append, List.nodup_append] at hkeys
    have hne := hkeys.2.2 field.1 (List.mem_map_of_mem hfield) key (by simp)
    simpa using hne.symm

/-! ## The overlap -/

/-- The keys that both maps have with the same value. -/
def shared (a b : Attributes) : Set String :=
  {key | ∃ v w, a.get? key = some v ∧ b.get? key = some w ∧ v.same w = true}

theorem mem_shared_comm : key ∈ a.shared b ↔ key ∈ b.shared a := by
  have hsymm (v w : Value) : v.same w = true ↔ w.same v = true := by
    rw [Value.same_iff, Value.same_iff, eq_comm]
  constructor
  · rintro ⟨v, w, hv, hw, hsame⟩
    exact ⟨w, v, hw, hv, (hsymm v w).mp hsame⟩
  · rintro ⟨v, w, hv, hw, hsame⟩
    exact ⟨w, v, hw, hv, (hsymm v w).mp hsame⟩

theorem any_same_iff_mem_shared (h : a.get? key = some v) :
    (b.get? key).any (·.same v) = true ↔ key ∈ a.shared b := by
  rw [mem_shared_comm, Option.any_eq_true]
  constructor
  · rintro ⟨w, hw, hsame⟩
    exact ⟨w, v, hw, h, hsame⟩
  · rintro ⟨w, u, hw, hu, hsame⟩
    obtain rfl : u = v := Option.some.inj (hu.symm.trans h)
    exact ⟨w, hw, hsame⟩

theorem encard_shared (a b : Attributes) : (a.shared b).encard = attributeOverlap a b := by
  let common := a.fields.filter fun field => (b.get? field.1).any (·.same field.2)
  have hnodup : (common.map Prod.fst).Nodup :=
    a.keys_nodup.sublist (List.filter_sublist.map Prod.fst)
  have hset : a.shared b = (common.map Prod.fst).toFinset := by
    ext key
    rw [Finset.mem_coe, List.mem_toFinset, List.mem_map]
    constructor
    · intro hkey
      have ⟨v, _, hv, _⟩ := hkey
      refine ⟨(key, v), ?_, rfl⟩
      exact List.mem_filter.mpr ⟨get?_eq_some_iff.mp hv, (any_same_iff_mem_shared hv).mpr hkey⟩
    · rintro ⟨⟨k, v⟩, hfield, rfl⟩
      obtain ⟨hmem, hany⟩ := List.mem_filter.mp hfield
      exact (any_same_iff_mem_shared (get?_eq_some_iff.mpr hmem)).mp hany
  rw [hset, Set.encard_coe_eq_coe_finsetCard, List.toFinset_card_of_nodup hnodup, List.length_map]
  rfl

theorem overlap_comm (a b : Attributes) : attributeOverlap a b = attributeOverlap b a := by
  have hset : a.shared b = b.shared a := Set.ext fun _ => mem_shared_comm
  have hcard : (attributeOverlap a b : ℕ∞) = attributeOverlap b a := by
    rw [← encard_shared, ← encard_shared, hset]
  exact_mod_cast hcard

theorem overlap_le (a b : Attributes) : attributeOverlap a b ≤ a.fields.length :=
  List.length_filter_le _ _

theorem overlap_eq_length_iff :
    attributeOverlap a b = a.fields.length ↔ ∀ key, a.get? key ≠ none → key ∈ a.shared b := by
  rw [attributeOverlap, List.length_filter_eq_length_iff]
  constructor
  · intro h key hkey
    obtain ⟨v, hv⟩ := Option.ne_none_iff_exists'.mp hkey
    exact (any_same_iff_mem_shared hv).mp (h (key, v) (get?_eq_some_iff.mp hv))
  · rintro h ⟨key, v⟩ hfield
    have hv := get?_eq_some_iff.mpr hfield
    exact (any_same_iff_mem_shared hv).mpr (h key (by simp [hv]))

theorem overlap_full_iff_agree :
    attributeOverlap a b = a.fields.length ∧ attributeOverlap a b = b.fields.length ↔
      a.Agree b := by
  rw [overlap_eq_length_iff, overlap_comm, overlap_eq_length_iff]
  constructor
  · rintro ⟨ha, hb⟩ key
    by_cases hkey : a.get? key = none ∧ b.get? key = none
    · rw [hkey.1, hkey.2]
      exact .none
    · have hshared : key ∈ a.shared b := by
        rw [not_and_or] at hkey
        rcases hkey with hkey | hkey
        · exact ha key hkey
        · exact mem_shared_comm.mp (hb key hkey)
      obtain ⟨v, w, hv, hw, hsame⟩ := hshared
      rw [hv, hw]
      exact .some ((Value.same_iff v w).mp hsame)
  · intro h
    have hshared : ∀ key, a.get? key ≠ none ∨ b.get? key ≠ none → key ∈ a.shared b := by
      intro key hkey
      have hrel := h key
      cases hv : a.get? key <;> cases hw : b.get? key <;> rw [hv, hw] at hrel hkey
      · simp at hkey
      · cases hrel
      · cases hrel
      · rename_i v w
        cases hrel with
        | some hequal => exact ⟨v, w, hv, hw, (Value.same_iff v w).mpr hequal⟩
    exact ⟨fun key hkey => hshared key (.inl hkey),
      fun key hkey => mem_shared_comm.mp (hshared key (.inr hkey))⟩

end Attributes

/-- Sameness of values is an equivalence. Doubles are the same as numbers, no two numbers of
different types are, and values are exactly if they have one shape and equal leaves. The overlap of
two attribute maps is the number of keys with the same value on both sides. It is the same from
either side, at most the size of either, and the size of both exactly if there is no difference to
report. -/
theorem sameness_and_overlap {ι : Type} (place : String → ι) :
    Equivalence (fun v w : Value => v.same w = true) ∧
      (∀ x y : Double, (Value.double x).same (.double y) = true ↔ x.Equal y) ∧
      (Value.double .zero).same (.double Double.zero.neg) = true ∧
      (∀ (i : Int64) (u : UInt64) (x : Double), (Value.int i).same (.uint u) = false ∧
        (Value.int i).same (.double x) = false ∧ (Value.uint u).same (.double x) = false) ∧
      (∀ v w : Value, v.same w = true ↔
        v.shape = w.shape ∧ List.Forall₂ Value.LeafEqual v.leaves w.leaves) ∧
      ∀ a b : Attributes, (a.shared b).encard = attributeOverlap a b ∧
        attributeOverlap a b = attributeOverlap b a ∧
        attributeOverlap a b ≤ a.fields.length ∧ attributeOverlap a b ≤ b.fields.length ∧
        (attributeOverlap a b = a.fields.length ∧ attributeOverlap a b = b.fields.length ↔
          compareAttributes place a b = none) := by
  refine ⟨?_, ?_, by decide, fun _ _ _ => ⟨rfl, rfl, rfl⟩, Value.same_iff_leaves, fun a b => ?_⟩
  · simp only [Value.same_iff]
    exact Value.equal_equivalence
  · exact fun x y => Double.same_iff_equal x y
  · refine ⟨a.encard_shared b, a.overlap_comm b, a.overlap_le b, ?_, ?_⟩
    · rw [Attributes.overlap_comm]
      exact b.overlap_le a
    · rw [Attributes.overlap_full_iff_agree, compareAttributes_eq_none_iff]

end GoldenCapture
