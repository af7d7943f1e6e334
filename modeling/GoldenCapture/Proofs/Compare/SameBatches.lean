import GoldenCapture.Proofs.Compare.Agreement

/-!
# Comparison of batches that are the same

Two batches that are the same up to the sign of a zero and the bits of a NaN are equal for every
rule set: whatever the rules take off, change or cut, they do alike on both sides.
-/

namespace GoldenCapture

/-! ## Item by item -/

theorem sameList_iff {α : Type} {same : α → α → Bool} {as bs : List α} :
    sameList same as bs = true ↔ List.Forall₂ (fun a b => same a b = true) as bs := by
  induction as generalizing bs with
  | nil => cases bs <;> simp [sameList]
  | cons a as ih => cases bs <;> simp [sameList, ih]

theorem ListsAgree.of_forall₂ {α : Type} {agree : α → α → Prop} {as bs : List α}
    (h : List.Forall₂ agree as bs) (unordered : Bool) : ListsAgree unordered agree as bs := by
  refine ⟨h.length_eq, ?_⟩
  cases unordered with
  | true => exact paired_iff_perm.mpr ⟨as, .refl as, h⟩
  | false => exact fun i ha hb => h.get ha hb

theorem ListsAgree.of_sameList {α : Type} {same : α → α → Bool} {agree : α → α → Prop}
    {f : α → α} {as bs : List α} (h : sameList same as bs = true)
    (hf : ∀ a b, same a b = true → agree (f a) (f b)) (unordered : Bool) :
    ListsAgree unordered agree (as.map f) (bs.map f) := by
  apply ListsAgree.of_forall₂
  rw [List.forall₂_map_left_iff, List.forall₂_map_right_iff]
  exact (sameList_iff.mp h).imp hf

/-! ## Values and attributes -/

def FieldsEqual (x y : String × Value) : Prop := x.1 = y.1 ∧ x.2.Equal y.2

theorem forall₂_of_sameFields {as bs : List (String × Value)}
    (h : Value.sameFields as bs = true) : List.Forall₂ FieldsEqual as bs := by
  induction as generalizing bs with
  | nil =>
    cases bs with
    | nil => exact .nil
    | cons b bs => simp [Value.sameFields] at h
  | cons a as ih =>
    cases bs with
    | nil => simp [Value.sameFields] at h
    | cons b bs =>
      simp only [Value.sameFields, Bool.and_eq_true, beq_iff_eq, Value.same_iff] at h
      obtain ⟨⟨hkey, hvalue⟩, hrest⟩ := h
      exact .cons ⟨hkey, hvalue⟩ (ih hrest)

theorem lookup_of_fieldsEqual {as bs : List (String × Value)}
    (h : List.Forall₂ FieldsEqual as bs) (key : String) :
    Option.Rel Value.Equal (as.lookup key) (bs.lookup key) := by
  induction h with
  | nil => exact .none
  | @cons x y as bs hxy _ ih =>
    obtain ⟨hkey, hvalue⟩ := hxy
    rw [List.lookup_cons, List.lookup_cons, hkey]
    split
    · exact .some hvalue
    · exact ih

theorem Value.eq_string_of_equal {v : Value} {s : String} (h : v.Equal (.string s)) :
    v = .string s := by
  cases v <;> simp_all [Equal, canonical]

namespace Rules

variable (rules : Rules)

theorem normalValue_equal {v w : Value} (h : v.Equal w) (level : Level) (key : String) :
    (rules.normalValue level key v).Equal (rules.normalValue level key w) := by
  unfold normalValue
  by_cases hignored : rules.ignoresValue key level = true
  · rw [if_pos hignored, if_pos hignored]
    exact Value.equal_equivalence.refl .empty
  · rw [if_neg hignored, if_neg hignored]
    split
    · rename_i s
      rw [Value.eq_string_of_equal (Value.equal_equivalence.symm h)]
      exact Value.equal_equivalence.refl _
    · rename_i hstring
      split
      · rename_i s
        exact absurd (Value.eq_string_of_equal h) (hstring s)
      · exact h

theorem normalAttributes_agree {a b : Attributes} (h : a.same b = true) (level : Level) :
    (rules.normalAttributes level a).Agree (rules.normalAttributes level b) := by
  have hfields := forall₂_of_sameFields h
  have hkept : List.Forall₂ FieldsEqual
      (a.fields.filter fun field => !rules.strips field.1)
      (b.fields.filter fun field => !rules.strips field.1) := by
    refine List.rel_filter (fun x y hxy => ?_) hfields
    obtain ⟨hkey, -⟩ := hxy
    simp [hkey]
  intro key
  apply lookup_of_fieldsEqual
  show List.Forall₂ FieldsEqual (List.map _ _) (List.map _ _)
  rw [List.forall₂_map_left_iff, List.forall₂_map_right_iff]
  refine hkept.imp fun x y hxy => ⟨hxy.1, ?_⟩
  rw [hxy.1]
  exact rules.normalValue_equal hxy.2 level y.1

/-! ## The tree -/

theorem normalPoint_agree {p q : Point} (h : p.same q = true) :
    (rules.normalPoint p).Agree (rules.normalPoint q) := by
  simp only [Point.same, Bool.and_eq_true, beq_iff_eq] at h
  obtain ⟨⟨⟨hvalue, hstart⟩, htime⟩, hattributes⟩ := h
  refine ⟨?_, ?_, ?_, rules.normalAttributes_agree hattributes .point⟩
  · show Value.Equal (if _ then _ else _) (if _ then _ else _)
    split
    · exact Value.equal_equivalence.refl .empty
    · exact (Value.same_iff p.value q.value).mp hvalue
  · simp [normalPoint, hstart]
  · simp [normalPoint, htime]

theorem normalEntry_agree {e f : Entry} (h : e.same f = true) :
    rules.EntriesAgree (rules.normalEntry e) (rules.normalEntry f) := by
  simp only [Entry.same, Bool.and_eq_true, beq_iff_eq] at h
  obtain ⟨⟨⟨⟨hname, hkind⟩, hunit⟩, hattributes⟩, hpoints⟩ := h
  refine ⟨hname, hkind, hunit, rules.normalAttributes_agree hattributes .entry, ?_⟩
  -- both sides are cut to the same number of points
  have hcounted : sameList Point.same (rules.countedPoints e) (rules.countedPoints f) = true := by
    unfold countedPoints
    rw [hname]
    split
    · exact sameList_iff.mpr (List.forall₂_take 1 (sameList_iff.mp hpoints))
    · exact hpoints
  exact .of_sameList hcounted (fun p q => rules.normalPoint_agree) _

theorem normalScope_agree {s t : Scope} (h : s.same t = true) :
    rules.ScopesAgree (rules.normalScope s) (rules.normalScope t) := by
  simp only [Scope.same, Bool.and_eq_true, beq_iff_eq] at h
  obtain ⟨⟨⟨hname, hversion⟩, hattributes⟩, hentries⟩ := h
  refine ⟨hname, ?_, rules.normalAttributes_agree hattributes .scope, ?_⟩
  · simp [normalScope, hversion]
  · exact .of_sameList hentries (fun e f => rules.normalEntry_agree) _

theorem normalResource_agree {r r' : Resource} (h : r.same r' = true) :
    rules.ResourcesAgree (rules.normalResource r) (rules.normalResource r') := by
  simp only [Resource.same, Bool.and_eq_true] at h
  obtain ⟨hattributes, hscopes⟩ := h
  refine ⟨rules.normalAttributes_agree hattributes .resource, ?_⟩
  exact .of_sameList hscopes (fun s t => rules.normalScope_agree) _

/-- Whatever the rules, batches that are the same are equal under them. -/
theorem compare_of_same {actual expected : Batch} (h : actual.same expected = true) :
    rules.compare actual expected = none := by
  simp only [Batch.same, Bool.and_eq_true, beq_iff_eq] at h
  obtain ⟨hsignal, hresources⟩ := h
  rw [compare, compareNormal_eq_none_iff]
  exact ⟨hsignal, .of_sameList hresources (fun r r' => rules.normalResource_agree) _⟩

theorem compare_eq_none_comm {actual expected : Batch} :
    rules.compare actual expected = none ↔ rules.compare expected actual = none := by
  have hlists := ListsAgree.equivalence rules.resourcesAgree_equivalence
    (rules.ignoresOrder .resource)
  rw [compare, compare, compareNormal_eq_none_iff, compareNormal_eq_none_iff]
  exact ⟨fun h => ⟨h.1.symm, hlists.symm h.2⟩, fun h => ⟨h.1.symm, hlists.symm h.2⟩⟩

end Rules

end GoldenCapture
