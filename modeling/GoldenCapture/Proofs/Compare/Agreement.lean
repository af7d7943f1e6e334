import GoldenCapture.Proofs.Compare.Pairing
import GoldenCapture.Proofs.Value.Sameness

/-!
# When a comparison has nothing to report

Agreement of two trees is said level by level, without any search: equal scalars, equal attribute
maps, and lists that agree by position or under some pairing. The comparison reports nothing
exactly if the two normal forms agree.
-/

namespace GoldenCapture

/-! ## What may be absent -/

theorem compareOptional_eq_none_iff {ι α : Type} {place : ι} {same : α → α → Bool}
    {text : α → String} {agree : α → α → Prop} (h : ∀ e a, same e a = true ↔ agree a e)
    {a e : Option α} : compareOptional place same text a e = none ↔ Option.Rel agree a e := by
  cases a <;> cases e <;> simp [compareOptional, h]

theorem compareOptional_beq_eq_none_iff {ι α : Type} [DecidableEq α] {place : ι}
    {text : α → String} {a e : Option α} :
    compareOptional place (· == ·) text a e = none ↔ a = e := by
  rw [compareOptional_eq_none_iff fun e a => (beq_iff_eq.trans eq_comm : (e == a) = true ↔ a = e)]
  cases a <;> cases e <;> simp

theorem compareScalar_beq_eq_none_iff {ι α : Type} [DecidableEq α] {place : ι}
    {text : α → String} {a e : α} : compareScalar place (· == ·) text a e = none ↔ a = e := by
  rw [compareScalar, compareOptional_beq_eq_none_iff, Option.some_inj]

theorem orElse_eq_none_iff {α : Type} {a b : Option α} :
    (a <|> b) = none ↔ a = none ∧ b = none := by
  cases a <;> simp

theorem optionRel_equivalence {α : Type} {r : α → α → Prop} (h : Equivalence r) :
    Equivalence (Option.Rel r) where
  refl
    | none => .none
    | some a => .some (h.refl a)
  symm
    | .none => .none
    | .some hab => .some (h.symm hab)
  trans
    | .none, .none => .none
    | .some hab, .some hbc => .some (h.trans hab hbc)

/-! ## Attributes -/

/-- Under every key both maps have nothing or both have equal values. -/
def Attributes.Agree (a b : Attributes) : Prop :=
  ∀ key, Option.Rel Value.Equal (a.get? key) (b.get? key)

theorem Attributes.Agree.equivalence : Equivalence Attributes.Agree :=
  let h := optionRel_equivalence Value.equal_equivalence
  ⟨fun _ _ => h.refl _, fun hab key => h.symm (hab key), fun hab hbc key =>
    h.trans (hab key) (hbc key)⟩

theorem Batch.mem_insertName {name n : String} {names : List String} :
    n ∈ insertName name names ↔ n = name ∨ n ∈ names := by
  induction names with
  | nil => simp [insertName]
  | cons m names ih =>
    simp only [insertName]
    split
    · simp
    · split
      · rename_i h
        subst h
        simp
      · simp only [List.mem_cons, ih]
        tauto

theorem mem_mergeKeys {key : String} {as bs : List String} :
    key ∈ mergeKeys as bs ↔ key ∈ as ∨ key ∈ bs := by
  induction as with
  | nil => simp [mergeKeys]
  | cons a as ih => simp [mergeKeys, Batch.mem_insertName, ih, or_assoc]

theorem Attributes.get?_eq_none {a : Attributes} {key : String} :
    a.get? key = none ↔ key ∉ a.keys := by
  simp only [get?, keys, List.lookup_eq_none_iff, bne_iff_ne, List.mem_map, not_exists, not_and]
  exact ⟨fun h x hx he => h x hx he.symm, fun h x hx he => h x hx he.symm⟩

theorem compareAttributes_eq_none_iff {ι : Type} {place : String → ι} {a e : Attributes} :
    compareAttributes place a e = none ↔ a.Agree e := by
  simp only [compareAttributes, List.findSome?_eq_none_iff, mem_mergeKeys,
    compareOptional_eq_none_iff Value.same_iff_equal_swap]
  constructor
  · intro h key
    by_cases hkey : key ∈ e.keys ∨ key ∈ a.keys
    · exact h key hkey
    · -- A key of neither side was not looked at.
      rw [not_or] at hkey
      rw [Attributes.get?_eq_none.mpr hkey.1, Attributes.get?_eq_none.mpr hkey.2]
      exact .none
  · exact fun h key _ => h key

/-! ## The tree -/

def Point.Agree (a e : Point) : Prop :=
  a.value.Equal e.value ∧ a.startTime = e.startTime ∧ a.time = e.time ∧
    a.attributes.Agree e.attributes

namespace Rules

def EntriesAgree (rules : Rules) (a e : Entry) : Prop :=
  a.name = e.name ∧ a.kind = e.kind ∧ a.unit = e.unit ∧ a.attributes.Agree e.attributes ∧
    ListsAgree (rules.ignoresOrder .point) Point.Agree a.points e.points

def ScopesAgree (rules : Rules) (a e : Scope) : Prop :=
  a.name = e.name ∧ a.version = e.version ∧ a.attributes.Agree e.attributes ∧
    ListsAgree (rules.ignoresOrder .entry) rules.EntriesAgree a.entries e.entries

def ResourcesAgree (rules : Rules) (a e : Resource) : Prop :=
  a.attributes.Agree e.attributes ∧
    ListsAgree (rules.ignoresOrder .scope) rules.ScopesAgree a.scopes e.scopes

/-- Whether two trees are equal as far as the rules on order go. -/
def TreesAgree (rules : Rules) (a e : List Resource) : Prop :=
  ListsAgree (rules.ignoresOrder .resource) rules.ResourcesAgree a e

end Rules

/-! ## Agreement is an equivalence -/

theorem Point.Agree.equivalence : Equivalence Point.Agree := by
  have hattr := Attributes.Agree.equivalence
  constructor
  · exact fun p => ⟨rfl, rfl, rfl, hattr.refl _⟩
  · rintro p q ⟨hv, hs, ht, ha⟩
    exact ⟨hv.symm, hs.symm, ht.symm, hattr.symm ha⟩
  · rintro p q r ⟨hv, hs, ht, ha⟩ ⟨hv', hs', ht', ha'⟩
    exact ⟨hv.trans hv', hs.trans hs', ht.trans ht', hattr.trans ha ha'⟩

namespace Rules

theorem entriesAgree_equivalence (rules : Rules) : Equivalence rules.EntriesAgree := by
  have hattr := Attributes.Agree.equivalence
  have hpoints := ListsAgree.equivalence Point.Agree.equivalence (rules.ignoresOrder .point)
  constructor
  · exact fun e => ⟨rfl, rfl, rfl, hattr.refl _, hpoints.refl _⟩
  · rintro a b ⟨hn, hk, hu, ha, hp⟩
    exact ⟨hn.symm, hk.symm, hu.symm, hattr.symm ha, hpoints.symm hp⟩
  · rintro a b c ⟨hn, hk, hu, ha, hp⟩ ⟨hn', hk', hu', ha', hp'⟩
    exact ⟨hn.trans hn', hk.trans hk', hu.trans hu', hattr.trans ha ha', hpoints.trans hp hp'⟩

theorem scopesAgree_equivalence (rules : Rules) : Equivalence rules.ScopesAgree := by
  have hattr := Attributes.Agree.equivalence
  have hentries := ListsAgree.equivalence rules.entriesAgree_equivalence
    (rules.ignoresOrder .entry)
  constructor
  · exact fun s => ⟨rfl, rfl, hattr.refl _, hentries.refl _⟩
  · rintro a b ⟨hn, hv, ha, he⟩
    exact ⟨hn.symm, hv.symm, hattr.symm ha, hentries.symm he⟩
  · rintro a b c ⟨hn, hv, ha, he⟩ ⟨hn', hv', ha', he'⟩
    exact ⟨hn.trans hn', hv.trans hv', hattr.trans ha ha', hentries.trans he he'⟩

theorem resourcesAgree_equivalence (rules : Rules) : Equivalence rules.ResourcesAgree := by
  have hattr := Attributes.Agree.equivalence
  have hscopes := ListsAgree.equivalence rules.scopesAgree_equivalence (rules.ignoresOrder .scope)
  constructor
  · exact fun r => ⟨hattr.refl _, hscopes.refl _⟩
  · rintro a b ⟨ha, hs⟩
    exact ⟨hattr.symm ha, hscopes.symm hs⟩
  · rintro a b c ⟨ha, hs⟩ ⟨ha', hs'⟩
    exact ⟨hattr.trans ha ha', hscopes.trans hs hs'⟩

/-! ## The comparison decides agreement -/

theorem comparePoint_eq_none_iff (a e : Point) : comparePoint a e = none ↔ a.Agree e := by
  have hvalue : compareScalar PointPlace.value Value.same Value.display a.value e.value = none ↔
      a.value.Equal e.value := by
    rw [compareScalar, compareOptional_eq_none_iff Value.same_iff_equal_swap,
      Option.rel_some_some]
  simp only [comparePoint, orElse_eq_none_iff, hvalue, compareOptional_beq_eq_none_iff,
    compareAttributes_eq_none_iff]
  rfl

theorem compareEntry_eq_none_iff (rules : Rules) (a e : Entry) :
    rules.compareEntry a e = none ↔ rules.EntriesAgree a e := by
  simp only [compareEntry, orElse_eq_none_iff, compareScalar_beq_eq_none_iff,
    compareOptional_beq_eq_none_iff, compareAttributes_eq_none_iff, Option.map_eq_none_iff,
    compareList_eq_none_iff Point.Agree.equivalence comparePoint_eq_none_iff]
  rfl

theorem compareScope_eq_none_iff (rules : Rules) (a e : Scope) :
    rules.compareScope a e = none ↔ rules.ScopesAgree a e := by
  simp only [compareScope, orElse_eq_none_iff, compareScalar_beq_eq_none_iff,
    compareOptional_beq_eq_none_iff, compareAttributes_eq_none_iff, Option.map_eq_none_iff,
    compareList_eq_none_iff rules.entriesAgree_equivalence rules.compareEntry_eq_none_iff]
  rfl

theorem compareResource_eq_none_iff (rules : Rules) (a e : Resource) :
    rules.compareResource a e = none ↔ rules.ResourcesAgree a e := by
  simp only [compareResource, orElse_eq_none_iff, compareAttributes_eq_none_iff,
    Option.map_eq_none_iff,
    compareList_eq_none_iff rules.scopesAgree_equivalence rules.compareScope_eq_none_iff]
  rfl

theorem compareNormal_eq_none_iff (rules : Rules) (a e : Batch) :
    rules.compareNormal a e = none ↔
      a.signal = e.signal ∧ rules.TreesAgree a.resources e.resources := by
  simp only [compareNormal, orElse_eq_none_iff, compareScalar_beq_eq_none_iff,
    Option.map_eq_none_iff,
    compareList_eq_none_iff rules.resourcesAgree_equivalence rules.compareResource_eq_none_iff]
  rfl

/-- A comparison finds nothing exactly between batches of one signal whose normal forms agree. -/
theorem compare_eq_none_iff_agree (rules : Rules) (actual expected : Batch) :
    rules.compare actual expected = none ↔
      actual.signal = expected.signal ∧
        rules.TreesAgree (rules.normalize actual).resources (rules.normalize expected).resources :=
  rules.compareNormal_eq_none_iff (rules.normalize actual) (rules.normalize expected)

end Rules

end GoldenCapture
