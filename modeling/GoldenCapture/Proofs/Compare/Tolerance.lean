import GoldenCapture.Proofs.Compare.FirstDifference
import GoldenCapture.Proofs.Compare.SameBatches

/-!
# What the rules hide

Two batches match under a rule set if every difference between them is one that some rule hides.
That is said of the batches as they are, by the rules that are in the set and without any normal
form. Main statement: the normal forms of two batches are the same exactly if the batches match.
-/

namespace GoldenCapture

/-! ## Lists that agree -/

namespace Paired

variable {α β : Type}

theorem mono {r r' : α → β → Prop} {as : List α} {bs : List β} (h : Paired r as bs)
    (hr : ∀ a b, r a b → r' a b) : Paired r' as bs := by
  obtain ⟨σ, hσ⟩ := h
  exact ⟨σ, fun i => hr _ _ (hσ i)⟩

theorem map_iff {r : α → α → Prop} {f : β → α} {as bs : List β} :
    Paired r (as.map f) (bs.map f) ↔ Paired (fun a b => r (f a) (f b)) as bs := by
  have hlen (cs : List β) : (cs.map f).length = cs.length := List.length_map f
  constructor
  · rintro ⟨σ, hσ⟩
    refine ⟨(finCongr (hlen as).symm).trans (σ.trans (finCongr (hlen bs))), fun i => ?_⟩
    simpa using hσ (finCongr (hlen as).symm i)
  · rintro ⟨σ, hσ⟩
    refine ⟨(finCongr (hlen as)).trans (σ.trans (finCongr (hlen bs).symm)), fun i => ?_⟩
    simpa using hσ (finCongr (hlen as) i)

end Paired

namespace ListsAgree

variable {α β : Type} {agree agree' : α → α → Prop} {unordered unordered' : Bool}

theorem iff_forall₂ {as bs : List α} :
    ListsAgree false agree as bs ↔ List.Forall₂ agree as bs := by
  constructor
  · rintro ⟨hlen, hget⟩
    exact List.forall₂_iff_get.mpr ⟨hlen, fun i ha hb => hget i ha hb⟩
  · exact fun h => .of_forall₂ h false

theorem mono {as bs : List α} (h : ListsAgree unordered agree as bs)
    (hflag : unordered = true → unordered' = true) (hagree : ∀ a b, agree a b → agree' a b) :
    ListsAgree unordered' agree' as bs := by
  cases unordered with
  | true =>
    rw [hflag rfl]
    exact ⟨h.1, Paired.mono h.2 hagree⟩
  | false => exact .of_forall₂ ((iff_forall₂.mp h).imp hagree) unordered'

theorem congr {as bs : List α} (h : ∀ a b, agree a b ↔ agree' a b) :
    ListsAgree unordered agree as bs ↔ ListsAgree unordered agree' as bs :=
  ⟨fun hab => hab.mono id fun a b => (h a b).mp, fun hab => hab.mono id fun a b => (h a b).mpr⟩

theorem map_iff {f : β → α} {relation : β → β → Prop}
    (h : ∀ a b, agree (f a) (f b) ↔ relation a b) {as bs : List β} :
    ListsAgree unordered agree (as.map f) (bs.map f) ↔ ListsAgree unordered relation as bs := by
  refine Iff.trans ?_ (congr h)
  cases unordered with
  | false => rw [iff_forall₂, iff_forall₂, List.forall₂_map_left_iff, List.forall₂_map_right_iff]
  | true =>
    unfold ListsAgree
    rw [if_pos rfl, if_pos rfl, Paired.map_iff, List.length_map, List.length_map]

end ListsAgree

/-! ## The same is in agreement -/

theorem sameFields_iff_forall₂ {as bs : List (String × Value)} :
    Value.sameFields as bs = true ↔ List.Forall₂ FieldsEqual as bs := by
  refine ⟨forall₂_of_sameFields, fun h => ?_⟩
  induction h with
  | nil => rfl
  | cons hxy _ ih =>
    obtain ⟨hkey, hvalue⟩ := hxy
    simp [Value.sameFields, hkey, (Value.same_iff _ _).mpr hvalue, ih]

theorem lookup_eq_none_of_lt {key : String} {fields : List (String × Value)}
    (h : ∀ k ∈ fields.map Prod.fst, key < k) : fields.lookup key = none := by
  rw [List.lookup_eq_none_iff]
  intro field hfield
  have hlt := h field.1 (List.mem_map_of_mem hfield)
  simpa using hlt.ne

theorem lookup_eq_none_of_lt_head {key k : String} {v : Value} {fields : List (String × Value)}
    (hlt : key < k) (h : ∀ m ∈ fields.map Prod.fst, k < m) :
    ((k, v) :: fields).lookup key = none := by
  apply lookup_eq_none_of_lt
  rw [List.map_cons, List.forall_mem_cons]
  exact ⟨hlt, fun m hm => hlt.trans (h m hm)⟩

theorem forall₂_of_lookup {as bs : List (String × Value)}
    (ha : (as.map Prod.fst).Pairwise (· < ·)) (hb : (bs.map Prod.fst).Pairwise (· < ·))
    (h : ∀ key, Option.Rel Value.Equal (as.lookup key) (bs.lookup key)) :
    List.Forall₂ FieldsEqual as bs := by
  induction as generalizing bs with
  | nil =>
    cases bs with
    | nil => exact .nil
    | cons y bs =>
      obtain ⟨l, w⟩ := y
      have hl := h l
      simp at hl
  | cons x as ih =>
    obtain ⟨k, v⟩ := x
    cases bs with
    | nil =>
      have hk := h k
      simp at hk
    | cons y bs =>
      obtain ⟨l, w⟩ := y
      simp only [List.map_cons, List.pairwise_cons] at ha hb
      -- Each list starts with its least key.
      obtain rfl : k = l := by
        rcases lt_trichotomy k l with hlt | heq | hlt
        · have hk := h k
          rw [lookup_eq_none_of_lt_head hlt hb.1] at hk
          simp at hk
        · exact heq
        · have hl := h l
          rw [lookup_eq_none_of_lt_head hlt ha.1] at hl
          simp at hl
      have hhead := h k
      simp only [List.lookup_cons_self, Option.rel_some_some] at hhead
      refine .cons ⟨rfl, hhead⟩ (ih ha.2 hb.2 fun key => ?_)
      by_cases hkey : key = k
      · rw [hkey, lookup_eq_none_of_lt ha.1, lookup_eq_none_of_lt hb.1]
        exact .none
      · have hrest := h key
        rwa [List.lookup_cons, List.lookup_cons, beq_eq_false_iff_ne.mpr hkey] at hrest

theorem Attributes.same_iff_agree {a b : Attributes} : a.same b = true ↔ a.Agree b := by
  rw [same, sameFields_iff_forall₂]
  exact ⟨fun h key => lookup_of_fieldsEqual h key,
    fun h => forall₂_of_lookup a.keys_pairwise b.keys_pairwise h⟩

theorem sameList_iff_listsAgree {α : Type} {same : α → α → Bool} {agree : α → α → Prop}
    (h : ∀ a b, same a b = true ↔ agree a b) {as bs : List α} :
    sameList same as bs = true ↔ ListsAgree false agree as bs := by
  rw [sameList_iff, ← ListsAgree.iff_forall₂]
  exact ListsAgree.congr h

theorem Point.same_iff_agree (p q : Point) : p.same q = true ↔ p.Agree q := by
  simp only [same, Agree, Bool.and_eq_true, beq_iff_eq, and_assoc, Attributes.same_iff_agree]
  exact and_congr_left fun _ => Value.same_iff p.value q.value

theorem Entry.same_iff_agree (e f : Entry) : e.same f = true ↔ Rules.EntriesAgree [] e f := by
  simp only [same, Bool.and_eq_true, beq_iff_eq, and_assoc, Attributes.same_iff_agree,
    sameList_iff_listsAgree Point.same_iff_agree]
  rfl

theorem Scope.same_iff_agree (s t : Scope) : s.same t = true ↔ Rules.ScopesAgree [] s t := by
  simp only [same, Bool.and_eq_true, beq_iff_eq, and_assoc, Attributes.same_iff_agree,
    sameList_iff_listsAgree Entry.same_iff_agree]
  rfl

theorem Resource.same_iff_agree (r r' : Resource) :
    r.same r' = true ↔ Rules.ResourcesAgree [] r r' := by
  simp only [same, Bool.and_eq_true, Attributes.same_iff_agree,
    sameList_iff_listsAgree Scope.same_iff_agree]
  rfl

theorem Batch.same_iff_agree (b c : Batch) :
    b.same c = true ↔ b.signal = c.signal ∧ Rules.TreesAgree [] b.resources c.resources := by
  simp only [same, Bool.and_eq_true, beq_iff_eq, sameList_iff_listsAgree Resource.same_iff_agree]
  rfl

/-! ## What single rules say -/

theorem FieldScope.covers_iff {scope : FieldScope} {level : Level} :
    scope.covers level = true ↔ scope = .any ∨ scope = .only level := by
  cases scope <;> simp [covers]

/-- What a rule makes of the text under a key. Only a transform of that key that reaches the level
makes anything else of it. -/
def Rule.rewrite (level : Level) (key text : String) : Rule → String
  | .transformFieldValue name scope transform =>
    if name = key ∧ (scope = .any ∨ scope = .only level) then transform.apply text else text
  | _ => text

namespace Rules

variable {rules order : Rules} {level : Level} {key : String}

/-- Some rule hides the values of a field at a level. -/
def Blanks (rules : Rules) (level : Level) (key : String) : Prop :=
  .ignoreFieldValue key .any ∈ rules ∨ .ignoreFieldValue key (.only level) ∈ rules

/-- Some rule cuts a series to its first point. -/
def Cuts (rules : Rules) (name : String) : Prop :=
  .collapsePoints [] ∈ rules ∨ ∃ names, .collapsePoints names ∈ rules ∧ name ∈ names

/-- A value after all rules, one after the other: a string is rewritten, any other value stays. -/
def rewritten (rules : Rules) (level : Level) (key : String) : Value → Value
  | .string text => .string (rules.foldl (fun text rule => rule.rewrite level key text) text)
  | v => v

theorem any_iff_mem {pass : Rule → Bool} {rule : Rule}
    (h : ∀ other, pass other = true ↔ other = rule) : rules.any pass = true ↔ rule ∈ rules := by
  simp [List.any_eq_true, h]

theorem strips_iff : rules.strips key = true ↔ .ignoreField key ∈ rules :=
  any_iff_mem fun rule => by cases rule <;> simp

theorem ignoresTimestamps_iff : rules.ignoresTimestamps = true ↔ .ignoreTimestamps ∈ rules :=
  any_iff_mem fun rule => by cases rule <;> simp

theorem ignoresPointValues_iff : rules.ignoresPointValues = true ↔ .ignorePointValues ∈ rules :=
  any_iff_mem fun rule => by cases rule <;> simp

theorem ignoresScopeVersion_iff :
    rules.ignoresScopeVersion = true ↔ .ignoreScopeVersion ∈ rules :=
  any_iff_mem fun rule => by cases rule <;> simp

theorem ignoresValue_iff : rules.ignoresValue key level = true ↔ rules.Blanks level key := by
  rw [ignoresValue, List.any_eq_true]
  constructor
  · rintro ⟨rule, hmem, hrule⟩
    split at hrule
    · simp only [Bool.and_eq_true, beq_iff_eq, FieldScope.covers_iff] at hrule
      obtain ⟨rfl, rfl | rfl⟩ := hrule
      · exact .inl hmem
      · exact .inr hmem
    · contradiction
  · rintro (hmem | hmem)
    · exact ⟨_, hmem, by simp [FieldScope.covers]⟩
    · exact ⟨_, hmem, by simp [FieldScope.covers]⟩

theorem collapses_iff {name : String} : rules.collapses name = true ↔ rules.Cuts name := by
  rw [collapses, List.any_eq_true]
  constructor
  · rintro ⟨rule, hmem, hrule⟩
    split at hrule
    · simp only [Bool.or_eq_true, List.isEmpty_iff, List.contains_iff_mem] at hrule
      rcases hrule with rfl | hname
      · exact .inl hmem
      · exact .inr ⟨_, hmem, hname⟩
    · contradiction
  · rintro (hmem | ⟨names, hmem, hname⟩)
    · exact ⟨_, hmem, by simp⟩
    · exact ⟨_, hmem, by simp [hname]⟩

instance (rules : Rules) (name : String) : Decidable (rules.Cuts name) :=
  decidable_of_iff (rules.collapses name = true) collapses_iff

theorem foldl_transforms (text : String) :
    (rules.transforms key level).foldl (fun text transform => transform.apply text) text =
      rules.foldl (fun text rule => rule.rewrite level key text) text := by
  rw [transforms, List.foldl_filterMap]
  congr
  funext text rule
  cases rule with
  | transformFieldValue name scope transform =>
    simp only [Rule.rewrite, Bool.and_eq_true, beq_iff_eq, FieldScope.covers_iff]
    split <;> rename_i h <;> split at h <;> simp_all
  | _ => rfl

theorem normalValue_eq (v : Value) :
    rules.normalValue level key v =
      if rules.ignoresValue key level then .empty else rules.rewritten level key v := by
  unfold normalValue
  cases v <;> simp [rewritten, foldl_transforms]

/-! ## Matching -/

/-- But for the fields that are taken off, both maps have the same keys, and under each of them a
value that is hidden at this level or the same value once it is rewritten. -/
def AttributesMatch (rules : Rules) (level : Level) (a b : Attributes) : Prop :=
  ∀ key, .ignoreField key ∉ rules →
    (key ∈ a.keys ↔ key ∈ b.keys) ∧
      ∀ v w, a.get? key = some v → b.get? key = some w →
        rules.Blanks level key ∨
          (rules.rewritten level key v).Equal (rules.rewritten level key w)

structure PointsMatch (rules : Rules) (p q : Point) : Prop where
  value : .ignorePointValues ∈ rules ∨ p.value.Equal q.value
  startTime : .ignoreTimestamps ∈ rules ∨ p.startTime = q.startTime
  time : .ignoreTimestamps ∈ rules ∨ p.time = q.time
  attributes : rules.AttributesMatch .point p.attributes q.attributes

/-- The points that are left of a series: the first one, if some rule cuts it. -/
def remaining (rules : Rules) (e : Entry) : List Point :=
  if rules.Cuts e.name then e.points.take 1 else e.points

/-- Entries that match, where `order` has the rules on order. -/
structure EntriesMatch (rules order : Rules) (e f : Entry) : Prop where
  name : e.name = f.name
  kind : e.kind = f.kind
  unit : e.unit = f.unit
  attributes : rules.AttributesMatch .entry e.attributes f.attributes
  points : ListsAgree (order.ignoresOrder .point) rules.PointsMatch (rules.remaining e)
    (rules.remaining f)

structure ScopesMatch (rules order : Rules) (s t : Scope) : Prop where
  name : s.name = t.name
  version : .ignoreScopeVersion ∈ rules ∨ s.version = t.version
  attributes : rules.AttributesMatch .scope s.attributes t.attributes
  entries : ListsAgree (order.ignoresOrder .entry) (rules.EntriesMatch order) s.entries t.entries

structure ResourcesMatch (rules order : Rules) (r r' : Resource) : Prop where
  attributes : rules.AttributesMatch .resource r.attributes r'.attributes
  scopes : ListsAgree (order.ignoresOrder .scope) (rules.ScopesMatch order) r.scopes r'.scopes

/-- Batches of one signal whose trees differ in nothing but what the rules hide. -/
structure Matches (rules order : Rules) (b c : Batch) : Prop where
  signal : b.signal = c.signal
  resources : ListsAgree (order.ignoresOrder .resource) (rules.ResourcesMatch order)
    b.resources c.resources

/-! ## Matching is agreement of normal forms -/

theorem normalValue_equal_iff {v w : Value} :
    (rules.normalValue level key v).Equal (rules.normalValue level key w) ↔
      rules.Blanks level key ∨
        (rules.rewritten level key v).Equal (rules.rewritten level key w) := by
  rw [normalValue_eq, normalValue_eq, ← ignoresValue_iff]
  cases rules.ignoresValue key level with
  | true => simp [Value.equal_equivalence.refl]
  | false => simp

theorem get?_normalAttributes (a : Attributes) :
    (rules.normalAttributes level a).get? key =
      if rules.strips key then none else (a.get? key).map (rules.normalValue level key) := by
  simp only [normalAttributes, Attributes.filterKeys, Attributes.mapValues, Attributes.get?]
  induction a.fields with
  | nil => simp
  | cons field fields ih =>
    obtain ⟨k, v⟩ := field
    by_cases hkey : key = k
    · subst hkey
      by_cases hstrip : rules.strips key = true
      · simpa [hstrip] using ih
      · simp [hstrip]
    · have hne : (key == k) = false := beq_eq_false_iff_ne.mpr hkey
      by_cases hstrip : rules.strips k = true
      · simpa [hstrip, List.lookup_cons, hne] using ih
      · simpa [hstrip, List.lookup_cons, hne] using ih

theorem normalAttributes_agree_iff {a b : Attributes} :
    (rules.normalAttributes level a).Agree (rules.normalAttributes level b) ↔
      rules.AttributesMatch level a b := by
  refine forall_congr' fun key => ?_
  rw [get?_normalAttributes, get?_normalAttributes, ← strips_iff]
  cases rules.strips key with
  | true => simp
  | false =>
    have hkeys (c : Attributes) : key ∈ c.keys ↔ (c.get? key).isSome = true := by
      rw [← not_iff_not, ← Attributes.get?_eq_none]
      simp
    rw [hkeys, hkeys]
    cases a.get? key <;> cases b.get? key <;> simp [normalValue_equal_iff]

theorem normalPoint_agree_iff (rules : Rules) (p q : Point) :
    (rules.normalPoint p).Agree (rules.normalPoint q) ↔ rules.PointsMatch p q := by
  have hvalue : (rules.normalPoint p).value.Equal (rules.normalPoint q).value ↔
      .ignorePointValues ∈ rules ∨ p.value.Equal q.value := by
    rw [← ignoresPointValues_iff]
    simp only [normalPoint]
    cases rules.ignoresPointValues <;> simp [Value.equal_equivalence.refl]
  have htime (s t : Option UInt64) :
      (if rules.ignoresTimestamps then none else s) =
        (if rules.ignoresTimestamps then none else t) ↔ .ignoreTimestamps ∈ rules ∨ s = t := by
    rw [← ignoresTimestamps_iff]
    cases rules.ignoresTimestamps <;> simp
  constructor
  · rintro ⟨hv, hs, ht, ha⟩
    exact ⟨hvalue.mp hv, (htime _ _).mp hs, (htime _ _).mp ht, normalAttributes_agree_iff.mp ha⟩
  · rintro ⟨hv, hs, ht, ha⟩
    exact ⟨hvalue.mpr hv, (htime _ _).mpr hs, (htime _ _).mpr ht,
      normalAttributes_agree_iff.mpr ha⟩

theorem countedPoints_eq_remaining (e : Entry) : rules.countedPoints e = rules.remaining e := by
  unfold countedPoints remaining
  simp only [collapses_iff]

theorem normalEntry_agree_iff (rules order : Rules) (e f : Entry) :
    order.EntriesAgree (rules.normalEntry e) (rules.normalEntry f) ↔
      rules.EntriesMatch order e f := by
  have hpoints : ListsAgree (order.ignoresOrder .point) Point.Agree (rules.normalEntry e).points
      (rules.normalEntry f).points ↔ _ := ListsAgree.map_iff rules.normalPoint_agree_iff
  rw [countedPoints_eq_remaining, countedPoints_eq_remaining] at hpoints
  constructor
  · rintro ⟨hn, hk, hu, ha, hp⟩
    exact ⟨hn, hk, hu, normalAttributes_agree_iff.mp ha, hpoints.mp hp⟩
  · rintro ⟨hn, hk, hu, ha, hp⟩
    exact ⟨hn, hk, hu, normalAttributes_agree_iff.mpr ha, hpoints.mpr hp⟩

theorem normalScope_agree_iff (rules order : Rules) (s t : Scope) :
    order.ScopesAgree (rules.normalScope s) (rules.normalScope t) ↔
      rules.ScopesMatch order s t := by
  have hversion : (rules.normalScope s).version = (rules.normalScope t).version ↔
      .ignoreScopeVersion ∈ rules ∨ s.version = t.version := by
    rw [← ignoresScopeVersion_iff]
    simp only [normalScope]
    cases rules.ignoresScopeVersion <;> simp
  have hentries : ListsAgree (order.ignoresOrder .entry) order.EntriesAgree
      (rules.normalScope s).entries (rules.normalScope t).entries ↔ _ :=
    ListsAgree.map_iff (rules.normalEntry_agree_iff order)
  constructor
  · rintro ⟨hn, hv, ha, he⟩
    exact ⟨hn, hversion.mp hv, normalAttributes_agree_iff.mp ha, hentries.mp he⟩
  · rintro ⟨hn, hv, ha, he⟩
    exact ⟨hn, hversion.mpr hv, normalAttributes_agree_iff.mpr ha, hentries.mpr he⟩

theorem normalResource_agree_iff (rules order : Rules) (r r' : Resource) :
    order.ResourcesAgree (rules.normalResource r) (rules.normalResource r') ↔
      rules.ResourcesMatch order r r' := by
  have hscopes : ListsAgree (order.ignoresOrder .scope) order.ScopesAgree
      (rules.normalResource r).scopes (rules.normalResource r').scopes ↔ _ :=
    ListsAgree.map_iff (rules.normalScope_agree_iff order)
  constructor
  · rintro ⟨ha, hs⟩
    exact ⟨normalAttributes_agree_iff.mp ha, hscopes.mp hs⟩
  · rintro ⟨ha, hs⟩
    exact ⟨normalAttributes_agree_iff.mpr ha, hscopes.mpr hs⟩

/-- Normal forms agree, with the regard to order that `order` leaves, exactly if the batches
match. -/
theorem normalize_agree_iff (rules order : Rules) (b c : Batch) :
    b.signal = c.signal ∧
        order.TreesAgree (rules.normalize b).resources (rules.normalize c).resources ↔
      rules.Matches order b c := by
  have hresources : order.TreesAgree (rules.normalize b).resources (rules.normalize c).resources ↔
      _ := ListsAgree.map_iff (rules.normalResource_agree_iff order)
  constructor
  · rintro ⟨hsignal, htrees⟩
    exact ⟨hsignal, hresources.mp htrees⟩
  · rintro ⟨hsignal, htrees⟩
    exact ⟨hsignal, hresources.mpr htrees⟩

theorem compare_eq_none_iff_matches (rules : Rules) (actual expected : Batch) :
    rules.compare actual expected = none ↔ rules.Matches rules actual expected := by
  rw [compare, compareNormal_eq_none_iff]
  exact rules.normalize_agree_iff rules actual expected

/-- Two normal forms are the same exactly if the batches, with every order respected, differ in
nothing but what the rules hide. -/
theorem normalize_same_iff (rules : Rules) (b c : Batch) :
    (rules.normalize b).same (rules.normalize c) = true ↔ rules.Matches [] b c := by
  rw [Batch.same_iff_agree]
  exact rules.normalize_agree_iff [] b c

end Rules

end GoldenCapture
