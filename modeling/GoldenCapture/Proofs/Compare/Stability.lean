import GoldenCapture.Proofs.Compare.FirstDifference

/-!
# Normal forms are stable

Every rule but a transform takes something away, and what is gone stays away. A transform that puts
a fixed text in place of a value, or cuts it down to the first beginning that it has, leaves its own
results as they are. Main statement: under rules with one such transform for a field at most, a
normal form is its own normal form, and so a reference may be kept in normal form.
-/

namespace GoldenCapture

/-! ## Transforms -/

namespace Transform

theorem isPrefixOf_iff {p s : String} : p.isPrefixOf s = true ↔ p.toList <+: s.toList :=
  String.startsWith_string_iff

def Stable (t : Transform) : Prop := ∀ text, t.apply (t.apply text) = t.apply text

theorem stable_star : star.Stable := fun _ => rfl

theorem find?_of_find? {beginnings : List String} {found text : String}
    (h : beginnings.find? (·.isPrefixOf text) = some found) :
    beginnings.find? (·.isPrefixOf found) = some found := by
  -- A beginning of `found` is one of the whole text too, so none before `found` is.
  obtain ⟨hfound, before, after, hsplit, hbefore⟩ := List.find?_eq_some_iff_append.mp h
  refine List.find?_eq_some_iff_append.mpr ⟨isPrefixOf_iff.mpr (List.prefix_refl _), before, after,
    hsplit, fun p hp => ?_⟩
  have hnot := hbefore p hp
  rw [Bool.not_eq_true', Bool.eq_false_iff, ne_eq, isPrefixOf_iff] at hnot ⊢
  exact fun hbegins => hnot (hbegins.trans (isPrefixOf_iff.mp hfound))

theorem stable_shortenTo (beginnings : List String) : (shortenTo beginnings).Stable := by
  intro text
  cases h : beginnings.find? (·.isPrefixOf text) with
  | none => simp only [shortenTo, h, Option.getD_none]
  | some found => simp only [shortenTo, h, Option.getD_some, find?_of_find? h]

end Transform

/-! ## Rules -/

namespace Rules

/-- At most one transform reaches a field at a level, and each puts a star in place of a value or
cuts it down to a known beginning. -/
structure Settles (rules : Rules) : Prop where
  single : ∀ name level, (rules.transforms name level).length ≤ 1
  shortens : ∀ name scope t, .transformFieldValue name scope t ∈ rules →
    t = .star ∨ ∃ beginnings, t = .shortenTo beginnings

variable {rules : Rules}

theorem mem_of_mem_transforms {name : String} {level : Level} {t : Transform}
    (h : t ∈ rules.transforms name level) :
    ∃ scope, Rule.transformFieldValue name scope t ∈ rules := by
  obtain ⟨rule, hrule, ht⟩ := List.mem_filterMap.mp h
  split at ht
  · rename_i n scope t'
    split at ht
    · rename_i hreaches
      simp only [Bool.and_eq_true, beq_iff_eq] at hreaches
      cases ht
      exact ⟨scope, hreaches.1 ▸ hrule⟩
    · contradiction
  · contradiction

theorem Settles.stable (h : rules.Settles) {name : String} {level : Level} {t : Transform}
    (ht : t ∈ rules.transforms name level) : t.Stable := by
  obtain ⟨scope, hrule⟩ := mem_of_mem_transforms ht
  rcases h.shortens name scope t hrule with rfl | ⟨beginnings, rfl⟩
  · exact Transform.stable_star
  · exact Transform.stable_shortenTo beginnings

theorem Settles.foldl_foldl (h : rules.Settles) (name : String) (level : Level) (text : String) :
    (rules.transforms name level).foldl (fun s t => t.apply s)
        ((rules.transforms name level).foldl (fun s t => t.apply s) text) =
      (rules.transforms name level).foldl (fun s t => t.apply s) text := by
  match hts : rules.transforms name level with
  | [] => rfl
  | [t] => exact h.stable (hts ▸ List.mem_singleton_self t) text
  | _ :: _ :: _ =>
    have hsingle := h.single name level
    simp [hts] at hsingle

/-! ## Nodes -/

theorem Settles.normalValue_normalValue (h : rules.Settles) (level : Level) (key : String)
    (v : Value) :
    rules.normalValue level key (rules.normalValue level key v) =
      rules.normalValue level key v := by
  unfold normalValue
  by_cases hignored : rules.ignoresValue key level = true
  · simp [hignored]
  · cases v with
    | string s => simp [hignored, h.foldl_foldl key level s]
    | _ => simp [hignored]

theorem Settles.normalAttributes_normalAttributes (h : rules.Settles) (level : Level)
    (a : Attributes) :
    rules.normalAttributes level (rules.normalAttributes level a) =
      rules.normalAttributes level a := by
  apply Attributes.ext
  simp only [normalAttributes, Attributes.mapValues, Attributes.filterKeys, List.filter_map,
    List.map_map, List.filter_filter]
  have hkeep : ∀ field : String × Value,
      ((!rules.strips field.1) && !rules.strips field.1) = !rules.strips field.1 :=
    fun field => Bool.and_self _
  simp only [Function.comp_def, hkeep, h.normalValue_normalValue]

theorem Settles.normalPoint_normalPoint (h : rules.Settles) (p : Point) :
    rules.normalPoint (rules.normalPoint p) = rules.normalPoint p := by
  have hattributes := h.normalAttributes_normalAttributes .point p.attributes
  unfold normalPoint
  by_cases hvalues : rules.ignoresPointValues = true <;>
    by_cases htimes : rules.ignoresTimestamps = true <;> simp [hvalues, htimes, hattributes]

theorem Settles.normalEntry_normalEntry (h : rules.Settles) (e : Entry) :
    rules.normalEntry (rules.normalEntry e) = rules.normalEntry e := by
  have hpoints : rules.normalPoint ∘ rules.normalPoint = rules.normalPoint :=
    funext h.normalPoint_normalPoint
  have hattributes := h.normalAttributes_normalAttributes .entry e.attributes
  unfold normalEntry countedPoints
  by_cases hcollapses : rules.collapses e.name = true <;>
    simp [hcollapses, hattributes, ← List.map_take, List.take_take, hpoints]

theorem Settles.normalScope_normalScope (h : rules.Settles) (s : Scope) :
    rules.normalScope (rules.normalScope s) = rules.normalScope s := by
  have hentries : rules.normalEntry ∘ rules.normalEntry = rules.normalEntry :=
    funext h.normalEntry_normalEntry
  have hattributes := h.normalAttributes_normalAttributes .scope s.attributes
  unfold normalScope
  by_cases hversion : rules.ignoresScopeVersion = true <;> simp [hversion, hattributes, hentries]

theorem Settles.normalResource_normalResource (h : rules.Settles) (r : Resource) :
    rules.normalResource (rules.normalResource r) = rules.normalResource r := by
  have hscopes : rules.normalScope ∘ rules.normalScope = rules.normalScope :=
    funext h.normalScope_normalScope
  have hattributes := h.normalAttributes_normalAttributes .resource r.attributes
  simp [normalResource, hattributes, hscopes]

/-! ## Batches -/

theorem compare_eq_none_of_normalize_eq {a b : Batch} (h : rules.normalize a = rules.normalize b) :
    rules.compare a b = none := by
  have hsignal := congrArg Batch.signal h
  refine (rules.compare_eq_none_iff_agree a b).mpr ⟨hsignal, ?_⟩
  rw [h]
  exact (ListsAgree.equivalence rules.resourcesAgree_equivalence _).refl _

/-- A normal form is its own normal form, and differs neither way from what it was made of. -/
theorem normalize_normalize (h : rules.Settles) (b : Batch) :
    rules.normalize (rules.normalize b) = rules.normalize b ∧
      rules.compare b (rules.normalize b) = none ∧
      rules.compare (rules.normalize b) b = none := by
  have hresources : rules.normalResource ∘ rules.normalResource = rules.normalResource :=
    funext h.normalResource_normalResource
  have hstable : rules.normalize (rules.normalize b) = rules.normalize b := by
    simp [normalize, hresources]
  exact ⟨hstable, compare_eq_none_of_normalize_eq hstable.symm,
    compare_eq_none_of_normalize_eq hstable⟩

/-- The beginnings overlap, and the last one is a beginning of every text. -/
def podRules : Rules :=
  [.transformFieldValue "pod" .any (.shortenTo ["core", "coredns", ""]),
    .transformFieldValue "node" (.only .resource) .star, .ignoreField "uid",
    .ignoreFieldValue "node" (.only .scope), .collapsePoints []]

def podBatch : Batch :=
  .ofScope (some "1") [("pod", .string "coredns-7x2lm"), ("node", .string "kind"),
    ("uid", .string "0b1c")]

theorem settles_podRules : podRules.Settles where
  single name level := by
    by_cases hpod : name = "pod"
    · subst hpod
      cases level <;> decide
    · by_cases hnode : name = "node"
      · subst hnode
        cases level <;> decide
      · simp [podRules, transforms, Ne.symm hpod, Ne.symm hnode]
  shortens name scope t h := by
    simp only [podRules, List.mem_cons, Rule.transformFieldValue.injEq, reduceCtorEq, or_false,
      List.not_mem_nil] at h
    rcases h with ⟨-, -, rfl⟩ | ⟨-, -, rfl⟩
    · exact .inr ⟨_, rfl⟩
    · exact .inl rfl

theorem normalize_normalize_pods : podRules.Settles ∧
    (podRules.normalize podBatch).same
      (.ofScope (some "1") [("pod", .string "core"), ("node", .empty)]) = true ∧
    podRules.normalize (podRules.normalize podBatch) = podRules.normalize podBatch ∧
      podRules.compare podBatch (podRules.normalize podBatch) = none ∧
      podRules.compare (podRules.normalize podBatch) podBatch = none :=
  ⟨settles_podRules, by decide +kernel, normalize_normalize settles_podRules podBatch⟩

end Rules

end GoldenCapture
