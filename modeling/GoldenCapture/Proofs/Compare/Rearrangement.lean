import GoldenCapture.Proofs.Compare.Tolerance

/-!
# Rearranged batches

Lists of some levels may stand in another order anywhere in a tree. Where the rules ignore the
order of these levels, no verdict depends on it. The one thing that normalization reads off a
position is the first point of a series that is cut: the rules must not tell the point that comes
to stand there from the one that stood there.
-/

namespace GoldenCapture

/-! ## Rearranging -/

/-- The items of a list in another order, if it is free, each with lists rearranged inside. -/
def Shuffled {α : Type} (free : Prop) (inner : α → α → Prop) (as bs : List α) : Prop :=
  ∃ cs, as.Perm cs ∧ (¬ free → cs = as) ∧ List.Forall₂ inner cs bs

section

variable (levels : List Level) (admits : Entry → Entry → Prop)

/-- An entry with its points in another order, one that is admitted. -/
structure Entry.Rearranged (e f : Entry) : Prop where
  eq : f = { e with points := f.points }
  perm : e.points.Perm f.points
  fixed : .point ∉ levels → f.points = e.points
  admitted : admits e f

structure Scope.Rearranged (s t : Scope) : Prop where
  eq : t = { s with entries := t.entries }
  entries : Shuffled (.entry ∈ levels) (Entry.Rearranged levels admits) s.entries t.entries

structure Resource.Rearranged (r r' : Resource) : Prop where
  eq : r' = { r with scopes := r'.scopes }
  scopes : Shuffled (.scope ∈ levels) (Scope.Rearranged levels admits) r.scopes r'.scopes

/-- A batch with any lists of these levels in another order, those of points as far as it is
admitted. -/
structure Batch.Rearranged (b c : Batch) : Prop where
  eq : c = { b with resources := c.resources }
  resources : Shuffled (.resource ∈ levels) (Resource.Rearranged levels admits) b.resources
    c.resources

end

/-- A series that is cut has a point in front that the rules do not tell from the one before. -/
def Rules.KeepsFirst (rules : Rules) (e f : Entry) : Prop :=
  rules.Cuts e.name → Option.Rel rules.PointsMatch e.points.head? f.points.head?

theorem Shuffled.listsAgree {α : Type} {free : Prop} {inner agree : α → α → Prop}
    {as bs : List α} (h : Shuffled free inner as bs) {unordered : Bool}
    (hfree : free → unordered = true) (hinner : ∀ a b, inner a b → agree a b) :
    ListsAgree unordered agree as bs := by
  obtain ⟨cs, hperm, hfixed, hcs⟩ := h
  have hagree : List.Forall₂ agree cs bs := hcs.imp hinner
  by_cases hf : free
  · rw [hfree hf]
    have hpaired : Paired agree as bs := paired_iff_perm.mpr ⟨cs, hperm, hagree⟩
    exact ⟨hpaired.length_eq, hpaired⟩
  · rw [hfixed hf] at hagree
    exact .of_forall₂ hagree unordered

/-! ### Nothing moved -/

section

variable {levels : List Level} {admits : Entry → Entry → Prop}

theorem Shuffled.refl {α : Type} {free : Prop} {inner : α → α → Prop} (h : ∀ a, inner a a)
    (as : List α) : Shuffled free inner as as :=
  ⟨as, .refl as, fun _ => rfl, List.forall₂_same.mpr fun a _ => h a⟩

theorem Entry.Rearranged.refl (h : ∀ e, admits e e) (e : Entry) : e.Rearranged levels admits e :=
  ⟨rfl, .refl _, fun _ => rfl, h e⟩

theorem Scope.Rearranged.refl (h : ∀ e, admits e e) (s : Scope) : s.Rearranged levels admits s :=
  ⟨rfl, .refl (Entry.Rearranged.refl h) _⟩

theorem Resource.Rearranged.refl (h : ∀ e, admits e e) (r : Resource) :
    r.Rearranged levels admits r :=
  ⟨rfl, .refl (Scope.Rearranged.refl h) _⟩

theorem Batch.Rearranged.refl (h : ∀ e, admits e e) (b : Batch) : b.Rearranged levels admits b :=
  ⟨rfl, .refl (Resource.Rearranged.refl h) _⟩

end

namespace Rules

variable {rules order : Rules} {levels : List Level}

/-! ## Matching is an equivalence -/

theorem pointsMatch_refl (p : Point) : rules.PointsMatch p p :=
  (rules.normalPoint_agree_iff p p).mp (Point.Agree.equivalence.refl _)

theorem attributesMatch_refl {level : Level} (a : Attributes) : rules.AttributesMatch level a a :=
  normalAttributes_agree_iff.mp (Attributes.Agree.equivalence.refl _)

theorem keepsFirst_refl (e : Entry) : rules.KeepsFirst e e := by
  intro _
  cases e.points.head? with
  | none => exact .none
  | some p => exact .some (pointsMatch_refl p)

theorem matches_equivalence (rules order : Rules) : Equivalence (rules.Matches order) := by
  have htrees := ListsAgree.equivalence order.resourcesAgree_equivalence
    (order.ignoresOrder .resource)
  have hiff := rules.normalize_agree_iff order
  constructor
  · exact fun b => (hiff b b).mp ⟨rfl, htrees.refl _⟩
  · intro b c h
    obtain ⟨hsignal, h⟩ := (hiff b c).mpr h
    exact (hiff c b).mp ⟨hsignal.symm, htrees.symm h⟩
  · intro b c d h h'
    obtain ⟨hsignal, h⟩ := (hiff b c).mpr h
    obtain ⟨hsignal', h'⟩ := (hiff c d).mpr h'
    exact (hiff b d).mp ⟨hsignal.trans hsignal', htrees.trans h h'⟩

/-! ## Rearranged batches match -/

theorem forall₂_toList {α : Type} {r : α → α → Prop} {a b : Option α} (h : Option.Rel r a b) :
    List.Forall₂ r a.toList b.toList := by
  cases h with
  | none => exact .nil
  | some hab => exact .cons hab .nil

section

variable (hlevels : ∀ level ∈ levels, .ignoreOrder level ∈ rules)

include hlevels

theorem remaining_agree {e f : Entry} (h : e.Rearranged levels rules.KeepsFirst f) :
    ListsAgree (rules.ignoresOrder .point) rules.PointsMatch (rules.remaining e)
      (rules.remaining f) := by
  have hname : f.name = e.name := by rw [h.eq]
  unfold remaining
  rw [hname]
  split
  · rename_i hcut
    rw [List.take_one, List.take_one]
    exact .of_forall₂ (forall₂_toList (h.admitted hcut)) _
  · have hshuffled : Shuffled (.point ∈ levels) Eq e.points f.points :=
      ⟨_, h.perm, h.fixed, List.forall₂_refl _⟩
    apply hshuffled.listsAgree
    · exact fun hpoint => ignoresOrder_iff.mpr (hlevels .point hpoint)
    · rintro p _ rfl
      exact pointsMatch_refl p

theorem entriesMatch_of_rearranged {e f : Entry} (h : e.Rearranged levels rules.KeepsFirst f) :
    rules.EntriesMatch rules e f := by
  have hpoints := remaining_agree hlevels h
  refine ⟨by rw [h.eq], by rw [h.eq], by rw [h.eq], ?_, hpoints⟩
  rw [h.eq]
  exact attributesMatch_refl _

theorem scopesMatch_of_rearranged {s t : Scope} (h : s.Rearranged levels rules.KeepsFirst t) :
    rules.ScopesMatch rules s t := by
  refine ⟨by rw [h.eq], .inr (by rw [h.eq]), ?_, h.entries.listsAgree ?_ ?_⟩
  · rw [h.eq]
    exact attributesMatch_refl _
  · exact fun hentry => ignoresOrder_iff.mpr (hlevels .entry hentry)
  · exact fun e f => entriesMatch_of_rearranged hlevels

theorem resourcesMatch_of_rearranged {r r' : Resource}
    (h : r.Rearranged levels rules.KeepsFirst r') : rules.ResourcesMatch rules r r' := by
  refine ⟨?_, h.scopes.listsAgree ?_ ?_⟩
  · rw [h.eq]
    exact attributesMatch_refl _
  · exact fun hscope => ignoresOrder_iff.mpr (hlevels .scope hscope)
  · exact fun s t => scopesMatch_of_rearranged hlevels

theorem matches_of_rearranged {b c : Batch} (h : b.Rearranged levels rules.KeepsFirst c) :
    rules.Matches rules b c := by
  refine ⟨by rw [h.eq], h.resources.listsAgree ?_ ?_⟩
  · exact fun hresource => ignoresOrder_iff.mpr (hlevels .resource hresource)
  · exact fun r r' => resourcesMatch_of_rearranged hlevels

end

/-! ## Comparison -/

/-- Where the order of some levels is ignored, lists of these levels may be rearranged anywhere on
both sides, as long as a series that is cut keeps its first point: the verdict stays. -/
theorem compare_eq_none_iff_of_rearranged
    (hlevels : ∀ level ∈ levels, .ignoreOrder level ∈ rules) {a a' e e' : Batch}
    (ha : a.Rearranged levels rules.KeepsFirst a') (he : e.Rearranged levels rules.KeepsFirst e') :
    rules.compare a e = none ↔ rules.compare a' e' = none := by
  have hequiv := rules.matches_equivalence rules
  have ha := matches_of_rearranged hlevels ha
  have he := matches_of_rearranged hlevels he
  rw [compare_eq_none_iff_matches, compare_eq_none_iff_matches]
  constructor
  · exact fun h => hequiv.trans (hequiv.trans (hequiv.symm ha) h) he
  · exact fun h => hequiv.trans (hequiv.trans ha h) (hequiv.symm he)

end Rules

/-! ## Cut series -/

theorem Shuffled.single {α : Type} {free : Prop} {inner : α → α → Prop} {a b : α}
    (h : inner a b) : Shuffled free inner [a] [b] :=
  ⟨[a], .refl _, fun _ => rfl, .cons h .nil⟩

def Batch.ofEntries (entries : List Entry) : Batch :=
  ⟨.metrics, [⟨.nil, [{ name := "app", entries }]⟩]⟩

theorem Batch.Rearranged.ofEntries {levels : List Level} {admits : Entry → Entry → Prop}
    {es fs : List Entry}
    (h : Shuffled (.entry ∈ levels) (Entry.Rearranged levels admits) es fs) :
    (Batch.ofEntries es).Rearranged levels admits (.ofEntries fs) := by
  refine ⟨rfl, .single ⟨rfl, .single ⟨rfl, ?_⟩⟩⟩
  exact h

def Entry.ofPoints (name : String) (points : List Point) : Entry :=
  { name, kind := .gauge, points }

def Entry.ofReadings (name : String) (readings : List Bool) : Entry :=
  .ofPoints name (readings.map fun reading => .ofValue (.bool reading))

namespace Rules

/-- Cuts one series, and ignores the order of entries and of points. -/
def cutUp : Rules := [.collapsePoints ["up"], .ignoreOrder .entry, .ignoreOrder .point]

def upFirst : Batch :=
  .ofEntries [.ofReadings "up" [true, false, true], .ofReadings "load" [true, false]]

def loadFirst : Batch :=
  .ofEntries [.ofReadings "load" [false, true], .ofReadings "up" [true, true, false]]

/-- Two series change places; the one that is cut keeps its first point, the other does not. -/
theorem compare_eq_none_iff_of_rearranged_series :
    (∀ level ∈ [Level.entry, .point], .ignoreOrder level ∈ cutUp) ∧
      upFirst.Rearranged [.entry, .point] cutUp.KeepsFirst loadFirst ∧
      loadFirst.Rearranged [.entry, .point] cutUp.KeepsFirst loadFirst ∧
      (cutUp.compare upFirst loadFirst = none ↔ cutUp.compare loadFirst loadFirst = none) := by
  have hlevels : ∀ level ∈ [Level.entry, .point], .ignoreOrder level ∈ cutUp := by simp [cutUp]
  have hup : (Entry.ofReadings "up" [true, false, true]).Rearranged [.entry, .point]
      cutUp.KeepsFirst (.ofReadings "up" [true, true, false]) :=
    ⟨rfl, .cons _ (.swap _ _ _), by simp, fun _ => .some (pointsMatch_refl _)⟩
  have hload : (Entry.ofReadings "load" [true, false]).Rearranged [.entry, .point]
      cutUp.KeepsFirst (.ofReadings "load" [false, true]) := by
    refine ⟨rfl, .swap _ _ _, by simp, fun hcut => ?_⟩
    simp [Cuts, cutUp, Entry.ofReadings, Entry.ofPoints] at hcut
  have hchanged : upFirst.Rearranged [.entry, .point] cutUp.KeepsFirst loadFirst :=
    .ofEntries ⟨_, .swap _ _ _, by simp, .cons hload (.cons hup .nil)⟩
  have hsame : loadFirst.Rearranged [.entry, .point] cutUp.KeepsFirst loadFirst :=
    .refl keepsFirst_refl loadFirst
  exact ⟨hlevels, hchanged, hsame, compare_eq_none_iff_of_rearranged hlevels hchanged hsame⟩

/-- Two points of a series that is cut change places. Their order is ignored, and still the
verdict is another. -/
theorem compare_ne_none_of_cut_rearranged :
    .ignoreOrder .point ∈ ([.ignoreOrder .point, .collapsePoints []] : Rules) ∧
      (Batch.ofEntries [.ofReadings "up" [true, false]]).Rearranged [.point] (fun _ _ => True)
        (.ofEntries [.ofReadings "up" [false, true]]) ∧
      Rules.compare [.ignoreOrder .point, .collapsePoints []]
        (.ofEntries [.ofReadings "up" [true, false]])
        (.ofEntries [.ofReadings "up" [true, false]]) = none ∧
      Rules.compare [.ignoreOrder .point, .collapsePoints []]
        (.ofEntries [.ofReadings "up" [false, true]])
        (.ofEntries [.ofReadings "up" [true, false]]) ≠ none := by
  have hswapped : (Batch.ofEntries [.ofReadings "up" [true, false]]).Rearranged [.point]
      (fun _ _ => True) (.ofEntries [.ofReadings "up" [false, true]]) :=
    .ofEntries (.single ⟨rfl, .swap _ _ _, by simp, trivial⟩)
  exact ⟨by simp, hswapped, by decide +kernel, by decide +kernel⟩

end Rules

end GoldenCapture
