import GoldenCapture.Proofs.Compare.Agreement
import GoldenCapture.Proofs.Compare.Paths
import GoldenCapture.Proofs.Compare.Walk

/-!
# The first difference

Where no order is ignored, a comparison is a search along the walk: what it reports is the first
place where the two sides do not hold the same, with the text of each side.
-/

namespace GoldenCapture

variable {ι κ α : Type}

/-! ## Searching a region -/

/-- Both sides hold the same at a place, or nothing. -/
def Alike (a e : ι → Option Component) (place : ι) : Prop :=
  Option.Rel Component.Equal (a place) (e place)

/-- Why what the actual side holds differs from what the expected side holds. -/
def Component.reason : Option Component → Option Component → MismatchReason
  | none, some _ => .missing
  | some _, none => .unexpected
  | some (items _), some (items _) => .lengthDiffers
  | _, _ => .valueDiffers

def describe (a e : ι → Option Component) (place : ι) : Mismatch ι :=
  ⟨place, (e place).map Component.display, (a place).map Component.display,
    Component.reason (a place) (e place)⟩

/-- The answer of a search through a region of places: the report on the first of them where the
sides differ. -/
inductive Searched (before : ι → ι → Prop) (a e : ι → Option Component) (region : ι → Prop) :
    Option (Mismatch ι) → Prop where
  | alike (h : ∀ p, region p → Alike a e p) : Searched before a e region none
  | differs {p : ι} (hp : region p) (hbefore : ∀ q, region q → before q p → Alike a e q)
      (h : ¬ Alike a e p) : Searched before a e region (some (describe a e p))

namespace Searched

variable {before : ι → ι → Prop} {a e : ι → Option Component} {region : ι → Prop}
  {m : Option (Mismatch ι)}

theorem widen {larger : ι → Prop} (h : Searched before a e region m)
    (hsub : ∀ p, region p → larger p) (halike : ∀ p, larger p → region p ∨ Alike a e p) :
    Searched before a e larger m := by
  cases h with
  | alike h => exact alike fun p hp => (halike p hp).elim (h p) id
  | differs hp hbefore h =>
    refine differs (hsub _ hp) (fun q hq hqp => ?_) h
    exact (halike q hq).elim (fun hq => hbefore q hq hqp) id

theorem orElse {later : ι → Prop} {m' : Option (Mismatch ι)} (h : Searched before a e region m)
    (h' : Searched before a e later m')
    (horder : ∀ p q, region p → later q → ¬ before q p) :
    Searched before a e (fun p => region p ∨ later p) (m <|> m') := by
  cases h with
  | differs hp hbefore h =>
    refine differs (.inl hp) (fun q hq hqp => ?_) h
    rcases hq with hq | hq
    · exact hbefore q hq hqp
    · exact absurd hqp (horder _ q hp hq)
  | alike h =>
    cases h' with
    | alike h' => exact alike fun p hp => hp.elim (h p) (h' p)
    | differs hp hbefore hdiffers =>
      refine differs (.inr hp) (fun q hq hqp => ?_) hdiffers
      exact hq.elim (h q) fun hq => hbefore q hq hqp

theorem within {before' : κ → κ → Prop} {a' e' : κ → Option Component}
    {m' : Option (Mismatch κ)} (h : Searched before' a' e' (fun _ => True) m') (f : κ → ι)
    (ha : ∀ p, a (f p) = a' p) (he : ∀ p, e (f p) = e' p)
    (hbefore : ∀ p q, before (f p) (f q) → before' p q) :
    Searched before a e (fun p => ∃ q, p = f q) (m'.map (·.within f)) := by
  have halike : ∀ p, Alike a e (f p) ↔ Alike a' e' p := by simp [Alike, ha, he]
  cases h with
  | alike h =>
    refine alike ?_
    rintro _ ⟨q, rfl⟩
    exact (halike q).mpr (h q trivial)
  | @differs p _ hfirst h =>
    have hdescribe : (describe a' e' p).within f = describe a e (f p) := by
      simp [describe, Mismatch.within, ha, he]
    rw [Option.map_some, hdescribe]
    refine differs ⟨p, rfl⟩ ?_ fun hp => h ((halike p).mp hp)
    rintro _ ⟨q, rfl⟩ hqp
    exact (halike q).mpr (hfirst q trivial (hbefore q p hqp))

theorem unique {m' : Option (Mismatch ι)} (h : Searched before a e region m)
    (h' : Searched before a e region m')
    (horder : ∀ p q, before p q ∨ p = q ∨ before q p) : m = m' := by
  cases h with
  | alike h =>
    cases h' with
    | alike _ => rfl
    | differs hp _ hdiffers => exact absurd (h _ hp) hdiffers
  | @differs p hp hfirst hdiffers =>
    cases h' with
    | alike h' => exact absurd (h' p hp) hdiffers
    | @differs q hq hfirst' hdiffers' =>
      rcases horder p q with hpq | rfl | hqp
      · exact absurd (hfirst' p hp hpq) hdiffers
      · rfl
      · exact absurd (hfirst q hq hqp) hdiffers'

end Searched

/-! ## What may be absent -/

/-- Values that a batch holds as components, with the equality and the text of these. -/
structure Shows (same : α → α → Bool) (text : α → String) (component : α → Component) :
    Prop where
  same_iff : ∀ e a, same e a = true ↔ (component a).Equal (component e)
  display : ∀ x, (component x).display = text x
  reason : ∀ a e, Component.reason (some (component a)) (some (component e)) = .valueDiffers

theorem Shows.beq [DecidableEq α] {text : α → String} {component : α → Component}
    (hequal : ∀ x y, (component x).Equal (component y) ↔ x = y)
    (hdisplay : ∀ x, (component x).display = text x)
    (hreason : ∀ a e, Component.reason (some (component a)) (some (component e)) = .valueDiffers) :
    Shows (· == ·) text component :=
  ⟨fun e a => by rw [beq_iff_eq, hequal, eq_comm], hdisplay, hreason⟩

theorem shows_value : Shows Value.same Value.display .value :=
  ⟨Value.same_iff_equal_swap, fun _ => rfl, fun _ _ => rfl⟩

theorem shows_text : Shows (· == ·) id .text :=
  .beq (by simp [Component.Equal]) (fun _ => rfl) (fun _ _ => rfl)

theorem shows_kind : Shows (· == ·) EntryKind.name .kind :=
  .beq (by simp [Component.Equal]) (fun _ => rfl) (fun _ _ => rfl)

theorem shows_signal : Shows (· == ·) Signal.name .signal :=
  .beq (by simp [Component.Equal]) (fun _ => rfl) (fun _ _ => rfl)

theorem shows_instant : Shows (· == ·) (fun t : UInt64 => toString t.toNat) .instant :=
  .beq (by simp [Component.Equal]) (fun _ => rfl) (fun _ _ => rfl)

section

variable {before : ι → ι → Prop} {a e : ι → Option Component} {place : ι}
  {same : α → α → Bool} {text : α → String} {component : α → Component}

theorem compareOptional_searched (h : Shows same text component) {actual expected : Option α}
    (ha : a place = actual.map component) (he : e place = expected.map component)
    (hbefore : ¬ before place place) :
    Searched before a e (· = place) (compareOptional place same text actual expected) := by
  have hnone := @compareOptional_eq_none_iff ι α place same text
    (fun x y => (component x).Equal (component y)) h.same_iff actual expected
  have halike : Alike a e place ↔ compareOptional place same text actual expected = none := by
    rw [hnone, Alike, ha, he]
    cases actual <;> cases expected <;> simp
  cases hcompare : compareOptional place same text actual expected with
  | none =>
    refine .alike ?_
    rintro _ rfl
    exact halike.mpr hcompare
  | some m =>
    have hm : m = describe a e place := by
      cases actual with
      | none => cases expected <;>
          simp_all [compareOptional, describe, Component.reason, h.display]
      | some x => cases expected with
        | none => simp_all [compareOptional, describe, Component.reason, h.display]
        | some y => simp_all [compareOptional, describe, h.reason, h.display]
    rw [hm]
    refine .differs rfl ?_ (by simp [halike, hcompare])
    rintro _ rfl hp
    exact absurd hp hbefore

theorem compareScalar_searched (h : Shows same text component) {actual expected : α}
    (ha : a place = some (component actual)) (he : e place = some (component expected))
    (hbefore : ¬ before place place) :
    Searched before a e (· = place) (compareScalar place same text actual expected) :=
  compareOptional_searched h ha he hbefore

end

/-! ## Attributes -/

theorem Batch.insertName_pairwise {name : String} {names : List String}
    (h : names.Pairwise (· < ·)) : (insertName name names).Pairwise (· < ·) := by
  induction names with
  | nil => simp [insertName]
  | cons n names ih =>
    obtain ⟨hn, hnames⟩ := List.pairwise_cons.mp h
    simp only [insertName]
    split
    · rename_i hlt
      refine List.pairwise_cons.mpr ⟨fun x hx => ?_, h⟩
      rcases List.mem_cons.mp hx with rfl | hx
      · exact hlt
      · exact hlt.trans (hn x hx)
    · split
      · exact h
      · rename_i hle hne
        refine List.pairwise_cons.mpr ⟨fun x hx => ?_, ih hnames⟩
        rcases Batch.mem_insertName.mp hx with rfl | hx
        · exact lt_of_le_of_ne (not_lt.mp hle) (Ne.symm hne)
        · exact hn x hx

theorem mergeKeys_pairwise (as : List String) {bs : List String} (h : bs.Pairwise (· < ·)) :
    (mergeKeys as bs).Pairwise (· < ·) := by
  induction as with
  | nil => exact h
  | cons a as ih => exact Batch.insertName_pairwise ih

theorem Attributes.keys_pairwise (a : Attributes) : a.keys.Pairwise (· < ·) := by
  have h := a.ordered
  simp only [Value.Ordered] at h
  exact h.1

theorem findSome?_searched {before : ι → ι → Prop} {a e : ι → Option Component}
    {place : κ → ι} {report : κ → Option (Mismatch ι)} {keys : List κ}
    (h : ∀ key ∈ keys, Searched before a e (· = place key) (report key))
    (horder : keys.Pairwise fun k l => ¬ before (place l) (place k)) :
    Searched before a e (fun p => ∃ key ∈ keys, p = place key) (keys.findSome? report) := by
  induction keys with
  | nil => exact .alike (by simp)
  | cons key keys ih =>
    obtain ⟨hkey, hkeys⟩ := List.pairwise_cons.mp horder
    have hrest := ih (fun k hk => h k (List.mem_cons_of_mem _ hk)) hkeys
    have hsplit : (key :: keys).findSome? report = (report key <|> keys.findSome? report) := by
      rw [List.findSome?_cons]
      cases report key <;> rfl
    rw [hsplit]
    refine ((h key List.mem_cons_self).orElse hrest ?_).widen (by simp)
      fun p hp => .inl (by simpa using hp)
    rintro _ _ rfl ⟨k, hk, rfl⟩
    exact hkey k hk

theorem compareAttributes_searched {before : ι → ι → Prop} {a e : ι → Option Component}
    {place : String → ι} {actual expected : Attributes}
    (ha : ∀ key, a (place key) = actual.component? key)
    (he : ∀ key, e (place key) = expected.component? key)
    (hbefore : ∀ k l, before (place k) (place l) → KeyBefore k l) :
    Searched before a e (fun p => ∃ key, p = place key)
      (compareAttributes place actual expected) := by
  have hkey : ∀ key, Searched before a e (· = place key) (compareOptional (place key) Value.same
      Value.display (actual.get? key) (expected.get? key)) := by
    intro key
    refine compareOptional_searched shows_value (ha key) (he key) fun h => ?_
    exact lt_irrefl key (keyBefore_iff.mp (hbefore key key h))
  have hsorted := mergeKeys_pairwise expected.keys actual.keys_pairwise
  have hsearched := findSome?_searched (fun key _ => hkey key)
    (hsorted.imp fun hkl h => lt_asymm hkl (keyBefore_iff.mp (hbefore _ _ h)))
  refine hsearched.widen (fun p ⟨key, _, hp⟩ => ⟨key, hp⟩) ?_
  rintro _ ⟨key, rfl⟩
  by_cases hmem : key ∈ mergeKeys expected.keys actual.keys
  · exact .inl ⟨key, hmem, rfl⟩
  · -- A key of neither side is not looked at, and there is nothing under it.
    rw [mem_mergeKeys, not_or] at hmem
    right
    simp [Alike, ha, he, Attributes.component?, Attributes.get?_eq_none.mpr hmem.1,
      Attributes.get?_eq_none.mpr hmem.2]

/-! ## Lists -/

section

variable {before : ι → ι → Prop} {read : α → ι → Option Component}
  {compare : α → α → Option (Mismatch ι)}

theorem comparePositions_cons (i : Nat) (x y : α) (xs ys : List α) :
    comparePositions compare i (x :: xs) (y :: ys) =
      ((compare x y).map (·.within (.inside i)) <|> comparePositions compare (i + 1) xs ys) := by
  rw [comparePositions]
  cases compare x y <;> rfl

theorem comparePositions_searched
    (h : ∀ x y, Searched before (read x) (read y) (fun _ => True) (compare x y)) (i : Nat)
    {actual expected : List α} (hlen : actual.length = expected.length) :
    Searched (InList.Before before) (readList read actual) (readList read expected)
      (fun p => ∃ j q, i ≤ j ∧ p = .inside j q)
      (comparePositions compare i (actual.drop i) (expected.drop i)) := by
  -- By induction on how many items are left from index `i` on.
  induction hleft : actual.length - i generalizing i with
  | zero =>
    have hnil : comparePositions compare i [] (expected.drop i) = none := by
      simp [comparePositions]
    rw [List.drop_of_length_le (by omega), hnil]
    refine .alike ?_
    rintro _ ⟨j, q, hj, rfl⟩
    simp [Alike, readList, List.getElem?_eq_none (show actual.length ≤ j by omega),
      List.getElem?_eq_none (show expected.length ≤ j by omega)]
  | succ left ih =>
    have hi : i < actual.length := by omega
    have hi' : i < expected.length := hlen ▸ hi
    rw [List.drop_eq_getElem_cons (l := actual) hi, List.drop_eq_getElem_cons (l := expected) hi',
      comparePositions_cons]
    have hitem : Searched (InList.Before before) (readList read actual) (readList read expected)
        (fun p => ∃ q, p = .inside i q) _ :=
      (h actual[i] expected[i]).within (InList.inside i) (by simp [readList, hi])
        (by simp [readList, hi']) (by simp [InList.Before])
    refine (hitem.orElse (ih (i + 1) (by omega)) ?_).widen ?_ ?_
    · rintro _ _ ⟨q, rfl⟩ ⟨j, r, hj, rfl⟩ hbefore
      simp only [InList.Before] at hbefore
      omega
    · rintro _ (⟨q, rfl⟩ | ⟨j, q, hj, rfl⟩)
      · exact ⟨i, q, le_rfl, rfl⟩
      · exact ⟨j, q, by omega, rfl⟩
    · rintro _ ⟨j, q, hj, rfl⟩
      rcases hj.eq_or_lt with rfl | hj
      · exact .inl (.inl ⟨q, rfl⟩)
      · exact .inl (.inr ⟨j, q, hj, rfl⟩)

theorem compareList_searched
    (h : ∀ x y, Searched before (read x) (read y) (fun _ => True) (compare x y))
    (likeness : α → α → Nat) (actual expected : List α) :
    Searched (InList.Before before) (readList read actual) (readList read expected)
      (fun _ => True) (compareList false compare likeness actual expected) := by
  by_cases hlen : actual.length = expected.length
  · simp only [compareList, hlen, ne_eq, not_true_eq_false, if_false, Bool.false_eq_true]
    refine (comparePositions_searched h 0 hlen).widen (fun _ _ => trivial) fun p _ => ?_
    cases p with
    | length => simp [Alike, readList, hlen, Component.Equal]
    | item i => simp [Alike, readList]
    | inside i q => exact .inl ⟨i, q, Nat.zero_le i, rfl⟩
  · simp only [compareList, ne_eq, hlen, not_false_eq_true, if_true]
    refine .differs (p := InList.length) trivial (fun q _ hq => ?_) ?_
    · -- Nothing of a list comes before its length.
      cases q <;> simp [InList.Before] at hq
    · simp [Alike, readList, hlen, Component.Equal]

end

/-! ## The tree -/

namespace Rules

theorem comparePoint_searched (x y : Point) :
    Searched PointPlace.Before x.component? y.component? (fun _ => True) (comparePoint x y) := by
  have hvalue : Searched PointPlace.Before x.component? y.component? (· = .value) _ :=
    compareScalar_searched shows_value rfl rfl (by simp [PointPlace.Before, PointPlace.part])
  have hstart : Searched PointPlace.Before x.component? y.component? (· = .startTime) _ :=
    compareOptional_searched shows_instant rfl rfl (by simp [PointPlace.Before, PointPlace.part])
  have htime : Searched PointPlace.Before x.component? y.component? (· = .time) _ :=
    compareOptional_searched shows_instant rfl rfl (by simp [PointPlace.Before, PointPlace.part])
  have hfields : Searched PointPlace.Before x.component? y.component?
      (fun p => ∃ key, p = .field key) _ :=
    compareAttributes_searched (fun _ => rfl) (fun _ => rfl)
      (by simp [PointPlace.Before, PointPlace.part])
  refine (hvalue.orElse (hstart.orElse (htime.orElse hfields ?_) ?_) ?_).widen
    (fun _ _ => trivial) fun p _ => ?_
  · rintro _ _ rfl ⟨_, rfl⟩
    simp [PointPlace.Before, PointPlace.part]
  · rintro _ _ rfl (rfl | ⟨_, rfl⟩) <;> simp [PointPlace.Before, PointPlace.part]
  · rintro _ _ rfl (rfl | rfl | ⟨_, rfl⟩) <;> simp [PointPlace.Before, PointPlace.part]
  · cases p <;> simp

variable {rules : Rules}

theorem compareEntry_searched (hpoint : rules.ignoresOrder .point = false) (x y : Entry) :
    Searched EntryPlace.Before x.component? y.component? (fun _ => True)
      (rules.compareEntry x y) := by
  have hname : Searched EntryPlace.Before x.component? y.component? (· = .name) _ :=
    compareScalar_searched shows_text rfl rfl (by simp [EntryPlace.Before, EntryPlace.part])
  have hkind : Searched EntryPlace.Before x.component? y.component? (· = .kind) _ :=
    compareScalar_searched shows_kind rfl rfl (by simp [EntryPlace.Before, EntryPlace.part])
  have hunit : Searched EntryPlace.Before x.component? y.component? (· = .unit) _ :=
    compareOptional_searched shows_text rfl rfl (by simp [EntryPlace.Before, EntryPlace.part])
  have hfields : Searched EntryPlace.Before x.component? y.component?
      (fun p => ∃ key, p = .field key) _ :=
    compareAttributes_searched (fun _ => rfl) (fun _ => rfl)
      (by simp [EntryPlace.Before, EntryPlace.part])
  have hlist := compareList_searched comparePoint_searched Point.likeness x.points y.points
  have hpoints : Searched EntryPlace.Before x.component? y.component?
      (fun p => ∃ place, p = .points place) _ :=
    hlist.within EntryPlace.points (fun _ => rfl) (fun _ => rfl)
      (by simp [EntryPlace.Before, EntryPlace.part])
  rw [compareEntry, hpoint]
  refine (hname.orElse (hkind.orElse (hunit.orElse (hfields.orElse hpoints ?_) ?_) ?_) ?_).widen
    (fun _ _ => trivial) fun p _ => ?_
  · rintro _ _ ⟨_, rfl⟩ ⟨_, rfl⟩
    simp [EntryPlace.Before, EntryPlace.part]
  · rintro _ _ rfl (⟨_, rfl⟩ | ⟨_, rfl⟩) <;> simp [EntryPlace.Before, EntryPlace.part]
  · rintro _ _ rfl (rfl | ⟨_, rfl⟩ | ⟨_, rfl⟩) <;> simp [EntryPlace.Before, EntryPlace.part]
  · rintro _ _ rfl (rfl | rfl | ⟨_, rfl⟩ | ⟨_, rfl⟩) <;>
      simp [EntryPlace.Before, EntryPlace.part]
  · cases p <;> simp

theorem compareScope_searched (hentry : rules.ignoresOrder .entry = false)
    (hpoint : rules.ignoresOrder .point = false) (x y : Scope) :
    Searched ScopePlace.Before x.component? y.component? (fun _ => True)
      (rules.compareScope x y) := by
  have hname : Searched ScopePlace.Before x.component? y.component? (· = .name) _ :=
    compareScalar_searched shows_text rfl rfl (by simp [ScopePlace.Before, ScopePlace.part])
  have hversion : Searched ScopePlace.Before x.component? y.component? (· = .version) _ :=
    compareOptional_searched shows_text rfl rfl (by simp [ScopePlace.Before, ScopePlace.part])
  have hfields : Searched ScopePlace.Before x.component? y.component?
      (fun p => ∃ key, p = .field key) _ :=
    compareAttributes_searched (fun _ => rfl) (fun _ => rfl)
      (by simp [ScopePlace.Before, ScopePlace.part])
  have hlist := compareList_searched (compareEntry_searched hpoint) Entry.likeness x.entries
    y.entries
  have hentries : Searched ScopePlace.Before x.component? y.component?
      (fun p => ∃ place, p = .entries place) _ :=
    hlist.within ScopePlace.entries (fun _ => rfl) (fun _ => rfl)
      (by simp [ScopePlace.Before, ScopePlace.part])
  rw [compareScope, hentry]
  refine (hname.orElse (hversion.orElse (hfields.orElse hentries ?_) ?_) ?_).widen
    (fun _ _ => trivial) fun p _ => ?_
  · rintro _ _ ⟨_, rfl⟩ ⟨_, rfl⟩
    simp [ScopePlace.Before, ScopePlace.part]
  · rintro _ _ rfl (⟨_, rfl⟩ | ⟨_, rfl⟩) <;> simp [ScopePlace.Before, ScopePlace.part]
  · rintro _ _ rfl (rfl | ⟨_, rfl⟩ | ⟨_, rfl⟩) <;> simp [ScopePlace.Before, ScopePlace.part]
  · cases p <;> simp

theorem compareResource_searched (hscope : rules.ignoresOrder .scope = false)
    (hentry : rules.ignoresOrder .entry = false) (hpoint : rules.ignoresOrder .point = false)
    (x y : Resource) :
    Searched ResourcePlace.Before x.component? y.component? (fun _ => True)
      (rules.compareResource x y) := by
  have hfields : Searched ResourcePlace.Before x.component? y.component?
      (fun p => ∃ key, p = .field key) _ :=
    compareAttributes_searched (fun _ => rfl) (fun _ => rfl)
      (by simp [ResourcePlace.Before, ResourcePlace.part])
  have hlist := compareList_searched (compareScope_searched hentry hpoint) Scope.likeness x.scopes
    y.scopes
  have hscopes : Searched ResourcePlace.Before x.component? y.component?
      (fun p => ∃ place, p = .scopes place) _ :=
    hlist.within ResourcePlace.scopes (fun _ => rfl) (fun _ => rfl)
      (by simp [ResourcePlace.Before, ResourcePlace.part])
  rw [compareResource, hscope]
  refine (hfields.orElse hscopes ?_).widen (fun _ _ => trivial) fun p _ => ?_
  · rintro _ _ ⟨_, rfl⟩ ⟨_, rfl⟩
    simp [ResourcePlace.Before, ResourcePlace.part]
  · cases p <;> simp

theorem ignoresOrder_iff {level : Level} :
    rules.ignoresOrder level = true ↔ Rule.ignoreOrder level ∈ rules := by
  simp only [ignoresOrder, List.any_eq_true]
  constructor
  · rintro ⟨rule, hmem, hrule⟩
    split at hrule
    · rwa [beq_iff_eq.mp hrule] at hmem
    · contradiction
  · exact fun h => ⟨_, h, beq_self_eq_true level⟩

theorem compareNormal_searched (h : ∀ level, Rule.ignoreOrder level ∉ rules) (x y : Batch) :
    Searched Place.Before x.component? y.component? (fun _ => True)
      (rules.compareNormal x y) := by
  have hordered : ∀ level, rules.ignoresOrder level = false :=
    fun level => Bool.eq_false_iff.mpr fun htrue => h level (ignoresOrder_iff.mp htrue)
  have hsignal : Searched Place.Before x.component? y.component? (· = .signal) _ :=
    compareScalar_searched shows_signal rfl rfl (by simp [Place.Before])
  have hlist := compareList_searched
    (compareResource_searched (hordered .scope) (hordered .entry) (hordered .point))
    Resource.likeness x.resources y.resources
  have hresources : Searched Place.Before x.component? y.component?
      (fun p => ∃ place, p = .resources place) _ :=
    hlist.within Place.resources (fun _ => rfl) (fun _ => rfl) (by simp [Place.Before])
  rw [compareNormal, hordered]
  refine (hsignal.orElse hresources ?_).widen (fun _ _ => trivial) fun p _ => ?_
  · rintro _ _ rfl ⟨_, rfl⟩
    simp [Place.Before]
  · cases p <;> simp

end Rules

/-! ## Faithful reports -/

/-- A mismatch that reports the first place where the sides differ. -/
structure FirstDifference (before : ι → ι → Prop) (a e : ι → Option Component)
    (m : Mismatch ι) : Prop where
  alike : ∀ p, before p m.place → Alike a e p
  differs : ¬ Alike a e m.place
  expected : m.expected = (e m.place).map Component.display
  actual : m.actual = (a m.place).map Component.display
  reason : m.reason = Component.reason (a m.place) (e m.place)

theorem Searched.firstDifference {before : ι → ι → Prop} {a e : ι → Option Component}
    {m : Mismatch ι} (h : Searched before a e (fun _ => True) (some m)) :
    FirstDifference before a e m := by
  cases h with
  | differs _ hbefore hdiffers =>
    exact ⟨fun q hq => hbefore q trivial hq, hdiffers, rfl, rfl, rfl⟩

/-- Without a rule on order, the path of a mismatch names one place, and the mismatch reports the
first difference between the normal forms. -/
theorem Rules.compare_faithful {rules : Rules} (h : ∀ level, Rule.ignoreOrder level ∉ rules)
    {actual expected : Batch} {m : Mismatch Place}
    (hm : rules.compare actual expected = some m) :
    (∃! place : Place, place.path = m.place.path) ∧
      FirstDifference Place.Before (rules.normalize actual).component?
        (rules.normalize expected).component? m := by
  refine ⟨⟨m.place, rfl, fun place hplace => Place.path_injective hplace⟩, ?_⟩
  have hsearched := compareNormal_searched h (rules.normalize actual) (rules.normalize expected)
  rw [← compare, hm] at hsearched
  exact hsearched.firstDifference

def Batch.ofScope (version : Option String) (fields : List (String × Value)) : Batch :=
  ⟨.metrics, [⟨.nil, [{ name := "app", version, attributes := .ofFields fields }]⟩]⟩

/-- A key with a quote and a bracket, in scopes whose versions the rules leave out. -/
theorem Rules.compare_faithful_quoted :
    ∃ m, Rules.compare [.ignoreScopeVersion] (.ofScope (some "1") [("a\"]", .bool true)])
        (.ofScope none [("a\"]", .bool false)]) = some m ∧
      m.text = "resources[0].scopes[0].attributes[\"a\\\"]\"] (value differs): " ++
        "expected false, actual true" ∧
      (∃! place : Place, place.path = m.place.path) ∧
      FirstDifference Place.Before
        (Rules.normalize [.ignoreScopeVersion]
          (.ofScope (some "1") [("a\"]", .bool true)])).component?
        (Rules.normalize [.ignoreScopeVersion]
          (.ofScope none [("a\"]", .bool false)])).component? m := by
  have hm : Rules.compare [.ignoreScopeVersion] (.ofScope (some "1") [("a\"]", .bool true)])
      (.ofScope none [("a\"]", .bool false)]) =
      some ⟨.resources (.inside 0 (.scopes (.inside 0 (.field "a\"]")))), some "false",
        some "true", .valueDiffers⟩ := by decide +kernel
  exact ⟨_, hm, by decide +kernel, compare_faithful (by simp) hm⟩

end GoldenCapture
