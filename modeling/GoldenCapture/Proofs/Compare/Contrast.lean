import GoldenCapture.Proofs.Compare.FirstDifference
import GoldenCapture.Proofs.Compare.Leftovers
import GoldenCapture.Proofs.Value.Reading

/-!
# Reports that show a difference

Two components that differ have different texts, unless they are values that differ in the types
of their numbers only. So a report that a value differs shows two texts.
-/

namespace GoldenCapture

variable {ι κ α : Type}

/-! ## Components that differ -/

/-- Two components of one sort that are not equal. -/
inductive Component.Differ : Component → Component → Prop
  | signal {s t : Signal} (h : s ≠ t) : Differ (signal s) (signal t)
  | text {s t : String} (h : s ≠ t) : Differ (text s) (text t)
  | kind {k l : EntryKind} (h : k ≠ l) : Differ (kind k) (kind l)
  | value {v w : Value} (h : ¬ v.Equal w) : Differ (value v) (value w)
  | instant {t u : UInt64} (h : t ≠ u) : Differ (instant t) (instant u)

/-- The texts of two components that differ, at parallel places of the two sides. -/
structure Contrast (a e : ι → Option Component) (parallel : ι → ι → Prop) (m : Mismatch ι)
    (x y : Component) : Prop where
  expected_at : e m.place = some x
  actual_at : ∃ place, parallel m.place place ∧ a place = some y
  differ : x.Differ y
  expected : m.expected = some x.display
  actual : m.actual = some y.display

/-- A comparison that reports differing values by their contrast. -/
def Contrasts (a e : ι → Option Component) (parallel : ι → ι → Prop)
    (report : Option (Mismatch ι)) : Prop :=
  ∀ m, report = some m → m.reason = .valueDiffers → ∃ x y, Contrast a e parallel m x y

namespace Contrasts

variable {a e : ι → Option Component} {parallel : ι → ι → Prop}

theorem none : Contrasts a e parallel none := by simp [Contrasts]

theorem orElse {report later : Option (Mismatch ι)} (h : Contrasts a e parallel report)
    (h' : Contrasts a e parallel later) : Contrasts a e parallel (report <|> later) := by
  cases report with
  | none => exact h'
  | some m => exact h

theorem within {a' e' : κ → Option Component} {parallel' : κ → κ → Prop}
    {report : Option (Mismatch κ)} (h : Contrasts a' e' parallel' report) (f g : κ → ι)
    (ha : ∀ p, a (g p) = a' p) (he : ∀ p, e (f p) = e' p)
    (hparallel : ∀ p q, parallel' p q → parallel (f p) (g q)) :
    Contrasts a e parallel (report.map (·.within f)) := by
  intro m hm hreason
  obtain ⟨n, hn, rfl⟩ := Option.map_eq_some_iff.mp hm
  obtain ⟨x, y, hcontrast⟩ := h n hn hreason
  obtain ⟨place, hplace, hy⟩ := hcontrast.actual_at
  exact ⟨x, y, (he _).trans hcontrast.expected_at, ⟨g place, hparallel _ _ hplace, (ha _).trans hy⟩,
    hcontrast.differ, hcontrast.expected, hcontrast.actual⟩

end Contrasts

section

variable {a e : ι → Option Component} {parallel : ι → ι → Prop} {place : ι}
  {same : α → α → Bool} {text : α → String} {component : α → Component}

theorem compareOptional_contrasts (hparallel : ∀ p, parallel p p) (h : Shows same text component)
    (hdiffer : ∀ x y, ¬ (component y).Equal (component x) → (component x).Differ (component y))
    {actual expected : Option α} (ha : a place = actual.map component)
    (he : e place = expected.map component) :
    Contrasts a e parallel (compareOptional place same text actual expected) := by
  intro m hm hreason
  unfold compareOptional at hm
  split at hm
  · cases hm
  · rename_i x y
    split at hm
    · cases hm
    · rename_i hsame
      cases hm
      rw [h.same_iff] at hsame
      exact ⟨component x, component y, he, ⟨place, hparallel place, ha⟩, hdiffer x y hsame,
        congrArg some (h.display x).symm, congrArg some (h.display y).symm⟩
  · cases hm
    cases hreason
  · cases hm
    cases hreason

theorem compareAttributes_contrasts (hparallel : ∀ p, parallel p p) {place : String → ι}
    {actual expected : Attributes} (ha : ∀ key, a (place key) = actual.component? key)
    (he : ∀ key, e (place key) = expected.component? key) :
    Contrasts a e parallel (compareAttributes place actual expected) := by
  intro m hm hreason
  obtain ⟨key, -, hkey⟩ := List.exists_of_findSome?_eq_some hm
  refine compareOptional_contrasts hparallel shows_value (fun x y h => ?_) (ha key) (he key) m hkey
    hreason
  exact .value fun hequal => h hequal.symm

end

/-! ## Lists -/

/-- Places that are the same but for the items that they are in. -/
def InList.Parallel (inner : ι → ι → Prop) : InList ι → InList ι → Prop
  | length, length => True
  | item _, item _ => True
  | inside _ p, inside _ q => inner p q
  | _, _ => False

section

variable {read : α → ι → Option Component} {inner : ι → ι → Prop}
  {compare : α → α → Option (Mismatch ι)}

theorem contrasts_inside (h : ∀ a e, Contrasts (read a) (read e) inner (compare a e))
    {actual expected : List α} {i j : Nat} {x y : α} (hx : actual[j]? = some x)
    (hy : expected[i]? = some y) :
    Contrasts (readList read actual) (readList read expected) (InList.Parallel inner)
      ((compare x y).map (·.within (.inside i))) := by
  refine (h x y).within (InList.inside i) (InList.inside j) (fun p => ?_) (fun p => ?_)
    fun p q hpq => hpq
  · simp [readList, hx]
  · simp [readList, hy]

theorem comparePositions_contrasts (h : ∀ a e, Contrasts (read a) (read e) inner (compare a e))
    {actual expected as es : List α} {i : Nat} (ha : actual.drop i = as)
    (he : expected.drop i = es) :
    Contrasts (readList read actual) (readList read expected) (InList.Parallel inner)
      (comparePositions compare i as es) := by
  induction as generalizing i es with
  | nil => simpa [comparePositions] using Contrasts.none
  | cons x as ih =>
    cases es with
    | nil => simpa [comparePositions] using Contrasts.none
    | cons y es =>
      have hx : actual[i]? = some x := by rw [← List.head?_drop, ha]; rfl
      have hy : expected[i]? = some y := by rw [← List.head?_drop, he]; rfl
      rw [comparePositions_cons]
      refine (contrasts_inside h hx hy).orElse (ih ?_ ?_)
      · rw [← List.drop_drop, ha]; rfl
      · rw [← List.drop_drop, he]; rfl

theorem compareList_contrasts {r : α → α → Prop} [DecidableRel r] (hr : Equivalence r)
    (hcompare : ∀ a e, compare a e = none ↔ r a e)
    (h : ∀ a e, Contrasts (read a) (read e) inner (compare a e)) (unordered : Bool)
    (likeness : α → α → Nat) (actual expected : List α) :
    Contrasts (readList read actual) (readList read expected) (InList.Parallel inner)
      (compareList unordered compare likeness actual expected) := by
  by_cases hlen : actual.length = expected.length
  · cases unordered with
    | false =>
      simpa [compareList, hlen] using comparePositions_contrasts h (i := 0) rfl rfl
    | true =>
      obtain ⟨hnone, -⟩ | hsome := compareList_cases hr hcompare likeness hlen
      · rw [hnone]
        exact .none
      · obtain ⟨i, e, j, a, m, -, he, hj, hm, hreport⟩ := hsome
        have hinside := contrasts_inside h hj.1 he
        rw [hm] at hinside
        rw [hreport]
        exact hinside
  · intro m hm hreason
    simp only [compareList, ne_eq, hlen, not_false_eq_true, if_true, Option.some.injEq] at hm
    subst hm
    cases hreason

end

/-! ## Levels -/

/-- Places of the same part, where an item of one side stands for the item it is held against. -/
def EntryPlace.Parallel : EntryPlace → EntryPlace → Prop
  | points place, points other => place.Parallel Eq other
  | place, other => place = other

def ScopePlace.Parallel : ScopePlace → ScopePlace → Prop
  | entries place, entries other => place.Parallel EntryPlace.Parallel other
  | place, other => place = other

def ResourcePlace.Parallel : ResourcePlace → ResourcePlace → Prop
  | scopes place, scopes other => place.Parallel ScopePlace.Parallel other
  | place, other => place = other

/-- The same place but for the indices of the items on the way to it. -/
def Place.Parallel : Place → Place → Prop
  | resources place, resources other => place.Parallel ResourcePlace.Parallel other
  | place, other => place = other

theorem InList.Parallel.refl {inner : ι → ι → Prop} (h : ∀ p, inner p p) (place : InList ι) :
    place.Parallel inner place := by
  cases place with
  | length | item => trivial
  | inside _ p => exact h p

theorem EntryPlace.Parallel.refl (place : EntryPlace) : place.Parallel place := by
  cases place with
  | points place => exact InList.Parallel.refl (fun _ => rfl) place
  | name | kind | unit | field => rfl

theorem ScopePlace.Parallel.refl (place : ScopePlace) : place.Parallel place := by
  cases place with
  | entries place => exact InList.Parallel.refl EntryPlace.Parallel.refl place
  | name | version | field => rfl

theorem ResourcePlace.Parallel.refl (place : ResourcePlace) : place.Parallel place := by
  cases place with
  | scopes place => exact InList.Parallel.refl ScopePlace.Parallel.refl place
  | field => rfl

theorem Place.Parallel.refl (place : Place) : place.Parallel place := by
  cases place with
  | resources place => exact InList.Parallel.refl ResourcePlace.Parallel.refl place
  | signal => rfl

theorem differ_value (v w : Value) (h : ¬ (Component.value w).Equal (.value v)) :
    (Component.value v).Differ (.value w) := .value fun hequal => h hequal.symm

theorem differ_text (s t : String) (h : ¬ (Component.text t).Equal (.text s)) :
    (Component.text s).Differ (.text t) := .text fun hequal => h (by rw [hequal]; rfl)

theorem differ_kind (k l : EntryKind) (h : ¬ (Component.kind l).Equal (.kind k)) :
    (Component.kind k).Differ (.kind l) := .kind fun hequal => h (by rw [hequal]; rfl)

theorem differ_signal (s t : Signal) (h : ¬ (Component.signal t).Equal (.signal s)) :
    (Component.signal s).Differ (.signal t) := .signal fun hequal => h (by rw [hequal]; rfl)

theorem differ_instant (t u : UInt64) (h : ¬ (Component.instant u).Equal (.instant t)) :
    (Component.instant t).Differ (.instant u) := .instant fun hequal => h (by rw [hequal]; rfl)

namespace Rules

theorem comparePoint_contrasts (a e : Point) :
    Contrasts a.component? e.component? Eq (comparePoint a e) := by
  have hrefl : ∀ p : PointPlace, p = p := fun _ => rfl
  refine .orElse ?value <| .orElse ?startTime <| .orElse ?time ?fields
  case value => exact compareOptional_contrasts hrefl shows_value differ_value rfl rfl
  case startTime => exact compareOptional_contrasts hrefl shows_instant differ_instant rfl rfl
  case time => exact compareOptional_contrasts hrefl shows_instant differ_instant rfl rfl
  case fields => exact compareAttributes_contrasts hrefl (fun _ => rfl) fun _ => rfl

theorem compareEntry_contrasts (rules : Rules) (a e : Entry) :
    Contrasts a.component? e.component? EntryPlace.Parallel (rules.compareEntry a e) := by
  have hrefl := EntryPlace.Parallel.refl
  have hpoints := compareList_contrasts (rules.nodesAgree_equivalence .point)
    (@compareNode_eq_none_iff rules .point) comparePoint_contrasts
    (rules.ignoresOrder .point) Point.likeness a.points e.points
  refine .orElse ?name <| .orElse ?kind <| .orElse ?unit <| .orElse ?fields ?points
  case name => exact compareOptional_contrasts hrefl shows_text differ_text rfl rfl
  case kind => exact compareOptional_contrasts hrefl shows_kind differ_kind rfl rfl
  case unit => exact compareOptional_contrasts hrefl shows_text differ_text rfl rfl
  case fields => exact compareAttributes_contrasts hrefl (fun _ => rfl) fun _ => rfl
  case points =>
    exact hpoints.within EntryPlace.points EntryPlace.points (fun _ => rfl) (fun _ => rfl)
      fun _ _ h => h

theorem compareScope_contrasts (rules : Rules) (a e : Scope) :
    Contrasts a.component? e.component? ScopePlace.Parallel (rules.compareScope a e) := by
  have hrefl := ScopePlace.Parallel.refl
  have hentries := compareList_contrasts (rules.nodesAgree_equivalence .entry)
    (@compareNode_eq_none_iff rules .entry) rules.compareEntry_contrasts
    (rules.ignoresOrder .entry) Entry.likeness a.entries e.entries
  refine .orElse ?name <| .orElse ?version <| .orElse ?fields ?entries
  case name => exact compareOptional_contrasts hrefl shows_text differ_text rfl rfl
  case version => exact compareOptional_contrasts hrefl shows_text differ_text rfl rfl
  case fields => exact compareAttributes_contrasts hrefl (fun _ => rfl) fun _ => rfl
  case entries =>
    exact hentries.within ScopePlace.entries ScopePlace.entries (fun _ => rfl) (fun _ => rfl)
      fun _ _ h => h

theorem compareResource_contrasts (rules : Rules) (a e : Resource) :
    Contrasts a.component? e.component? ResourcePlace.Parallel (rules.compareResource a e) := by
  have hrefl := ResourcePlace.Parallel.refl
  have hscopes := compareList_contrasts (rules.nodesAgree_equivalence .scope)
    (@compareNode_eq_none_iff rules .scope) rules.compareScope_contrasts
    (rules.ignoresOrder .scope) Scope.likeness a.scopes e.scopes
  refine .orElse ?fields ?scopes
  case fields => exact compareAttributes_contrasts hrefl (fun _ => rfl) fun _ => rfl
  case scopes =>
    exact hscopes.within ResourcePlace.scopes ResourcePlace.scopes (fun _ => rfl) (fun _ => rfl)
      fun _ _ h => h

theorem compareNormal_contrasts (rules : Rules) (a e : Batch) :
    Contrasts a.component? e.component? Place.Parallel (rules.compareNormal a e) := by
  have hresources := compareList_contrasts (rules.nodesAgree_equivalence .resource)
    (@compareNode_eq_none_iff rules .resource) rules.compareResource_contrasts
    (rules.ignoresOrder .resource) Resource.likeness a.resources e.resources
  refine .orElse ?signal ?resources
  case signal =>
    exact compareOptional_contrasts Place.Parallel.refl shows_signal differ_signal rfl rfl
  case resources =>
    exact hresources.within Place.resources Place.resources (fun _ => rfl) (fun _ => rfl)
      fun _ _ h => h

end Rules

/-! ## Texts -/

/-- Every key of a map inside a value passes. -/
def Component.EveryKey (pass : String → Prop) : Component → Prop
  | value v => v.EveryKey pass
  | _ => True

/-- Values that differ in the types of their numbers, and in nothing else. -/
inductive Component.Retyped : Component → Component → Prop
  | value {v w : Value} (like : Value.Like Value.Rewritten v w)
      (types : ¬ Value.Like Value.Rewritten.Typed v w) : Retyped (value v) (value w)

theorem Signal.name_injective {s t : Signal} (h : s.name = t.name) : s = t := by
  cases s <;> cases t <;> first | rfl | simp [name] at h

theorem EntryKind.name_injective {k l : EntryKind} (h : k.name = l.name) : k = l := by
  cases k <;> cases l <;> first | rfl | simp [name] at h

theorem Component.Differ.retyped {x y : Component} (h : x.Differ y) (hx : x.EveryKey LegibleKey)
    (hy : y.EveryKey LegibleKey) (htext : x.display = y.display) : x.Retyped y := by
  cases h with
  | signal h => exact absurd (Signal.name_injective htext) h
  | text h => exact absurd htext h
  | kind h => exact absurd (EntryKind.name_injective htext) h
  | instant h => exact absurd (UInt64.toNat_inj.mp (Nat.repr_inj.mp htext)) h
  | value h =>
    exact .value (Value.like_of_display hx hy htext) fun hlike => h (Value.equal_of_like hlike)

/-- Where a report says that a value differs, it shows what the two sides hold at parallel places
of their normal forms. If all keys are legible, both texts are equal only for values that differ
in the types of their numbers and in nothing else. -/
theorem Rules.compare_contrasts {rules : Rules} {actual expected : Batch} {m : Mismatch Place}
    (h : rules.compare actual expected = some m) (hreason : m.reason = .valueDiffers) :
    ∃ x y, Contrast (rules.normalize actual).component? (rules.normalize expected).component?
        Place.Parallel m x y ∧
      (x.EveryKey LegibleKey → y.EveryKey LegibleKey → m.expected = m.actual → x.Retyped y) := by
  obtain ⟨x, y, hcontrast⟩ := compareNormal_contrasts _ _ _ m h hreason
  refine ⟨x, y, hcontrast, fun hx hy htext => hcontrast.differ.retyped hx hy ?_⟩
  rw [hcontrast.expected, hcontrast.actual] at htext
  exact Option.some.inj htext

def Batch.ofField (v : Value) : Batch := .ofScope none [("a", v)]

/-- A number and a string of its digits. -/
theorem Rules.compare_contrasts_field :
    ∃ m, Rules.compare [] (.ofField (.int 1)) (.ofField (.string "1")) = some m ∧
      m.reason = .valueDiffers ∧
      ∃ x y, Contrast (Rules.normalize [] (.ofField (.int 1))).component?
          (Rules.normalize [] (.ofField (.string "1"))).component? Place.Parallel m x y ∧
        (x.EveryKey LegibleKey → y.EveryKey LegibleKey → m.expected = m.actual → x.Retyped y) := by
  have hm : Rules.compare [] (.ofField (.int 1)) (.ofField (.string "1")) =
      some ⟨.resources (.inside 0 (.scopes (.inside 0 (.field "a")))), some "\"1\"", some "1",
        .valueDiffers⟩ := by decide +kernel
  exact ⟨_, hm, rfl, compare_contrasts hm rfl⟩

def Double.one : Double := ⟨0x3FF0000000000000⟩

/-- An integer and a double of one value differ, and are shown by one text. -/
theorem Rules.compare_one_text_of_types :
    ∃ m, Rules.compare [] (.ofField (.int 1)) (.ofField (.double .one)) = some m ∧
      m.reason = .valueDiffers ∧ m.expected = m.actual := by
  have hm : Rules.compare [] (.ofField (.int 1)) (.ofField (.double .one)) =
      some ⟨.resources (.inside 0 (.scopes (.inside 0 (.field "a")))), some "1", some "1",
        .valueDiffers⟩ := by decide +kernel
  exact ⟨_, hm, rfl, rfl⟩

end GoldenCapture
