import GoldenCapture.Proofs.Compare.Agreement
import GoldenCapture.Proofs.Compare.Surplus

/-!
# Reports where order is ignored

The first expected item that is left without a twin is reported, against the actual item most like
it among those that are left without one.
-/

namespace GoldenCapture

variable {ι κ α : Type}

/-! ## The item most like another -/

theorem takeBest?_eq_none {score : α → Nat} {as : List α} :
    takeBest? score as = none ↔ as = [] := by
  cases as with
  | nil => simp [takeBest?]
  | cons a as =>
    simp only [takeBest?, reduceCtorEq, iff_false]
    split
    · simp
    · split <;> simp

theorem of_takeBest?_eq_some {score : α → Nat} {as others : List α} {best : α}
    (h : takeBest? score as = some (best, others)) :
    ∃ pre post, as = pre ++ best :: post ∧ (∀ a ∈ pre, score a < score best) ∧
      ∀ a ∈ post, score a ≤ score best := by
  induction as generalizing best others with
  | nil => simp [takeBest?] at h
  | cons a as ih =>
    simp only [takeBest?] at h
    split at h
    · rename_i hnone
      obtain ⟨rfl, rfl⟩ : a = best ∧ as = others := by simpa using h
      exact ⟨[], as, rfl, by simp, by simp [takeBest?_eq_none.mp hnone]⟩
    · rename_i b bs hb
      obtain ⟨pre, post, hsplit, hpre, hpost⟩ := ih hb
      split at h
      · rename_i hlt
        obtain ⟨rfl, -⟩ : b = best ∧ a :: bs = others := by simpa using h
        exact ⟨a :: pre, post, by rw [hsplit]; rfl, by simpa using ⟨hlt, hpre⟩, hpost⟩
      · rename_i hle
        obtain ⟨rfl, -⟩ : a = best ∧ as = others := by simpa using h
        refine ⟨[], as, rfl, by simp, fun x hx => ?_⟩
        have hxb : score x ≤ score b := by
          rw [hsplit] at hx
          rcases List.mem_append.mp hx with hx | hx
          · exact (hpre x hx).le
          · rcases List.mem_cons.mp hx with rfl | hx
            · exact le_rfl
            · exact hpost x hx
        exact hxb.trans (not_lt.mp hle)

/-! ## Reports with a counterpart -/

/-- A comparison that does not report an item without a counterpart. -/
def Countered (report : Option (Mismatch ι)) : Prop :=
  ∀ m, report = some m → m.reason ≠ .noCounterpart

namespace Countered

theorem none : Countered (none : Option (Mismatch ι)) := by simp [Countered]

theorem within {report : Option (Mismatch κ)} (h : Countered report) (f : κ → ι) :
    Countered (report.map (·.within f)) := by
  intro m hm
  obtain ⟨n, hn, rfl⟩ := Option.map_eq_some_iff.mp hm
  exact h n hn

theorem orElse {report later : Option (Mismatch ι)} (h : Countered report)
    (h' : Countered later) : Countered (report <|> later) := by
  cases report with
  | none => exact h'
  | some m => exact h

end Countered

theorem compareOptional_countered (place : ι) (same : α → α → Bool) (text : α → String)
    (actual expected : Option α) :
    Countered (compareOptional place same text actual expected) := by
  rintro m hm hreason
  unfold compareOptional at hm
  split at hm
  · contradiction
  · split at hm
    · contradiction
    · simp [← Option.some.inj hm] at hreason
  · simp [← Option.some.inj hm] at hreason
  · simp [← Option.some.inj hm] at hreason

theorem compareScalar_countered (place : ι) (same : α → α → Bool) (text : α → String)
    (actual expected : α) : Countered (compareScalar place same text actual expected) :=
  compareOptional_countered _ _ _ _ _

theorem compareAttributes_countered (place : String → ι) (actual expected : Attributes) :
    Countered (compareAttributes place actual expected) := by
  intro m hm
  obtain ⟨key, -, hkey⟩ := List.exists_of_findSome?_eq_some hm
  exact compareOptional_countered _ _ _ _ _ m hkey

theorem comparePositions_countered {compare : α → α → Option (Mismatch ι)}
    (h : ∀ a e, Countered (compare a e)) (i : Nat) (actual expected : List α) :
    Countered (comparePositions compare i actual expected) := by
  induction actual generalizing i expected with
  | nil => simpa [comparePositions] using Countered.none
  | cons a actual ih =>
    cases expected with
    | nil => simpa [comparePositions] using Countered.none
    | cons e expected =>
      rw [comparePositions]
      split
      · rename_i m hm
        simpa [hm] using (h a e).within (InList.inside i)
      · exact ih (i + 1) expected

/-! ## Lists -/

section

variable (r : α → α → Prop) [DecidableRel r]

/-- The smallest index of an expected item that is left. -/
def FirstLeft (actual expected : List α) (i : Nat) : Prop :=
  Surplus r expected actual i ∧ ∀ k < i, ¬ Surplus r expected actual k

/-- The actual item most like `e` among those that have no twin on the expected side, with its
index; of several the first. -/
def MostLike (likeness : α → α → Nat) (actual expected : List α) (e : α) (j : Nat) (a : α) :
    Prop :=
  actual[j]? = some a ∧ (∀ i, ¬ Twins r actual expected j i) ∧
    ∀ k b, actual[k]? = some b → (∀ i, ¬ Twins r actual expected k i) →
      likeness b e ≤ likeness a e ∧ (k < j → likeness b e < likeness a e)

/-- What is reported on two lists of one length: the difference between the first expected item
that is left and the actual item most like it. -/
structure ReportsLeft (compare : α → α → Option (Mismatch ι)) (likeness : α → α → Nat)
    (actual expected : List α) (report : Option (Mismatch (InList ι))) : Prop where
  countered : Countered report
  isSome_iff : report.isSome = true ↔ ∃ i, Surplus r expected actual i
  first : ∀ i, FirstLeft r actual expected i → ∃ e j a m, expected[i]? = some e ∧
    MostLike r likeness actual expected e j a ∧ compare a e = some m ∧
    report = some (m.within (.inside i))

end

section

variable {r : α → α → Prop} [DecidableRel r] {compare : α → α → Option (Mismatch ι)}
  {likeness : α → α → Nat} {actual expected : List α}

theorem firstLeft_unique {i k : Nat} (hi : FirstLeft r actual expected i)
    (hk : FirstLeft r actual expected k) : i = k := by
  rcases lt_trichotomy i k with h | h | h
  · exact absurd hi.1 (hk.2 i h)
  · exact h
  · exact absurd hk.1 (hi.2 k h)

theorem surplus_iff_mem_spare (hr : Equivalence r) {xs ys : List α} {i : Nat} :
    Surplus r xs ys i ↔ ∃ x, (i, x) ∈ spare r (fun y => ys.countP (r · y)) 0 xs := by
  simp only [mem_spare_countP hr]
  constructor
  · rintro ⟨x, hx, hlt⟩
    exact ⟨x, hx, x, hx, hlt⟩
  · rintro ⟨x, -, h⟩
    exact h

theorem mostLike_of_takeBest? (hr : Equivalence r) {e a : α} {rest : List α}
    (h : takeBest? (fun a => likeness a e)
      ((spare r (fun y => expected.countP (r · y)) 0 actual).map Prod.snd) = some (a, rest)) :
    ∃ j, MostLike r likeness actual expected e j a := by
  obtain ⟨pre, post, hsplit, hpre, hpost⟩ := of_takeBest?_eq_some h
  obtain ⟨before, others, hspare, rfl, hothers⟩ := List.map_eq_append_iff.mp hsplit
  obtain ⟨⟨j, a⟩, later, rfl, rfl, rfl⟩ := List.map_eq_cons_iff.mp hothers
  have hsorted := spare_pairwise r (fun y => expected.countP (r · y)) 0 actual
  have hmem : ∀ k b, (k, b) ∈ spare r (fun y => expected.countP (r · y)) 0 actual ↔
      actual[k]? = some b ∧ Surplus r actual expected k := fun _ _ => mem_spare_countP hr
  rw [hspare] at hsorted hmem
  obtain ⟨hja, hj⟩ := (hmem j a).mp (by simp)
  refine ⟨j, hja, (surplus_iff_forall_not_twins hr hja).mp hj, fun k b hb hk => ?_⟩
  have hk := (surplus_iff_forall_not_twins hr hb).mpr hk
  rcases List.mem_append.mp ((hmem k b).mpr ⟨hb, hk⟩) with hbefore | hlater
  · have := hpre b (List.mem_map_of_mem hbefore)
    exact ⟨this.le, fun _ => this⟩
  · rcases List.mem_cons.mp hlater with heq | hlater
    · obtain ⟨rfl, rfl⟩ := Prod.mk.inj heq
      exact ⟨le_rfl, fun h => absurd h (lt_irrefl k)⟩
    · have hjk : j < k := by
        have := (List.pairwise_append.mp hsorted).2.1
        exact (List.pairwise_cons.mp this).1 (k, b) hlater
      exact ⟨hpost b (List.mem_map_of_mem hlater), fun h => absurd h hjk.not_gt⟩

theorem firstLeft_of_spare (hr : Equivalence r) {i : Nat} {e : α} {left : List (Nat × α)}
    (h : spare r (fun y => actual.countP (r · y)) 0 expected = (i, e) :: left) :
    expected[i]? = some e ∧ FirstLeft r actual expected i := by
  have hsorted := spare_pairwise r (fun y => actual.countP (r · y)) 0 expected
  rw [h] at hsorted
  obtain ⟨hie, hi⟩ := (mem_spare_countP hr).mp (h ▸ List.mem_cons_self)
  refine ⟨hie, hi, fun k hki hk => ?_⟩
  obtain ⟨y, hy⟩ := (surplus_iff_mem_spare hr).mp hk
  rw [h] at hy
  rcases List.mem_cons.mp hy with heq | hy
  · exact absurd (Prod.mk.inj heq).1 hki.ne
  · exact absurd ((List.pairwise_cons.mp hsorted).1 (k, y) hy) hki.not_gt

theorem compareList_cases (hr : Equivalence r) (hcompare : ∀ a e, compare a e = none ↔ r a e)
    (likeness : α → α → Nat) (hlen : actual.length = expected.length) :
    (compareList true compare likeness actual expected = none ∧
        ∀ i, ¬ Surplus r expected actual i) ∨
      ∃ i e j a m, FirstLeft r actual expected i ∧ expected[i]? = some e ∧
        MostLike r likeness actual expected e j a ∧ compare a e = some m ∧
        compareList true compare likeness actual expected = some (m.within (.inside i)) := by
  have hleft : (pairEqual compare 0 actual expected).1 = _ := pairEqual_left hr hcompare
  have hunused : (pairEqual compare 0 actual expected).2 = _ := pairEqual_unused hr hcompare
  have hcount := pairEqual_length compare 0 actual expected
  have hlists : compareList true compare likeness actual expected =
      compareLeft compare likeness (pairEqual compare 0 actual expected).1
        (pairEqual compare 0 actual expected).2 := by
    simp [compareList, hlen]
  rw [hlists]
  cases hcase : (pairEqual compare 0 actual expected).1 with
  | nil =>
    left
    refine ⟨by rw [compareLeft], fun i hi => ?_⟩
    obtain ⟨x, hx⟩ := (surplus_iff_mem_spare hr).mp hi
    simp [← hleft, hcase] at hx
  | cons x left =>
    right
    obtain ⟨i, e⟩ := x
    obtain ⟨hie, hfirst⟩ := firstLeft_of_spare hr (hleft ▸ hcase)
    -- As many actual items are left as expected ones, so one can be taken.
    cases hbest : takeBest? (fun a => likeness a e) (pairEqual compare 0 actual expected).2 with
    | none =>
      rw [takeBest?_eq_none.mp hbest, hcase, hlen] at hcount
      simp at hcount
    | some best =>
      obtain ⟨a, rest⟩ := best
      have hne := ne_none_of_left (hcase ▸ List.mem_cons_self) (mem_of_takeBest? hbest)
      obtain ⟨m, hm⟩ := Option.ne_none_iff_exists'.mp hne
      obtain ⟨j, hj⟩ := mostLike_of_takeBest? hr (hunused ▸ hbest)
      refine ⟨i, e, j, a, m, hfirst, hie, hj, hm, ?_⟩
      simp only [compareLeft, hbest, hm]

theorem compareList_countered (hr : Equivalence r)
    (hcompare : ∀ a e, compare a e = none ↔ r a e) (h : ∀ a e, Countered (compare a e))
    (unordered : Bool) (likeness : α → α → Nat) (actual expected : List α) :
    Countered (compareList unordered compare likeness actual expected) := by
  by_cases hlen : actual.length = expected.length
  · cases unordered with
    | false =>
      simpa [compareList, hlen] using comparePositions_countered h 0 actual expected
    | true =>
      rcases compareList_cases hr hcompare likeness hlen with ⟨hnone, -⟩ | hsome
      · rw [hnone]
        exact .none
      · obtain ⟨i, e, j, a, m, -, -, -, hm, hreport⟩ := hsome
        rw [hreport]
        intro n hn
        rw [← Option.some.inj hn]
        exact h a e m hm
  · intro m hm
    simp only [compareList, ne_eq, hlen, not_false_eq_true, if_true, Option.some.injEq] at hm
    simp [← hm]

theorem compareList_reportsLeft (hr : Equivalence r)
    (hcompare : ∀ a e, compare a e = none ↔ r a e) (h : ∀ a e, Countered (compare a e))
    (likeness : α → α → Nat) (hlen : actual.length = expected.length) :
    ReportsLeft r compare likeness actual expected
      (compareList true compare likeness actual expected) where
  countered := compareList_countered hr hcompare h true likeness actual expected
  isSome_iff := by
    rcases compareList_cases hr hcompare likeness hlen with ⟨hnone, hleft⟩ | hsome
    · simp [hnone, hleft]
    · obtain ⟨i, e, j, a, m, hi, -, -, -, hreport⟩ := hsome
      simpa [hreport] using ⟨i, hi.1⟩
  first i hi := by
    rcases compareList_cases hr hcompare likeness hlen with ⟨-, hleft⟩ | hsome
    · exact absurd hi.1 (hleft i)
    · obtain ⟨k, e, j, a, m, hk, he, hj, hm, hreport⟩ := hsome
      obtain rfl := firstLeft_unique hk hi
      exact ⟨e, j, a, m, he, hj, hm, hreport⟩

end

/-! ## Levels -/

def Level.Node : Level → Type
  | resource => Resource
  | scope => Scope
  | entry => Entry
  | point => Point

def Level.NodePlace : Level → Type
  | resource => ResourcePlace
  | scope => ScopePlace
  | entry => EntryPlace
  | point => PointPlace

def Level.likeness : (level : Level) → level.Node → level.Node → Nat
  | resource => Resource.likeness
  | scope => Scope.likeness
  | entry => Entry.likeness
  | point => Point.likeness

namespace Rules

def compareNode (rules : Rules) :
    (level : Level) → level.Node → level.Node → Option (Mismatch level.NodePlace)
  | .resource => rules.compareResource
  | .scope => rules.compareScope
  | .entry => rules.compareEntry
  | .point => comparePoint

def compareNodes (rules : Rules) (level : Level) :
    List level.Node → List level.Node → Option (Mismatch (InList level.NodePlace)) :=
  compareList (rules.ignoresOrder level) (rules.compareNode level) level.likeness

def NodesAgree (rules : Rules) : (level : Level) → level.Node → level.Node → Prop
  | .resource => rules.ResourcesAgree
  | .scope => rules.ScopesAgree
  | .entry => rules.EntriesAgree
  | .point => Point.Agree

theorem nodesAgree_equivalence (rules : Rules) (level : Level) :
    Equivalence (rules.NodesAgree level) :=
  match level with
  | .resource => rules.resourcesAgree_equivalence
  | .scope => rules.scopesAgree_equivalence
  | .entry => rules.entriesAgree_equivalence
  | .point => Point.Agree.equivalence

theorem compareNode_eq_none_iff (rules : Rules) {level : Level} (a e : level.Node) :
    rules.compareNode level a e = none ↔ rules.NodesAgree level a e :=
  match level with
  | .resource => rules.compareResource_eq_none_iff a e
  | .scope => rules.compareScope_eq_none_iff a e
  | .entry => rules.compareEntry_eq_none_iff a e
  | .point => comparePoint_eq_none_iff a e

instance (rules : Rules) (level : Level) : DecidableRel (rules.NodesAgree level) :=
  fun a e => decidable_of_iff _ (rules.compareNode_eq_none_iff a e)

theorem comparePoint_countered (a e : Point) : Countered (comparePoint a e) :=
  (compareScalar_countered _ _ _ _ _).orElse <|
    (compareOptional_countered _ _ _ _ _).orElse <|
    (compareOptional_countered _ _ _ _ _).orElse <| compareAttributes_countered _ _ _

theorem compareEntry_countered (rules : Rules) (a e : Entry) :
    Countered (rules.compareEntry a e) := by
  have hpoints := compareList_countered (r := rules.NodesAgree .point) Point.Agree.equivalence
    comparePoint_eq_none_iff comparePoint_countered (rules.ignoresOrder .point) Point.likeness
    a.points e.points
  exact (compareScalar_countered _ _ _ _ _).orElse <| (compareScalar_countered _ _ _ _ _).orElse <|
    (compareOptional_countered _ _ _ _ _).orElse <| (compareAttributes_countered _ _ _).orElse <|
    hpoints.within _

theorem compareScope_countered (rules : Rules) (a e : Scope) :
    Countered (rules.compareScope a e) := by
  have hentries := compareList_countered (r := rules.NodesAgree .entry)
    rules.entriesAgree_equivalence rules.compareEntry_eq_none_iff rules.compareEntry_countered
    (rules.ignoresOrder .entry) Entry.likeness a.entries e.entries
  exact (compareScalar_countered _ _ _ _ _).orElse <|
    (compareOptional_countered _ _ _ _ _).orElse <| (compareAttributes_countered _ _ _).orElse <|
    hentries.within _

theorem compareResource_countered (rules : Rules) (a e : Resource) :
    Countered (rules.compareResource a e) := by
  have hscopes := compareList_countered (r := rules.NodesAgree .scope)
    rules.scopesAgree_equivalence rules.compareScope_eq_none_iff rules.compareScope_countered
    (rules.ignoresOrder .scope) Scope.likeness a.scopes e.scopes
  exact (compareAttributes_countered _ _ _).orElse <| hscopes.within _

theorem compareNode_countered (rules : Rules) {level : Level} (a e : level.Node) :
    Countered (rules.compareNode level a e) :=
  match level with
  | .resource => rules.compareResource_countered a e
  | .scope => rules.compareScope_countered a e
  | .entry => rules.compareEntry_countered a e
  | .point => comparePoint_countered a e

/-- Where order is ignored, two lists of one length are reported by the first expected item
that is left, against the actual item most like it among those without a twin. -/
theorem compareNodes_reportsLeft {rules : Rules} {level : Level}
    (h : rules.ignoresOrder level = true) {actual expected : List level.Node}
    (hlen : actual.length = expected.length) :
    ReportsLeft (rules.NodesAgree level) (rules.compareNode level) level.likeness actual expected
      (rules.compareNodes level actual expected) := by
  rw [compareNodes, h]
  exact compareList_reportsLeft (rules.nodesAgree_equivalence level)
    rules.compareNode_eq_none_iff rules.compareNode_countered level.likeness hlen

def keyedPoint (value : Bool) (key : String) : Point :=
  { Point.ofValue (.bool value) with attributes := .ofFields [(key, .empty)] }

/-- Of two equal expected points one finds its twin; the other is held against the last actual
point, whose key it shares, and not against the one in between. -/
theorem compareNodes_reportsLeft_points :
    ReportsLeft (Rules.NodesAgree [.ignoreOrder .point] .point)
        (Rules.compareNode [.ignoreOrder .point] .point) (Level.likeness .point)
        [keyedPoint true "a", keyedPoint true "c", keyedPoint false "a"]
        [keyedPoint true "a", keyedPoint true "a", keyedPoint true "b"]
        (Rules.compareNodes [.ignoreOrder .point] .point
          [keyedPoint true "a", keyedPoint true "c", keyedPoint false "a"]
          [keyedPoint true "a", keyedPoint true "a", keyedPoint true "b"]) ∧
      Rules.compareNodes [.ignoreOrder .point] .point
          [keyedPoint true "a", keyedPoint true "c", keyedPoint false "a"]
          [keyedPoint true "a", keyedPoint true "a", keyedPoint true "b"] =
        some ⟨.inside 1 PointPlace.value, some "true", some "false", .valueDiffers⟩ :=
  ⟨compareNodes_reportsLeft rfl rfl, by rfl⟩

end Rules

end GoldenCapture
