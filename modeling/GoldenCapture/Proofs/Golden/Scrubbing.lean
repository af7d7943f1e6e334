import GoldenCapture.Proofs.Golden.Canonical
import GoldenCapture.Proofs.Golden.Shape

/-!
# What a scrub drops

A scrub is described entry by entry, without the functions that do it: an entry that comes and goes
is left out, any other stays where it is with as many of its first points as are allowed. Main
statement: the scrub of a batch is the one batch of this description, and whatever is dropped on
the way to it is counted.
-/

namespace GoldenCapture

theorem forall₂_iff_eq_map {α β : Type} {r : α → β → Prop} {f : α → β}
    (h : ∀ a b, r a b ↔ b = f a) {as : List α} {bs : List β} :
    List.Forall₂ r as bs ↔ bs = as.map f := by
  induction as generalizing bs with
  | nil => simp
  | cons a as ih => cases bs <;> simp [h, ih]

/-! ## Counts -/

namespace Batch

variable (b : Batch)

theorem entries_mapEntries (f : Entry → Entry) : (b.mapEntries f).entries = b.entries.map f := by
  rw [mapEntries, entries_mapScopes, entries]
  simp only [List.map_flatMap]

theorem total_min_add_surplus (most : Nat) (entries : List Entry) :
    total (entries.map fun e => min most e.points.length) +
      total (entries.map fun e => e.points.length - most) =
        total (entries.map fun e => e.points.length) := by
  induction entries with
  | nil => rfl
  | cons e entries ih =>
    simp only [List.map_cons, total_cons]
    omega

theorem pointCount_capPoints (most : Nat) :
    (b.capPoints most).pointCount + b.countSurplus most = b.pointCount := by
  have hkept : (b.capPoints most).pointCount =
      total (b.entries.map fun e => min most e.points.length) := by
    rw [pointCount, capPoints_eq, entries_mapEntries, List.map_map]
    simp only [Function.comp_def, List.length_take]
  rw [hkept, countSurplus_eq, pointCount]
  exact total_min_add_surplus most b.entries

/-! ## Dropping and cutting -/

theorem withoutEntries_withoutEntries (names : List String) :
    (b.withoutEntries names).withoutEntries names = b.withoutEntries names := by
  simp only [withoutEntries_eq]
  rw [mapScopes_mapScopes]
  apply mapScopes_congr
  intro t
  simp only [List.filter_filter, Bool.and_self]

theorem capPoints_capPoints (k l : Nat) :
    (b.capPoints k).capPoints l = b.capPoints (min k l) := by
  simp only [capPoints_eq, mapEntries]
  rw [mapScopes_mapScopes]
  apply mapScopes_congr
  intro t
  simp only [List.map_map, Function.comp_def, List.take_take, Nat.min_comm l k]

theorem capPoints_withoutEntries (names : List String) (most : Nat) :
    (b.withoutEntries names).capPoints most = (b.capPoints most).withoutEntries names := by
  simp only [capPoints_eq, mapEntries]
  rw [withoutEntries_eq, withoutEntries_eq, mapScopes_mapScopes, mapScopes_mapScopes]
  apply mapScopes_congr
  intro t
  -- A cut keeps the name, which is all that dropping looks at.
  simp only [List.filter_map, Function.comp_def]

end Batch

namespace Scrubber

variable (s : Scrubber)

theorem cap_withoutEntries (b : Batch) (names : List String) :
    s.cap (b.withoutEntries names) = (s.cap b).withoutEntries names := by
  unfold cap
  split
  · rfl
  · exact b.capPoints_withoutEntries names _

theorem cap_cap (b : Batch) : s.cap (s.cap b) = s.cap b := by
  unfold cap
  split
  · rfl
  · rw [Batch.capPoints_capPoints, Nat.min_self]

theorem scrub_scrub (b : Batch) : s.scrub (s.scrub b) = s.scrub b := by
  unfold scrub
  calc s.cap ((s.cap (b.withoutEntries s.flaky)).withoutEntries s.flaky)
      = s.cap (s.cap ((b.withoutEntries s.flaky).withoutEntries s.flaky)) := by
        rw [← cap_withoutEntries]
    _ = s.cap (b.withoutEntries s.flaky) := by
        rw [cap_cap, Batch.withoutEntries_withoutEntries]

/-! ## What is left -/

/-- How many of so many points of a series are kept. -/
def allowed (count : Nat) : Nat :=
  match s.maxPoints with
  | none => count
  | some most => min most count

/-- `f` is the entry `e` with the first of its points, as many as are allowed. -/
structure CutsTo (e f : Entry) : Prop where
  name : f.name = e.name
  kind : f.kind = e.kind
  unit : f.unit = e.unit
  attributes : f.attributes = e.attributes
  points : f.points <+: e.points
  count : f.points.length = s.allowed e.points.length

/-- An entry that comes and goes is dropped; any other is cut, in its place. -/
inductive LeavesEntries : List Entry → List Entry → Prop
  | nil : LeavesEntries [] []
  | drop {e : Entry} {es fs : List Entry} (hflaky : e.name ∈ s.flaky) (rest : LeavesEntries es fs) :
      LeavesEntries (e :: es) fs
  | keep {e f : Entry} {es fs : List Entry} (hstays : e.name ∉ s.flaky) (cut : s.CutsTo e f)
      (rest : LeavesEntries es fs) : LeavesEntries (e :: es) (f :: fs)

structure LeavesScope (t u : Scope) : Prop where
  name : u.name = t.name
  version : u.version = t.version
  attributes : u.attributes = t.attributes
  entries : s.LeavesEntries t.entries u.entries

structure LeavesResource (r q : Resource) : Prop where
  attributes : q.attributes = r.attributes
  scopes : List.Forall₂ s.LeavesScope r.scopes q.scopes

/-- `c` has every resource and scope of `b`, emptied or not, with what is left of its entries. -/
structure Leaves (b c : Batch) : Prop where
  signal : c.signal = b.signal
  resources : List.Forall₂ s.LeavesResource b.resources c.resources

/-! ## The description determines the scrub -/

def cutEntry (e : Entry) : Entry := { e with points := s.capped e.points }

def scrubScope (t : Scope) : Scope :=
  { t with entries := (t.entries.filter fun e => e.name ∉ s.flaky).map s.cutEntry }

theorem scrub_eq (b : Batch) : s.scrub b = b.mapScopes s.scrubScope := by
  unfold scrub
  rw [Batch.withoutEntries_eq, cap_eq]
  unfold Batch.mapEntries
  rw [Batch.mapScopes_mapScopes]
  apply Batch.mapScopes_congr
  intro t
  simp [scrubScope, cutEntry]

theorem prefix_iff_eq_capped {points kept : List Point} :
    kept <+: points ∧ kept.length = s.allowed points.length ↔ kept = s.capped points := by
  cases hmost : s.maxPoints with
  | none =>
    simp only [allowed, capped, hmost]
    constructor
    · rintro ⟨hfirst, hlength⟩
      exact hfirst.eq_of_length hlength
    · rintro rfl
      exact ⟨List.prefix_rfl, rfl⟩
  | some most =>
    simp only [allowed, capped, hmost]
    constructor
    · rintro ⟨hfirst, hlength⟩
      rw [List.prefix_iff_eq_take.mp hfirst, hlength, List.take_eq_take_iff]
      omega
    · rintro rfl
      refine ⟨?_, List.length_take⟩
      exact List.take_prefix most points

theorem cutsTo_iff {e f : Entry} : s.CutsTo e f ↔ f = s.cutEntry e := by
  constructor
  · rintro ⟨hname, hkind, hunit, hattributes, hfirst, hcount⟩
    have hpoints := s.prefix_iff_eq_capped.mp ⟨hfirst, hcount⟩
    cases f
    simp_all [cutEntry]
  · rintro rfl
    obtain ⟨hfirst, hcount⟩ := s.prefix_iff_eq_capped.mpr (rfl : s.capped e.points = _)
    exact ⟨rfl, rfl, rfl, rfl, hfirst, hcount⟩

theorem leavesEntries_iff {es fs : List Entry} :
    s.LeavesEntries es fs ↔ fs = (es.filter fun e => e.name ∉ s.flaky).map s.cutEntry := by
  constructor
  · intro h
    induction h with
    | nil => rfl
    | drop hflaky _ ih => rw [ih, List.filter_cons_of_neg (by simpa using hflaky)]
    | keep hstays cut _ ih =>
      rw [ih, s.cutsTo_iff.mp cut, List.filter_cons_of_pos (by simpa using hstays), List.map_cons]
  · rintro rfl
    induction es with
    | nil => exact .nil
    | cons e es ih =>
      by_cases hflaky : e.name ∈ s.flaky
      · rw [List.filter_cons_of_neg (by simpa using hflaky)]
        exact .drop hflaky ih
      · rw [List.filter_cons_of_pos (by simpa using hflaky), List.map_cons]
        exact .keep hflaky (s.cutsTo_iff.mpr rfl) ih

theorem leavesScope_iff (t u : Scope) : s.LeavesScope t u ↔ u = s.scrubScope t := by
  constructor
  · rintro ⟨hname, hversion, hattributes, hentries⟩
    rw [leavesEntries_iff] at hentries
    cases u
    simp_all [scrubScope]
  · rintro rfl
    exact ⟨rfl, rfl, rfl, s.leavesEntries_iff.mpr rfl⟩

theorem leavesResource_iff (r q : Resource) :
    s.LeavesResource r q ↔ q = { r with scopes := r.scopes.map s.scrubScope } := by
  constructor
  · rintro ⟨hattributes, hscopes⟩
    rw [forall₂_iff_eq_map s.leavesScope_iff] at hscopes
    cases q
    simp_all
  · rintro rfl
    exact ⟨rfl, (forall₂_iff_eq_map s.leavesScope_iff).mpr rfl⟩

theorem leaves_iff (b c : Batch) : s.Leaves b c ↔ c = s.scrub b := by
  rw [scrub_eq]
  constructor
  · rintro ⟨hsignal, hresources⟩
    rw [forall₂_iff_eq_map s.leavesResource_iff] at hresources
    cases c
    simp_all [Batch.mapScopes]
  · rintro rfl
    exact ⟨rfl, (forall₂_iff_eq_map s.leavesResource_iff).mpr rfl⟩

/-- The scrub of a batch is what is left of it: all resources and scopes, and the entries that stay
with the points that are allowed. The counts make up for what was dropped; dropping and cutting
may change places; of two cuts the narrower stands; and a second scrub changes nothing. -/
theorem scrub_accounts (b : Batch) :
    (∀ c, s.Leaves b c ↔ c = s.scrub b) ∧
      (∀ names, b.countEntries names + (b.withoutEntries names).recordCount = b.recordCount) ∧
      (∀ most, b.countSurplus most + (b.capPoints most).pointCount = b.pointCount) ∧
      (∀ names most, (b.withoutEntries names).capPoints most =
        (b.capPoints most).withoutEntries names) ∧
      (∀ k l, (b.capPoints k).capPoints l = b.capPoints (min k l)) ∧
      s.scrub (s.scrub b) = s.scrub b := by
  refine ⟨s.leaves_iff b, fun names => ?_, fun most => ?_, b.capPoints_withoutEntries,
    b.capPoints_capPoints, s.scrub_scrub b⟩
  · rw [Nat.add_comm]
    exact b.recordCount_withoutEntries names
  · rw [Nat.add_comm]
    exact b.pointCount_capPoints most

end Scrubber

end GoldenCapture
