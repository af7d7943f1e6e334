import GoldenCapture.Proofs.Compare.SameBatches
import GoldenCapture.Proofs.Golden.Removal
import GoldenCapture.Proofs.Text.ByteOrder
import GoldenCapture.Snapshot

/-!
# What a snapshot keeps

A snapshot is scope by scope the entries that do not come and go, cut and without times, in the
order of their names. Main statement: a second snapshot changes nothing, no entry is lost or
moved, and two captures have the same snapshot exactly if they tell the same about every name.
-/

namespace GoldenCapture

/-! ## Lists in the order of a key -/

section

variable {α κ : Type} [LinearOrder κ] {key : α → κ}

theorem key_le_trans (a b c : α) (hab : decide (key a ≤ key b) = true)
    (hbc : decide (key b ≤ key c) = true) : decide (key a ≤ key c) = true := by
  rw [decide_eq_true_eq] at hab hbc ⊢
  exact hab.trans hbc

theorem key_le_total (a b : α) :
    (decide (key a ≤ key b) || decide (key b ≤ key a)) = true := by
  simpa using le_total (key a) (key b)

theorem pairwise_mergeSort_key (key : α → κ) (xs : List α) :
    (xs.mergeSort fun a b => decide (key a ≤ key b)).Pairwise fun a b => key a ≤ key b := by
  have hsorted := List.pairwise_mergeSort (@key_le_trans _ _ _ key) key_le_total xs
  exact hsorted.imp fun h => of_decide_eq_true h

theorem filter_mergeSort_key (key : α → κ) (xs : List α) (k : κ) :
    (xs.mergeSort fun a b => decide (key a ≤ key b)).filter (key · = k) =
      xs.filter (key · = k) := by
  have hperm := (List.mergeSort_perm xs fun a b => decide (key a ≤ key b)).filter (key · = k)
  have hkeys : (xs.filter (key · = k)).Pairwise fun a b => decide (key a ≤ key b) = true := by
    apply List.pairwise_of_forall_mem_list
    intro a ha b hb
    rw [List.mem_filter, decide_eq_true_eq] at ha hb
    rw [ha.2, hb.2, decide_eq_true_eq]
  have hsub := List.sublist_mergeSort key_le_trans key_le_total hkeys List.filter_sublist
  have hfilter := hsub.filter (key · = k)
  rw [List.filter_filter] at hfilter
  simp only [Bool.and_self] at hfilter
  exact (hfilter.eq_of_length hperm.length_eq.symm).symm

theorem forall₂_of_filter_key {r : α → α → Prop} {xs ys : List α}
    (hx : xs.Pairwise fun a b => key a ≤ key b) (hy : ys.Pairwise fun a b => key a ≤ key b)
    (h : ∀ k, List.Forall₂ r (xs.filter (key · = k)) (ys.filter (key · = k))) :
    List.Forall₂ r xs ys := by
  -- The least key of one list is a key of the other, so both lists start with it.
  have hleast {x : α} {xs ys : List α} (hlen : ∀ k, ((x :: xs).filter (key · = k)).length =
      (ys.filter (key · = k)).length) : ∃ y ∈ ys, key y = key x := by
    have hpos : 0 < (ys.filter (key · = key x)).length := by
      rw [← hlen]
      simp
    obtain ⟨y, hy⟩ := List.exists_mem_of_length_pos hpos
    rw [List.mem_filter, decide_eq_true_eq] at hy
    exact ⟨y, hy⟩
  induction xs generalizing ys with
  | nil =>
    cases ys with
    | nil => exact .nil
    | cons y ys =>
      have hlen k := (h k).length_eq.symm
      obtain ⟨x, hx, -⟩ := hleast hlen
      contradiction
  | cons x xs ih =>
    cases ys with
    | nil =>
      have hlen k := (h k).length_eq
      obtain ⟨y, hy, -⟩ := hleast hlen
      contradiction
    | cons y ys =>
      have hle {u v : α} {us : List α} (hs : (u :: us).Pairwise fun a b => key a ≤ key b)
          (hv : v ∈ u :: us) : key u ≤ key v := by
        rcases List.mem_cons.mp hv with rfl | hv
        · exact le_rfl
        · exact (List.pairwise_cons.mp hs).1 v hv
      obtain ⟨y', hy', hkey'⟩ := hleast fun k => (h k).length_eq
      obtain ⟨x', hx', hkey⟩ := hleast fun k => (h k).length_eq.symm
      have hxy : key x = key y :=
        le_antisymm (hkey ▸ hle hx hx') (hkey' ▸ hle hy hy')
      have hhead := h (key x)
      rw [List.filter_cons_of_pos (by simp), List.filter_cons_of_pos (by simp [hxy])] at hhead
      cases hhead with
      | cons hr hrest =>
        refine .cons hr (ih hx.tail hy.tail fun k => ?_)
        by_cases hk : key x = k
        · rwa [← hk]
        · have hk' := h k
          rwa [List.filter_cons_of_neg (by simpa using hk),
            List.filter_cons_of_neg (by simpa [← hxy] using hk)] at hk'

end

/-! ## Changes of all scopes -/

namespace Batch

variable (b : Batch)

theorem mapScopes_mapScopes (f g : Scope → Scope) :
    (b.mapScopes f).mapScopes g = b.mapScopes fun t => g (f t) := by
  simp [mapScopes, Function.comp_def]

theorem mapScopes_congr {f g : Scope → Scope} (h : ∀ t, f t = g t) :
    b.mapScopes f = b.mapScopes g := by
  rw [funext h]

end Batch

@[simp] theorem Point.clearTimes_clearTimes (p : Point) :
    p.clearTimes.clearTimes = p.clearTimes := rfl

namespace Scrubber

variable (s : Scrubber)

/-! ## What is kept -/

def capped (points : List Point) : List Point :=
  match s.maxPoints with
  | none => points
  | some most => points.take most

def trim (e : Entry) : Entry := { e with points := (s.capped e.points).map Point.clearTimes }

/-- The entries of a scope that do not come and go, trimmed. -/
def kept (t : Scope) : List Entry := (t.entries.filter fun e => e.name ∉ s.flaky).map s.trim

def snapshotScope (t : Scope) : Scope :=
  { t with entries := (s.kept t).mergeSort fun e f => decide (e.name ≤ f.name) }

@[simp] theorem trim_name (e : Entry) : (s.trim e).name = e.name := rfl

theorem trim_trim (e : Entry) : s.trim (s.trim e) = s.trim e := by
  have hpoints : (s.capped ((s.capped e.points).map Point.clearTimes)).map Point.clearTimes =
      (s.capped e.points).map Point.clearTimes := by
    unfold capped
    split <;> simp [List.map_take, List.take_take, Function.comp_def]
  unfold trim
  rw [hpoints]

theorem mem_kept {t : Scope} {e : Entry} (h : e ∈ s.kept t) :
    e.name ∉ s.flaky ∧ s.trim e = e := by
  obtain ⟨e, he, rfl⟩ := List.mem_map.mp h
  rw [List.mem_filter, decide_eq_true_eq] at he
  exact ⟨he.2, s.trim_trim e⟩

theorem cap_eq (b : Batch) :
    s.cap b = b.mapEntries fun e => { e with points := s.capped e.points } := by
  cases hmost : s.maxPoints with
  | none => simp [cap, capped, hmost, Batch.mapEntries, Batch.mapScopes]
  | some most => simp [cap, capped, hmost, Batch.capPoints_eq]

theorem snapshot_eq (b : Batch) : s.snapshot b = b.mapScopes s.snapshotScope := by
  unfold snapshot scrub
  rw [Batch.withoutEntries_eq, cap_eq]
  unfold Batch.mapEntries
  rw [Batch.mapScopes_mapScopes, Batch.mapScopes_mapScopes, Batch.mapScopes_mapScopes]
  apply Batch.mapScopes_congr
  intro t
  have hsorted (es : List Entry) :
      (es.mergeSort fun e f => decide (e.name ≤ f.name)).map Entry.clearTimes =
        (es.map Entry.clearTimes).mergeSort fun e f => decide (e.name ≤ f.name) :=
    List.map_mergeSort fun _ _ _ _ => rfl
  dsimp only [Scope.sortEntries, snapshotScope, kept]
  rw [hsorted, List.map_map]
  congr 3
  simp

/-! ## Entries of one name -/

/-- The entries of one name that a scope has, trimmed, in their order. -/
def series (t : Scope) (name : String) : List Entry :=
  (t.entries.filter (·.name = name)).map s.trim

theorem filter_kept {t : Scope} {name : String} (h : name ∉ s.flaky) :
    (s.kept t).filter (·.name = name) = s.series t name := by
  unfold kept series
  rw [List.filter_map, List.filter_filter]
  congr 1
  apply List.filter_congr
  intro e _
  by_cases hname : e.name = name
  · simp [hname, h]
  · simp [hname]

theorem filter_kept_of_flaky {t : Scope} {name : String} (h : name ∈ s.flaky) :
    (s.kept t).filter (·.name = name) = [] := by
  rw [List.filter_eq_nil_iff]
  intro e he hname
  rw [decide_eq_true_eq] at hname
  exact (s.mem_kept he).1 (hname ▸ h)

theorem pairwise_snapshotScope (t : Scope) :
    (s.snapshotScope t).entries.Pairwise fun e f => e.name ≤ f.name :=
  pairwise_mergeSort_key Entry.name (s.kept t)

theorem filter_snapshotScope (t : Scope) (name : String) :
    (s.snapshotScope t).entries.filter (·.name = name) = (s.kept t).filter (·.name = name) :=
  filter_mergeSort_key Entry.name (s.kept t) name

/-! ## A second snapshot -/

theorem kept_snapshotScope (t : Scope) :
    s.kept (s.snapshotScope t) = (s.snapshotScope t).entries := by
  have hkept (e : Entry) (he : e ∈ (s.snapshotScope t).entries) :
      e.name ∉ s.flaky ∧ s.trim e = e :=
    s.mem_kept (List.mem_mergeSort.mp he)
  rw [kept, List.filter_eq_self.mpr fun e he => decide_eq_true (hkept e he).1]
  calc (s.snapshotScope t).entries.map s.trim
      = (s.snapshotScope t).entries.map id := List.map_congr_left fun e he => (hkept e he).2
    _ = (s.snapshotScope t).entries := List.map_id _

theorem snapshotScope_snapshotScope (t : Scope) :
    s.snapshotScope (s.snapshotScope t) = s.snapshotScope t := by
  have hsorted : (s.kept (s.snapshotScope t)).mergeSort (fun e f => decide (e.name ≤ f.name)) =
      (s.snapshotScope t).entries := by
    rw [kept_snapshotScope]
    apply List.mergeSort_of_pairwise
    exact (s.pairwise_snapshotScope t).imp fun h => decide_eq_true h
  unfold snapshotScope at hsorted ⊢
  rw [hsorted]

theorem snapshot_snapshot (b : Batch) : s.snapshot (s.snapshot b) = s.snapshot b := by
  rw [snapshot_eq, snapshot_eq, Batch.mapScopes_mapScopes]
  exact Batch.mapScopes_congr b s.snapshotScope_snapshotScope

/-! ## Nothing lost, nothing moved -/

/-- `t'` is the scope `t` with every entry that does not come and go, trimmed, once for each time
it is there, in the order of the bytes of the names. -/
structure KeepsScope (t t' : Scope) : Prop where
  name : t'.name = t.name
  version : t'.version = t.version
  attributes : t'.attributes = t.attributes
  entries : t'.entries.Perm (s.kept t)
  ordered : t'.entries.Pairwise fun e f => utf8Bytes e.name ≤ utf8Bytes f.name

structure KeepsResource (r r' : Resource) : Prop where
  attributes : r'.attributes = r.attributes
  scopes : List.Forall₂ s.KeepsScope r.scopes r'.scopes

structure Keeps (b b' : Batch) : Prop where
  signal : b'.signal = b.signal
  resources : List.Forall₂ s.KeepsResource b.resources b'.resources

theorem keepsScope_snapshotScope (t : Scope) : s.KeepsScope t (s.snapshotScope t) := by
  refine ⟨rfl, rfl, rfl, List.mergeSort_perm _ _, ?_⟩
  refine (s.pairwise_snapshotScope t).imp fun h => ?_
  rw [← List.not_lt, ← lt_iff_utf8Bytes_lt]
  exact not_lt.mpr h

theorem keeps_snapshot (b : Batch) : s.Keeps b (s.snapshot b) := by
  rw [snapshot_eq]
  refine ⟨rfl, ?_⟩
  unfold Batch.mapScopes
  rw [List.forall₂_map_right_iff, List.forall₂_same]
  intro r _
  refine ⟨rfl, ?_⟩
  rw [List.forall₂_map_right_iff, List.forall₂_same]
  exact fun t _ => s.keepsScope_snapshotScope t

/-! ## Captures with one snapshot -/

/-- Scopes that tell the same about every name that does not come and go. -/
structure ScopesAlike (t u : Scope) : Prop where
  name : t.name = u.name
  version : t.version = u.version
  attributes : t.attributes.same u.attributes = true
  entries : ∀ name ∉ s.flaky,
    List.Forall₂ (fun e f => e.same f = true) (s.series t name) (s.series u name)

structure ResourcesAlike (r q : Resource) : Prop where
  attributes : r.attributes.same q.attributes = true
  scopes : List.Forall₂ s.ScopesAlike r.scopes q.scopes

structure Alike (b c : Batch) : Prop where
  signal : b.signal = c.signal
  resources : List.Forall₂ s.ResourcesAlike b.resources c.resources

theorem snapshotScope_same_iff {t u : Scope} :
    (s.snapshotScope t).same (s.snapshotScope u) = true ↔ s.ScopesAlike t u := by
  unfold Scope.same
  simp only [Bool.and_eq_true, beq_iff_eq, sameList_iff]
  constructor
  · rintro ⟨⟨⟨hname, hversion⟩, hattributes⟩, hentries⟩
    refine ⟨hname, hversion, hattributes, fun name hflaky => ?_⟩
    rw [← s.filter_kept hflaky, ← s.filter_kept hflaky, ← filter_snapshotScope,
      ← filter_snapshotScope]
    refine List.rel_filter (fun e f hsame => ?_) hentries
    simp only [Entry.same, Bool.and_eq_true, beq_iff_eq] at hsame
    simp [hsame]
  · rintro ⟨hname, hversion, hattributes, hentries⟩
    refine ⟨⟨⟨hname, hversion⟩, hattributes⟩, ?_⟩
    apply forall₂_of_filter_key (s.pairwise_snapshotScope t) (s.pairwise_snapshotScope u)
    intro name
    rw [filter_snapshotScope, filter_snapshotScope]
    by_cases hflaky : name ∈ s.flaky
    · rw [s.filter_kept_of_flaky hflaky, s.filter_kept_of_flaky hflaky]
      exact .nil
    · rw [s.filter_kept hflaky, s.filter_kept hflaky]
      exact hentries name hflaky

theorem snapshot_same_iff {b c : Batch} :
    (s.snapshot b).same (s.snapshot c) = true ↔ s.Alike b c := by
  have hscopes {ts us : List Scope} :
      sameList Scope.same (ts.map s.snapshotScope) (us.map s.snapshotScope) = true ↔
        List.Forall₂ s.ScopesAlike ts us := by
    rw [sameList_iff, List.forall₂_map_left_iff, List.forall₂_map_right_iff]
    simp only [snapshotScope_same_iff]
  rw [snapshot_eq, snapshot_eq]
  simp only [Batch.same, Batch.mapScopes, Bool.and_eq_true, beq_iff_eq, sameList_iff,
    List.forall₂_map_left_iff, List.forall₂_map_right_iff]
  simp only [Resource.same, Bool.and_eq_true, hscopes]
  constructor
  · rintro ⟨hsignal, hresources⟩
    exact ⟨hsignal, hresources.imp fun r q h => ⟨h.1, h.2⟩⟩
  · rintro ⟨hsignal, hresources⟩
    exact ⟨hsignal, hresources.imp fun r q h => ⟨h.1, h.2⟩⟩

/-- A second snapshot changes nothing; a snapshot has in every scope the entries that do not come
and go, in the byte order of their names; and captures have one snapshot exactly if they have the
same resources and scopes with the same entries of every name that does not come and go. -/
theorem snapshot_canonical (b c : Batch) :
    s.snapshot (s.snapshot b) = s.snapshot b ∧ s.Keeps b (s.snapshot b) ∧
      ((s.snapshot b).same (s.snapshot c) = true ↔ s.Alike b c) := by
  refine ⟨?_, ?_, ?_⟩
  · exact s.snapshot_snapshot b
  · exact s.keeps_snapshot b
  · exact s.snapshot_same_iff

end Scrubber

end GoldenCapture
