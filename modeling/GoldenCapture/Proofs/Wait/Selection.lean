import GoldenCapture.Proofs.Golden.Shape
import GoldenCapture.Proofs.Run.Polling
import GoldenCapture.Proofs.Wait.Schedule
import Mathlib.Data.List.Nodup

/-!
# Selection from a growing store

A wait for a selection looks at one snapshot of the store after another, at the instants of its
schedule, and between two looks batches come and the store is reset in any order. What is selected
is the newest match of the first snapshot that has one. Without one the wait goes on to its limit.
-/

namespace GoldenCapture

/-! ## Matches -/

namespace Selector

/-- The candidate has an entry like the marker and, if the shape counts, as many resources and
records as the reference. -/
structure Matches (selector : Selector) (expected candidate : Batch) : Prop where
  marker : ∃ entry ∈ candidate.entries, entry.name = selector.marker.name ∧
    ∀ kind, selector.marker.kind = some kind → entry.kind = kind
  shape : selector.matchShape = true → candidate.resourceCount = expected.resourceCount ∧
    candidate.recordCount = expected.recordCount

/-- Of all batches in a snapshot that match, the one of greatest arrival. -/
structure Newest (selector : Selector) (expected : Batch) (snapshot : List Captured)
    (captured : Captured) : Prop where
  stored : captured ∈ snapshot
  matching : selector.Matches expected captured.batch
  latest : ∀ other ∈ snapshot, selector.Matches expected other.batch →
    other = captured ∨ other.arrival < captured.arrival

variable {selector : Selector} {expected candidate : Batch}

theorem isIn_iff {marker : Marker} : marker.isIn candidate = true ↔
    ∃ entry ∈ candidate.entries, entry.name = marker.name ∧
      ∀ kind, marker.kind = some kind → entry.kind = kind := by
  unfold Marker.isIn Batch.containsEntry
  rw [List.any_eq_true]
  apply exists_congr
  intro entry
  apply and_congr_right
  intro _
  cases marker.kind with
  | none => simp
  | some kind => simp

theorem accepts_iff_matches :
    selector.accepts expected candidate = true ↔ selector.Matches expected candidate := by
  rw [accepts_iff, isIn_iff]
  exact ⟨fun ⟨hmarker, hshape⟩ => ⟨hmarker, hshape⟩, fun h => ⟨h.marker, h.shape⟩⟩

theorem not_matches_of_select_eq_none {snapshot : List Captured}
    (h : selector.select expected snapshot = none) :
    ∀ c ∈ snapshot, ¬ selector.Matches expected c.batch := by
  intro c hc hmatches
  have hrefused := List.find?_eq_none.mp h c (List.mem_reverse.mpr hc)
  exact hrefused (accepts_iff_matches.mpr hmatches)

theorem newest_of_select_eq_some {store : Store} {captured : Captured} (hstore : store.Numbered)
    (h : selector.select expected store.captured = some captured) :
    selector.Newest expected store.captured captured := by
  obtain ⟨hmem, haccepts, hlatest⟩ := newest_of_select hstore h
  have hdistinct : (store.captured.map Captured.arrival).Nodup := by
    rw [hstore]
    exact List.nodup_range
  refine ⟨hmem, accepts_iff_matches.mp haccepts, fun other hother hmatches => ?_⟩
  have hle := hlatest other hother (accepts_iff_matches.mpr hmatches)
  rcases Nat.lt_or_eq_of_le hle with hlt | heq
  · exact .inr hlt
  · exact .inl (List.inj_on_of_nodup_map hdistinct hother hmem heq)

end Selector

/-! ## Stores between two looks -/

theorem Store.Numbered.change {store : Store} (h : store.Numbered) (change : StoreChange) :
    (store.change change).Numbered := by
  cases change with
  | append protocol batch => exact h.append protocol batch
  | reset => exact numbered_empty

theorem Store.Numbered.changes {store : Store} (h : store.Numbered) (changes : List StoreChange) :
    (changes.foldl Store.change store).Numbered := by
  induction changes generalizing store with
  | nil => exact h
  | cons change changes ih => exact ih (h.change change)

namespace Timeline

variable {σ : Type} {t : Timeline σ} {store : σ → Store}

/-- While time passes, batches reach the store and it is reset, in any order and number. -/
def Feeds (t : Timeline σ) (store : σ → Store) : Prop :=
  ∀ instant s, ∃ changes : List StoreChange,
    store (t.sleepUntil instant s) = changes.foldl Store.change (store s)

theorem Feeds.numbered (hfeeds : t.Feeds store) {s : σ} (h : (store s).Numbered) (instant : Nat) :
    (store (t.sleepUntil instant s)).Numbered := by
  obtain ⟨changes, hchanges⟩ := hfeeds instant s
  rw [hchanges]
  exact h.changes changes

/-! ## A wait -/

/-- A look at a snapshot of the store. -/
def lookAtStore (store : σ → Store) (selector : Selector) (expected : Batch) (w : σ) :
    Probe Captured × σ :=
  match selector.select expected (store w).captured with
  | some captured => (.ready captured, w)
  | none => (.pending (store w).count, w)

/-- A wait for a selection from `s` that looks at the stores of these worlds, `s` first, and ends
with this result. -/
structure Selection (t : Timeline σ) (policy : WaitPolicy) (limit : Nat) (store : σ → Store)
    (selector : Selector) (expected : Batch) (s : σ) (rest : List σ)
    (result : Except Failure Captured × σ) : Prop where
  instants : (s :: rest).map t.now <+: policy.schedule (t.now s) limit
  /-- All that happens between two looks is that time passes. -/
  apart : (s :: rest).IsChain fun w w' => w' = t.sleepUntil (min (t.now w + policy.pause) limit) w
  /-- Only the last snapshot can have a match. -/
  unmatched : ∀ w ∈ (s :: rest).dropLast, ∀ c ∈ (store w).captured,
    ¬ selector.Matches expected c.batch
  last : result.2 = rest.getLastD s
  answer : match result.1 with
    | .ok captured => selector.Newest expected (store result.2).captured captured
    | .error failure =>
      (∀ c ∈ (store result.2).captured, ¬ selector.Matches expected c.batch) ∧
        (s :: rest).map t.now = policy.schedule (t.now s) limit ∧
        failure = .timeout s!"a batch with marker '{selector.marker.name}'"
          (store result.2).count (limit - t.now s)

variable {policy : WaitPolicy} {deadline : Option Nat} {selector : Selector} {expected : Batch}

theorem waitForSelection_eq (s : σ) :
    t.waitForSelection policy deadline store selector expected s =
      ((t.waitFor policy deadline (lookAtStore store selector expected) s).1.mapError
          fun expiry => expiry.failure s!"a batch with marker '{selector.marker.name}'",
        (t.waitFor policy deadline (lookAtStore store selector expected) s).2) := rfl

theorem lookAtStore_world (w : σ) : (lookAtStore store selector expected w).2 = w := by
  unfold lookAtStore
  split <;> rfl

theorem select_of_ready {w : σ} {captured : Captured}
    (h : (lookAtStore store selector expected w).1 = .ready captured) :
    selector.select expected (store w).captured = some captured := by
  unfold lookAtStore at h
  split at h
  · rename_i hselect
    cases h
    exact hselect
  · contradiction

theorem select_of_pending {w : σ} {observed : Nat}
    (h : (lookAtStore store selector expected w).1 = .pending observed) :
    selector.select expected (store w).captured = none ∧ observed = (store w).count := by
  unfold lookAtStore at h
  split at h
  · contradiction
  · rename_i hselect
    cases h
    exact ⟨hselect, rfl⟩

/-- Whatever falls between two looks, the wait returns the newest match of the first snapshot that
has one, and fails only at its limit, if none of the snapshots had. -/
theorem exists_selection (hfeeds : t.Feeds store) {s : σ} (hs : (store s).Numbered)
    (policy : WaitPolicy) (deadline : Option Nat) (selector : Selector) (expected : Batch) :
    ∃ rest, Selection t policy (policy.limit deadline (t.now s)) store selector expected s rest
      (t.waitForSelection policy deadline store selector expected s) := by
  obtain ⟨rest, hlooks⟩ : ∃ rest, Looks t policy (t.now s) (policy.limit deadline (t.now s))
      (lookAtStore store selector expected) s rest
      (t.waitFor policy deadline (lookAtStore store selector expected) s) :=
    exists_looks ..
  rw [waitForSelection_eq]
  generalize t.waitFor policy deadline (lookAtStore store selector expected) s = result at hlooks ⊢
  have hprobe : ∀ w, t.now (lookAtStore store selector expected w).2 = t.now w :=
    fun w => congrArg t.now (lookAtStore_world w)
  have hapart : (s :: rest).IsChain fun w w' => w' = t.sleepUntil
      (min (t.now w + policy.pause) (policy.limit deadline (t.now s))) w := by
    refine hlooks.patient.imp fun w w' ⟨_, _, hsleep⟩ => ?_
    rwa [nowAfter_probe hprobe, lookAtStore_world] at hsleep
  have hnumbered : ∀ w ∈ s :: rest, (store w).Numbered := by
    refine hapart.induction _ _ (fun w w' hsleep hw => ?_) (fun _ => hs)
    rw [hsleep]
    exact hfeeds.numbered hw _
  have hlast : result.2 = rest.getLastD s := hlooks.world.trans (lookAtStore_world _)
  refine ⟨rest, hlooks.instants hprobe, hapart, fun w hw => ?_, hlast, ?_⟩
  · obtain ⟨observed, hpending⟩ := hlooks.pending w hw
    exact Selector.not_matches_of_select_eq_none (select_of_pending hpending).1
  · have hanswer := hlooks.answer
    dsimp only
    rw [hanswer, hlast]
    cases hshown : (lookAtStore store selector expected (rest.getLastD s)).1 with
    | ready captured =>
      have hselect := select_of_ready hshown
      exact Selector.newest_of_select_eq_some (hnumbered _ List.getLastD_mem_cons) hselect
    | pending observed =>
      have hwaited := hlooks.waited hprobe hshown
      have hcomplete := hlooks.complete hprobe hshown
      rw [hlast] at hwaited
      obtain ⟨hselect, rfl⟩ := select_of_pending hshown
      refine ⟨Selector.not_matches_of_select_eq_none hselect, hcomplete, ?_⟩
      rw [← hwaited]
      rfl

end Timeline

/-! ## A feed -/

namespace Feed

theorem feeds : timeline.Feeds Feed.store := by
  intro instant f
  refine ⟨(f.coming.filter fun change => change.1 ≤ instant).map Prod.snd, ?_⟩
  rw [List.foldl_map]
  rfl

def gauge (name : String) : Batch :=
  ⟨.metrics, [{ scopes := [{ entries := [{ name, kind := .gauge }] }] }]⟩

/-- Between the first two looks the store is reset, and two batches come. -/
def restarted : Feed where
  store := ({} : Store).append .hecMetrics (gauge "down")
  coming := [(10, .reset), (15, .append .hecMetrics (gauge "up")),
    (18, .append .hecMetrics (gauge "up"))]

def up : Selector := { marker := { name := "up" } }

theorem exists_selection_restarted :
    ∃ rest, timeline.Selection ⟨100, 20⟩ 70 Feed.store up (gauge "up") restarted rest
      (timeline.waitForSelection ⟨100, 20⟩ (some 70) Feed.store up (gauge "up") restarted) := by
  have hlimit : WaitPolicy.limit ⟨100, 20⟩ (some 70) (timeline.now restarted) = 70 := by decide
  have hnumbered : restarted.store.Numbered := Store.numbered_empty.append _ _
  have hselection :=
    Timeline.exists_selection feeds hnumbered ⟨100, 20⟩ (some 70) up (gauge "up")
  rwa [hlimit] at hselection

example : (timeline.waitForSelection ⟨100, 20⟩ (some 70) Feed.store up (gauge "up")
    restarted).1.toOption.map Captured.arrival = some 1 := by
  decide +kernel

end Feed

end GoldenCapture
