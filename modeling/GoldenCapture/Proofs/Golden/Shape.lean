import GoldenCapture.Proofs.Batch.YamlRoundTrip
import GoldenCapture.Proofs.Golden.Removal
import GoldenCapture.Select
import GoldenCapture.Snapshot
import Mathlib.Data.List.Basic

/-!
# Shapes

How many resources and records are left of a capture in its snapshot, and what that means for the
selection: whether the snapshot picks the capture that it was made from.
-/

namespace GoldenCapture

/-! ## Counting -/

namespace Batch

variable {b : Batch}

@[simp] theorem resourceCount_mapScopes (f : Scope → Scope) :
    (b.mapScopes f).resourceCount = b.resourceCount :=
  List.length_map _

theorem entries_mapScopes (f : Scope → Scope) :
    (b.mapScopes f).entries =
      b.resources.flatMap fun resource =>
        resource.scopes.flatMap fun scope => (f scope).entries := by
  simp [entries, mapScopes, List.flatMap_map]

theorem recordCount_mapScopes {f : Scope → Scope}
    (hf : ∀ scope, (f scope).entries.length = scope.entries.length) :
    (b.mapScopes f).recordCount = b.recordCount := by
  rw [recordCount, recordCount, entries_mapScopes]
  simp only [entries, List.length_flatMap, hf]

theorem recordCount_mapEntries (f : Entry → Entry) :
    (b.mapEntries f).recordCount = b.recordCount :=
  recordCount_mapScopes fun _ => List.length_map _

theorem entries_withoutEntries (names : List String) :
    (b.withoutEntries names).entries =
      b.entries.filter fun entry => !names.contains entry.name := by
  rw [withoutEntries_eq, entries_mapScopes, entries]
  simp only [List.filter_flatMap]

theorem recordCount_withoutEntries (names : List String) :
    (b.withoutEntries names).recordCount + b.countEntries names = b.recordCount := by
  rw [recordCount, entries_withoutEntries, countEntries_eq, recordCount, Nat.add_comm]
  exact (List.length_eq_length_filter_add _).symm

@[simp] theorem resourceCount_oneNaN : b.oneNaN.resourceCount = b.resourceCount :=
  List.length_map _

@[simp] theorem recordCount_oneNaN : b.oneNaN.recordCount = b.recordCount := by
  simp [recordCount, entries, oneNaN, Resource.oneNaN, Scope.oneNaN, List.length_flatMap,
    List.flatMap_map]

end Batch

namespace Scrubber

variable (s : Scrubber) (b : Batch)

theorem resourceCount_snapshot : (s.snapshot b).resourceCount = b.resourceCount := by
  unfold snapshot scrub cap Batch.mapEntries
  split <;> simp [Batch.withoutEntries_eq, Batch.capPoints_eq, Batch.mapEntries]

theorem recordCount_snapshot :
    (s.snapshot b).recordCount + b.countEntries s.flaky = b.recordCount := by
  have hscrub : (s.scrub b).recordCount = (b.withoutEntries s.flaky).recordCount := by
    unfold scrub cap
    split
    · rfl
    · exact Batch.recordCount_mapEntries _
  rw [snapshot, Batch.recordCount_mapEntries,
    Batch.recordCount_mapScopes fun _ => List.length_mergeSort _, hscrub,
    Batch.recordCount_withoutEntries]

end Scrubber

/-! ## Selecting -/

namespace Selector

variable {s : Selector} {expected : Batch} {captured : List Captured} {b : Captured}

theorem select_eq_some_iff :
    s.select expected captured = some b ↔
      s.accepts expected b.batch = true ∧ ∃ earlier later, captured = earlier ++ b :: later ∧
        ∀ other ∈ later, s.accepts expected other.batch = false := by
  unfold select
  rw [List.find?_eq_some_iff_append]
  refine and_congr_right fun _ => ⟨?_, ?_⟩
  · rintro ⟨later, earlier, hcaptured, hlater⟩
    refine ⟨earlier.reverse, later.reverse, ?_, fun other hother => ?_⟩
    · simpa using congrArg List.reverse hcaptured
    · simpa using hlater other (List.mem_reverse.mp hother)
  · rintro ⟨earlier, later, rfl, hlater⟩
    refine ⟨later.reverse, earlier.reverse, by simp, fun other hother => ?_⟩
    simpa using hlater other (List.mem_reverse.mp hother)

theorem exists_select (h : ∃ c ∈ captured, s.accepts expected c.batch = true) :
    ∃ b, s.select expected captured = some b := by
  obtain ⟨c, hc, haccepts⟩ := h
  exact Option.isSome_iff_exists.mp
    (List.find?_isSome.mpr ⟨c, List.mem_reverse.mpr hc, haccepts⟩)

theorem select_eq_none (h : ∀ c ∈ captured, s.accepts expected c.batch = false) :
    s.select expected captured = none := by
  unfold select
  rw [List.find?_eq_none]
  intro c hc
  simp [h c (List.mem_reverse.mp hc)]

theorem accepts_iff {c : Batch} :
    s.accepts expected c = true ↔ s.marker.isIn c = true ∧
      (s.matchShape = true → c.resourceCount = expected.resourceCount ∧
        c.recordCount = expected.recordCount) := by
  unfold accepts
  cases s.matchShape <;> simp

end Selector

end GoldenCapture
