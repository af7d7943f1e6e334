import GoldenCapture.Golden
import GoldenCapture.Proofs.Batch.RoundTrip
import GoldenCapture.Proofs.Compare.SameBatches
import GoldenCapture.Proofs.FileTree.Frame
import GoldenCapture.Proofs.Golden.Removal

/-!
# Regeneration of golden files

A golden file that has just been written anew accepts the capture that it was written from,
whatever it held before and whatever the rules are.
-/

namespace GoldenCapture

/-! ## Values of a snapshot -/

section

variable {pass : Value → Prop} {b : Batch}

theorem Batch.Every.mapScopes {f : Scope → Scope}
    (hf : ∀ s : Scope, s.Every pass → (f s).Every pass) (h : b.Every pass) :
    (b.mapScopes f).Every pass := by
  intro changed hchanged
  obtain ⟨r, hr, rfl⟩ := List.mem_map.mp hchanged
  obtain ⟨hattributes, hscopes⟩ := h r hr
  refine ⟨hattributes, fun changed hchanged => ?_⟩
  obtain ⟨s, hs, rfl⟩ := List.mem_map.mp hchanged
  exact hf s (hscopes s hs)

theorem Batch.Every.mapEntries {f : Entry → Entry}
    (hf : ∀ e : Entry, e.Every pass → (f e).Every pass) (h : b.Every pass) :
    (b.mapEntries f).Every pass := by
  apply h.mapScopes
  rintro s ⟨hattributes, hentries⟩
  refine ⟨hattributes, fun changed hchanged => ?_⟩
  obtain ⟨e, he, rfl⟩ := List.mem_map.mp hchanged
  exact hf e (hentries e he)

theorem Scrubber.every_scrub (s : Scrubber) (h : b.Every pass) : (s.scrub b).Every pass := by
  have hstable : (b.withoutEntries s.flaky).Every pass := by
    rw [Batch.withoutEntries_eq]
    apply h.mapScopes
    rintro scope ⟨hattributes, hentries⟩
    exact ⟨hattributes, fun e he => hentries e (List.mem_of_mem_filter he)⟩
  unfold scrub cap
  split
  · exact hstable
  · apply hstable.mapEntries
    rintro e ⟨hattributes, hpoints⟩
    exact ⟨hattributes, fun p hp => hpoints p (List.mem_of_mem_take hp)⟩

theorem Scrubber.every_snapshot (s : Scrubber) (h : b.Every pass) : (s.snapshot b).Every pass := by
  have hsorted : ((s.scrub b).mapScopes Scope.sortEntries).Every pass := by
    apply (s.every_scrub h).mapScopes
    rintro scope ⟨hattributes, hentries⟩
    exact ⟨hattributes, fun e he => hentries e (List.mem_mergeSort.mp he)⟩
  apply hsorted.mapEntries
  rintro e ⟨hattributes, hpoints⟩
  refine ⟨hattributes, fun cleared hcleared => ?_⟩
  obtain ⟨p, hp, rfl⟩ := List.mem_map.mp hcleared
  exact hpoints p hp

end

namespace GoldenStore

variable {g : GoldenStore} {files files' : FileTree} {path : String} {b snapshot : Batch}

/-! ## Writing and reading back -/

theorem exists_write_of_put {text : String} (h : (files.put path text).isOk = true)
    (snapshot : Batch) :
    ∃ files', write files path snapshot = (.ok (), files') ∧
      files'.read path = .ok snapshot.yaml := by
  unfold FileTree.put at h
  unfold write
  cases hparents : files.makeParents path with
  | error fault =>
    rw [hparents] at h
    contradiction
  | ok above =>
    rw [hparents] at h
    obtain ⟨held, hheld⟩ : ∃ held, above.write path text = .ok held := by
      cases hheld : above.write path text with
      | ok held => exact ⟨held, rfl⟩
      | error fault =>
        dsimp only at h
        rw [hheld] at h
        contradiction
    obtain ⟨files', hwrite⟩ := FileTree.exists_write hheld snapshot.yaml
    refine ⟨files', ?_, FileTree.read_of_write hwrite⟩
    dsimp only
    rw [hwrite]

theorem read_of_text {text : String} {b' : Batch} (htext : files.read path = .ok text)
    (hbatch : Batch.ofYaml? text = some b') : read files path = .ok b' := by
  unfold read
  rw [htext]
  dsimp only
  rw [hbatch]

/-! ## Verification -/

theorem verify_regenerating (rules : Rules)
    (hwrite : write files path (g.scrubber.snapshot b) = (.ok (), files')) :
    { g with regenerating := true }.verify files path b rules =
      (.error (.regenerated path), files') := by
  unfold verify regenerate
  rw [if_pos rfl]
  dsimp only
  rw [hwrite]

theorem verify_of_same (rules : Rules) (hread : read files path = .ok snapshot)
    (hsame : snapshot.same (g.scrubber.snapshot b) = true) :
    { g with regenerating := false }.verify files path b rules = (.ok (), files) := by
  have hcompare : rules.compare (g.scrubber.snapshot b) snapshot = none :=
    rules.compare_eq_none_comm.mp (rules.compare_of_same hsame)
  unfold verify check
  rw [if_neg Bool.false_ne_true, hread]
  dsimp only
  rw [hcompare]

/-- A golden file that is written anew from a capture accepts the capture, for every scrubber,
every previous content and every rule set. The verification that writes it fails. -/
theorem regenerated_accepts (hput : (files.put path "").isOk = true)
    (habove : b.Every Value.IsAboveSigned)
    (hdepth : (g.scrubber.snapshot b).toJson.depth ≤ Yaml.depthLimit)
    (htext : Yaml.TextHolds (g.scrubber.snapshot b).toJson) (before rules : Rules) :
    ∃ files', { g with regenerating := true }.verify files path b before =
        (.error (.regenerated path), files') ∧
      files'.read path = .ok (g.scrubber.snapshot b).yaml ∧
      { g with regenerating := false }.verify files' path b rules = (.ok (), files') := by
  obtain ⟨files', hwrite, htext'⟩ := exists_write_of_put hput (g.scrubber.snapshot b)
  have hread := read_of_text htext'
    (Batch.ofYaml?_yaml (g.scrubber.every_snapshot habove) hdepth htext)
  refine ⟨files', verify_regenerating before hwrite, htext', ?_⟩
  exact verify_of_same rules hread (g.scrubber.snapshot b).same_oneNaN

/-- Drops the entries named `noise` and keeps one point of each series. -/
def quietStore : GoldenStore where
  root := ""
  scrubber := { flaky := ["noise"], maxPoints := some 1 }

/-- A gauge that is no number is accepted by its own golden file. -/
theorem regenerated_accepts_gauge :
    ∃ files', { quietStore with regenerating := true }.verify {} "up.yaml" (.gauge .nan) [] =
        (.error (.regenerated "up.yaml"), files') ∧
      { quietStore with regenerating := false }.verify files' "up.yaml" (.gauge .nan)
        .unordered = (.ok (), files') := by
  have habove : (Batch.gauge .nan).Every Value.IsAboveSigned :=
    Batch.every_gauge (show 2 ^ 63 ≤ (18446744073709551615 : UInt64).toNat by decide) trivial
  have hput : (({} : FileTree).put "up.yaml" "").isOk = true := by decide +kernel
  obtain ⟨files', hwritten, -, haccepted⟩ := regenerated_accepts (g := quietStore) hput habove
    (by decide +kernel) (by decide +kernel) [] .unordered
  exact ⟨files', hwritten, haccepted⟩

end GoldenStore

end GoldenCapture
