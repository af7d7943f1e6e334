import GoldenCapture.Proofs.Golden.Regeneration
import GoldenCapture.Proofs.Golden.Shape
import GoldenCapture.Proofs.Run.Waits

/-!
# Renewal of golden files

A golden scenario writes its golden file anew when a stored batch may take the place of what the
file holds; without such a batch it waits in vain. A run after that selects by the snapshot that
has just been written, from batches that have not been scrubbed: it passes if the snapshot has the
shape of its batch, or if the shape does not count.
-/

namespace GoldenCapture

/-! ## Regeneration -/

theorem GoldenStore.write_ne_regenerated {files files' : FileTree} {path other : String}
    {snapshot : Batch} : write files path snapshot ≠ (.error (.regenerated other), files') := by
  unfold write
  split
  · simp
  · split <;> simp

theorem GoldenStore.text_of_write {files files' : FileTree} {path : String} {snapshot : Batch}
    (h : write files path snapshot = (.ok (), files')) : files'.read path = .ok snapshot.yaml := by
  unfold write at h
  split at h
  · simp at h
  · split at h
    · simp at h
    · rename_i hwrite
      cases h
      exact FileTree.read_of_write hwrite

/-- What a path holds, if anything: a text that reads as a snapshot. -/
def GoldenStore.Holds (files : FileTree) (path : String) : Option Batch → Prop
  | none => files.read path = .error .missing
  | some g => GoldenStore.read files path = .ok g

namespace GoldenScenario

open RunContext (timeline)

/-! ## Choices -/

/-- A verification that begins at `before` selects the batch `b` at `seen`. -/
def Chooses (s : GoldenScenario) (before seen : RunContext) (b : Captured) : Prop :=
  ∃ enough selector expected, before.waitForBatches s.protocol s.minBatches = (.ok (), enough) ∧
    s.reference enough = .ok (selector, expected) ∧
    enough.elapse.waitForSelection s.protocol selector expected = (.ok b, seen)

variable {s : GoldenScenario} {c before seen after again : RunContext} {b : Captured}
  {st : Store} {old : Option Batch} {files : FileTree} {path : String}

theorem Chooses.reaches (h : s.Chooses before seen b) : timeline.Reaches before seen := by
  obtain ⟨enough, selector, expected, hwait, -, hselect⟩ := h
  exact (reaches_of_waitForBatches hwait).1.trans
    (enough.reaches_elapse.trans (reaches_of_waitForSelection hselect).1)

theorem Chooses.verify_eq (h : s.Chooses before seen b) :
    s.verify before =
      let (result, files) := { seen.golden with scrubber := s.scrubber }.verify seen.files
        (s.goldenPath seen.settings) b.batch s.rules
      (result, seen.setFiles files) := by
  obtain ⟨enough, selector, expected, hwait, hreference, hselect⟩ := h
  unfold verify verifySelection
  rw [hwait]
  dsimp only
  rw [hreference]
  dsimp only
  rw [hselect]
  rfl

theorem Chooses.verify_of_write (h : s.Chooses before seen b)
    (hupdate : seen.settings.switches.updateExpectedResults = true)
    (hwrite : GoldenStore.write seen.files (s.goldenPath seen.settings)
      (s.scrubber.snapshot b.batch) = (.ok (), files)) :
    s.verify before =
      (.error (.regenerated (s.goldenPath seen.settings)), seen.setFiles files) := by
  have hregenerating : seen.golden.regenerating = true := hupdate
  rw [h.verify_eq]
  simp only [GoldenStore.verify, GoldenStore.regenerate, hregenerating, if_true, hwrite]

theorem reference_ne_regenerated : s.reference c ≠ .error (.regenerated path) := by
  unfold reference GoldenStore.read
  intro h
  split at h
  · contradiction
  · split at h
    · contradiction
    · simp at h
  · rename_i heq
    cases h
    split at heq
    · simp at heq
    · simp at heq
    · split at heq <;> simp at heq

theorem waitForBatches_ne_regenerated {n : Nat} :
    c.waitForBatches s.protocol n ≠ (.error (.regenerated path), after) := by
  unfold RunContext.waitForBatches
  intro h
  split at h
  · rename_i hstore
    cases h
    exact SinkSet.store_ne_regenerated hstore
  · unfold Timeline.waitForBatches at h
    generalize Timeline.waitFor _ _ _ _ _ = answer at h
    obtain ⟨_ | _, _⟩ := answer <;> simp [Except.mapError, Expiry.failure] at h

theorem waitForSelection_ne_regenerated {selector : Selector} {expected : Batch} :
    c.waitForSelection s.protocol selector expected ≠ (.error (.regenerated path), after) := by
  unfold RunContext.waitForSelection
  intro h
  split at h
  · rename_i hstore
    cases h
    exact SinkSet.store_ne_regenerated hstore
  · simp only [Timeline.waitForSelection] at h
    generalize Timeline.waitFor _ _ _ _ _ = answer at h
    obtain ⟨_ | _, _⟩ := answer <;> simp [Except.mapError, Expiry.failure] at h

theorem chooses_or_waits (s : GoldenScenario) (before : RunContext) :
    (∃ seen b, s.Chooses before seen b) ∨ timeline.Reaches before (s.verify before).2 ∧
      ∀ path, (s.verify before).1 ≠ .error (.regenerated path) := by
  have hbefore := before.reaches_waitForBatches s.protocol s.minBatches
  unfold verify
  rcases hwait : before.waitForBatches s.protocol s.minBatches with ⟨failure | ⟨⟩, enough⟩
  · rw [hwait] at hbefore
    refine .inr ⟨hbefore, fun path hpath => ?_⟩
    cases hpath
    exact waitForBatches_ne_regenerated hwait
  rw [hwait] at hbefore
  dsimp only
  rcases hreference : s.reference enough with failure | ⟨selector, expected⟩
  · refine .inr ⟨hbefore, fun path hpath => ?_⟩
    cases hpath
    exact reference_ne_regenerated hreference
  have henough := enough.elapse.reaches_waitForSelection s.protocol selector expected
  dsimp only
  unfold verifySelection
  rcases hselect : enough.elapse.waitForSelection s.protocol selector expected
    with ⟨failure | b, seen⟩
  · rw [hselect] at henough
    refine .inr ⟨hbefore.trans (enough.reaches_elapse.trans henough), fun path hpath => ?_⟩
    cases hpath
    exact waitForSelection_ne_regenerated hselect
  · exact .inl ⟨seen, b, enough, selector, expected, hwait, hreference, hselect⟩

/-! ## Replacements -/

/-- Whether a batch may take the place of what the golden file holds: it carries the marker and, if
the shape counts, has the shape of the old snapshot. -/
def mayReplace (s : GoldenScenario) (old : Option Batch) (b : Batch) : Bool :=
  match old with
  | none => s.selector.marker.isIn b
  | some g => s.selector.accepts g b

/-- The newest of the batches that may take the place of the old snapshot. -/
def Picks (s : GoldenScenario) (old : Option Batch) (captured : List Captured) (b : Captured) :
    Prop :=
  s.mayReplace old b.batch = true ∧ ∃ earlier later, captured = earlier ++ b :: later ∧
    ∀ other ∈ later, s.mayReplace old other.batch = false

theorem Picks.mem {captured : List Captured} {b : Captured} (h : s.Picks old captured b) :
    b ∈ captured := by
  obtain ⟨-, earlier, later, rfl, -⟩ := h
  exact List.mem_append_right earlier List.mem_cons_self

theorem isIn_of_mayReplace {b : Batch} (h : s.mayReplace old b = true) :
    s.selector.marker.isIn b = true := by
  cases old with
  | none => exact h
  | some g => exact (Selector.accepts_iff.mp h).1

theorem picks_iff {selector : Selector} {expected : Batch}
    (haccepts : ∀ b, selector.accepts expected b = s.mayReplace old b) {captured : List Captured}
    {b : Captured} : selector.select expected captured = some b ↔ s.Picks old captured b := by
  rw [Selector.select_eq_some_iff]
  simp only [haccepts, Picks]

theorem reference_of_holds (hupdate : c.settings.switches.updateExpectedResults = true)
    (h : GoldenStore.Holds c.files (s.goldenPath c.settings) old) :
    ∃ selector expected, s.reference c = .ok (selector, expected) ∧
      ∀ b, selector.accepts expected b = s.mayReplace old b := by
  have hpath : c.golden.path s.golden = s.goldenPath c.settings := rfl
  have hregenerating : c.golden.regenerating = true := hupdate
  unfold reference
  rw [hpath, hregenerating]
  cases old with
  | none =>
    have hmissing : c.files.read (s.goldenPath c.settings) = .error .missing := h
    unfold GoldenStore.read
    rw [hmissing]
    exact ⟨_, _, rfl, fun b => by simp [Selector.accepts, mayReplace]⟩
  | some g =>
    have hread : GoldenStore.read c.files (s.goldenPath c.settings) = .ok g := h
    rw [hread]
    exact ⟨_, _, rfl, fun b => rfl⟩

section

variable (hupdate : c.settings.switches.updateExpectedResults = true)
  (hstore : c.store s.protocol = .ok st) (hcount : s.minBatches ≤ st.count)
  (hold : GoldenStore.Holds c.files (s.goldenPath c.settings) old)

include hupdate hstore hcount hold

theorem verify_of_mayReplace
    (hput : (c.elapse.files.put (s.goldenPath c.settings) "").isOk = true)
    (hsome : ∃ b ∈ st.captured, s.mayReplace old b.batch = true) :
    ∃ b files, s.Picks old (c.elapse.captured s.protocol).captured b ∧
      s.verify c = (.error (.regenerated (s.goldenPath c.settings)), c.elapse.setFiles files) ∧
      files.read (s.goldenPath c.settings) = .ok (s.scrubber.snapshot b.batch).yaml := by
  obtain ⟨selector, expected, hreference, haccepts⟩ := reference_of_holds hupdate hold
  have hfrom : c.StoresFrom s.protocol st.captured := ⟨st, hstore, List.prefix_refl _⟩
  obtain ⟨st', hstore', hprefix⟩ := hfrom.reached c.reaches_elapse
  have hsettings := RunContext.settings_of_reaches c.reaches_elapse
  obtain ⟨b₀, hb₀, hmay⟩ := hsome
  have hsome : ∃ b ∈ st'.captured, selector.accepts expected b.batch = true :=
    ⟨b₀, hprefix.subset hb₀, (haccepts _).trans hmay⟩
  obtain ⟨b, hselect⟩ := Selector.exists_select hsome
  obtain ⟨files, hwrite, hread⟩ :=
    GoldenStore.exists_write_of_put hput (s.scrubber.snapshot b.batch)
  have hchooses : s.Chooses c c.elapse b :=
    ⟨c, selector, expected, RunContext.waitForBatches_of_le hstore hcount, hreference,
      RunContext.waitForSelection_of_select hstore' hselect⟩
  rw [← hsettings] at hupdate hwrite hread ⊢
  rw [RunContext.captured_of_store hstore']
  exact ⟨b, files, (picks_iff haccepts).mp hselect, hchooses.verify_of_write hupdate hwrite, hread⟩

theorem timeout_of_not_mayReplace (htraffic : c.traffic = [])
    (hnone : ∀ b ∈ st.captured, s.mayReplace old b.batch = false) :
    ∃ what observed waited, (s.verify c).1 = .error (.timeout what observed waited) := by
  obtain ⟨selector, expected, hreference, haccepts⟩ := reference_of_holds hupdate hold
  simp only [← haccepts] at hnone
  have hquiet : c.Quiet s.protocol st := ⟨htraffic, hstore⟩
  obtain ⟨what, observed, waited, c', hwait⟩ := RunContext.waitForSelection_of_none
    hquiet.elapse (Selector.select_eq_none hnone)
  refine ⟨what, observed, waited, ?_⟩
  unfold verify verifySelection
  rw [RunContext.waitForBatches_of_le hstore hcount]
  dsimp only
  rw [hreference]
  dsimp only
  rw [hwait]

end

/-- With enough batches in its store, a scenario that writes its golden file anew does so if a
batch may take the place of what the file holds: it writes the snapshot of the newest such batch,
which may have come while the file was read, and fails for it. Without one, and with nothing to
come, it waits in vain. -/
theorem verify_renews (hupdate : c.settings.switches.updateExpectedResults = true)
    (hstore : c.store s.protocol = .ok st) (hcount : s.minBatches ≤ st.count)
    (hold : GoldenStore.Holds c.files (s.goldenPath c.settings) old)
    (hput : (c.elapse.files.put (s.goldenPath c.settings) "").isOk = true) :
    ((∃ b ∈ st.captured, s.mayReplace old b.batch = true) →
      ∃ b files, s.Picks old (c.elapse.captured s.protocol).captured b ∧
        s.verify c = (.error (.regenerated (s.goldenPath c.settings)), c.elapse.setFiles files) ∧
        files.read (s.goldenPath c.settings) = .ok (s.scrubber.snapshot b.batch).yaml) ∧
    (c.traffic = [] → (∀ b ∈ st.captured, s.mayReplace old b.batch = false) →
      ∃ what observed waited, (s.verify c).1 = .error (.timeout what observed waited)) :=
  ⟨verify_of_mayReplace hupdate hstore hcount hold hput,
    timeout_of_not_mayReplace hupdate hstore hcount hold⟩

/-! ## A gauge to watch -/

def gauges (names : List String) : Batch where
  signal := .metrics
  resources := [{ scopes := [{ entries := names.map fun name => { name, kind := .gauge } }] }]

theorem every_gauges {pass : Value → Prop} (names : List String) : (gauges names).Every pass := by
  intro r hr
  cases List.mem_singleton.1 hr
  refine ⟨trivial, fun scope hscope => ?_⟩
  cases List.mem_singleton.1 hscope
  refine ⟨trivial, fun e he => ?_⟩
  obtain ⟨name, -, rfl⟩ := List.mem_map.mp he
  exact ⟨trivial, fun p hp => by contradiction⟩

def watch : GoldenScenario where
  name := "watch"
  protocol := .hecMetrics
  golden := "up.yaml"
  selector := { marker := { name := "up" } }
  scrubber := { flaky := ["noise"] }

def watchSettings (update : Bool) : Settings where
  sinks := [.default .hecMetrics]
  goldenRoot := ""
  switches := { updateExpectedResults := update }

def watching (update : Bool) (old : Option Batch) (captured : Batch) : RunContext where
  settings := watchSettings update
  clock now := ⟨now, false⟩
  shell := Shell.runLine
  lease := {
    backend := { folder := { files := { nodes := { entries := old.toList.map fun g =>
      (["up.yaml"], .file g.yaml) } } } }
    parties := [] }
  listeners := {}
  sinks := { sinks := { entries := [(.hecMetrics,
    { protocol := .hecMetrics, store := ({} : Store).append .hecMetrics captured })] } }
  stub := none
  deadline := none

theorem upPath_parts : FileTree.join "" "up.yaml" = "up.yaml" ∧
    FileTree.parts "up.yaml" = ["up.yaml"] ∧ FileTree.fits "up.yaml" = true ∧
    FileTree.namesFolder "up.yaml" = false := by
  decide +kernel

theorem goldenPath_watch (update : Bool) :
    watch.goldenPath (watchSettings update) = "up.yaml" :=
  upPath_parts.1

theorem locate_up (t : FileTree) : t.locate "up.yaml" = .ok ["up.yaml"] := by
  obtain ⟨-, hparts, hfits, -⟩ := upPath_parts
  simp [FileTree.locate, FileTree.walk, FileTree.node?, hparts, hfits]

theorem put_up {t : FileTree} (h : t.isFolder ["up.yaml"] = false) :
    (t.put "up.yaml" "").isOk = true := by
  obtain ⟨-, hparts, -, hfile⟩ := upPath_parts
  have htop : t.isFolder [] = true := rfl
  unfold FileTree.put FileTree.makeParents
  rw [hparts]
  simp only [List.dropLast_singleton, FileTree.makeFolders, FileTree.write, locate_up, hfile, h,
    htop]
  rfl

theorem read_watching (update : Bool) (g captured : Batch) :
    (watching update (some g) captured).files.read "up.yaml" = .ok g.yaml := by
  obtain ⟨-, -, -, hfile⟩ := upPath_parts
  unfold FileTree.read
  rw [locate_up]
  simp [watching, RunContext.files, FileTree.node?, Dictionary.get?, Dictionary.find?, hfile]

theorem textHolds_up : Yaml.TextHolds (gauges ["up"]).toJson := by decide +kernel

theorem holds_watching (update : Bool) (captured : Batch) :
    GoldenStore.Holds (watching update (some (gauges ["up"])) captured).files
      (watch.goldenPath (watchSettings update)) (some (gauges ["up"])) := by
  rw [goldenPath_watch]
  exact GoldenStore.read_of_text (read_watching update (gauges ["up"]) captured)
    (Batch.ofYaml?_yaml (every_gauges ["up"]) (by decide) textHolds_up)

theorem missing_watching (captured : Batch) :
    GoldenStore.Holds (watching true none captured).files
      (watch.goldenPath (watchSettings true)) none := by
  rw [goldenPath_watch]
  change FileTree.read {} "up.yaml" = .error .missing
  unfold FileTree.read
  rw [locate_up]
  rfl

theorem put_watching (old : Option Batch) (captured : Batch) :
    ((watching true old captured).files.put (watch.goldenPath (watchSettings true)) "").isOk =
      true := by
  rw [goldenPath_watch]
  cases old <;> exact put_up rfl

theorem snapshot_noise : watch.scrubber.snapshot (gauges ["up", "noise"]) = gauges ["up"] := by
  simp [Scrubber.snapshot, Scrubber.scrub, Scrubber.cap, Batch.withoutEntries_eq, Batch.mapEntries,
    Batch.mapScopes, Scope.sortEntries, Entry.clearTimes, gauges, watch]

theorem snapshot_up : watch.scrubber.snapshot (gauges ["up"]) = gauges ["up"] := by
  simp [Scrubber.snapshot, Scrubber.scrub, Scrubber.cap, Batch.withoutEntries_eq, Batch.mapEntries,
    Batch.mapScopes, Scope.sortEntries, Entry.clearTimes, gauges, watch]

theorem verify_watching (captured : Batch)
    (hmarked : watch.selector.marker.isIn captured = true) :
    ∃ files, watch.verify (watching true none captured) =
        (.error (.regenerated (watch.goldenPath (watchSettings true))),
          (watching true none captured).setFiles files) ∧
      files.read (watch.goldenPath (watchSettings true)) =
        .ok (watch.scrubber.snapshot captured).yaml := by
  obtain ⟨b, files, hpicks, hverify, hread⟩ := verify_of_mayReplace (s := watch)
    (c := watching true none captured) rfl rfl (Nat.le_refl 1) (missing_watching captured)
    (put_watching none captured) ⟨_, List.mem_singleton_self _, hmarked⟩
  cases List.mem_singleton.mp hpicks.mem
  exact ⟨files, hverify, hread⟩

/-- The golden file is written again although nothing in it changes. -/
theorem verify_renews_same_gauge :
    ∃ b files, watch.Picks (some (gauges ["up"])) [⟨0, .hecMetrics, gauges ["up"]⟩] b ∧
      watch.verify (watching true (some (gauges ["up"])) (gauges ["up"])) =
        (.error (.regenerated (watch.goldenPath (watchSettings true))),
          (watching true (some (gauges ["up"])) (gauges ["up"])).setFiles files) ∧
      files.read (watch.goldenPath (watchSettings true)) =
        .ok (watch.scrubber.snapshot b.batch).yaml :=
  (verify_renews (s := watch) (c := watching true (some (gauges ["up"])) (gauges ["up"])) rfl rfl
    (by decide) (holds_watching true _) (put_watching _ _)).1
    ⟨_, List.mem_singleton_self _, by decide⟩

/-- The sink has captured one record more than there was: the old golden file, which is to be
replaced, picks nothing, and the run gives up. -/
theorem verify_not_renewed_of_grown :
    (watching true (some (gauges ["up"])) (gauges ["up", "down"])).files.read "up.yaml" =
        .ok (gauges ["up"]).yaml ∧
      ∃ st, (watching true (some (gauges ["up"])) (gauges ["up", "down"])).store .hecMetrics =
          .ok st ∧
        watch.minBatches ≤ st.count ∧
        (∃ b ∈ st.captured, watch.selector.marker.isIn b.batch = true) ∧
        ∀ path, (watch.verify (watching true (some (gauges ["up"])) (gauges ["up", "down"]))).1 ≠
          .error (.regenerated path) := by
  refine ⟨read_watching .., _, rfl, by decide, ⟨_, List.mem_singleton_self _, by decide⟩, ?_⟩
  obtain ⟨what, observed, waited, htimeout⟩ := timeout_of_not_mayReplace (s := watch)
    (c := watching true (some (gauges ["up"])) (gauges ["up", "down"])) rfl rfl (by decide)
    (holds_watching true _) rfl fun b hb => by
      cases List.mem_singleton.mp hb
      decide
  intro path hregenerated
  rw [htimeout] at hregenerated
  cases hregenerated

/-! ## After a regeneration -/

theorem exists_of_reference (hupdate : c.settings.switches.updateExpectedResults = true)
    {selector : Selector} {expected : Batch} (h : s.reference c = .ok (selector, expected)) :
    ∃ old, ∀ b, selector.accepts expected b = s.mayReplace old b := by
  have hregenerating : c.golden.regenerating = true := hupdate
  unfold reference at h
  rw [hregenerating] at h
  split at h
  · cases h
    exact ⟨some expected, fun b => rfl⟩
  · cases h
    exact ⟨none, fun b => by simp [Selector.accepts, mayReplace]⟩
  · contradiction

theorem Chooses.stores (h : s.Chooses before seen b) : seen.Stores s.protocol s.minBatches := by
  obtain ⟨enough, selector, expected, hwait, -, hselect⟩ := h
  exact (RunContext.stores_of_waitForBatches hwait).reached
    (enough.reaches_elapse.trans (reaches_of_waitForSelection hselect).1)

theorem Chooses.picks (h : s.Chooses before seen b)
    (hupdate : before.settings.switches.updateExpectedResults = true) :
    ∃ old, s.Picks old (seen.captured s.protocol).captured b := by
  obtain ⟨enough, selector, expected, hwait, hreference, hselect⟩ := h
  rw [← RunContext.settings_of_reaches (reaches_of_waitForBatches hwait).1] at hupdate
  obtain ⟨old, haccepts⟩ := exists_of_reference hupdate hreference
  exact ⟨old, (picks_iff haccepts).mp (reaches_of_waitForSelection hselect).2⟩

/-- The scenario has picked a batch at `seen` and written its snapshot. -/
structure Renews (s : GoldenScenario) (path : String) (seen : RunContext) (b : Captured)
    (files : FileTree) : Prop where
  enough : seen.Stores s.protocol s.minBatches
  picked : ∃ old, s.Picks old (seen.captured s.protocol).captured b
  written : GoldenStore.write seen.files path (s.scrubber.snapshot b.batch) = (.ok (), files)

theorem renews_of_verify (hupdate : c.settings.switches.updateExpectedResults = true)
    (h : s.verify c = (.error (.regenerated path), after)) :
    path = s.goldenPath c.settings ∧ ∃ seen b files, s.Renews path seen b files ∧
      after = seen.setFiles files := by
  rcases s.chooses_or_waits c with ⟨seen, b, hchooses⟩ | ⟨-, hother⟩
  · have hsettings := RunContext.settings_of_reaches hchooses.reaches
    have hregenerating : seen.golden.regenerating = true := by
      unfold RunContext.golden
      rw [hsettings]
      exact hupdate
    rw [hchooses.verify_eq] at h
    simp only [GoldenStore.verify, GoldenStore.regenerate, hregenerating, if_true] at h
    rcases hwrite : GoldenStore.write seen.files (s.goldenPath seen.settings)
      (s.scrubber.snapshot b.batch) with ⟨failure | ⟨⟩, files⟩
    · rw [hwrite] at h
      cases h
      exact absurd hwrite GoldenStore.write_ne_regenerated
    · rw [hwrite] at h
      cases h
      rw [← hsettings]
      exact ⟨rfl, seen, b, files, ⟨hchooses.stores, hchooses.picks hupdate, hwrite⟩, rfl⟩
  · exact absurd (congrArg Prod.fst h) (hother path)

/-! ## The run after a regeneration -/

theorem Picks.of_snapshot {captured : List Captured} {b : Captured} {w : Batch}
    (h : s.Picks old captured b) (hshape : s.selector.matchShape = true →
      w.resourceCount = b.batch.resourceCount ∧ w.recordCount = b.batch.recordCount) :
    s.Picks (some w) captured b := by
  obtain ⟨hb, earlier, later, hcaptured, hlater⟩ := h
  refine ⟨?_, earlier, later, hcaptured, fun other hother => ?_⟩
  · refine Selector.accepts_iff.mpr ⟨isIn_of_mayReplace hb, fun hmatch => ?_⟩
    exact ⟨(hshape hmatch).1.symm, (hshape hmatch).2.symm⟩
  · -- What the new snapshot accepts has the shape of the batch, so the old one accepted it too.
    have hrefused := hlater other hother
    contrapose! hrefused
    rw [Bool.ne_false_iff] at hrefused ⊢
    obtain ⟨hmarked, hshaped⟩ := Selector.accepts_iff.mp hrefused
    cases old with
    | none => exact hmarked
    | some g =>
      refine Selector.accepts_iff.mpr ⟨hmarked, fun hmatch => ?_⟩
      have hlike := (Selector.accepts_iff.mp hb).2 hmatch
      obtain ⟨hresources, hrecords⟩ := hshaped hmatch
      obtain ⟨hresources', hrecords'⟩ := hshape hmatch
      exact ⟨hresources.trans (hresources'.trans hlike.1), hrecords.trans (hrecords'.trans hlike.2)⟩

section

variable {w : Batch} (hupdate : again.settings.switches.updateExpectedResults = false)
  (hstore : again.store s.protocol = .ok st) (hcount : s.minBatches ≤ st.count)
  (hread : GoldenStore.read again.files (s.goldenPath again.settings) = .ok w)
  (hstays : GoldenStore.read again.elapse.files (s.goldenPath again.settings) = .ok w)

include hupdate hstore hcount hread

theorem verify_of_read : s.verify again = s.verifySelection s.selector w again.elapse := by
  have hreference : s.reference again = .ok (s.selector, w) :=
    (reference_eq_ok_iff hupdate).mpr ⟨hread, rfl⟩
  unfold verify
  rw [RunContext.waitForBatches_of_le hstore hcount]
  dsimp only
  rw [hreference]

include hstays

theorem verify_of_picks (hstill : again.elapse.store s.protocol = .ok st) {b : Captured}
    (hpicks : s.Picks (some w) st.captured b) :
    (s.verify again).1 = match s.rules.compare (s.scrubber.snapshot b.batch) w with
      | some mismatch => .error (.mismatch mismatch)
      | none => .ok () := by
  have hsettings := RunContext.settings_of_reaches again.reaches_elapse
  rw [verify_of_read hupdate hstore hcount hread]
  rw [← hsettings] at hupdate hstays
  refine verifySelection_eq hupdate (RunContext.waitForSelection_of_select hstill ?_) hstays
  exact (picks_iff fun _ => rfl).mpr hpicks

theorem verify_eq_ok_iff (htraffic : again.traffic = []) :
    (s.verify again).1 = .ok () ↔ ∃ b, s.Picks (some w) st.captured b ∧
      s.rules.compare (s.scrubber.snapshot b.batch) w = none := by
  have hquiet : again.Quiet s.protocol st := ⟨htraffic, hstore⟩
  cases hselect : s.selector.select w st.captured with
  | some b =>
    have hpicks : s.Picks (some w) st.captured b := (picks_iff fun _ => rfl).mp hselect
    rw [verify_of_picks hupdate hstore hcount hread hstays hquiet.elapse.2 hpicks]
    constructor
    · intro hok
      refine ⟨b, hpicks, ?_⟩
      split at hok
      · contradiction
      · assumption
    · rintro ⟨b', hpicks', hcompare⟩
      have hselect' := (picks_iff fun _ => rfl).mpr hpicks'
      obtain rfl : b = b' := Option.some.inj (hselect.symm.trans hselect')
      rw [hcompare]
  | none =>
    obtain ⟨what, observed, waited, after, hwait⟩ :=
      RunContext.waitForSelection_of_none hquiet.elapse hselect
    have htimeout : (s.verify again).1 = .error (.timeout what observed waited) := by
      rw [verify_of_read hupdate hstore hcount hread]
      unfold verifySelection
      rw [hwait]
    rw [htimeout]
    constructor
    · intro hok
      contradiction
    · rintro ⟨b, hpicks, -⟩
      have hselect' := (picks_iff fun _ => rfl).mpr hpicks
      rw [hselect] at hselect'
      contradiction

end

/-- A golden file that has just been written anew holds the snapshot of a stored batch with the
marker. A run without regeneration that finds the same store and the same file at its looks passes
if the snapshot has all records of the batch or the shape does not count; with nothing to come, it
passes if and only if the batch that the golden file picks agrees with it. -/
theorem rerun_of_renewal (hupdate : c.settings.switches.updateExpectedResults = true)
    (hrenewed : s.verify c = (.error (.regenerated path), after))
    (hagain : again.settings.switches.updateExpectedResults = false)
    (hpath : s.goldenPath again.settings = path)
    (hstore : again.store s.protocol = after.store s.protocol ∧
      again.elapse.store s.protocol = after.store s.protocol)
    (hfile : again.files.read path = after.files.read path ∧
      again.elapse.files.read path = after.files.read path) :
    ∃ b ∈ (after.captured s.protocol).captured, s.selector.marker.isIn b.batch = true ∧
      after.files.read path = .ok (s.scrubber.snapshot b.batch).yaml ∧
      (b.batch.Every Value.IsAboveSigned →
        (s.scrubber.snapshot b.batch).toJson.depth ≤ Yaml.depthLimit →
        Yaml.TextHolds (s.scrubber.snapshot b.batch).toJson →
        ∃ w, GoldenStore.read after.files path = .ok w ∧
          w.same (s.scrubber.snapshot b.batch) = true ∧
          ((s.selector.matchShape = true → b.batch.countEntries s.scrubber.flaky = 0) →
            (s.verify again).1 = .ok ()) ∧
          (again.traffic = [] → ((s.verify again).1 = .ok () ↔
            ∃ b', s.Picks (some w) (after.captured s.protocol).captured b' ∧
              s.rules.compare (s.scrubber.snapshot b'.batch) w = none))) := by
  obtain ⟨-, seen, b, files, ⟨⟨st, hst, hcount⟩, ⟨old, hpicks⟩, hwrite⟩, rfl⟩ :=
    renews_of_verify hupdate hrenewed
  have hcaptured : (seen.setFiles files).captured s.protocol = st :=
    RunContext.captured_of_store (c := seen.setFiles files) hst
  have hagainStore : again.store s.protocol = .ok st := hstore.1.trans hst
  rw [hcaptured]
  rw [RunContext.captured_of_store hst] at hpicks
  have htext : files.read path = .ok (s.scrubber.snapshot b.batch).yaml :=
    GoldenStore.text_of_write hwrite
  refine ⟨b, hpicks.mem, isIn_of_mayReplace hpicks.1, htext, fun habove hdepth hholds => ?_⟩
  -- Read back, the snapshot differs from what was written in its NaNs alone, and all NaNs compare
  -- equal.
  have hyaml := Batch.ofYaml?_yaml (s.scrubber.every_snapshot habove) hdepth hholds
  have hreadable : ∀ found : FileTree, found.read path = (seen.setFiles files).files.read path →
      GoldenStore.read found (s.goldenPath again.settings) =
        .ok (s.scrubber.snapshot b.batch).oneNaN := by
    intro found hfound
    rw [hpath]
    exact GoldenStore.read_of_text (hfound.trans htext) hyaml
  have hread := hreadable _ hfile.1
  have hstays := hreadable _ hfile.2
  refine ⟨(s.scrubber.snapshot b.batch).oneNaN, GoldenStore.read_of_text htext hyaml,
    Batch.same_oneNaN _, fun hshape => ?_, fun htraffic => ?_⟩
  · have hagrees : s.rules.compare (s.scrubber.snapshot b.batch)
        (s.scrubber.snapshot b.batch).oneNaN = none :=
      s.rules.compare_eq_none_comm.mp (s.rules.compare_of_same (Batch.same_oneNaN _))
    have hkept : s.Picks (some (s.scrubber.snapshot b.batch).oneNaN) st.captured b := by
      refine hpicks.of_snapshot fun hmatch => ?_
      have hrecords := s.scrubber.recordCount_snapshot b.batch
      rw [hshape hmatch] at hrecords
      rw [Batch.resourceCount_oneNaN, Batch.recordCount_oneNaN]
      exact ⟨s.scrubber.resourceCount_snapshot b.batch, hrecords⟩
    rw [verify_of_picks hagain hagainStore hcount hread hstays (hstore.2.trans hst) hkept, hagrees]
  · exact verify_eq_ok_iff hagain hagainStore hcount hread hstays htraffic

/-- A gauge passes on the golden file that has been made from it. -/
theorem rerun_of_renewal_gauge :
    ∃ after : RunContext, watch.verify (watching true none (gauges ["up"])) =
        (.error (.regenerated (watch.goldenPath (watchSettings true))), after) ∧
      (watch.verify { after with settings := watchSettings false }).1 = .ok () := by
  obtain ⟨files, hverify, -⟩ := verify_watching (gauges ["up"]) (by decide)
  refine ⟨_, hverify, ?_⟩
  have hoff : ({ (watching true none (gauges ["up"])).setFiles files with
      settings := watchSettings false }).settings.switches.updateExpectedResults = false := rfl
  obtain ⟨b, hb, -, -, hreadable⟩ := rerun_of_renewal (s := watch) rfl hverify hoff rfl
    ⟨rfl, rfl⟩ ⟨rfl, rfl⟩
  cases List.mem_singleton.mp hb
  rw [snapshot_up] at hreadable
  obtain ⟨w, -, -, haccepted, -⟩ := hreadable (every_gauges _) (by decide) textHolds_up
  exact haccepted fun _ => rfl

/-- The noise that the snapshot drops is missing from the shape: a run on the store that the
golden file has just been written from picks nothing and gives up. -/
theorem rerun_not_ok_of_noise :
    ∃ after : RunContext, watch.verify (watching true none (gauges ["up", "noise"])) =
        (.error (.regenerated (watch.goldenPath (watchSettings true))), after) ∧
      (watch.verify { after with settings := watchSettings false }).1 ≠ .ok () := by
  obtain ⟨files, hverify, htext⟩ := verify_watching (gauges ["up", "noise"]) (by decide)
  rw [snapshot_noise] at htext
  have hread : GoldenStore.read files (watch.goldenPath (watchSettings false)) =
      .ok (gauges ["up"]) := by
    refine GoldenStore.read_of_text htext ?_
    exact Batch.ofYaml?_yaml (every_gauges ["up"]) (by decide) textHolds_up
  refine ⟨_, hverify, ?_⟩
  have hoff : ({ (watching true none (gauges ["up", "noise"])).setFiles files with
      settings := watchSettings false }).settings.switches.updateExpectedResults = false := rfl
  rw [Ne, verify_eq_ok_iff (s := watch) hoff rfl (Nat.le_refl 1) hread hread rfl]
  rintro ⟨b, hpicks, -⟩
  cases List.mem_singleton.mp hpicks.mem
  exact absurd hpicks.1 (by decide)

end GoldenScenario

end GoldenCapture
