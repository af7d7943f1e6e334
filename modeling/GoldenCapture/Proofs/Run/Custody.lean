import GoldenCapture.Proofs.Lease.FolderFiles
import GoldenCapture.Proofs.Run.Renewal
import GoldenCapture.Proofs.Run.Trail

/-!
# Custody of golden files

A run that touches its golden file never passes. It writes the file only to renew it, with the
snapshot of the batch that it has selected, and then fails for it, whatever else fails after that.
The commands of the scenario and the files of the lease have to keep out of the way.
-/

namespace GoldenCapture

open FileTree (locationOf)
open RunContext (timeline)

/-! ## Writing -/

namespace GoldenStore

variable {files files' : FileTree} {path : String} {snapshot : Batch} {failure : Failure}
  {l : List String}

theorem fileAt?_of_write (h : write files path snapshot = (.ok (), files')) :
    files'.fileAt? l = if l = locationOf path then some snapshot.yaml else files.fileAt? l := by
  unfold write at h
  split at h
  · simp at h
  · rename_i above hparents
    split at h
    · simp at h
    · rename_i hwrite
      cases h
      have habove : above.fileAt? l = files.fileAt? l := FileTree.fileAt?_of_makeFolders hparents
      rw [FileTree.fileAt?_of_write hwrite, habove]

theorem fileAt?_of_write_error (h : write files path snapshot = (.error failure, files')) :
    files'.fileAt? l = files.fileAt? l := by
  unfold write at h
  split at h
  · cases h
    rfl
  · rename_i hparents
    split at h
    · cases h
      exact FileTree.fileAt?_of_makeFolders hparents
    · simp at h

end GoldenStore

/-! ## Contexts -/

/-- The files of the lease are none of those at a location. -/
def Settings.LeaseApart (settings : Settings) (location : List String) : Prop :=
  ∀ config folder, settings.lease = some config → settings.leaseDir = some folder →
    LeaseFolder.Apart folder config.key location

/-- Others leave the text at a location alone. -/
def Interference.Apart (o : Interference) (location : List String) : Prop :=
  ∀ now site, (o.act now site).folder.files.fileAt? location = site.folder.files.fileAt? location

namespace RunContext

/-- The run goes by its settings, with the shell and the others of its host, contends for the key
of its settings only, and finds this text at a location. -/
structure Finds (settings : Settings) (host : Host) (location : List String)
    (held : Option String) (c : RunContext) : Prop where
  settings_eq : c.settings = settings
  shell_eq : c.shell = host.shell
  others_eq : c.others = host.others
  lease : c.lease.Within (fun key => ∃ config, settings.lease = some config ∧ config.key = key)
    fun site => site.folder.files.fileAt? location = held

variable {settings : Settings} {host : Host} {location : List String} {held : Option String}
  {c c' : RunContext}

theorem Finds.fileAt?_eq (h : c.Finds settings host location held) :
    c.files.fileAt? location = held := h.lease.backend

theorem Finds.setFiles (h : c.Finds settings host location held) {files : FileTree}
    {text : Option String} (hfiles : files.fileAt? location = text) :
    (c.setFiles files).Finds settings host location text :=
  ⟨h.settings_eq, h.shell_eq, h.others_eq, h.lease.keys, hfiles⟩

theorem Finds.withLease (h : c.Finds settings host location held) {lease : Contest LeaseSite}
    (hlease : lease.Within (fun key => ∃ config, settings.lease = some config ∧ config.key = key)
      fun site => site.folder.files.fileAt? location = held) :
    { c with lease }.Finds settings host location held :=
  ⟨h.settings_eq, h.shell_eq, h.others_eq, hlease⟩

theorem Finds.receiveUntil (h : c.Finds settings host location held) (t : Nat) :
    (c.receiveUntil t).Finds settings host location held :=
  List.foldlRecOn _ RunContext.deliver ⟨h.settings_eq, h.shell_eq, h.others_eq, h.lease⟩
    fun _ hc _ _ => ⟨hc.settings_eq, hc.shell_eq, hc.others_eq, hc.lease⟩

section

variable (hlease : settings.LeaseApart location) (hothers : host.others.Apart location)

include hlease hothers

theorem Finds.backend_keeps (h : c.Finds settings host location held) :
    c.service.KeepsFor (fun key => ∃ config, settings.lease = some config ∧ config.key = key)
      fun site => site.folder.files.fileAt? location = held := by
  rintro α call now site ⟨config, hconfig, hkey⟩ hsite
  rw [← hothers now site, ← h.others_eq] at hsite
  unfold service leaseBackend LeaseSite.backend Interference.over
  rw [h.settings_eq]
  cases hfolder : settings.leaseDir with
  | none => exact hsite
  | some folder =>
    have hapart := hlease config folder hconfig hfolder
    rw [hkey] at hapart
    exact (LeaseFolder.fileAt?_call hapart).trans hsite

theorem Finds.sleepUntil (h : c.Finds settings host location held) (t : Nat) :
    (timeline.sleepUntil t c).Finds settings host location held :=
  (h.receiveUntil t).withLease (h.lease.sleepUntil (h.backend_keeps hlease hothers) t)

theorem Finds.reached (h : c.Finds settings host location held)
    (hreaches : timeline.Reaches c c') : c'.Finds settings host location held :=
  hreaches.induct (fun t _ hc => hc.sleepUntil hlease hothers t) h

theorem Finds.elapse (h : c.Finds settings host location held) :
    c.elapse.Finds settings host location held :=
  h.reached hlease hothers c.reaches_elapse

theorem Finds.runLine (h : c.Finds settings host location held) {line : String}
    (hline : ∀ files, (host.shell line files).2.fileAt? location = files.fileAt? location) :
    (c.runLine line).2.Finds settings host location held := by
  have helapsed := h.elapse hlease hothers
  have hfiles : (c.elapse.shell line c.elapse.files).2.fileAt? location = held := by
    rw [helapsed.shell_eq]
    exact (hline c.elapse.files).trans helapsed.fileAt?_eq
  exact helapsed.setFiles hfiles

theorem Finds.acquireLease (h : c.Finds settings host location held) :
    c.acquireLease.2.Finds settings host location held := by
  unfold RunContext.acquireLease
  split
  · exact h
  · exact (h.receiveUntil _).withLease (h.lease.acquire (h.backend_keeps hlease hothers) _ _)

theorem Finds.shutdown (h : c.Finds settings host location held) :
    c.shutdown.2.Finds settings host location held := by
  unfold RunContext.shutdown
  split
  · exact h
  · have hstopped : ({ c with shutDown := true }.stopListeners).Finds settings host location
        held := ⟨h.settings_eq, h.shell_eq, h.others_eq, h.lease⟩
    unfold RunContext.releaseLease
    split
    · exact hstopped
    · exact hstopped.withLease (hstopped.lease.release (hstopped.backend_keeps hlease hothers) _)

end

/-! ## Starts -/

theorem fileAt?_of_enter (location : List String) {identity : String} {files files' : FileTree}
    {parties : List Coordinator} (h : enter settings identity files = .ok (parties, files')) :
    files'.fileAt? location = files.fileAt? location ∧
      ∀ party ∈ parties, settings.lease = some party.config := by
  unfold enter at h
  split at h
  · cases h
    exact ⟨rfl, by simp⟩
  · rename_i config hconfig
    dsimp only at h
    split at h
    · cases h
      exact ⟨rfl, by simpa using hconfig⟩
    · split at h
      · contradiction
      · rename_i hfolder
        cases h
        exact ⟨FileTree.fileAt?_of_makeFolders hfolder, by simpa using hconfig⟩

theorem finds_of_start (location : List String) {identity : String} {host : Host}
    {traffic : List Delivery} {result : Except Failure RunContext} {host' : Host}
    (h : start settings identity host traffic = (result, host')) :
    host'.folder.files.fileAt? location = host.folder.files.fileAt? location ∧
      ∀ c, result = .ok c →
        c.Finds settings host location (host.folder.files.fileAt? location) := by
  unfold start at h
  split at h
  · cases h
    exact ⟨rfl, by simp⟩
  · split at h
    · cases h
      exact ⟨rfl, by simp⟩
    · rename_i parties files hentered
      obtain ⟨hfiles, hparties⟩ := fileAt?_of_enter location hentered
      dsimp only at h
      split at h
      · cases h
        exact ⟨hfiles, by simp⟩
      · split at h
        · cases h
          exact ⟨hfiles, by simp⟩
        · cases h
          refine ⟨hfiles, fun c hc => ?_⟩
          cases hc
          exact ⟨rfl, rfl, rfl, fun party hparty => ⟨_, hparties party hparty, rfl⟩, hfiles⟩

end RunContext

namespace GoldenScenario

/-! ## What a run writes -/

section

variable (s : GoldenScenario) (settings : Settings) (identity : String) (host : Host)
  (traffic : List Delivery)

def goldenLocation : List String := locationOf (s.goldenPath settings)

/-- With tests and regeneration on, the run selects the batch `b` and writes its snapshot. -/
structure Writes (b : Captured) : Prop where
  update : settings.switches.updateExpectedResults = true
  tests : settings.switches.skipTests = false
  written : ∃ before seen files, s.Verifies settings identity host traffic before ∧
    s.Chooses before seen b ∧
    GoldenStore.write seen.files (s.goldenPath settings) (s.scrubber.snapshot b.batch) =
      (.ok (), files)

/-- The commands of the scenario leave the golden file alone. -/
def CommandsApart : Prop :=
  ∀ line, s.setupCommand = some line ∨ s.teardownCommand = some line → ∀ files,
    (host.shell line files).2.fileAt? (s.goldenLocation settings) =
      files.fileAt? (s.goldenLocation settings)

end

variable {s : GoldenScenario} {settings : Settings} {identity : String} {host : Host}
  {traffic : List Delivery} {before seen : RunContext} {b : Captured} {files : FileTree}
  {held : Option String}

/-! ## Actions -/

theorem Chooses.verify_of_not_write (h : s.Chooses before seen b) (location : List String)
    (hnone : ∀ files, seen.settings.switches.updateExpectedResults = true →
      GoldenStore.write seen.files (s.goldenPath seen.settings) (s.scrubber.snapshot b.batch) ≠
        (.ok (), files)) :
    ∃ files, (s.verify before).2 = seen.setFiles files ∧
      files.fileAt? location = seen.files.fileAt? location := by
  rw [h.verify_eq]
  unfold GoldenStore.verify
  cases hupdate : seen.settings.switches.updateExpectedResults with
  | false =>
    have hregenerating : seen.golden.regenerating = false := hupdate
    rw [hregenerating]
    exact ⟨seen.files, rfl, rfl⟩
  | true =>
    have hregenerating : seen.golden.regenerating = true := hupdate
    rw [hregenerating]
    simp only [GoldenStore.regenerate, if_true]
    rcases hwrite : GoldenStore.write seen.files (s.goldenPath seen.settings)
      (s.scrubber.snapshot b.batch) with ⟨failure | ⟨⟩, files⟩
    · exact ⟨files, rfl, GoldenStore.fileAt?_of_write_error hwrite⟩
    · exact absurd hwrite (hnone files hupdate)

theorem finds_perform (hcommands : s.CommandsApart settings host)
    (hlease : settings.LeaseApart (s.goldenLocation settings))
    (hothers : host.others.Apart (s.goldenLocation settings)) {action : RunAction}
    (haction : action ≠ .verify) (w : RunContext × Unit)
    (h : w.1.Finds settings host (s.goldenLocation settings) held) :
    (s.scenario.perform action w).2.1.Finds settings host (s.goldenLocation settings) held := by
  have helapsed := h.elapse hlease hothers
  have hcommand (command : Option String)
      (hknown : ∀ line, command = some line →
        s.setupCommand = some line ∨ s.teardownCommand = some line) :
      (runCommand command w.1.elapse).2.Finds settings host (s.goldenLocation settings) held := by
    cases command with
    | none => exact helapsed
    | some line => exact helapsed.runLine hlease hothers (hcommands line (hknown line rfl))
  cases action with
  | acquire => exact helapsed.acquireLease hlease hothers
  | check => exact helapsed
  | setup => exact hcommand s.setupCommand fun _ => .inl
  | verify => exact absurd rfl haction
  | teardown => exact hcommand s.teardownCommand fun _ => .inr
  | shutdown => exact helapsed.shutdown hlease hothers

/-! ## Runs -/

theorem Writes.exists_verify (h : s.Writes settings identity host traffic b) :
    ∃ before seen files, s.Verifies settings identity host traffic before ∧
      timeline.Reaches before seen ∧
      s.verify before = (.error (.regenerated (s.goldenPath settings)), seen.setFiles files) ∧
      files.fileAt? (s.goldenLocation settings) = some (s.scrubber.snapshot b.batch).yaml := by
  obtain ⟨before, seen, files, hverifies, hchooses, hwrite⟩ := h.written
  have hsettings := ((genuine_of_verifies hverifies).reached hchooses.reaches).settings_eq
  have hfile := GoldenStore.fileAt?_of_write (l := s.goldenLocation settings) hwrite
  rw [goldenLocation, if_pos rfl] at hfile
  have hupdate := h.update
  rw [← hsettings] at hupdate hwrite
  have hverify := hchooses.verify_of_write hupdate hwrite
  rw [hsettings] at hverify
  exact ⟨before, seen, files, hverifies, hchooses.reaches, hverify, hfile⟩

theorem Writes.result_eq (h : s.Writes settings identity host traffic b) :
    (s.scenario.run settings identity host traffic ()).result =
      .error (.regenerated (s.goldenPath settings)) := by
  obtain ⟨before, seen, files, hverifies, -, hverify, -⟩ := h.exists_verify
  exact result_of_verify_error h.tests hverifies (congrArg Prod.fst hverify)

/-- The golden file holds what it held at the start of the run, or what the run has written. -/
def Kept (s : GoldenScenario) (settings : Settings) (identity : String) (host : Host)
    (traffic : List Delivery) (held : Option String) : Prop :=
  held = host.folder.files.fileAt? (s.goldenLocation settings) ∨
    ∃ b, s.Writes settings identity host traffic b ∧
      held = some (s.scrubber.snapshot b.batch).yaml

section

variable (hlease : settings.LeaseApart (s.goldenLocation settings))
  (hothers : host.others.Apart (s.goldenLocation settings))

include hlease hothers

theorem finds_verify (htests : settings.switches.skipTests = false)
    (hverifies : s.Verifies settings identity host traffic before)
    (h : before.Finds settings host (s.goldenLocation settings) held)
    (hheld : s.Kept settings identity host traffic held) :
    ∃ held', (s.verify before).2.Finds settings host (s.goldenLocation settings) held' ∧
      s.Kept settings identity host traffic held' := by
  rcases s.chooses_or_waits before with ⟨seen, b, hchooses⟩ | ⟨hreaches, -⟩
  · have hseen := h.reached hlease hothers hchooses.reaches
    -- Whether it writes is up to the switch, and to whether there is a place for the file.
    by_cases hwritten : ∃ files, seen.settings.switches.updateExpectedResults = true ∧
        GoldenStore.write seen.files (s.goldenPath seen.settings) (s.scrubber.snapshot b.batch) =
          (.ok (), files)
    · obtain ⟨files, hupdate, hwrite⟩ := hwritten
      rw [hchooses.verify_of_write hupdate hwrite]
      rw [hseen.settings_eq] at hupdate hwrite
      have hfile := GoldenStore.fileAt?_of_write (l := s.goldenLocation settings) hwrite
      rw [goldenLocation, if_pos rfl] at hfile
      exact ⟨_, hseen.setFiles hfile,
        .inr ⟨b, ⟨hupdate, htests, before, seen, files, hverifies, hchooses, hwrite⟩, rfl⟩⟩
    · obtain ⟨files, hverify, hfile⟩ := hchooses.verify_of_not_write
        (s.goldenLocation settings) fun files hupdate hwrite => hwritten ⟨files, hupdate, hwrite⟩
      rw [hverify]
      exact ⟨held, hseen.setFiles (hfile.trans hseen.fileAt?_eq), hheld⟩
  · exact ⟨held, h.reached hlease hothers hreaches, hheld⟩

variable (hcommands : s.CommandsApart settings host)

include hcommands

theorem kept_of_mem_fileTrail
    (hfiles : files ∈ s.scenario.fileTrail settings identity host traffic ()) :
    s.Kept settings identity host traffic (files.fileAt? (s.goldenLocation settings)) := by
  unfold Scenario.fileTrail at hfiles
  rcases hstart : RunContext.start settings identity host traffic with ⟨failure | started, host'⟩
  · rw [hstart] at hfiles
    obtain rfl := List.mem_singleton.mp hfiles
    exact .inl (RunContext.finds_of_start _ hstart).1
  rw [hstart] at hfiles
  obtain ⟨w, hw, rfl⟩ := List.mem_map.mp hfiles
  have hstarted := (RunContext.finds_of_start (s.goldenLocation settings) hstart).2 started rfl
  -- All actions but the verification keep whatever text they find, so the invariant leaves it open.
  have hall : ∀ w ∈ Lifecycle.trail s.scenario.perform settings.switches s.mutates (started, ()),
      ∃ held, w.1.Finds settings host (s.goldenLocation settings) held ∧
        s.Kept settings identity host traffic held := by
    refine Lifecycle.forall_mem_trail ?_ ?_ ⟨_, hstarted, .inl rfl⟩
    · rintro action haction w ⟨held, hfinds, hheld⟩
      exact ⟨held, finds_perform hcommands hlease hothers haction w hfinds, hheld⟩
    · rintro ⟨before, ⟨⟩⟩ htests happroach ⟨held, hfinds, hheld⟩
      exact finds_verify hlease hothers htests ⟨started, host', before, hstart, happroach, rfl⟩
        (hfinds.elapse hlease hothers) hheld
  obtain ⟨held, hfinds, hheld⟩ := hall w hw
  rw [hfinds.fileAt?_eq]
  exact hheld

theorem finds_of_verifies (hverifies : s.Verifies settings identity host traffic before) :
    before.Finds settings host (s.goldenLocation settings)
      (host.folder.files.fileAt? (s.goldenLocation settings)) := by
  obtain ⟨started, host', arrived, hstart, happroach, rfl⟩ := hverifies
  have hstarted := (RunContext.finds_of_start (s.goldenLocation settings) hstart).2 started rfl
  have hkept : (Lifecycle.approach s.scenario.perform settings.switches s.mutates
      (started, ())).2.1.Finds settings host (s.goldenLocation settings) _ :=
    Lifecycle.approach_keeps
      (fun action haction _ w hw => finds_perform hcommands hlease hothers haction w hw) hstarted
  rw [happroach] at hkept
  exact hkept.elapse hlease hothers

theorem Writes.fileAt?_eq (h : s.Writes settings identity host traffic b) :
    (s.scenario.run settings identity host traffic ()).host.folder.files.fileAt?
      (s.goldenLocation settings) = some (s.scrubber.snapshot b.batch).yaml := by
  obtain ⟨before, seen, files, hverifies, hreaches, hverify, hfile⟩ := h.exists_verify
  have hfinds := finds_of_verifies hlease hothers hcommands hverifies
  have hseen := hfinds.reached hlease hothers hreaches
  obtain ⟨started, host', arrived, hstart, happroach, rfl⟩ := hverifies
  have hended : (Lifecycle.run s.scenario.perform settings.switches s.mutates
      (started, ())).2.1.Finds settings host (s.goldenLocation settings)
        (some (s.scrubber.snapshot b.batch).yaml) := by
    refine Lifecycle.run_keeps_verified h.tests happroach
      (fun action haction w hw => finds_perform hcommands hlease hothers haction w hw) ?_
    change (s.verify arrived.elapse).2.Finds _ _ _ _
    rw [hverify]
    exact hseen.setFiles hfile
  unfold Scenario.run
  rw [hstart]
  exact hended.fileAt?_eq

end

/-- A run that writes its golden file fails for it, whatever fails after that. If commands, the
lease and others keep away from the file, it holds what it held at the start, or the snapshot of a
batch that the run has selected with tests and regeneration on: a run that passes has not touched
it, and what a run has written is what it leaves. -/
theorem run_custody :
    (∀ b, s.Writes settings identity host traffic b →
      (s.scenario.run settings identity host traffic ()).result =
        .error (.regenerated (s.goldenPath settings))) ∧
    (s.CommandsApart settings host → settings.LeaseApart (s.goldenLocation settings) →
      host.others.Apart (s.goldenLocation settings) →
      (∀ files ∈ s.scenario.fileTrail settings identity host traffic (),
        files.fileAt? (s.goldenLocation settings) =
            host.folder.files.fileAt? (s.goldenLocation settings) ∨
          ∃ b, s.Writes settings identity host traffic b ∧
            files.fileAt? (s.goldenLocation settings) =
              some (s.scrubber.snapshot b.batch).yaml) ∧
      ((s.scenario.run settings identity host traffic ()).result = .ok () →
        ∀ files ∈ s.scenario.fileTrail settings identity host traffic (),
          files.fileAt? (s.goldenLocation settings) =
            host.folder.files.fileAt? (s.goldenLocation settings)) ∧
      ∀ b, s.Writes settings identity host traffic b →
        (s.scenario.run settings identity host traffic ()).host.folder.files.fileAt?
          (s.goldenLocation settings) = some (s.scrubber.snapshot b.batch).yaml) := by
  refine ⟨fun b => Writes.result_eq, fun hcommands hlease hothers => ⟨?_, ?_, ?_⟩⟩
  · intro files hfiles
    exact kept_of_mem_fileTrail hlease hothers hcommands hfiles
  · intro hpassed files hfiles
    rcases kept_of_mem_fileTrail hlease hothers hcommands hfiles with hheld | ⟨b, hwrites, -⟩
    · exact hheld
    · rw [hwrites.result_eq] at hpassed
      contradiction
  · exact fun b hwrites => hwrites.fileAt?_eq hlease hothers hcommands

def leasedSettings (update : Bool) : Settings where
  sinks := [.default .hecMetrics]
  goldenRoot := ""
  lease := some { key := "env" }
  leaseDir := some "leases"
  switches := { updateExpectedResults := update }

def brokenHost : Host :=
  { gaugeHost with shell := fun line files => (.error (.command line "refused"), files) }

def idleHost : Host := { gaugeHost with shell := fun _ files => (.ok "", files) }

def tornGauge : GoldenScenario := { gaugeScenario with teardownCommand := some "down" }

/-- The golden file is the record of the lease. -/
def misplacedGauge : GoldenScenario :=
  { gaugeScenario with golden := "leases/env.lease", setupCommand := some "up" }

/-- The teardown fails after the golden file has been written: what comes out is that the file is
new. -/
theorem run_custody_of_failing_teardown :
    ∃ b, tornGauge.Writes (leasedSettings true) "a" brokenHost gaugeTraffic b ∧
      (tornGauge.scenario.run (leasedSettings true) "a" brokenHost gaugeTraffic ()).result =
        .error (.regenerated (tornGauge.goldenPath (leasedSettings true))) ∧
      (tornGauge.scenario.run (leasedSettings true) "a" brokenHost gaugeTraffic
        ()).host.folder.files.fileAt? (tornGauge.goldenLocation (leasedSettings true)) =
          some (tornGauge.scrubber.snapshot b.batch).yaml := by
  have hlease : (leasedSettings true).LeaseApart
      (tornGauge.goldenLocation (leasedSettings true)) := by
    rintro config folder ⟨⟩ ⟨⟩
    decide +kernel
  obtain ⟨hfails, hcustody⟩ :=
    @run_custody tornGauge (leasedSettings true) "a" brokenHost gaugeTraffic
  obtain ⟨hkept, -, hleft⟩ := hcustody (fun _ _ _ => rfl) hlease fun _ _ => rfl
  have hchanged : (tornGauge.scenario.run (leasedSettings true) "a" brokenHost gaugeTraffic
      ()).host.folder.files.fileAt? (tornGauge.goldenLocation (leasedSettings true)) ≠
        brokenHost.folder.files.fileAt? (tornGauge.goldenLocation (leasedSettings true)) := by
    decide +kernel
  -- The text at the end is not that of the start, so the run must have written.
  have hlast := List.mem_of_getLast? (tornGauge.scenario.getLast?_fileTrail (leasedSettings true)
    "a" brokenHost gaugeTraffic ())
  obtain ⟨b, hwrites, -⟩ := (hkept _ hlast).resolve_left hchanged
  exact ⟨b, hwrites, hfails b hwrites, hleft b hwrites⟩

/-- With the golden file in the place of a lease record, taking the lease writes to it, although
golden files are not written anew and no command touches it. -/
theorem exists_written_of_lease_record :
    (leasedSettings false).switches.updateExpectedResults = false ∧
      misplacedGauge.CommandsApart (leasedSettings false) idleHost ∧
      ∃ files ∈ misplacedGauge.scenario.fileTrail (leasedSettings false) "a" idleHost
          gaugeTraffic (),
        files.fileAt? (misplacedGauge.goldenLocation (leasedSettings false)) ≠
          idleHost.folder.files.fileAt? (misplacedGauge.goldenLocation (leasedSettings false)) :=
  ⟨rfl, fun _ _ _ => rfl, by decide +kernel⟩

end GoldenScenario

end GoldenCapture
