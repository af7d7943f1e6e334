import GoldenCapture.Proofs.Lease.Contest
import GoldenCapture.Proofs.Run.Captures
import GoldenCapture.Proofs.Run.Stages
import GoldenCapture.Run.GoldenScenario

/-!
# Verdicts

A run of a golden scenario passes only on a match. It selects a batch that was posted to the sink
of its protocol, the newest that is accepted, and what the comparison of its snapshot with the
golden file says is what comes out of the run.
-/

namespace GoldenCapture

open RunContext (timeline)

/-! ## Settings -/

theorem RunContext.settings_sleepUntil (instant : Nat) (c : RunContext) :
    (timeline.sleepUntil instant c).settings = c.settings :=
  List.foldlRecOn (motive := fun w : RunContext => w.settings = c.settings) _ RunContext.deliver rfl
    fun _ hw _ _ => hw

theorem RunContext.settings_of_reaches {c c' : RunContext} (h : timeline.Reaches c c') :
    c'.settings = c.settings :=
  h.induct (P := fun w => w.settings = c.settings)
    (fun instant w hw => (settings_sleepUntil instant w).trans hw) rfl

namespace GoldenScenario

def goldenPath (s : GoldenScenario) (settings : Settings) : String :=
  FileTree.join settings.goldenRoot s.golden

section

variable (s : GoldenScenario) (settings : Settings) (identity : String) (host : Host)
  (traffic : List Delivery)

/-- The run comes to its verification in the context `c`. -/
def Verifies (c : RunContext) : Prop :=
  ∃ started host' arrived,
    RunContext.start settings identity host traffic = (.ok started, host') ∧
    Lifecycle.approach s.scenario.perform settings.switches s.mutates (started, ()) =
      (.ok (), (arrived, ())) ∧
    c = arrived.elapse

/-- The run selects the batch `b` at `seen`, once the golden file has been read as `g`. -/
def Selects (seen : RunContext) (g : Batch) (b : Captured) : Prop :=
  ∃ before enough, s.Verifies settings identity host traffic before ∧
    before.waitForBatches s.protocol s.minBatches = (.ok (), enough) ∧
    GoldenStore.read enough.files (s.goldenPath settings) = .ok g ∧
    enough.elapse.waitForSelection s.protocol s.selector g = (.ok b, seen)

/-- What a batch that a run may pass on is like. -/
structure Eligible (seen : RunContext) (g : Batch) (b : Captured) : Prop where
  /-- At a look before, the store held as many batches as are wanted. -/
  enough : ∃ before earlier, s.Verifies settings identity host traffic before ∧
    timeline.Reaches before earlier ∧ s.minBatches ≤ (earlier.captured s.protocol).count ∧
    timeline.Reaches earlier seen
  readable : GoldenStore.read seen.files (s.goldenPath settings) = .ok g
  captured : b ∈ (seen.captured s.protocol).captured
  marked : b.batch.containsEntry s.selector.marker.name s.selector.marker.kind = true
  shaped : s.selector.matchShape = true →
    b.batch.resourceCount = g.resourceCount ∧ b.batch.recordCount = g.recordCount
  newest : ∀ other ∈ (seen.captured s.protocol).captured,
    s.selector.accepts g other.batch = true → other.arrival ≤ b.arrival
  protocol_eq : b.protocol = s.protocol
  posted : b.StemsFrom traffic
  signal_eq : b.batch.signal = s.protocol.signal

/-- While the run verifies, the golden file stays as it is. -/
def GoldenStays : Prop :=
  ∀ before c, s.Verifies settings identity host traffic before → timeline.Reaches before c →
    GoldenStore.read c.files (s.goldenPath settings) =
      GoldenStore.read before.files (s.goldenPath settings)

end

variable {s : GoldenScenario} {settings : Settings} {identity : String} {host : Host}
  {traffic : List Delivery} {others : Interference} {c c' before : RunContext}

/-! ## Before the verification -/

theorem Verifies.unique (h : s.Verifies settings identity host traffic c)
    (h' : s.Verifies settings identity host traffic c') : c = c' := by
  obtain ⟨started, host₁, arrived, hstart, happroach, rfl⟩ := h
  obtain ⟨started', host₂, arrived', hstart', happroach', rfl⟩ := h'
  rw [hstart] at hstart'
  cases hstart'
  rw [happroach] at happroach'
  cases happroach'
  rfl

theorem genuine_runCommand (command : Option String) (h : c.Genuine settings others traffic) :
    (runCommand command c).2.Genuine settings others traffic := by
  unfold runCommand
  split
  · exact h
  · exact h.runLine _

theorem genuine_of_verifies (h : s.Verifies settings identity host traffic c) :
    c.Genuine settings host.others traffic := by
  obtain ⟨started, host', arrived, hstart, happroach, rfl⟩ := h
  have hactions : ∀ action, action ≠ .verify → action ≠ .shutdown → ∀ w : RunContext × Unit,
      w.1.Genuine settings host.others traffic →
        (s.scenario.perform action w).2.1.Genuine settings host.others traffic := by
    rintro action hverify hshutdown ⟨c, notes⟩ hc
    replace hc : c.elapse.Genuine settings host.others traffic := hc.elapse
    cases action with
    | acquire => exact hc.acquireLease
    | check => exact hc
    | setup => exact genuine_runCommand s.setupCommand hc
    | verify => exact absurd rfl hverify
    | teardown => exact genuine_runCommand s.teardownCommand hc
    | shutdown => exact absurd rfl hshutdown
  have hkept : (Lifecycle.approach s.scenario.perform settings.switches s.mutates
      (started, ())).2.1.Genuine settings host.others traffic :=
    Lifecycle.approach_keeps hactions (RunContext.genuine_of_start hstart)
  rw [happroach] at hkept
  exact hkept.elapse

/-! ## The verification -/

theorem reaches_of_waitForBatches {wanted : Nat}
    (h : c.waitForBatches s.protocol wanted = (.ok (), c')) :
    timeline.Reaches c c' ∧ wanted ≤ (c'.captured s.protocol).count := by
  unfold RunContext.waitForBatches at h
  split at h
  · simp at h
  · exact Timeline.of_waitForBatches h

theorem reaches_of_waitForSelection {selector : Selector} {g : Batch} {b : Captured}
    (h : c.waitForSelection s.protocol selector g = (.ok b, c')) :
    timeline.Reaches c c' ∧ selector.select g (c'.captured s.protocol).captured = some b := by
  unfold RunContext.waitForSelection at h
  split at h
  · simp at h
  · exact Timeline.of_waitForSelection h

theorem reference_eq_ok_iff (hupdate : c.settings.switches.updateExpectedResults = false)
    {selector : Selector} {g : Batch} :
    s.reference c = .ok (selector, g) ↔
      GoldenStore.read c.files (s.goldenPath c.settings) = .ok g ∧ selector = s.selector := by
  unfold reference
  have hpath : c.golden.path s.golden = s.goldenPath c.settings := rfl
  have hregenerating : c.golden.regenerating = false := hupdate
  rw [hpath, hregenerating]
  cases hread : GoldenStore.read c.files (s.goldenPath c.settings) with
  | ok expected =>
    simp only [Except.ok.injEq, Prod.mk.injEq]
    exact ⟨fun h => ⟨h.2, h.1.symm⟩, fun h => ⟨h.2.symm, h.1⟩⟩
  | error failure => cases failure <;> simp

theorem verifySelection_eq (hupdate : c'.settings.switches.updateExpectedResults = false)
    {selector : Selector} {g : Batch} {b : Captured}
    (hselected : c.waitForSelection s.protocol selector g = (.ok b, c'))
    (hread : GoldenStore.read c'.files (s.goldenPath c'.settings) = .ok g) :
    (s.verifySelection selector g c).1 =
      match s.rules.compare (s.scrubber.snapshot b.batch) g with
      | some mismatch => .error (.mismatch mismatch)
      | none => .ok () := by
  have hregenerating : c'.golden.regenerating = false := hupdate
  have hpath : c'.golden.path s.golden = s.goldenPath c'.settings := rfl
  unfold verifySelection
  rw [hselected]
  simp only [GoldenStore.verify, GoldenStore.path, GoldenStore.check] at hpath ⊢
  rw [hregenerating, hpath, hread]
  rfl

theorem selected_of_verify_ok (hupdate : c.settings.switches.updateExpectedResults = false)
    (hsettings : ∀ c', timeline.Reaches c c' → c'.settings = c.settings)
    (h : (s.verify c).1 = .ok ()) :
    ∃ enough g b seen, c.waitForBatches s.protocol s.minBatches = (.ok (), enough) ∧
      GoldenStore.read enough.files (s.goldenPath c.settings) = .ok g ∧
      enough.elapse.waitForSelection s.protocol s.selector g = (.ok b, seen) := by
  unfold verify at h
  rcases hwait : c.waitForBatches s.protocol s.minBatches with ⟨_ | ⟨⟩, enough⟩
  · rw [hwait] at h
    contradiction
  · rw [hwait] at h
    have henough := hsettings enough (reaches_of_waitForBatches hwait).1
    dsimp only at h
    rcases hreference : s.reference enough with _ | ⟨selector, g⟩
    · rw [hreference] at h
      contradiction
    · rw [hreference] at h
      rw [reference_eq_ok_iff (by rw [henough]; exact hupdate), henough] at hreference
      obtain ⟨hread, rfl⟩ := hreference
      dsimp only at h
      unfold verifySelection at h
      rcases hselect : enough.elapse.waitForSelection s.protocol s.selector g with ⟨_ | b, seen⟩
      · rw [hselect] at h
        contradiction
      · exact ⟨enough, g, b, seen, rfl, hread, hselect⟩

/-! ## The run -/

section

variable {seen : RunContext} {g : Batch} {b : Captured}

theorem Selects.eligible (hgolden : s.GoldenStays settings identity host traffic)
    (h : s.Selects settings identity host traffic seen g b) :
    s.Eligible settings identity host traffic seen g b := by
  obtain ⟨before, enough, hverifies, hwait, hread, hselect⟩ := h
  obtain ⟨hbefore, hcount⟩ := reaches_of_waitForBatches hwait
  obtain ⟨hlooked, hselected⟩ := reaches_of_waitForSelection hselect
  have hseen := enough.reaches_elapse.trans hlooked
  have hgenuine := (genuine_of_verifies hverifies).reached (hbefore.trans hseen)
  obtain ⟨hnumbered, hstems⟩ := hgenuine.captured s.protocol
  obtain ⟨hcaptured, haccepts, hnewest⟩ := Selector.newest_of_select hnumbered hselected
  obtain ⟨hprotocol, hposted⟩ := hstems b hcaptured
  simp only [Selector.accepts, Marker.isIn, Bool.and_eq_true, Bool.or_eq_true, Bool.not_eq_true',
    beq_iff_eq] at haccepts
  exact {
    enough := ⟨before, enough, hverifies, hbefore, hcount, hseen⟩
    readable := by
      rw [hgolden before seen hverifies (hbefore.trans hseen),
        ← hgolden before enough hverifies hbefore]
      exact hread
    captured := hcaptured
    marked := haccepts.1
    shaped := fun hshape => haccepts.2.resolve_left (by simp [hshape])
    newest := hnewest
    protocol_eq := hprotocol
    posted := hposted
    signal_eq := hposted.signal_eq.trans (congrArg Protocol.signal hprotocol) }

theorem Selects.verify_eq (hupdate : settings.switches.updateExpectedResults = false)
    (hgolden : s.GoldenStays settings identity host traffic)
    (h : s.Selects settings identity host traffic seen g b)
    (hverifies : s.Verifies settings identity host traffic before) :
    (s.verify before).1 =
      match s.rules.compare (s.scrubber.snapshot b.batch) g with
      | some mismatch => .error (.mismatch mismatch)
      | none => .ok () := by
  have hreadable := (h.eligible hgolden).readable
  obtain ⟨before', enough, hverifies', hwait, hread, hselect⟩ := h
  obtain rfl := hverifies.unique hverifies'
  have henough := (genuine_of_verifies hverifies).reached (reaches_of_waitForBatches hwait).1
  have hseen := henough.elapse.reached (reaches_of_waitForSelection hselect).1
  have hreference : s.reference enough = .ok (s.selector, g) := by
    rw [reference_eq_ok_iff (by rw [henough.settings_eq]; exact hupdate), henough.settings_eq]
    exact ⟨hread, rfl⟩
  unfold verify
  rw [hwait]
  dsimp only
  rw [hreference]
  refine verifySelection_eq ?_ hselect ?_
  · rw [hseen.settings_eq]
    exact hupdate
  · rw [hseen.settings_eq]
    exact hreadable

theorem result_of_start {started : RunContext} {host' : Host}
    (h : RunContext.start settings identity host traffic = (.ok started, host')) :
    (s.scenario.run settings identity host traffic ()).result =
      (Lifecycle.run s.scenario.perform settings.switches s.mutates (started, ())).1 := by
  unfold Scenario.run
  rw [h]
  rfl

theorem verifies_of_run (htests : settings.switches.skipTests = false)
    (h : (s.scenario.run settings identity host traffic ()).result = .ok ()) :
    ∃ before, s.Verifies settings identity host traffic before ∧ (s.verify before).1 = .ok () := by
  rcases hstart : RunContext.start settings identity host traffic with ⟨_ | started, host'⟩
  · unfold Scenario.run at h
    rw [hstart] at h
    contradiction
  · rw [result_of_start hstart] at h
    obtain ⟨⟨before, ⟨⟩⟩, happroach, hverified⟩ := Lifecycle.verified_of_run htests h
    exact ⟨_, ⟨started, host', before, hstart, happroach, rfl⟩, hverified⟩

theorem result_of_verify_error (htests : settings.switches.skipTests = false)
    (hverifies : s.Verifies settings identity host traffic before) {failure : Failure}
    (h : (s.verify before).1 = .error failure) :
    (s.scenario.run settings identity host traffic ()).result = .error failure := by
  obtain ⟨started, host', arrived, hstart, happroach, rfl⟩ := hverifies
  rw [result_of_start hstart]
  exact Lifecycle.run_of_verify_error htests happroach h

/-- A run passes only on a batch that matches the golden file, and that has all it takes to be
selected. If the batch that is selected does not match, the mismatch is what comes out. -/
theorem run_verdict (htests : settings.switches.skipTests = false)
    (hupdate : settings.switches.updateExpectedResults = false)
    (hgolden : s.GoldenStays settings identity host traffic) :
    ((s.scenario.run settings identity host traffic ()).result = .ok () →
      ∃ seen g b, s.Selects settings identity host traffic seen g b ∧
        s.Eligible settings identity host traffic seen g b ∧
        s.rules.compare (s.scrubber.snapshot b.batch) g = none) ∧
    (∀ seen g b mismatch, s.Selects settings identity host traffic seen g b →
      s.rules.compare (s.scrubber.snapshot b.batch) g = some mismatch →
      (s.scenario.run settings identity host traffic ()).result = .error (.mismatch mismatch)) := by
  constructor
  · intro hok
    obtain ⟨before, hverifies, hverified⟩ := verifies_of_run htests hok
    have hgenuine := genuine_of_verifies hverifies
    obtain ⟨enough, g, b, seen, hwait, hread, hselect⟩ :=
      selected_of_verify_ok (by rw [hgenuine.settings_eq]; exact hupdate)
        (fun c hc => by rw [(hgenuine.reached hc).settings_eq, hgenuine.settings_eq]) hverified
    rw [hgenuine.settings_eq] at hread
    have hselects : s.Selects settings identity host traffic seen g b :=
      ⟨before, enough, hverifies, hwait, hread, hselect⟩
    refine ⟨seen, g, b, hselects, hselects.eligible hgolden, ?_⟩
    rw [hselects.verify_eq hupdate hgolden hverifies] at hverified
    split at hverified
    · contradiction
    · assumption
  · intro seen g b mismatch hselects hmismatch
    have ⟨before, _, hverifies, _⟩ := hselects
    have hverdict := hselects.verify_eq hupdate hgolden hverifies
    rw [hmismatch] at hverdict
    exact result_of_verify_error htests hverifies hverdict

/-! ## Golden files that stay -/

theorem files_of_reaches (hgenuine : c.Genuine settings others traffic)
    (hfolder : settings.leaseDir = none)
    (hothers : ∀ now site, (others.act now site).folder.files = site.folder.files)
    (h : timeline.Reaches c c') : c'.files = c.files := by
  refine (h.induct (P := fun w => w.Genuine settings others traffic ∧ w.files = c.files) ?_
    ⟨hgenuine, rfl⟩).2
  rintro instant w ⟨hw, hfiles⟩
  have hkept : w.service.Keeps fun site => site.folder.files = c.files := by
    intro α call now site hsite
    unfold RunContext.service RunContext.leaseBackend LeaseSite.backend Interference.over
    rw [hw.settings_eq, hfolder, hw.others_eq]
    exact (hothers now site).trans hsite
  exact ⟨hw.sleepUntil instant, Contest.sleepUntil_keeps hkept instant hfiles⟩

theorem goldenStays_of_memory (hfolder : settings.leaseDir = none)
    (hothers : ∀ now site, (host.others.act now site).folder.files = site.folder.files) :
    s.GoldenStays settings identity host traffic := by
  intro before c hverifies hreaches
  rw [files_of_reaches (genuine_of_verifies hverifies) hfolder hothers hreaches]

end

/-- One gauge, as a payload whose records are arrays of their fields. -/
def gaugePayload : String := "[\"metrics\",[[{},[[\"\",null,{},[[\"up\",\"gauge\"]]]]]]]"

def gaugeText : String :=
  "signal: metrics\nresources:\n- scopes:\n  - entries:\n    - name: up\n      kind: gauge\n"

/-- The gauge is posted one second after the start of the run. -/
def gaugeTraffic : List Delivery :=
  [{ due := Duration.ofSeconds 1, protocol := .hecMetrics,
     request := { body := gaugePayload.toUTF8.toList } }]

def gaugeScenario : GoldenScenario where
  name := "gauge"
  protocol := .hecMetrics
  golden := "gauge.yaml"
  selector := { marker := { name := "up" } }

def gaugeSettings : Settings where
  sinks := [.default .hecMetrics]
  goldenRoot := ""

/-- The run is busy for a while with whatever it does. -/
def gaugeHost : Host where
  clock := fun now => ⟨now, false⟩
  lag := fun _ => Duration.ofMillis 400
  folder := { files := { nodes := { entries := [(["gauge.yaml"], .file gaugeText)] } } }

theorem run_verdict_of_gauge :
    ∃ seen g b, gaugeScenario.Selects gaugeSettings "a" gaugeHost gaugeTraffic seen g b ∧
      gaugeScenario.Eligible gaugeSettings "a" gaugeHost gaugeTraffic seen g b ∧
      Rules.compare [] (Scrubber.snapshot {} b.batch) g = none := by
  have hpasses : (gaugeScenario.scenario.run gaugeSettings "a" gaugeHost gaugeTraffic
      ()).result.isOk = true := by decide +kernel
  have hok : (gaugeScenario.scenario.run gaugeSettings "a" gaugeHost gaugeTraffic
      ()).result = .ok () := by
    generalize Scenario.run _ _ _ _ _ _ = report at hpasses ⊢
    cases hresult : report.result with
    | ok => rfl
    | error failure => simp [hresult, Except.isOk, Except.toBool] at hpasses
  exact (run_verdict rfl rfl (goldenStays_of_memory rfl fun _ _ => rfl)).1 hok

end GoldenScenario

end GoldenCapture
