import GoldenCapture.Proofs.Lease.Interruption
import GoldenCapture.Proofs.Lease.Tenancy

/-!
# How final a loss is

Once a check has reported the loss of a tenure, no later check of that tenure is content, unless a
renewal comes through that was due before: the age of the last success makes a check fail, but does
not end the tenure, and a success that is seen past the renew deadline makes it young again. A loss
that the supervisor has learned of is final without an exception.
-/

namespace GoldenCapture

open TenureEvent Coordinator

/-- Among the events `since` those that came `before`, a renewal is seen to have succeeded when the
last success of its tenure is as old as the deadline. -/
def TenureEvent.Belated (deadline : Nat) (before since : List TenureEvent) : Prop :=
  ∃ later tenure instant earlier last, since = later ++ renewed tenure instant :: earlier ∧
    success? tenure (earlier ++ before) = some last ∧ deadline ≤ instant - last

theorem TenureEvent.Belated.later {deadline : Nat} {before since : List TenureEvent}
    (h : Belated deadline before since) (new : List TenureEvent) :
    Belated deadline before (new ++ since) := by
  obtain ⟨later, tenure, instant, earlier, last, rfl, hsuccess, hold⟩ := h
  exact ⟨new ++ later, tenure, instant, earlier, last, by simp, hsuccess, hold⟩

namespace Chronicle

variable {start w u u' w' : Chronicle} {c : Coordinator} {events since : List TenureEvent}

/-! ## One step -/

/-- What a step does to the instant of the last success: it is another tenure's, it stays, or a
renewal is seen. -/
structure Renews (w w' : Chronicle) (new : List TenureEvent) : Prop where
  events : w'.events = new ++ w.events
  now : w.now ≤ w'.now
  config : w'.coordinator.config = w.coordinator.config
  last : w.coordinator.state = .acquiring ∨
    w'.coordinator.lastRenewed = w.coordinator.lastRenewed ∨
    ∃ n, new = [.renewed n w.now] ∧ success? n w.events = some w.coordinator.lastRenewed

theorem renews_next (hconfig : c.config = w.coordinator.config)
    (hlast : w.coordinator.state = .acquiring ∨ c.lastRenewed = w.coordinator.lastRenewed ∨
      ∃ n, events = [.renewed n w.now] ∧ success? n w.events = some w.coordinator.lastRenewed) :
    Renews w (w.next c events) events :=
  ⟨rfl, Nat.le_refl _, hconfig, hlast⟩

theorem renews_of_step (h : w.Coherent) (hstep : Step w w') : ∃ new, Renews w w' new := by
  have hattentive := h.accounted.attentive
  cases hstep with
  | wait later hlater => exact ⟨[], rfl, hlater, rfl, .inr (.inl rfl)⟩
  | acquire timeout c hfree hc =>
    have hsame := (same_of_acquire hc).config
    unfold Coordinator.acquire at hc
    split at hc
    · cases hc
      exact ⟨_, renews_next hsame (.inr (.inl rfl))⟩
    · contradiction
  | release hfree =>
    refine ⟨_, renews_next same_release.config (.inr (.inl ?_))⟩
    unfold Coordinator.release
    split <;> rfl
  | drop hstate => exact ⟨_, renews_next rfl (.inr (.inl rfl))⟩
  | errand b c hc =>
    have hstep := errandStep_of_stepErrand hc
    have hsame := hstep.same.config
    obtain ⟨events, hevents, hmove⟩ : ∃ events,
        w.coordinator.errandEvents b w.now (w.tenures + 1) = events ∧
          ErrandMove w.now (w.tenures + 1) w.coordinator c events :=
      ⟨_, rfl, hstep.move hattentive⟩
    rw [hevents]
    refine ⟨_, renews_next hsame ?_⟩
    cases hmove with
    | lead started timeout arrives he => exact .inl (hattentive.errand _ he).2
    | _ => exact .inr (.inl rfl)
  | task b t c events ht htask =>
    cases htask.move hattentive ht with
    | renew _ _ last t' hmove =>
      have hwatched := watched_of_running h ht hmove.running
      have hsuccess := h.accounted.success t ht hwatched
      obtain rfl := hmove.eq
      refine ⟨_, renews_next rfl ?_⟩
      rcases hmove.success with ⟨hevents, -⟩ | ⟨-, hlast⟩
      · exact .inr (.inr ⟨_, hevents, hsuccess⟩)
      · exact .inr (.inl hlast)
    | _ => exact ⟨_, renews_next rfl (.inr (.inl rfl))⟩
  | stale b before after n t c events hleft htask => exact absurd htask (stale_through h hleft)

/-! ## From a loss on -/

/-- What holds after the events `since` a check that reported a loss at `w`. -/
structure Aftermath (w u : Chronicle) (since : List TenureEvent) : Prop where
  coherent : u.Coherent
  events : u.events = since ++ w.events
  config : u.coordinator.config = w.coordinator.config
  led : .setOut ∉ since → u.coordinator.state ≠ .acquiring ∧
    (u.coordinator.state = .leading → w.coordinator.state = .leading)
  overdue : .setOut ∉ since → ¬ Belated w.coordinator.config.renewDeadline w.events since →
    u.coordinator.state = .leading →
      w.coordinator.config.renewDeadline ≤ u.now - u.coordinator.lastRenewed

theorem aftermath_of_lost (h : w.Coherent) {key : String} {reason : LossReason}
    (hlost : w.coordinator.ensureLeading w.now = .error (.leadershipLost key reason)) :
    Aftermath w w [] where
  coherent := h
  events := rfl
  config := rfl
  led _ := by
    refine ⟨fun hacquiring => ?_, id⟩
    have hnone := h.accounted.lost_eq_none (.inl hacquiring)
    simp [ensureLeading, hacquiring, hnone, invalidState] at hlost
  overdue _ _ hleads := by
    refine Nat.not_lt.mp fun hyoung => ?_
    rw [ensureLeading_eq_ok_iff.mpr ⟨hleads, hyoung⟩] at hlost
    contradiction

theorem Aftermath.step (h : Aftermath w u since) (hstep : Step u u') :
    ∃ new, Aftermath w u' (new ++ since) := by
  obtain ⟨new, hrenews⟩ := renews_of_step h.coherent hstep
  have hlawful := lawful_of_step h.coherent hstep
  have hled : .setOut ∉ new ++ since → u'.coordinator.state ≠ .acquiring ∧
      (u'.coordinator.state = .leading → u.coordinator.state = .leading) := by
    intro hnone
    obtain ⟨hbefore, -⟩ := h.led fun hmem => hnone (List.mem_append_right _ hmem)
    constructor
    · intro hacquiring
      have hout := hlawful.sets_out hbefore hacquiring
      rw [hrenews.events, ← List.singleton_append] at hout
      rw [List.append_cancel_right hout] at hnone
      simp at hnone
    · intro hleads
      rcases hlawful.moves with hsame | hmoves
      · exact hsame.symm.trans hleads
      · rw [hleads] at hmoves
        generalize u.coordinator.state = before at hmoves hbefore
        cases hmoves
        contradiction
  refine ⟨new, coherent_of_step h.coherent hstep, ?_, hrenews.config.trans h.config, ?_, ?_⟩
  · rw [hrenews.events, h.events, List.append_assoc]
  · intro hnone
    obtain ⟨hquiet, hleads⟩ := hled hnone
    have hstart := (h.led fun hmem => hnone (List.mem_append_right _ hmem)).2
    exact ⟨hquiet, fun hlater => hstart (hleads hlater)⟩
  · intro hnone hprompt hleads
    have hbefore : .setOut ∉ since := fun hmem => hnone (List.mem_append_right _ hmem)
    have hold := h.overdue hbefore (fun hbelated => hprompt (hbelated.later new))
      ((hled hnone).2 hleads)
    rcases hrenews.last with hacquiring | hlast | ⟨n, rfl, hsuccess⟩
    · exact absurd hacquiring (h.led hbefore).1
    · have hnow := hrenews.now
      rw [hlast]
      omega
    · rw [h.events] at hsuccess
      exact absurd ⟨[], n, u.now, since, _, rfl, hsuccess, hold⟩ hprompt

theorem aftermath_of_run (h : w.Coherent) {key : String} {reason : LossReason}
    (hlost : w.coordinator.ensureLeading w.now = .error (.leadershipLost key reason))
    (hrun : Run w u) : ∃ since, Aftermath w u since := by
  induction hrun with
  | refl => exact ⟨[], aftermath_of_lost h hlost⟩
  | tail _ hstep ih =>
    obtain ⟨since, hsince⟩ := ih
    obtain ⟨new, hnew⟩ := hsince.step hstep
    exact ⟨new ++ since, hnew⟩

/-! ## Checks after a loss -/

theorem Stuck.not_ok (h : w.Stuck) (now : Nat) : w.coordinator.ensureLeading now ≠ .ok () := by
  intro hok
  have hleads := (ensureLeading_eq_ok_iff.mp hok).1
  simp [h.state] at hleads

/-- A check that is content after one that reported a loss, with no acquisition in between, comes
after a renewal that was seen too late, in a tenure whose loss nobody had learned of. -/
theorem belated_of_ensureLeading {broken again : Bool} {key : String} {reason : LossReason}
    (hfresh : start.Fresh) (hrun : LooseRun start w broken)
    (hlost : w.coordinator.ensureLeading w.now = .error (.leadershipLost key reason))
    (hlater : LooseRun w w' again) (hsince : w'.events = since ++ w.events)
    (hacquire : .setOut ∉ since) (hok : w'.coordinator.ensureLeading w'.now = .ok ()) :
    w.coordinator.state = .leading ∧
      Belated w.coordinator.config.renewDeadline w.events since := by
  rcases hrun.cases (coherent_of_fresh hfresh) with ⟨-, -, hcoherent⟩ | ⟨-, hstuck⟩
  · rcases hlater.cases hcoherent with ⟨-, hrun', -⟩ | ⟨-, hstuck⟩
    · obtain ⟨since', hafter⟩ := aftermath_of_run hcoherent hlost hrun'
      obtain rfl : since' = since := List.append_cancel_right (hafter.events.symm.trans hsince)
      obtain ⟨hleads, hyoung⟩ := ensureLeading_eq_ok_iff.mp hok
      refine ⟨(hafter.led hacquire).2 hleads, Classical.byContradiction fun hprompt => ?_⟩
      have hold := hafter.overdue hacquire hprompt hleads
      rw [hafter.config] at hyoung
      omega
    · exact absurd hok (hstuck.not_ok _)
  · exact absurd hok ((hstuck.looseRun hlater).not_ok _)

def obliging : LeaseBackend Unit where
  call
    | .tryAcquire .., _, _ => (⟨.ok true, some 0⟩, ())
    | .renew .., _, _ => (⟨.ok true, some 0⟩, ())
    | .release .., _, _ => (⟨.ok (), some 0⟩, ())
    | .currentHolder _, _, _ => (⟨.ok none, some 0⟩, ())

def unreachable : LeaseBackend Unit where
  call _ _ _ := (⟨.error (.failed "connection refused"), some 0⟩, ())

def hasty : Chronicle where
  coordinator := {
    config := {
      key := "env"
      ttl := Duration.ofMillis 600
      renewDeadline := Duration.ofMillis 400
      retryPeriod := Duration.ofMillis 300 }
    identity := "a" }

/-- Its first renewal has failed, and its next one is not due yet. -/
def overdue : Chronicle where
  now := Duration.ofMillis 450
  coordinator := { hasty.coordinator with
    state := .leading
    tenure := some { renewer := .waiting (Duration.ofMillis 600) }
    outcome := some (.ok ()) }
  tenures := 1
  events := [.renewal 1 (.error (.failed "connection refused")), .led 1 0, .attempted (.ok true),
    .setOut]

theorem looseRun_overdue : LooseRun hasty overdue false := by
  have hled := (LooseRun.refl : LooseRun hasty hasty false)
    |>.step (.acquire 0 _ rfl rfl)
    |>.step (.errand obliging _ rfl)
    |>.step (.errand obliging _ rfl)
  have hfailed := hled
    |>.step (.wait (Duration.ofMillis 300) (Nat.zero_le _))
    |>.step (.task unreachable _ _ _ rfl (.renewer true _ rfl))
    |>.step (.task unreachable _ _ _ rfl (.renewer true _ rfl))
    |>.step (.task unreachable _ _ _ rfl (.renewer true _ rfl))
  exact hfailed.step (.wait (Duration.ofMillis 450) (by decide))

theorem ensureLeading_overdue : overdue.coordinator.ensureLeading overdue.now =
    .error (.leadershipLost "env" (.noRenewalFor (Duration.ofMillis 450))) := rfl

theorem exists_renewed_overdue : ∃ w', LooseRun overdue w' false ∧
    w'.events = [.renewed 1 (Duration.ofMillis 600), .renewal 1 (.ok true)] ++ overdue.events ∧
    w'.coordinator.ensureLeading w'.now = .ok () := by
  have hlate := (LooseRun.refl : LooseRun overdue overdue false)
    |>.step (.wait (Duration.ofMillis 600) (by decide))
    |>.step (.task obliging _ _ _ rfl (.renewer true _ rfl))
    |>.step (.task obliging _ _ _ rfl (.renewer true _ rfl))
    |>.step (.task obliging _ _ _ rfl (.renewer true _ rfl))
  exact ⟨_, hlate, rfl, rfl⟩

theorem belated_of_ensureLeading_overdue : ∃ w' since, LooseRun hasty overdue false ∧
    LooseRun overdue w' false ∧ w'.events = since ++ overdue.events ∧
    w'.coordinator.ensureLeading w'.now = .ok () ∧
    Belated (Duration.ofMillis 400) overdue.events since := by
  obtain ⟨w', hlater, hsince, hok⟩ := exists_renewed_overdue
  have hbelated := belated_of_ensureLeading ⟨0, _, _, rfl⟩ looseRun_overdue ensureLeading_overdue
    hlater hsince (by simp) hok
  exact ⟨w', _, looseRun_overdue, hlater, hsince, hok, hbelated.2⟩

/-- A renewal that goes through after the renew deadline and before the end of the lifetime makes
a check content again that had reported a loss. -/
theorem ensureLeading_after_loss : hasty.coordinator.config.problem? = none ∧
    LooseRun hasty overdue false ∧
    overdue.coordinator.ensureLeading overdue.now =
      .error (.leadershipLost "env" (.noRenewalFor (Duration.ofMillis 450))) ∧
    ∃ w', LooseRun overdue w' false ∧
      w'.events = [.renewed 1 (Duration.ofMillis 600), .renewal 1 (.ok true)] ++ overdue.events ∧
      w'.coordinator.ensureLeading w'.now = .ok () :=
  ⟨rfl, looseRun_overdue, ensureLeading_overdue, exists_renewed_overdue⟩

end Chronicle

end GoldenCapture
