import GoldenCapture.Proofs.Lease.Succession

/-!
# Interrupted calls

The caller of a coordinator may drop whatever it has set out for, at any instant at which it waits.
An acquisition that is dropped leaves a coordinator that can be used again. A release that is
dropped does not: nothing takes the coordinator back to idle, and every later acquisition and
release is refused.
-/

namespace GoldenCapture

open TenureEvent Coordinator

namespace Coordinator

variable {σ : Type} {now n : Nat} {c c' : Coordinator} {t : Tenure}

theorem RenewerStep.caller {b : LeaseBackend σ} {s s' : σ} (h : c.RenewerStep b now t s c' s') :
    c'.state = c.state ∧ c'.errand = c.errand := by
  have hafter : ∀ tick answer, (c.afterRenewal now tick answer).state = c.state ∧
      (c.afterRenewal now tick answer).errand = c.errand := by
    intro tick answer
    rcases afterRenewal_cases c now tick answer with ⟨-, hc⟩ | ⟨-, -, hc⟩ | ⟨-, -, hc⟩ <;>
      rw [hc] <;> exact ⟨rfl, rfl⟩
  cases h with
  | seeAnswer tick limit flight answer hr hlanded => exact hafter tick (some answer)
  | cutOff tick limit flight hr hlanded hlimit => exact hafter tick none
  | _ => exact ⟨rfl, rfl⟩

theorem TaskStep.caller {b : LeaseBackend Unit} {events : List TenureEvent}
    (h : c.TaskStep b now n t c' events) :
    (c'.state = c.state ∨ c.state = .leading ∧ c'.state = .idle) ∧ c'.errand = c.errand := by
  cases h with
  | renewer _ _ hnext =>
    obtain ⟨t', -, hstep⟩ := renewerStep_of_stepRenewer hnext
    obtain ⟨hsame, herrand⟩ := hstep.caller
    exact ⟨.inl hsame, herrand⟩
  | supervisor _ hnext =>
    obtain ⟨t', -, -, hstep⟩ := supervisorStep_of_stepSupervisor hnext
    cases hstep with
    | learn reason hreport =>
      by_cases hstate : c.state = .leading
      · exact ⟨.inr ⟨hstate, if_pos hstate⟩, rfl⟩
      · exact ⟨.inl (if_neg hstate), rfl⟩
    | leave hreport hended => exact ⟨.inl rfl, rfl⟩

end Coordinator

namespace Chronicle

variable {start w w' : Chronicle} {broken : Bool}

/-- A run in which releases may be dropped too. `broken` tells whether one has been. -/
inductive LooseRun (start : Chronicle) : Chronicle → Bool → Prop
  | refl : LooseRun start start false
  | step {w w' : Chronicle} {broken : Bool} (hrun : LooseRun start w broken) (h : Step w w') :
      LooseRun start w' broken
  | dropRelease {w : Chronicle} {broken : Bool} (hrun : LooseRun start w broken)
      (hstate : w.coordinator.state = .releasing) (errand : Errand)
      (herrand : w.coordinator.errand = some errand) :
      LooseRun start (w.next w.coordinator.cancel []) true

/-- Releasing, with nobody who would bring the release to its end. -/
structure Stuck (w : Chronicle) : Prop where
  state : w.coordinator.state = .releasing
  errand : w.coordinator.errand = none

/-- What a caller that waits for nothing may rely on: the coordinator is idle and can be acquired,
or it leads, and a release is not refused. -/
structure Usable (w : Chronicle) : Prop where
  state : w.coordinator.state = .idle ∨ w.coordinator.state = .leading
  acquire : w.coordinator.state = .idle →
    ∀ now timeout, ∃ c, w.coordinator.acquire now timeout = .ok c
  release : w.coordinator.release.2 ≠ some (.error (w.coordinator.invalidState "release"))

/-- Both an acquisition and a release are refused for the state of the coordinator. -/
structure Refusing (w : Chronicle) : Prop where
  acquire : ∀ now timeout, w.coordinator.acquire now timeout =
    .error (.invalidState w.coordinator.config.key "acquire" .releasing)
  release : w.coordinator.release =
    (w.coordinator, some (.error (.invalidState w.coordinator.config.key "release" .releasing)))

/-! ## What a stuck coordinator does -/

theorem Stuck.step (h : w.Stuck) (hstep : Step w w') : w'.Stuck := by
  obtain ⟨hstate, herrand⟩ := h
  cases hstep with
  | wait later hlater => exact ⟨hstate, herrand⟩
  | acquire timeout c hfree hc => simp [Coordinator.acquire, hstate] at hc
  | release hfree =>
    have hrefused : w.coordinator.release.1 = w.coordinator := by
      simp [Coordinator.release, hstate]
    rw [hrefused]
    exact ⟨hstate, herrand⟩
  | drop hacquiring => simp [hstate] at hacquiring
  | errand b c hc => simp [stepErrand, herrand] at hc
  | task b t c events ht htask =>
    obtain ⟨hstill | ⟨hleads, -⟩, hnone⟩ := htask.caller
    · exact ⟨hstill.trans hstate, hnone.trans herrand⟩
    · simp [hstate] at hleads
  | stale b before after n t c events hleft htask =>
    obtain ⟨hstill | ⟨hleads, -⟩, hnone⟩ := htask.caller
    · exact ⟨hstill.trans hstate, hnone.trans herrand⟩
    · simp [under, hstate] at hleads

theorem Stuck.looseRun (h : w.Stuck) (hrun : LooseRun w w' broken) : w'.Stuck := by
  induction hrun with
  | refl => exact h
  | step _ hstep ih => exact ih.step hstep
  | dropRelease _ _ errand herrand ih =>
    rw [ih.errand] at herrand
    contradiction

theorem Stuck.refusing (h : w.Stuck) : w.Refusing where
  acquire now timeout := by simp [Coordinator.acquire, invalidState, h.state]
  release := by simp [Coordinator.release, invalidState, h.state]

theorem Stuck.not_usable (h : w.Stuck) : ¬ w.Usable := by
  intro husable
  have hstate := husable.state
  rw [h.state] at hstate
  simp at hstate

/-! ## What a run leaves behind -/

theorem errand_of_acquiring (hfresh : start.Fresh) (hrun : Run start w) :
    w.coordinator.state = .acquiring → w.coordinator.errand ≠ none := by
  induction hrun with
  | refl =>
    obtain ⟨now, config, identity, rfl⟩ := hfresh
    simp
  | tail hrun hstep ih =>
    have hcoherent := coherent_of_run hfresh hrun
    intro hstate
    cases hstep with
    | wait later hlater => exact ih hstate
    | acquire timeout c hfree hc =>
      unfold Coordinator.acquire at hc
      split at hc
      · cases hc
        simp [Chronicle.next]
      · contradiction
    | release hfree =>
      unfold Coordinator.release at hstate ⊢
      split at hstate <;> simp_all [Chronicle.next]
    | drop hacquiring => simp [Chronicle.next, cancel, hacquiring] at hstate
    | errand b c hc =>
      have hstep := errandStep_of_stepErrand hc
      obtain ⟨events, hmove⟩ : ∃ events, ErrandMove _ 0 _ c events :=
        ⟨_, hstep.move hcoherent.accounted.attentive⟩
      cases hmove with
      | goOn | ask => simp [Chronicle.next]
      | stop => simp [Chronicle.next, afterStop]
      | lead | giveUp | drop | free =>
        simp [Chronicle.next, Coordinator.lead, endRelease] at hstate
    | task b t c events ht htask =>
      obtain ⟨hstill | ⟨-, hidle⟩, hsame⟩ := htask.caller
      · exact hsame ▸ ih (hstill.symm.trans hstate)
      · simp [Chronicle.next, hidle] at hstate
    | stale b before after n t c events hleft htask =>
      exact absurd htask (stale_through hcoherent hleft)

theorem LooseRun.cases (hstart : start.Coherent) (hrun : LooseRun start w broken) :
    (broken = false ∧ Run start w ∧ w.Coherent) ∨ (broken = true ∧ w.Stuck) := by
  induction hrun with
  | refl => exact .inl ⟨rfl, .refl, hstart⟩
  | step _ hstep ih =>
    rcases ih with ⟨hwhole, hrun, hcoherent⟩ | ⟨hbroken, hstuck⟩
    · exact .inl ⟨hwhole, hrun.tail hstep, coherent_of_step hcoherent hstep⟩
    · exact .inr ⟨hbroken, hstuck.step hstep⟩
  | dropRelease _ hstate errand herrand ih =>
    exact .inr ⟨rfl, by simp [Chronicle.next, cancel, hstate], rfl⟩

theorem Coherent.usable (h : w.Coherent) (hfree : w.coordinator.errand = none)
    (hbusy : w.coordinator.state ≠ .acquiring) : w.Usable := by
  have hsettled : w.coordinator.state = .idle ∨ w.coordinator.state = .leading := by
    cases hstate : w.coordinator.state with
    | idle => exact .inl rfl
    | leading => exact .inr rfl
    | acquiring => exact absurd hstate hbusy
    | releasing => exact absurd hfree (h.accounted.busy hstate)
  refine ⟨hsettled, fun hidle now timeout => ⟨_, if_pos hidle⟩, ?_⟩
  rcases hsettled with hstate | hstate
  · cases hlost : w.coordinator.lost <;>
      simp [Coordinator.release, hstate, lossResult, hlost, invalidState]
  · simp [Coordinator.release, hstate]

/-- A coordinator whose caller waits for nothing can be used, whatever acquisitions have been
dropped, exactly if no release has been. From then on it refuses everything. -/
theorem usable_iff_not_broken (hfresh : start.Fresh) (hrun : LooseRun start w broken)
    (hfree : w.coordinator.errand = none) :
    (w.Usable ↔ broken = false) ∧
    (broken = true → ∀ w' again, LooseRun w w' again → w'.Refusing) := by
  rcases hrun.cases (coherent_of_fresh hfresh) with ⟨rfl, hrun, hcoherent⟩ | ⟨rfl, hstuck⟩
  · refine ⟨⟨fun _ => rfl, fun _ => hcoherent.usable hfree fun hacquiring => ?_⟩, nofun⟩
    exact errand_of_acquiring hfresh hrun hacquiring hfree
  · refine ⟨⟨fun husable => absurd husable hstuck.not_usable, nofun⟩, fun _ w' again hlater => ?_⟩
    exact (hstuck.looseRun hlater).refusing

/-- An acquisition that is dropped when its attempt has been granted. -/
theorem usable_of_dropped_acquisition : ∃ w, LooseRun newcomer w false ∧
    answers w.events = [.ok true] ∧ w.coordinator.errand = none ∧ w.Usable := by
  have hout : LooseRun newcomer _ false := .step .refl (.acquire 0 _ rfl rfl)
  have hasked := hout.step (.errand fickle _ rfl)
  have hdropped := hasked.step (.drop rfl)
  exact ⟨_, hdropped, rfl, rfl,
    (usable_iff_not_broken ⟨0, _, _, rfl⟩ hdropped rfl).1.mpr rfl⟩

/-- A release that is dropped while it waits for the renewer to end. -/
theorem refusing_of_dropped_release : ∃ w, LooseRun newcomer w true ∧
    w.coordinator.errand = none ∧ w.coordinator.state = .releasing ∧ w.Refusing := by
  have hout : LooseRun newcomer _ false := .step .refl (.acquire 0 _ rfl rfl)
  have hasked := hout.step (.errand fickle _ rfl)
  have hled := hasked.step (.errand fickle _ rfl)
  have hasking := hled.step (.release rfl)
  have hdropped := hasking.dropRelease rfl .stopping rfl
  exact ⟨_, hdropped, rfl, rfl, Stuck.refusing ⟨rfl, rfl⟩⟩

end Chronicle

end GoldenCapture
