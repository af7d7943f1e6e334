import GoldenCapture.Proofs.Lease.FolderTable

/-!
# Punctual parties

If a success comes back at once and no time passes while one waits to be seen, then whatever
success is on its way to a party took effect at this instant.
-/

namespace GoldenCapture

/-- Whoever gets an answer that is no error gets it at once. -/
def LeaseBackend.AtOnce {σ : Type} (b : LeaseBackend σ) : Prop :=
  ∀ {α : Type} (c : LeaseCall α) (now : Nat) (s : σ) (answer : α),
    (b.call c now s).1.answer = .ok answer → (b.call c now s).1.delay = some 0

theorem LeaseFolder.mirror_atOnce (f : LeaseFolder) (folder : String)
    (clock : Nat → Timestamp) : (f.mirror folder clock).AtOnce := by
  intro α c now t answer h
  unfold mirror at h ⊢
  dsimp only at h ⊢
  have hdelay : ∀ answer, (f.call folder c (clock now)).1.answer = .ok answer →
      (f.call folder c (clock now)).1.delay = some 0 := fun _ => call_delay
  generalize (f.call folder c (clock now)).1 = reply at h hdelay ⊢
  obtain ⟨_ | answer, delay⟩ := reply
  · contradiction
  · exact hdelay answer rfl

/-- Every success that is on its way took effect now. -/
structure Party.Punctual (now : Nat) (p : Party) : Prop where
  attempt : ∀ {started timeout arrives},
    p.coordinator.errand = some (.trying started timeout (.answered (.ok true) arrives)) →
    p.attempted = now ∧ arrives = some now
  renewal : ∀ {tenure tick limit arrives}, p.coordinator.tenure = some tenure →
    tenure.renewer = .renewing tick limit (.answered (.ok true) arrives) →
    p.renewed = now ∧ arrives = some now

section

variable {σ : Type} {b : LeaseBackend σ} {now : Nat} {s s' : σ} {p : Party} {c : Coordinator}

theorem LeaseBackend.AtOnce.arrives (hb : b.AtOnce) {α : Type} {call : LeaseCall α} {answer : α}
    {arrives : Option Nat}
    (h : (Coordinator.send b call now s).1 = .answered (.ok answer) arrives) :
    arrives = some now := by
  obtain ⟨hanswer, harrives⟩ := Flight.answered.inj h
  rw [← harrives, hb call now s answer hanswer]
  rfl

namespace Party

theorem Punctual.later (h : p.Punctual now) (hgrant : ¬ p.coordinator.SeesGrant now)
    (hrenewal : ¬ p.coordinator.SeesRenewal now) (later : Nat) : p.Punctual later where
  attempt he := by
    obtain ⟨-, rfl⟩ := h.attempt he
    exact absurd ⟨_, _, _, he, if_pos (Nat.le_refl now)⟩ hgrant
  renewal ht hr := by
    obtain ⟨-, rfl⟩ := h.renewal ht hr
    exact absurd ⟨_, _, _, _, ht, hr, if_pos (Nat.le_refl now)⟩ hrenewal

theorem Punctual.seesGrant (h : p.Punctual now) (hsees : p.coordinator.SeesGrant now) :
    p.attempted = now := by
  obtain ⟨started, timeout, flight, he, hlanded⟩ := hsees
  obtain ⟨arrives, rfl, -⟩ := Flight.of_landed hlanded
  exact (h.attempt he).1

theorem Punctual.seesRenewal (h : p.Punctual now) (hsees : p.coordinator.SeesRenewal now) :
    p.renewed = now := by
  obtain ⟨tenure, tick, limit, flight, ht, hr, hlanded⟩ := hsees
  obtain ⟨arrives, rfl, -⟩ := Flight.of_landed hlanded
  exact (h.renewal ht hr).1

/-! ## What a caller does -/

theorem Punctual.acquire (h : p.Punctual now) {timeout : Nat}
    (hc : p.coordinator.acquire now timeout = .ok c) :
    ({ p with coordinator := c } : Party).Punctual now := by
  unfold Coordinator.acquire at hc
  split at hc
  · cases hc
    exact ⟨fun he => by simp at he, h.renewal⟩
  · contradiction

theorem Punctual.release (h : p.Punctual now) :
    ({ p with coordinator := p.coordinator.release.1 } : Party).Punctual now := by
  unfold Coordinator.release
  split
  · refine ⟨fun he => by simp at he, fun ht hr => ?_⟩
    obtain ⟨tenure, htenure, rfl⟩ := Option.map_eq_some_iff.mp ht
    exact h.renewal htenure hr
  · exact ⟨h.attempt, fun ht => by simp at ht⟩
  · exact h

theorem Punctual.drop (h : p.Punctual now) :
    ({ p with coordinator := p.coordinator.cancel } : Party).Punctual now :=
  ⟨fun he => by simp [Coordinator.cancel] at he, h.renewal⟩

end Party

/-! ## Steps -/

namespace Coordinator

variable {c' : Coordinator} {t : Tenure}

theorem ErrandStep.granted (h : ErrandStep b now c s c' s') {started timeout : Nat}
    {arrives : Option Nat}
    (he' : c'.errand = some (.trying started timeout (.answered (.ok true) arrives))) :
    c.attempts = true ∧ (send b c.tryAcquireCall now s).1 = .answered (.ok true) arrives := by
  cases h with
  | ask started timeout he =>
    simp only [Option.some.injEq, Errand.trying.injEq] at he'
    refine ⟨?_, he'.2.2⟩
    unfold attempts
    rw [he]
  | seeAnswer started timeout flight answer he hlanded =>
    rcases afterAttempt_cases c now started timeout answer with
      ⟨-, hafter⟩ | ⟨-, ⟨_, hafter⟩ | ⟨_, hafter⟩⟩
    all_goals
      rw [hafter] at he'
      simp [lead] at he'
  | stop he hstopped =>
    unfold afterStop at he'
    dsimp only at he'
    split at he' <;> simp at he'
  | seeFreed flight answer he hlanded =>
    cases answer with
    | error error => contradiction
    | ok => simp [afterFreeing] at he'
  | seeHolder deadline flight answer he hlanded =>
    rcases afterConfirmation_cases c now deadline answer with
      ⟨_, -, hafter⟩ | ⟨-, -, hafter⟩ | ⟨_, -, -, -, hafter⟩ | ⟨_, -, -, -, hafter⟩
    all_goals
      rw [hafter] at he'
      simp [endRelease, finish] at he'
  | giveUp | seeDropped => contradiction
  | _ => simp at he'

theorem ErrandStep.renewing (h : ErrandStep b now c s c' s') (ht : c'.tenure = some t)
    {tick limit : Nat} {flight : Flight Bool} (hr : t.renewer = .renewing tick limit flight) :
    c.tenure = some t := by
  cases h with
  | seeAnswer started timeout flight answer he hlanded =>
    rcases afterAttempt_cases c now started timeout answer with
      ⟨-, hafter⟩ | ⟨-, ⟨_, hafter⟩ | ⟨_, hafter⟩⟩
    · rw [hafter, lead] at ht
      cases ht
      contradiction
    · rwa [hafter] at ht
    · rwa [hafter] at ht
  | stop he hstopped => contradiction
  | seeFreed flight answer he hlanded => cases answer <;> exact ht
  | seeHolder deadline flight answer he hlanded =>
    rcases afterConfirmation_cases c now deadline answer with
      ⟨_, -, hafter⟩ | ⟨-, -, hafter⟩ | ⟨_, -, -, -, hafter⟩ | ⟨_, -, -, -, hafter⟩
    all_goals
      rw [hafter] at ht
      exact ht
  | _ => exact ht

theorem RenewerStep.renewing (h : RenewerStep b now c t s c' s') (hc : c.tenure = some t)
    {t' : Tenure} (ht : c'.tenure = some t') {tick limit : Nat}
    {answer : Except BackendError Bool} {arrives : Option Nat}
    (hr : t'.renewer = .renewing tick limit (.answered answer arrives)) :
    c.renews = true ∧ (send b c.renewCall now s).1 = .answered answer arrives := by
  cases h with
  | stop tick hwaiting hstop =>
    obtain ⟨_, -, rfl⟩ := Option.map_eq_some_iff.mp ht
    contradiction
  | tick tick hwaiting htick =>
    cases ht
    simp at hr
  | renew tick limit hsent =>
    cases ht
    simp only [Renewer.renewing.injEq] at hr
    refine ⟨?_, hr.2.2⟩
    unfold renews
    rw [hc, Option.map_some, hsent]
  | seeAnswer tick limit flight answer hsent hlanded =>
    rcases afterRenewal_cases c now tick (some answer) with
      ⟨-, hafter⟩ | ⟨-, -, hafter⟩ | ⟨-, -, hafter⟩
    all_goals
      rw [hafter] at ht
      obtain ⟨_, -, rfl⟩ := Option.map_eq_some_iff.mp ht
      contradiction
  | cutOff tick limit flight hsent hlanded hlimit =>
    rcases afterRenewal_cases c now tick none with
      ⟨-, hafter⟩ | ⟨-, -, hafter⟩ | ⟨-, -, hafter⟩
    all_goals
      rw [hafter] at ht
      obtain ⟨_, -, rfl⟩ := Option.map_eq_some_iff.mp ht
      contradiction

theorem RenewerStep.errand_eq (h : RenewerStep b now c t s c' s') : c'.errand = c.errand := by
  cases h with
  | seeAnswer tick limit flight answer hsent hlanded =>
    rcases afterRenewal_cases c now tick (some answer) with
      ⟨-, hafter⟩ | ⟨-, -, hafter⟩ | ⟨-, -, hafter⟩ <;> rw [hafter] <;> rfl
  | cutOff tick limit flight hsent hlanded hlimit =>
    rcases afterRenewal_cases c now tick none with
      ⟨-, hafter⟩ | ⟨-, -, hafter⟩ | ⟨-, -, hafter⟩ <;> rw [hafter] <;> rfl
  | _ => rfl

end Coordinator

namespace Party

theorem Punctual.errandStep (h : p.Punctual now) (hb : b.AtOnce)
    (hstep : Coordinator.ErrandStep b now p.coordinator s c s') :
    ({ p with
      coordinator := c
      attempted := if p.coordinator.attempts then now else p.attempted } : Party).Punctual
        now where
  attempt he := by
    obtain ⟨hattempts, hsent⟩ := hstep.granted he
    exact ⟨if_pos hattempts, hb.arrives hsent⟩
  renewal ht hr := h.renewal (hstep.renewing ht hr) hr

theorem Punctual.renewerStep (h : p.Punctual now) (hb : b.AtOnce) {t : Tenure}
    (ht : p.coordinator.tenure = some t)
    (hstep : Coordinator.RenewerStep b now p.coordinator t s c s') :
    ({ p with
      coordinator := c
      renewed := if p.coordinator.renews then now else p.renewed } : Party).Punctual now where
  attempt he := h.attempt (hstep.errand_eq ▸ he)
  renewal ht' hr := by
    obtain ⟨hrenews, hsent⟩ := hstep.renewing ht ht' hr
    exact ⟨if_pos hrenews, hb.arrives hsent⟩

theorem Punctual.supervisorStep (h : p.Punctual now) {t : Tenure}
    (hstep : Coordinator.SupervisorStep p.coordinator t c) :
    ({ p with coordinator := c } : Party).Punctual now := by
  cases hstep with
  | learn reason hreport =>
    refine ⟨h.attempt, fun ht' hr => ?_⟩
    obtain ⟨tenure, htenure, rfl⟩ := Option.map_eq_some_iff.mp ht'
    exact h.renewal htenure hr
  | leave hreport hended =>
    refine ⟨h.attempt, fun ht' hr => ?_⟩
    cases ht'
    rw [hended] at hr
    contradiction

end Party

end

end GoldenCapture
