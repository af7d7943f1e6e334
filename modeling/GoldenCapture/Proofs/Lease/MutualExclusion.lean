import GoldenCapture.Proofs.Lease.Secured

/-!
# Mutual exclusion

No two rivals are certain of their lease at one instant, however their steps mix and however long
one of them is left out. A party counts from when it saw its last success and a record from when
that success took effect; the reply may take as long as the renew deadline leaves of the lifetime.
-/

namespace GoldenCapture

/-! ## One party -/

/-- The lease is secured for a coordinator from `since` on. -/
def Coordinator.SecuredFrom (c : Coordinator) (origin : Int) (since now : Nat) (t : LeaseTable) :
    Prop :=
  Secured origin c.config.key c.identity c.config.ttl since now t

/-- What holds of a party at every instant: a success on its way secures the lease from when it
took effect, and the last success that a leader saw did so at most `d` before the leader's own
count starts. -/
structure Sound (origin : Int) (d now : Nat) (t : LeaseTable) (p : Party) : Prop where
  errand : p.coordinator.state = .leading → p.coordinator.errand = none
  attempt : ∀ {started timeout arrives},
    p.coordinator.errand = some (.trying started timeout (.answered (.ok true) arrives)) →
    p.coordinator.SecuredFrom origin p.attempted now t
  renewal : p.coordinator.state = .leading → ∀ {tenure tick limit arrives},
    p.coordinator.tenure = some tenure →
    tenure.renewer = .renewing tick limit (.answered (.ok true) arrives) →
    p.coordinator.SecuredFrom origin p.renewed now t
  leading : p.coordinator.state = .leading → ∃ since,
    p.coordinator.lastRenewed ≤ since + d ∧ p.coordinator.SecuredFrom origin since now t

section

variable {origin : Int} {d now : Nat} {t t' : LeaseTable} {p : Party}

theorem Sound.frame (h : Sound origin d now t p) {later : Nat}
    (hkeep : ∀ since, p.coordinator.SecuredFrom origin since now t →
      p.coordinator.SecuredFrom origin since later t') : Sound origin d later t' p where
  errand := h.errand
  attempt he := hkeep _ (h.attempt he)
  renewal hl _ _ _ _ ht hr := hkeep _ (h.renewal hl ht hr)
  leading hl := by
    obtain ⟨since, hle, hsecured⟩ := h.leading hl
    exact ⟨since, hle, hkeep since hsecured⟩

theorem Sound.later (h : Sound origin d now t p) {later : Nat} (hle : now ≤ later) :
    Sound origin d later t p :=
  h.frame fun _ hsecured => hsecured.later hle

theorem Sound.movedBy (hwhole : LeaseRecord.Whole p.coordinator.config.ttl)
    (h : Sound origin d now t p) {other : String} (hne : other ≠ p.coordinator.identity)
    (hmoved : MovedBy origin now other t t') : Sound origin d now t' p :=
  h.frame fun _ hsecured => hsecured.movedBy hwhole hne hmoved

theorem Sound.of_not_leading (hstate : p.coordinator.state ≠ .leading)
    (herrand : ∀ started timeout arrives,
      p.coordinator.errand ≠ some (.trying started timeout (.answered (.ok true) arrives))) :
    Sound origin d now t p where
  errand hl := absurd hl hstate
  attempt he := absurd he (herrand _ _ _)
  renewal hl := absurd hl hstate
  leading hl := absurd hl hstate

theorem Sound.of_ended (hstate : p.coordinator.state = .idle)
    (herrand : p.coordinator.errand = none) : Sound origin d now t p :=
  .of_not_leading (by simp [hstate]) (by simp [herrand])

theorem Sound.not_leading (h : Sound origin d now t p) {errand : Errand}
    (he : p.coordinator.errand = some errand) : p.coordinator.state ≠ .leading := by
  intro hl
  have hnone := h.errand hl
  rw [he] at hnone
  contradiction

/-! ## What a caller does -/

theorem Sound.acquire (timeout : Nat) {c : Coordinator}
    (hc : p.coordinator.acquire now timeout = .ok c) :
    Sound origin d now t { p with coordinator := c } := by
  unfold Coordinator.acquire at hc
  split at hc
  · simp only [Except.ok.injEq] at hc
    subst hc
    exact .of_not_leading (by simp) (by simp)
  · contradiction

theorem Sound.release (h : Sound origin d now t p) :
    Sound origin d now t { p with coordinator := p.coordinator.release.1 } := by
  unfold Coordinator.release
  split
  · exact .of_not_leading (by simp) (by simp)
  · rename_i hidle
    refine ⟨?_, h.attempt, ?_, ?_⟩ <;> intro hl <;> simp [hidle] at hl
  · exact h

theorem Sound.drop (h : Sound origin d now t p) :
    Sound origin d now t { p with coordinator := p.coordinator.cancel } := by
  by_cases hl : p.coordinator.state = .leading
  · refine ⟨fun _ => rfl, fun he => ?_, fun _ => h.renewal hl, fun _ => h.leading hl⟩
    contradiction
  · refine .of_not_leading ?_ (by simp [Coordinator.cancel])
    unfold Coordinator.cancel
    dsimp only
    split
    · simp
    · exact hl

/-! ## Steps of a party -/

variable {b : LeaseBackend LeaseTable} {c : Coordinator}

theorem Sound.errandStep (hb : b.Atomic origin)
    (h : Sound origin d now t p) (hstep : Coordinator.ErrandStep b now p.coordinator t c t')
    (hseen : p.coordinator.SeesGrant now → now ≤ p.attempted + d) :
    Sound origin d now t' { p with
      coordinator := c
      attempted := if p.coordinator.attempts then now else p.attempted } := by
  cases hstep with
  | ask started timeout he =>
    have hattempts : p.coordinator.attempts = true := by
      unfold Coordinator.attempts
      rw [he]
    have hstate := h.not_leading he
    refine ⟨fun hl => absurd hl hstate, ?_, fun hl => absurd hl hstate, fun hl => absurd hl hstate⟩
    intro _ _ arrives hsent
    simp only [Option.some.injEq, Errand.trying.injEq] at hsent
    obtain ⟨hgranted, htable⟩ := hb.send_of_ok _ _ _ hsent.2.2
    rw [if_pos hattempts, htable]
    exact secured_of_granted hgranted
  | seeAnswer started timeout flight answer he hlanded =>
    rcases Coordinator.afterAttempt_cases p.coordinator now started timeout answer with
      ⟨rfl, hafter⟩ | ⟨-, ⟨waited, hafter⟩ | ⟨wake, hafter⟩⟩
    · obtain ⟨arrives, rfl, -⟩ := Flight.of_landed hlanded
      have hattempts : p.coordinator.attempts = false := by
        unfold Coordinator.attempts
        rw [he]
      rw [hafter]
      refine ⟨fun _ => rfl, fun he' => ?_, fun _ _ _ _ _ ht hr => ?_, fun _ => ?_⟩
      · simp [Coordinator.lead] at he'
      · simp only [Coordinator.lead, Option.some.injEq] at ht
        subst ht
        contradiction
      · exact ⟨p.attempted, hseen ⟨_, _, _, he, hlanded⟩, h.attempt he⟩
    · rw [hafter]
      exact .of_not_leading (h.not_leading he) (by simp)
    · rw [hafter]
      exact .of_not_leading (h.not_leading he) (by simp)
  | retry started timeout wake he hwake => exact .of_not_leading (h.not_leading he) (by simp)
  | askName waited he => exact .of_not_leading (h.not_leading he) (by simp)
  | giveUp waited flight answer he hlanded => exact .of_ended rfl rfl
  | stop he hstopped =>
    refine .of_not_leading (h.not_leading he) ?_
    unfold Coordinator.afterStop
    dsimp only
    split <;> simp
  | drop reason he => exact .of_not_leading (h.not_leading he) (by simp)
  | seeDropped reason flight answer he hlanded => exact .of_ended rfl rfl
  | free he => exact .of_not_leading (h.not_leading he) (by simp)
  | seeFreed flight answer he hlanded =>
    cases answer with
    | error error => exact .of_ended rfl rfl
    | ok => exact .of_not_leading (h.not_leading he) (by simp [Coordinator.afterFreeing])
  | confirm deadline he => exact .of_not_leading (h.not_leading he) (by simp)
  | seeHolder deadline flight answer he hlanded =>
    rcases Coordinator.afterConfirmation_cases p.coordinator now deadline answer with
      ⟨_, -, hafter⟩ | ⟨-, -, hafter⟩ | ⟨_, -, -, -, hafter⟩ | ⟨_, -, -, -, hafter⟩
    · rw [hafter]
      exact .of_ended rfl rfl
    · rw [hafter]
      exact .of_ended rfl rfl
    · rw [hafter]
      exact .of_ended rfl rfl
    · rw [hafter]
      exact .of_not_leading (h.not_leading he) (by simp)
  | askAgain deadline wake he hwake => exact .of_not_leading (h.not_leading he) (by simp)

theorem Sound.withTenure (h : Sound origin d now t p) {last renewed : Nat}
    {tenure : Option Tenure}
    (hidle : ∀ {tn tick limit arrives}, tenure = some tn →
      tn.renewer ≠ .renewing tick limit (.answered (.ok true) arrives))
    (hlast : p.coordinator.state = .leading → ∃ since,
      last ≤ since + d ∧ p.coordinator.SecuredFrom origin since now t) :
    Sound origin d now t
      { p with coordinator := { p.coordinator with lastRenewed := last, tenure }, renewed } where
  errand := h.errand
  attempt := h.attempt
  renewal _ _ _ _ _ ht hr := absurd hr (hidle ht)
  leading := hlast

theorem Sound.afterRenewal (h : Sound origin d now t p) {tick renewed : Nat}
    {answer : Option (Except BackendError Bool)}
    (hlast : p.coordinator.state = .leading → ∃ since,
      p.coordinator.lastSuccess now answer ≤ since + d ∧
        p.coordinator.SecuredFrom origin since now t) :
    Sound origin d now t
      { p with coordinator := p.coordinator.afterRenewal now tick answer, renewed } := by
  rcases Coordinator.afterRenewal_cases p.coordinator now tick answer with
    ⟨rfl, hafter⟩ | ⟨-, -, hafter⟩ | ⟨-, -, hafter⟩
  all_goals
    rw [hafter]
    refine h.withTenure ?_ hlast
    intro tn _ _ _ ht
    obtain ⟨_, -, rfl⟩ := Option.map_eq_some_iff.mp ht
    simp

theorem Sound.renewerStep (hwhole : LeaseRecord.Whole p.coordinator.config.ttl)
    (hb : b.Atomic origin) (h : Sound origin d now t p) {tn : Tenure}
    (htn : p.coordinator.tenure = some tn)
    (hstep : Coordinator.RenewerStep b now p.coordinator tn t c t')
    (hseen : p.coordinator.SeesRenewal now → now ≤ p.renewed + d) :
    Sound origin d now t' { p with
      coordinator := c
      renewed := if p.coordinator.renews then now else p.renewed } := by
  cases hstep with
  | stop tick hr hstop =>
    refine h.withTenure ?_ h.leading
    intro _ _ _ _ ht
    obtain ⟨_, -, rfl⟩ := Option.map_eq_some_iff.mp ht
    simp
  | tick tick hr htick =>
    refine h.withTenure ?_ h.leading
    intro _ _ _ _ ht
    cases ht
    simp
  | renew tick limit hr =>
    have hrenews : p.coordinator.renews = true := by
      unfold Coordinator.renews
      rw [htn, Option.map_some, hr]
    have hkeep : ∀ since, p.coordinator.SecuredFrom origin since now t →
        p.coordinator.SecuredFrom origin since now
          (Coordinator.send b p.coordinator.renewCall now t).2 := by
      intro since hsecured
      exact hsecured.send_renew hwhole hb
    refine ⟨h.errand, fun he => hkeep _ (h.attempt he), fun hl _ _ _ _ ht hsent => ?_, fun hl => ?_⟩
    · cases ht
      simp only [Renewer.renewing.injEq] at hsent
      obtain ⟨hextended, htable⟩ := hb.send_of_ok _ _ _ hsent.2.2
      rw [if_pos hrenews, htable]
      exact secured_of_extended hextended
    · obtain ⟨since, hle, hsecured⟩ := h.leading hl
      exact ⟨since, hle, hkeep since hsecured⟩
  | seeAnswer tick limit flight answer hr hlanded =>
    refine h.afterRenewal fun hl => ?_
    match answer, hlanded with
    | .ok true, hlanded =>
      obtain ⟨arrives, rfl, -⟩ := Flight.of_landed hlanded
      exact ⟨p.renewed, hseen ⟨tn, _, _, _, htn, hr, hlanded⟩, h.renewal hl htn hr⟩
    | .ok false, _ => exact h.leading hl
    | .error _, _ => exact h.leading hl
  | cutOff tick limit flight hr hlanded hlimit => exact h.afterRenewal h.leading

theorem Sound.supervisorStep (h : Sound origin d now t p) {tn : Tenure}
    (hstep : Coordinator.SupervisorStep p.coordinator tn c) :
    Sound origin d now t { p with coordinator := c } := by
  cases hstep with
  | learn reason hreport =>
    have hstate : (p.coordinator.learnLoss reason).state ≠ .leading := by
      unfold Coordinator.learnLoss
      dsimp only
      split
      · simp
      · assumption
    exact ⟨fun hl => absurd hl hstate, h.attempt, fun hl => absurd hl hstate,
      fun hl => absurd hl hstate⟩
  | leave hreport hended =>
    refine h.withTenure ?_ h.leading
    intro _ _ _ _ ht
    cases ht
    simp [hended]

end

/-! ## All parties -/

namespace Rivalry

variable {ι : Type} {origin : Int} {d : Nat} {key : String} {w w' : Rivalry ι}

theorem sound_of_fresh (h : Fresh w) (j : ι) : Sound origin d w.now w.table (w.party j) := by
  obtain ⟨config, identity, hnew⟩ := h j
  unfold coordinator at hnew
  exact .of_ended (by rw [hnew]) (by rw [hnew])

/-- A coordinator that is certain of its lease has the record. -/
theorem holder_of_ensureLeading (hterms : Terms key d w)
    (h : ∀ j, Sound origin d w.now w.table (w.party j)) {i : ι}
    (hi : (w.coordinator i).ensureLeading w.now = .ok ()) :
    ∃ r, w.table.get? key = some r ∧ r.holder = (w.coordinator i).identity := by
  unfold Coordinator.ensureLeading at hi
  split at hi
  · rename_i hleading
    dsimp only at hi
    split at hi
    · rename_i hfresh
      obtain ⟨since, hseen, hsecured⟩ := (h i).leading hleading
      have hmargin := hterms.margin i
      unfold coordinator at hfresh hmargin
      -- What was seen at most `d` late and less than a deadline ago is within the lifetime.
      have hnow : w.now ≤ since + (w.party i).coordinator.config.ttl := by omega
      obtain ⟨r, renewed, hget, hholder, -⟩ := hsecured.kept hnow
      have hkey : (w.party i).coordinator.config.key = key := hterms.key_eq i
      rw [hkey] at hget
      exact ⟨r, hget, hholder⟩
    · contradiction
  · split at hi <;> contradiction

variable [DecidableEq ι]

theorem sound_setParty (hterms : Terms key d w)
    (h : ∀ j, Sound origin d w.now w.table (w.party j)) (i : ι) {p : Party} {t : LeaseTable}
    (hmoved : MovedBy origin w.now (w.coordinator i).identity w.table t)
    (hp : Sound origin d w.now t p) (j : ι) :
    Sound origin d w.now t ((w.setParty i p).party j) := by
  rw [party_setParty]
  by_cases hji : j = i
  · rw [if_pos hji]
    exact hp
  · rw [if_neg hji]
    refine (h j).movedBy (hterms.whole j) ?_ hmoved
    intro hsame
    exact hji (hterms.identity_injective hsame.symm)

theorem sound_of_step (hterms : Terms key d w)
    (h : ∀ j, Sound origin d w.now w.table (w.party j)) (hstep : Step origin d w w') (j : ι) :
    Sound origin d w'.now w'.table (w'.party j) := by
  cases hstep with
  | wait later hle => exact (h j).later hle
  | acquire i timeout c hc => exact sound_setParty hterms h i (.inl rfl) (.acquire timeout hc) j
  | release i => exact sound_setParty hterms h i (.inl rfl) (h i).release j
  | drop i => exact sound_setParty hterms h i (.inl rfl) (h i).drop j
  | errand i b hb c t hc hseen =>
    have hc := Coordinator.errandStep_of_stepErrand hc
    exact sound_setParty hterms h i (hc.movedBy hb) ((h i).errandStep hb hc hseen) j
  | renewer i b hb stopFirst c t hc hseen =>
    obtain ⟨tenure, htenure, hc⟩ := Coordinator.renewerStep_of_stepRenewer hc
    exact sound_setParty hterms h i (hc.movedBy hb)
      ((h i).renewerStep (hterms.whole i) hb htenure hc hseen) j
  | supervisor i c hc =>
    obtain ⟨tenure, -, -, hc⟩ := Coordinator.supervisorStep_of_stepSupervisor hc
    exact sound_setParty hterms h i (.inl rfl) ((h i).supervisorStep hc) j

theorem sound_of_run {start : Rivalry ι} (hfresh : Fresh start) (hterms : Terms key d start)
    (hrun : Run origin d start w) :
    Terms key d w ∧ ∀ j, Sound origin d w.now w.table (w.party j) := by
  -- The induction is on the run; the terms go along, since every step needs them.
  induction hrun with
  | refl => exact ⟨hterms, sound_of_fresh hfresh⟩
  | tail _ hstep ih =>
    obtain ⟨hterms, hsound⟩ := ih
    exact ⟨hterms.of_same hstep.same, sound_of_step hterms hsound hstep⟩

/-- No two coordinators are certain of their lease at one instant. -/
theorem eq_of_ensureLeading {start : Rivalry ι} (hfresh : Fresh start) (hterms : Terms key d start)
    (hrun : Run origin d start w) {i j : ι}
    (hi : (w.coordinator i).ensureLeading w.now = .ok ())
    (hj : (w.coordinator j).ensureLeading w.now = .ok ()) : i = j := by
  obtain ⟨hterms, hsound⟩ := sound_of_run hfresh hterms hrun
  obtain ⟨r, hr, hri⟩ := holder_of_ensureLeading hterms hsound hi
  obtain ⟨r', hr', hrj⟩ := holder_of_ensureLeading hterms hsound hj
  have hsame : r = r' := Option.some.inj (hr.symm.trans hr')
  have hname : (w.coordinator i).identity = (w.coordinator j).identity := by
    rw [← hri, ← hrj, hsame]
  exact hterms.identity_injective hname

def duel : Rivalry Bool where
  party i := {
    coordinator := { config := { key := "deploy" }, identity := if i then "a" else "b" } }

/-- One of two takes the lease, and from then on the other cannot be certain of it. -/
theorem eq_of_ensureLeading_duel :
    ∃ w : Rivalry Bool, Run 0 (Duration.ofSeconds 5) duel w ∧
      (w.coordinator true).ensureLeading w.now = .ok () ∧
      ∀ j, (w.coordinator j).ensureLeading w.now = .ok () → true = j := by
  have hfresh : Fresh duel := fun _ => ⟨_, _, rfl⟩
  have hterms : Terms "deploy" (Duration.ofSeconds 5) duel :=
    { key_eq := fun _ => rfl
      identity_injective := by
        unfold Function.Injective
        decide
      whole := fun _ => ⟨15000, by
        show Duration.ofSeconds 15 = Duration.ofMillis 15000
        decide, by decide⟩
      margin := fun _ => by
        show Duration.ofSeconds 5 + Duration.ofSeconds 10 ≤ Duration.ofSeconds 15
        decide }
  obtain ⟨w, hrun, hlead⟩ : ∃ w : Rivalry Bool, Run 0 (Duration.ofSeconds 5) duel w ∧
      (w.coordinator true).ensureLeading w.now = .ok () := by
    have hatomic : (LeaseTable.backend (clockFrom 0)).Atomic 0 := LeaseTable.backend_atomic 0
    have hrun : Run 0 (Duration.ofSeconds 5) duel _ :=
      Relation.ReflTransGen.refl
        |>.tail (.acquire true 0 _ rfl)
        |>.tail (.errand true _ hatomic _ _ rfl fun _ => Nat.zero_le _)
        |>.tail (.errand true _ hatomic _ _ rfl fun _ => Nat.zero_le _)
    have hsure : 0 - 0 < Duration.ofSeconds 10 := by decide
    exact ⟨_, hrun, (if_pos rfl).trans (if_pos hsure)⟩
  exact ⟨w, hrun, hlead, fun j hj => eq_of_ensureLeading hfresh hterms hrun hlead hj⟩

end Rivalry

end GoldenCapture
