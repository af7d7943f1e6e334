import GoldenCapture.Proofs.Lease.Reports

/-!
# Departures

What a release that succeeds says about the tenure it ends. No loss was reported, and a loss that
nobody has noticed is ruled out if the lease was given back before the last success that was seen
had grown as old as the renew deadline. A release does not look at that age, as the check for
exclusive access does.
-/

namespace GoldenCapture

/-! ## Releases in time -/

/-- The coordinator as if nobody had asked for the release. -/
def Coordinator.inOffice (c : Coordinator) : Coordinator :=
  { c with state := .leading, errand := none }

theorem Coordinator.inOffice_afterRenewal (c : Coordinator) (now tick : Nat)
    (answer : Option (Except BackendError Bool)) :
    (c.afterRenewal now tick answer).inOffice = c.inOffice.afterRenewal now tick answer := by
  match answer with
  | some (.ok false) => rfl
  | some (.ok true) =>
    simp only [afterRenewal, apply_ite inOffice]
    rfl
  | some (.error error) =>
    simp only [afterRenewal, apply_ite inOffice]
    rfl
  | none =>
    simp only [afterRenewal, apply_ite inOffice]
    rfl

theorem Coordinator.RenewerStep.inOffice {σ : Type} {b : LeaseBackend σ} {now : Nat}
    {c c' : Coordinator} {t : Tenure} {s s' : σ} (h : RenewerStep b now c t s c' s') :
    RenewerStep b now c.inOffice t s c'.inOffice s' := by
  cases h with
  | stop tick hr hstop => exact .stop tick hr hstop
  | tick tick hr htick => exact .tick tick hr htick
  | renew tick limit hr => exact .renew tick limit hr
  | seeAnswer tick limit flight answer hr hlanded =>
    rw [inOffice_afterRenewal]
    exact .seeAnswer tick limit flight answer hr hlanded
  | cutOff tick limit flight hr hlanded hlimit =>
    rw [inOffice_afterRenewal]
    exact .cutOff tick limit flight hr hlanded hlimit

def Party.inOffice (p : Party) : Party := { p with coordinator := p.coordinator.inOffice }

def Errand.Precedes : Errand → Prop
  | .stopping | .freeing .sent => True
  | _ => False

/-- The release call has been answered, or an answer is on its way. -/
def Errand.Follows : Errand → Prop
  | .freeing (.answered (.ok ()) _) | .confirming .. | .lingering .. => True
  | _ => False

/-- The holder's last deed on the key is a release. If it came less than a renew deadline after the
last success that was seen, the holder had been undisturbed. -/
def Coordinator.GaveBack (c : Coordinator) (origin : Int) (deeds : List Deed) : Prop :=
  ∃ instant before, lastRelease? c.identity c.config.key deeds = some (instant, before) ∧
    (instant < origin + (c.lastRenewed + c.config.renewDeadline : Nat) →
      Undisturbed c.identity c.config.key before)

/-- What holds of a party that is giving up its lease. -/
structure Departing (origin : Int) (d now : Nat) (l : Ledger) (p : Party) : Prop where
  /-- As long as no loss is known, the lease counts as that of a leader. -/
  before : ∀ e, p.coordinator.errand = some e → e.Precedes → p.coordinator.lost = none →
    Sound origin d now l.table p.inOffice
  after : ∀ e, p.coordinator.errand = some e → e.Follows → p.coordinator.GaveBack origin l.deeds

section

variable {origin : Int} {d now : Nat} {l l' : Ledger} {p : Party} {b : LeaseBackend Ledger}
  {c : Coordinator} {t : Tenure}

theorem Departing.of_neither
    (h : ∀ e, p.coordinator.errand = some e → ¬ e.Precedes ∧ ¬ e.Follows) :
    Departing origin d now l p where
  before e he hprecedes := absurd hprecedes (h e he).1
  after e he hfollows := absurd hfollows (h e he).2

theorem Departing.of_no_errand (h : p.coordinator.errand = none) :
    Departing origin d now l p := by
  refine .of_neither fun e he => ?_
  rw [h] at he
  contradiction

theorem Departing.of_gaveBack (h : ∀ e, p.coordinator.errand = some e → ¬ e.Precedes)
    (hgave : p.coordinator.GaveBack origin l.deeds) : Departing origin d now l p where
  before e he hprecedes := absurd hprecedes (h e he)
  after _ _ _ := hgave

theorem Departing.later (h : Departing origin d now l p) {later : Nat} (hle : now ≤ later) :
    Departing origin d later l p where
  before e he hprecedes hlost := (h.before e he hprecedes hlost).later hle
  after := h.after

theorem Departing.moved (hwhole : LeaseRecord.Whole p.coordinator.config.ttl)
    (h : Departing origin d now l p) {other : String} (hne : other ≠ p.coordinator.identity)
    (hmoved : l.Moved (origin + now) other l') : Departing origin d now l' p where
  before e he hprecedes hlost :=
    (h.before e he hprecedes hlost).movedBy hwhole hne hmoved.movedBy
  after e he hfollows := by
    unfold Coordinator.GaveBack
    rw [hmoved.lastRelease? hne]
    exact h.after e he hfollows

theorem Departing.release {alarmed : Bool} (hsound : Sound origin d now l.table p)
    (hattentive : Attentive p.coordinator alarmed) (h : Departing origin d now l p) :
    Departing origin d now l { p with coordinator := p.coordinator.release.1 } := by
  unfold Coordinator.release
  split
  · rename_i hleading
    refine ⟨fun e he hprecedes hlost => ?_, fun e he hfollows => ?_⟩
    · refine ⟨fun _ => rfl, fun he => ?_, fun _ _ _ _ _ ht hr => ?_, fun _ => ?_⟩
      · contradiction
      · obtain ⟨t, ht', rfl⟩ := Option.map_eq_some_iff.mp ht
        exact hsound.renewal hleading ht' hr
      · exact hsound.leading hleading
    · cases he
      exact hfollows.elim
  · rename_i hidle
    exact .of_no_errand (hattentive.errand_eq_none (.inl hidle))
  · exact h

theorem Departing.gaveBack_of_free {arrives : Option Nat} (hb : b.Enters origin)
    (hwhole : LeaseRecord.Whole p.coordinator.config.ttl)
    (hmargin : d + p.coordinator.config.renewDeadline ≤ p.coordinator.config.ttl)
    (hfaithful : l.Faithful) (hsound : Sound origin d now l.table p.inOffice)
    (hsent : (Coordinator.send b p.coordinator.releaseCall now l).1 = .answered (.ok ()) arrives) :
    p.coordinator.GaveBack origin
      (Coordinator.send b p.coordinator.releaseCall now l).2.deeds := by
  rw [hb.send_of_ok hsent]
  refine ⟨origin + now, l.deeds, if_pos ⟨rfl, rfl⟩, fun hintime => ?_⟩
  -- In time, the record is still that of the holder, who has been undisturbed.
  obtain ⟨r, hget, hheld⟩ := hsound.isHeldBy hwhole hmargin rfl
    (by simp only [Party.inOffice, Coordinator.inOffice] at hintime ⊢; omega)
  have hholder : r.holder = p.coordinator.identity := (LeaseRecord.isHeldBy_iff.mp hheld).1
  have hundisturbed := hfaithful _ r hget
  rw [hholder] at hundisturbed
  exact hundisturbed

theorem deeds_of_holderCall (hb : b.Enters origin) :
    (Coordinator.send b p.coordinator.holderCall now l).2.deeds = l.deeds := by
  rcases hb p.coordinator.holderCall now l with ⟨heffect, -⟩ | ⟨hnone, -⟩
  · exact congrArg Ledger.deeds heffect
  · exact congrArg Ledger.deeds hnone

theorem Departing.errandStep {alarmed : Bool} (hb : b.Enters origin)
    (hwhole : LeaseRecord.Whole p.coordinator.config.ttl)
    (hmargin : d + p.coordinator.config.renewDeadline ≤ p.coordinator.config.ttl)
    (hattentive : Attentive p.coordinator alarmed) (hfaithful : l.Faithful)
    (h : Departing origin d now l p) (hstep : Coordinator.ErrandStep b now p.coordinator l c l') :
    Departing origin d now l' { p with
      coordinator := c
      attempted := if p.coordinator.attempts then now else p.attempted } := by
  have hdeparted : ∀ {outcome}, Departing origin d now l'
      { p with
        coordinator := p.coordinator.endRelease outcome
        attempted := if p.coordinator.attempts then now else p.attempted } :=
    .of_no_errand rfl
  cases hstep with
  | ask started timeout he => exact .of_neither (by rintro e ⟨⟩; exact ⟨id, id⟩)
  | seeAnswer started timeout flight answer he hlanded =>
    rcases Coordinator.afterAttempt_cases p.coordinator now started timeout answer with
      ⟨-, hafter⟩ | ⟨-, ⟨waited, hafter⟩ | ⟨wake, hafter⟩⟩
    · rw [hafter]
      exact .of_no_errand rfl
    · rw [hafter]
      exact .of_neither (by rintro e ⟨⟩; exact ⟨id, id⟩)
    · rw [hafter]
      exact .of_neither (by rintro e ⟨⟩; exact ⟨id, id⟩)
  | retry started timeout wake he hwake => exact .of_neither (by rintro e ⟨⟩; exact ⟨id, id⟩)
  | askName waited he => exact .of_neither (by rintro e ⟨⟩; exact ⟨id, id⟩)
  | giveUp waited flight answer he hlanded => exact .of_no_errand rfl
  | stop he hstopped =>
    refine ⟨fun e he' hprecedes hlost => ?_, fun e he' hfollows => ?_⟩
    · have hbefore := h.before _ he trivial hlost
      refine ⟨fun _ => rfl, fun he => ?_, fun _ _ _ _ _ ht => ?_, fun _ => hbefore.leading rfl⟩
      · contradiction
      · contradiction
    · simp only [Coordinator.afterStop, Option.some.injEq] at he'
      subst he'
      split at hfollows <;> exact hfollows.elim
  | drop reason he => exact .of_neither (by rintro e ⟨⟩; exact ⟨id, id⟩)
  | seeDropped reason flight answer he hlanded => exact hdeparted
  | free he =>
    refine ⟨fun e he' hprecedes => ?_, fun e he' hfollows => ?_⟩
    · cases he'
      exact hprecedes.elim
    · cases he'
      unfold Errand.Follows at hfollows
      split at hfollows
      · rename_i arrives hsent
        simp only [Errand.freeing.injEq] at hsent
        have hsound := h.before _ he trivial (hattentive.errand _ he).2.2.2
        have hgave := gaveBack_of_free hb hwhole hmargin hfaithful hsound hsent
        exact hgave
      · contradiction
      · contradiction
      · contradiction
  | seeFreed flight answer he hlanded =>
    cases answer with
    | error error => exact hdeparted
    | ok =>
      obtain ⟨arrives, rfl, -⟩ := Flight.of_landed hlanded
      exact .of_gaveBack (by rintro e ⟨⟩; exact id) (h.after _ he trivial)
  | confirm deadline he =>
    refine .of_gaveBack (by rintro e ⟨⟩; exact id) ?_
    rw [deeds_of_holderCall hb]
    exact h.after _ he trivial
  | seeHolder deadline flight answer he hlanded =>
    rcases Coordinator.afterConfirmation_cases p.coordinator now deadline answer with
      ⟨_, -, hafter⟩ | ⟨-, -, hafter⟩ | ⟨_, -, -, -, hafter⟩ | ⟨_, -, -, -, hafter⟩
    · rw [hafter]
      exact hdeparted
    · rw [hafter]
      exact hdeparted
    · rw [hafter]
      exact hdeparted
    · rw [hafter]
      exact .of_gaveBack (by rintro e ⟨⟩; exact id) (h.after _ he trivial)
  | askAgain deadline wake he hwake =>
    exact .of_gaveBack (by rintro e ⟨⟩; exact id) (h.after _ he trivial)

theorem Attentive.not_follows {alarmed : Bool} (h : Attentive c alarmed) (ht : c.tenure = some t)
    {e : Errand} (he : c.errand = some e) : ¬ e.Follows := by
  intro hfollows
  have hfits := (h.errand e he).2
  unfold Errand.Follows at hfollows
  split at hfollows <;> simp [Errand.Fits, ht] at hfits hfollows

theorem Departing.renewerStep {alarmed : Bool} (hb : b.Enters origin)
    (hwhole : LeaseRecord.Whole p.coordinator.config.ttl)
    (hattentive : Attentive p.coordinator alarmed) (h : Departing origin d now l p)
    (ht : p.coordinator.tenure = some t)
    (hstep : Coordinator.RenewerStep b now p.coordinator t l c l')
    (hseen : p.coordinator.SeesRenewal now → now ≤ p.renewed + d) :
    Departing origin d now l' { p with
      coordinator := c
      renewed := if p.coordinator.renews then now else p.renewed } := by
  have hquiet : t.report = none := by
    by_contra hreport
    exact hstep.running (hattentive.ended t ht (.inl hreport))
  obtain ⟨last, t', rfl, -, -⟩ := hstep.tenure ht hquiet
  refine ⟨fun e he hprecedes hlost => ?_, fun e he hfollows => ?_⟩
  · exact GoldenCapture.Sound.renewerStep (p := p.inOffice) hwhole (hb.atomic _)
      (h.before e he hprecedes hlost) ht hstep.inOffice.onTable hseen
  · exact absurd hfollows (hattentive.not_follows ht he)

theorem Departing.supervisorStep {alarmed : Bool} (hattentive : Attentive p.coordinator alarmed)
    (h : Departing origin d now l p) (ht : p.coordinator.tenure = some t)
    (hstep : Coordinator.SupervisorStep p.coordinator t c) :
    Departing origin d now l { p with coordinator := c } := by
  refine ⟨fun e he hprecedes hlost => ?_, fun e he hfollows => ?_⟩
  · cases hstep with
    | learn reason hreport => contradiction
    | leave hreport hended =>
      exact (h.before e he hprecedes hlost).supervisorStep (.leave hreport hended)
  · have he' : p.coordinator.errand = some e := by
      cases hstep <;> exact he
    exact absurd hfollows (hattentive.not_follows ht he')

end

/-! ## Runs -/

namespace Tenancy

open Coordinator (not_seesGrant not_seesRenewal)

variable {origin : Int} {d : Nat} {w w' start : Tenancy}

/-- Everything that is known of a tenancy at every instant. -/
structure Known (origin : Int) (d : Nat) (w : Tenancy) : Prop where
  terms : Terms d w
  sound : Sound origin d w
  attentive : Attentive w.coordinator w.alarmed
  faithful : w.ledger.Faithful
  departing : Departing origin d w.now w.ledger w.party

theorem Known.attentive_step (h : Known origin d w) (hstep : Step origin d w w') :
    Attentive w'.coordinator w'.alarmed := by
  cases hstep with
  | wait later hle => exact h.attentive
  | outside c other hne hc => exact h.attentive
  | acquire timeout c hc => exact h.attentive.acquire hc
  | release => exact h.attentive.release
  | drop => exact h.attentive.drop
  | errand b hb c l hc hseen =>
    exact h.attentive.errandStep (Coordinator.errandStep_of_stepErrand hc)
  | renewer b hb stopFirst c l hc hseen =>
    obtain ⟨t, ht, hc⟩ := Coordinator.renewerStep_of_stepRenewer hc
    exact h.attentive.renewerStep ht hc
  | supervisor c hc =>
    obtain ⟨t, ht, -, hc⟩ := Coordinator.supervisorStep_of_stepSupervisor hc
    exact h.attentive.supervisorStep ht hc

theorem Known.faithful_step (h : Known origin d w) (hstep : Step origin d w w') :
    w'.ledger.Faithful := by
  cases hstep with
  | outside c other hne hc => exact h.faithful.call c _
  | errand b hb c l hc hseen =>
    exact h.faithful.moved ((Coordinator.errandStep_of_stepErrand hc).moved hb)
  | renewer b hb stopFirst c l hc hseen =>
    obtain ⟨t, -, hc⟩ := Coordinator.renewerStep_of_stepRenewer hc
    exact h.faithful.moved (hc.moved hb)
  | _ => exact h.faithful

theorem Known.departing_step (h : Known origin d w) (hstep : Step origin d w w') :
    Departing origin d w'.now w'.ledger w'.party := by
  cases hstep with
  | wait later hle => exact h.departing.later hle
  | outside c other hne hc => exact h.departing.moved h.terms.whole hne (.inr ⟨_, c, hc, rfl⟩)
  | acquire timeout c hc =>
    unfold Coordinator.acquire at hc
    split at hc
    · cases hc
      exact .of_neither (by rintro e ⟨⟩; exact ⟨id, id⟩)
    · contradiction
  | release => exact h.departing.release h.sound h.attentive
  | drop => exact .of_no_errand rfl
  | errand b hb c l hc hseen =>
    exact h.departing.errandStep hb h.terms.whole h.terms.margin h.attentive h.faithful
      (Coordinator.errandStep_of_stepErrand hc)
  | renewer b hb stopFirst c l hc hseen =>
    obtain ⟨t, ht, hc⟩ := Coordinator.renewerStep_of_stepRenewer hc
    exact h.departing.renewerStep hb h.terms.whole h.attentive ht hc hseen
  | supervisor c hc =>
    obtain ⟨t, ht, -, hc⟩ := Coordinator.supervisorStep_of_stepSupervisor hc
    exact h.departing.supervisorStep h.attentive ht hc

theorem known_of_run (hfresh : start.Fresh) (hterms : Terms d start)
    (hrun : Run origin d start w) : Known origin d w := by
  induction hrun with
  | refl =>
    obtain ⟨config, identity, hnew⟩ := hfresh.coordinator
    have herrand : start.coordinator.errand = none := congrArg Coordinator.errand hnew
    refine ⟨hterms, (sound_of_run hfresh hterms .refl).2, ?_, hfresh.faithful,
      .of_no_errand herrand⟩
    rw [hfresh.quiet, hnew]
    exact .of_no_tenure rfl (fun e he => by contradiction) (by simp)
  | tail _ hstep ih =>
    exact ⟨ih.terms.step hstep, ih.sound.step ih.terms hstep, ih.attentive_step hstep,
      ih.faithful_step hstep, ih.departing_step hstep⟩

/-- A release that succeeds ends a tenure of which the renewer reported no loss. If its call was put
before the last success that was seen had grown as old as the renew deadline, nobody else had been
granted the key since the attempt with which the tenure began. -/
theorem undisturbed_of_release (hfresh : start.Fresh) (hterms : Terms d start)
    (hrun : Run origin d start w) (hreleasing : w.coordinator.state = .releasing)
    {b : LeaseBackend Ledger} {c : Coordinator} {l : Ledger}
    (hstep : w.coordinator.stepErrand b w.now w.ledger = some (c, l))
    (hok : c.outcome = some (.ok ())) :
    w.alarmed = false ∧ c.GaveBack origin l.deeds := by
  have hknown := known_of_run hfresh hterms hrun
  have hpending : ∀ {e}, w.coordinator.errand = some e → w.coordinator.outcome ≠ some (.ok ()) := by
    intro e he
    rw [(hknown.attentive.errand e he).1]
    simp
  cases Coordinator.errandStep_of_stepErrand hstep with
  | seeHolder deadline flight answer he hlanded =>
    obtain ⟨-, -, htenure, hlost⟩ := hknown.attentive.errand _ he
    have hgave := hknown.departing.after _ he trivial
    refine ⟨?_, ?_⟩
    · by_contra halarmed
      rcases hknown.attentive.alarm (by simpa using halarmed) with hreport | ⟨t, ht, -⟩
      · exact hreport hlost
      · rw [htenure] at ht
        contradiction
    · rcases Coordinator.afterConfirmation_cases w.coordinator w.now deadline answer with
        ⟨_, -, hafter⟩ | ⟨-, -, hafter⟩ | ⟨_, -, -, -, hafter⟩ | ⟨_, -, -, -, hafter⟩ <;>
        rw [hafter] <;> exact hgave
  | seeAnswer started timeout flight answer he hlanded =>
    have hacquiring : w.coordinator.state = .acquiring := (hknown.attentive.errand _ he).2
    rw [hreleasing] at hacquiring
    contradiction
  | seeFreed flight answer he hlanded =>
    cases answer with
    | error error =>
      simp [Coordinator.afterFreeing, Coordinator.endRelease, Coordinator.finish] at hok
    | ok => exact absurd hok (hpending he)
  | giveUp waited flight answer he hlanded => simp [Coordinator.giveUp, Coordinator.finish] at hok
  | seeDropped reason flight answer he hlanded =>
    simp [Coordinator.endRelease, Coordinator.finish] at hok
  | ask started timeout he => exact absurd hok (hpending he)
  | retry started timeout wake he => exact absurd hok (hpending he)
  | askName waited he => exact absurd hok (hpending he)
  | stop he => exact absurd hok (hpending he)
  | drop reason he => exact absurd hok (hpending he)
  | free he => exact absurd hok (hpending he)
  | confirm deadline he => exact absurd hok (hpending he)
  | askAgain deadline wake he => exact absurd hok (hpending he)

theorem undisturbed_of_release_at_once :
    ∃ (w : Tenancy) (c : Coordinator) (l : Ledger),
      w.coordinator.stepErrand (Ledger.backend 0 0) w.now w.ledger = some (c, l) ∧
      c.outcome = some (.ok ()) ∧ w.alarmed = false ∧ c.GaveBack 0 l.deeds := by
  have hterms : Terms (Duration.ofSeconds 5) (vacant { key := "deploy" }) :=
    { whole := ⟨15000, by
        show Duration.ofSeconds 15 = Duration.ofMillis 15000
        decide, by decide⟩
      margin := by
        show Duration.ofSeconds 5 + Duration.ofSeconds 10 ≤ Duration.ofSeconds 15
        decide }
  have hb : (Ledger.backend 0 0).Enters 0 := Ledger.backend_enters 0 0
  have hrun : Run 0 (Duration.ofSeconds 5) (vacant { key := "deploy" }) _ :=
    Relation.ReflTransGen.refl
      |>.tail (.acquire 0 _ rfl)
      |>.tail (.errand _ hb _ _ rfl fun _ => Nat.zero_le _)
      |>.tail (.errand _ hb _ _ rfl fun _ => Nat.zero_le _)
      |>.tail .release
      |>.tail (.renewer _ hb true _ _ rfl fun _ => Nat.zero_le _)
      |>.tail (.supervisor _ rfl)
      |>.tail (.errand _ hb _ _ rfl fun _ => Nat.zero_le _)
      |>.tail (.errand _ hb _ _ rfl fun _ => Nat.zero_le _)
      |>.tail (.errand _ hb _ _ rfl fun _ => Nat.zero_le _)
      |>.tail (.errand _ hb _ _ rfl fun _ => Nat.zero_le _)
  have hfresh : (vacant { key := "deploy" }).Fresh := fresh_vacant _
  exact ⟨_, _, _, rfl, rfl,
    undisturbed_of_release (b := Ledger.backend 0 0) hfresh hterms hrun rfl rfl rfl⟩

def narrow : LeaseConfig where
  key := "deploy"
  ttl := Duration.ofMillis 410
  renewDeadline := Duration.ofMillis 400
  retryPeriod := Duration.ofMillis 300

/-- The only renewal fails, the lease runs out and goes to someone else, and a release that comes
before the next renewal succeeds. -/
theorem release_of_taken_lease :
    narrow.problem? = none ∧ ∃ w : Tenancy, Run 0 0 (vacant narrow) w ∧
      w.coordinator.state = .releasing ∧ ∃ (c : Coordinator) (l : Ledger),
        w.coordinator.stepErrand (Ledger.backend 0 0) w.now w.ledger = some (c, l) ∧
        c.outcome = some (.ok ()) ∧
        ∃ instant before, lastRelease? c.identity c.config.key l.deeds = some (instant, before) ∧
          ¬ Undisturbed c.identity c.config.key before := by
  have hvalid : narrow.problem? = none := LeaseConfig.problem?_eq_none_iff.mpr (by decide)
  have hb : (Ledger.backend 0 0).Enters 0 := Ledger.backend_enters 0 0
  have hcut : (Ledger.unreachable .storage).Enters 0 := Ledger.unreachable_enters 0 .storage
  have hother : "b" ≠ "a" := by decide
  have htaken : Duration.ofMillis 300 ≤ Duration.ofMillis 420 := by decide
  have hreleased : Duration.ofMillis 420 ≤ Duration.ofMillis 500 := by decide
  have hleading : Run 0 0 (vacant narrow) _ :=
    Relation.ReflTransGen.refl
      |>.tail (.acquire 0 _ rfl)
      |>.tail (.errand _ hb _ _ rfl fun _ => Nat.zero_le _)
      |>.tail (.errand _ hb _ _ rfl fun _ => Nat.zero_le _)
  have hcutOff : Run 0 0 (vacant narrow) _ :=
    hleading
      |>.tail (.wait (Duration.ofMillis 300) (Nat.zero_le _))
      |>.tail (.renewer _ hcut true _ _ rfl (absurd · (not_seesRenewal (by rintro _ _ _ _ ⟨⟩ ⟨⟩))))
      |>.tail (.renewer _ hcut true _ _ rfl (absurd · (not_seesRenewal (by rintro _ _ _ _ ⟨⟩ ⟨⟩))))
      |>.tail (.renewer _ hcut true _ _ rfl (absurd · (not_seesRenewal (by rintro _ _ _ _ ⟨⟩ ⟨⟩))))
  have hrun : Run 0 0 (vacant narrow) _ :=
    hcutOff
      |>.tail (.wait (Duration.ofMillis 420) htaken)
      |>.tail (.outside (.tryAcquire "deploy" "b" (Duration.ofMillis 410)) "b" hother rfl)
      |>.tail (.wait (Duration.ofMillis 500) hreleased)
      |>.tail .release
      |>.tail (.renewer _ hcut true _ _ rfl (absurd · (not_seesRenewal (by rintro _ _ _ _ ⟨⟩ ⟨⟩))))
      |>.tail (.supervisor _ rfl)
      |>.tail (.errand _ hb _ _ rfl (absurd · (not_seesGrant (by rintro _ _ _ ⟨⟩))))
      |>.tail (.errand _ hb _ _ rfl (absurd · (not_seesGrant (by rintro _ _ _ ⟨⟩))))
      |>.tail (.errand _ hb _ _ rfl (absurd · (not_seesGrant (by rintro _ _ _ ⟨⟩))))
      |>.tail (.errand _ hb _ _ rfl (absurd · (not_seesGrant (by rintro _ _ _ ⟨⟩))))
  refine ⟨hvalid, _, hrun, rfl, _, _, rfl, rfl, _, _, rfl, fun h => ?_⟩
  exact absurd (h.kind_of_other rfl hother) (by decide)

end Tenancy

end GoldenCapture
