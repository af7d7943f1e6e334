import GoldenCapture.Proofs.Lease.Ledger
import GoldenCapture.Proofs.Lease.MutualExclusion

/-!
# Tenancies

One coordinator over a ledger that anybody else uses as well, in whatever way and with whatever
lifetimes. The lease of a coordinator that is certain of it has not run out, provided that every
success is seen soon enough: the coordinator counts from when it sees the reply, the record from
when the call took effect, and nothing bounds what lies between the two.
-/

namespace GoldenCapture

/-! ## Certainty -/

theorem Coordinator.ensureLeading_eq_ok_iff {c : Coordinator} {now : Nat} :
    c.ensureLeading now = .ok () ↔
      c.state = .leading ∧ now - c.lastRenewed < c.config.renewDeadline := by
  unfold ensureLeading
  by_cases hstate : c.state = .leading
  · by_cases hsince : now - c.lastRenewed < c.config.renewDeadline
    · simp [hstate, hsince]
    · simp [hstate, hsince]
  · cases hlost : c.lost <;> simp [hstate]

section

variable {origin : Int} {d now : Nat}

theorem Secured.isHeldBy {key holder : String} {ttl since : Nat} {t : LeaseTable}
    (h : Secured origin key holder ttl since now t) (hwhole : LeaseRecord.Whole ttl)
    (hnow : now ≤ since + ttl) :
    ∃ r, t.get? key = some r ∧ r.isHeldBy holder (clockFrom origin now) = true := by
  obtain ⟨r, renewed, hget, hholder, httl, hsince, hrenewed⟩ := h.kept hnow
  have hlive : r.isExpired (clockFrom origin now) = false :=
    not_isExpired_of_renewed hwhole httl hsince hrenewed hnow
  exact ⟨r, hget, LeaseRecord.isHeldBy_iff.mpr ⟨hholder, hlive⟩⟩

theorem Sound.isHeldBy {t : LeaseTable} {p : Party} (h : Sound origin d now t p)
    (hwhole : LeaseRecord.Whole p.coordinator.config.ttl)
    (hmargin : d + p.coordinator.config.renewDeadline ≤ p.coordinator.config.ttl)
    (hleading : p.coordinator.state = .leading)
    (hfresh : now < p.coordinator.lastRenewed + p.coordinator.config.renewDeadline) :
    ∃ r, t.get? p.coordinator.config.key = some r ∧
      r.isHeldBy p.coordinator.identity (clockFrom origin now) = true := by
  obtain ⟨since, hseen, hsecured⟩ := h.leading hleading
  exact hsecured.isHeldBy hwhole (by omega)

end

/-! ## Runs -/

structure Tenancy where
  now : Nat := 0
  ledger : Ledger := {}
  party : Party
  /-- Whether the renewer has reported a loss since the last acquisition began. -/
  alarmed : Bool := false

def Coordinator.reports (c : Coordinator) : Bool := c.tenure.any fun t => t.report.isSome

namespace Coordinator

section

variable {σ : Type} {b : LeaseBackend σ} {now : Nat} {c : Coordinator} {s : σ}

theorem stepErrand_of_landed {started timeout : Nat} {answer sent : Except BackendError Bool}
    {arrives : Option Nat}
    (h : c.errand = some (.trying started timeout (.answered sent arrives)))
    (hlanded : (Flight.answered sent arrives).landed now = some answer) :
    c.stepErrand b now s = some (c.afterAttempt now started timeout answer, s) := by
  unfold stepErrand
  rw [h]
  exact congrArg (Option.map _) hlanded

theorem not_seesGrant
    (h : ∀ started timeout arrives,
      c.errand ≠ some (.trying started timeout (.answered (.ok true) arrives))) :
    ¬ c.SeesGrant now := by
  rintro ⟨started, timeout, flight, he, hlanded⟩
  obtain ⟨arrives, rfl, -⟩ := Flight.of_landed hlanded
  exact h started timeout arrives he

theorem not_seesRenewal
    (h : ∀ t tick limit arrives, c.tenure = some t →
      t.renewer ≠ .renewing tick limit (.answered (.ok true) arrives)) :
    ¬ c.SeesRenewal now := by
  rintro ⟨t, tick, limit, flight, ht, hr, hlanded⟩
  obtain ⟨arrives, rfl, -⟩ := Flight.of_landed hlanded
  exact h t tick limit arrives ht hr

end

end Coordinator

namespace Tenancy

def coordinator (w : Tenancy) : Coordinator := w.party.coordinator

def setCoordinator (w : Tenancy) (c : Coordinator) : Tenancy :=
  { w with party := { w.party with coordinator := c } }

/-- A coordinator as it is made, over a ledger that anybody may have used before. -/
structure Fresh (w : Tenancy) : Prop where
  coordinator : ∃ config identity, w.coordinator = { config, identity }
  faithful : w.ledger.Faithful
  quiet : w.alarmed = false

/-- The lifetime is stored as it is, and a reply may take `d` without eating into what a leader
takes for granted. -/
structure Terms (d : Nat) (w : Tenancy) : Prop where
  whole : LeaseRecord.Whole w.coordinator.config.ttl
  margin : d + w.coordinator.config.renewDeadline ≤ w.coordinator.config.ttl

/-- One step. A success is seen no later than `d` after it took effect; nothing else is ever due. -/
inductive Step (origin : Int) (d : Nat) (w : Tenancy) : Tenancy → Prop
  | wait (later : Nat) (h : w.now ≤ later) : Step origin d w { w with now := later }
  /-- Somebody else puts a call to the backend. -/
  | outside {α : Type} (c : LeaseCall α) (other : String) (hne : other ≠ w.coordinator.identity)
      (hc : c.By other) :
      Step origin d w { w with ledger := (w.ledger.call c (origin + w.now)).2 }
  | acquire (timeout : Nat) (c : Coordinator) (h : w.coordinator.acquire w.now timeout = .ok c) :
      Step origin d w { w.setCoordinator c with alarmed := false }
  | release : Step origin d w (w.setCoordinator w.coordinator.release.1)
  /-- The caller drops what it set out for, at any point of it. -/
  | drop : Step origin d w (w.setCoordinator w.coordinator.cancel)
  | errand (b : LeaseBackend Ledger) (hb : b.Enters origin) (c : Coordinator) (l : Ledger)
      (h : w.coordinator.stepErrand b w.now w.ledger = some (c, l))
      (hseen : w.coordinator.SeesGrant w.now → w.now ≤ w.party.attempted + d) :
      Step origin d w
        { w with
          ledger := l
          party := { w.party with
            coordinator := c
            attempted := if w.coordinator.attempts then w.now else w.party.attempted } }
  | renewer (b : LeaseBackend Ledger) (hb : b.Enters origin) (stopFirst : Bool) (c : Coordinator)
      (l : Ledger) (h : w.coordinator.stepRenewer b w.now stopFirst w.ledger = some (c, l))
      (hseen : w.coordinator.SeesRenewal w.now → w.now ≤ w.party.renewed + d) :
      Step origin d w
        { w with
          ledger := l
          party := { w.party with
            coordinator := c
            renewed := if w.coordinator.renews then w.now else w.party.renewed }
          alarmed := w.alarmed || c.reports }
  | supervisor (c : Coordinator) (h : w.coordinator.stepSupervisor = some c) :
      Step origin d w (w.setCoordinator c)

def Run (origin : Int) (d : Nat) : Tenancy → Tenancy → Prop :=
  Relation.ReflTransGen (Step origin d)

section

variable {origin : Int} {d : Nat} {w w' start : Tenancy}

theorem Step.same (h : Step origin d w w') : w.coordinator.Same w'.coordinator := by
  cases h with
  | wait later h => exact ⟨rfl, rfl⟩
  | outside c other hne hc => exact ⟨rfl, rfl⟩
  | acquire timeout c h => exact Coordinator.same_of_acquire h
  | release => exact Coordinator.same_release
  | drop => exact Coordinator.same_cancel
  | errand b hb c l h hseen => exact (Coordinator.errandStep_of_stepErrand h).same
  | renewer b hb stopFirst c l h hseen =>
    obtain ⟨tenure, -, hstep⟩ := Coordinator.renewerStep_of_stepRenewer h
    exact hstep.same
  | supervisor c h =>
    obtain ⟨tenure, -, -, hstep⟩ := Coordinator.supervisorStep_of_stepSupervisor h
    exact hstep.same

theorem Terms.step (h : Terms d w) (hstep : Step origin d w w') : Terms d w' where
  whole := by
    rw [hstep.same.config]
    exact h.whole
  margin := by
    rw [hstep.same.config]
    exact h.margin

/-- The coordinator of a tenancy is as sound as a party that has rivals. -/
def Sound (origin : Int) (d : Nat) (w : Tenancy) : Prop :=
  GoldenCapture.Sound origin d w.now w.ledger.table w.party

theorem Sound.step (hterms : Terms d w) (h : Sound origin d w) (hstep : Step origin d w w') :
    Sound origin d w' := by
  cases hstep with
  | wait later hle => exact h.later hle
  | outside c other hne hc => exact h.movedBy hterms.whole hne (.inr ⟨_, c, hc, rfl⟩)
  | acquire timeout c hc => exact .acquire timeout hc
  | release => exact h.release
  | drop => exact h.drop
  | errand b hb c l hc hseen =>
    exact h.errandStep (hb.atomic _) (Coordinator.errandStep_of_stepErrand hc).onTable hseen
  | renewer b hb stopFirst c l hc hseen =>
    obtain ⟨tenure, htenure, hc⟩ := Coordinator.renewerStep_of_stepRenewer hc
    exact h.renewerStep hterms.whole (hb.atomic _) htenure hc.onTable hseen
  | supervisor c hc =>
    obtain ⟨tenure, -, -, hc⟩ := Coordinator.supervisorStep_of_stepSupervisor hc
    exact h.supervisorStep hc

theorem sound_of_run (hfresh : start.Fresh) (hterms : Terms d start)
    (hrun : Run origin d start w) : Terms d w ∧ Sound origin d w := by
  induction hrun with
  | refl =>
    obtain ⟨config, identity, hnew⟩ := hfresh.coordinator
    refine ⟨hterms, .of_ended ?_ ?_⟩
    · exact congrArg Coordinator.state hnew
    · exact congrArg Coordinator.errand hnew
  | tail _ hstep ih => exact ⟨ih.1.step hstep, ih.2.step ih.1 hstep⟩

/-- Whoever is certain of its lease holds it: the record names it and has not expired. -/
theorem isHeldBy_of_ensureLeading (hfresh : start.Fresh) (hterms : Terms d start)
    (hrun : Run origin d start w) (h : w.coordinator.ensureLeading w.now = .ok ()) :
    ∃ r, w.ledger.table.get? w.coordinator.config.key = some r ∧
      r.isHeldBy w.coordinator.identity (clockFrom origin w.now) = true := by
  obtain ⟨hterms, hsound⟩ := sound_of_run hfresh hterms hrun
  obtain ⟨hleading, hsince⟩ := Coordinator.ensureLeading_eq_ok_iff.mp h
  exact GoldenCapture.Sound.isHeldBy hsound hterms.whole hterms.margin hleading
    (by unfold coordinator at hsince; omega)

def vacant (config : LeaseConfig) : Tenancy where
  party := { coordinator := { config, identity := "a" } }

theorem fresh_vacant (config : LeaseConfig) : (vacant config).Fresh where
  coordinator := ⟨config, "a", rfl⟩
  faithful := Ledger.faithful_empty
  quiet := rfl

theorem isHeldBy_of_ensureLeading_at_once :
    ∃ w : Tenancy, w.coordinator.ensureLeading w.now = .ok () ∧
      ∃ r, w.ledger.table.get? w.coordinator.config.key = some r ∧
        r.isHeldBy w.coordinator.identity (clockFrom 0 w.now) = true := by
  have hterms : Terms (Duration.ofSeconds 5) (vacant { key := "deploy" }) :=
    { whole := ⟨15000, by
        show Duration.ofSeconds 15 = Duration.ofMillis 15000
        decide, by decide⟩
      margin := by
        show Duration.ofSeconds 5 + Duration.ofSeconds 10 ≤ Duration.ofSeconds 15
        decide }
  have hb : (Ledger.backend 0 0).Enters 0 := Ledger.backend_enters 0 0
  have hrun : Run 0 (Duration.ofSeconds 5) (vacant { key := "deploy" }) _ :=
    Relation.ReflTransGen.refl
      |>.tail (.acquire 0 _ rfl)
      |>.tail (.errand _ hb _ _ rfl fun _ => Nat.zero_le _)
      |>.tail (.errand _ hb _ _ rfl fun _ => Nat.zero_le _)
  obtain ⟨w, hrun, hlead⟩ : ∃ w : Tenancy,
      Run 0 (Duration.ofSeconds 5) (vacant { key := "deploy" }) w ∧
      w.coordinator.ensureLeading w.now = .ok () := by
    have hsure : 0 - 0 < Duration.ofSeconds 10 := by decide
    exact ⟨_, hrun, (if_pos rfl).trans (if_pos hsure)⟩
  exact ⟨w, hlead, isHeldBy_of_ensureLeading (fresh_vacant _) hterms hrun hlead⟩

/-- A reply that takes longer than the lifetime makes a leader of a coordinator whose lease has
gone to someone else by then. -/
theorem ensureLeading_of_late_reply :
    ∃ w : Tenancy, Run 0 (Duration.ofSeconds 20) (vacant { key := "deploy" }) w ∧
      w.coordinator.config.problem? = none ∧
      w.coordinator.ensureLeading w.now = .ok () ∧
      ∃ r, w.ledger.table.get? w.coordinator.config.key = some r ∧
        r.holder ≠ w.coordinator.identity := by
  have hslow : (Ledger.backend 0 (Duration.ofSeconds 20)).Enters 0 := Ledger.backend_enters 0 _
  have hother : "b" ≠ "a" := by decide
  have hlater : Duration.ofSeconds 16 ≤ Duration.ofSeconds 20 := by decide
  have hlanded : (Flight.answered (.ok true) (some (0 + Duration.ofSeconds 20))).landed
      (Duration.ofSeconds 20) = some (.ok true) := rfl
  have hseen : Duration.ofSeconds 20 ≤ 0 + Duration.ofSeconds 20 := by decide
  have hrun : Run 0 (Duration.ofSeconds 20) (vacant { key := "deploy" }) _ :=
    Relation.ReflTransGen.refl
      |>.tail (.acquire (Duration.ofSeconds 60) _ rfl)
      |>.tail (.errand _ hslow _ _ rfl fun _ => Nat.zero_le _)
      |>.tail (.wait (Duration.ofSeconds 16) (Nat.zero_le _))
      |>.tail (.outside (.tryAcquire "deploy" "b" (Duration.ofSeconds 15)) "b" hother rfl)
      |>.tail (.wait (Duration.ofSeconds 20) hlater)
      |>.tail (.errand _ hslow _ _ (Coordinator.stepErrand_of_landed rfl hlanded) fun _ => hseen)
  have hvalid : ({ key := "deploy" } : LeaseConfig).problem? = none :=
    LeaseConfig.problem?_eq_none_iff.mpr (by decide)
  refine ⟨_, hrun, hvalid, Coordinator.ensureLeading_eq_ok_iff.mpr ?_, _, rfl, ?_⟩
  · decide +kernel
  · decide +kernel

end

end Tenancy

end GoldenCapture
