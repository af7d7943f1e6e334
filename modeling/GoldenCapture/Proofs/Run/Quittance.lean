import GoldenCapture.Proofs.Lease.Interruption
import GoldenCapture.Proofs.Lease.Reports
import GoldenCapture.Proofs.Run.Sites

/-!
# Quittances

What a release that returns without an error says about the backend, in memory or in files, each
call of which may fail without an effect. A release that leaves the lead asks the backend, and what
it hears still holds when it returns. A release of an idle coordinator asks nobody: it is as good as
the last one that was confirmed, and a release that failed was not.
-/

namespace GoldenCapture

open Coordinator

namespace Coordinator

/-- An attempt has just been granted, seen or not. -/
def isGranted (c : Coordinator) : Bool :=
  match c.errand with
  | some (.trying _ _ (.answered (.ok true) _)) => true
  | _ => false

/-- A release has just been confirmed. -/
def isQuit (c : Coordinator) : Bool :=
  match c.state, c.outcome with
  | .idle, some (.ok ()) => true
  | _, _ => false

end Coordinator

/-! ## Steps over a site -/

section

variable {leaseDir : Option String} {origin : Int} {now : Nat} {b : LeaseBackend LeaseSite}
  {c c' : Coordinator} {t : Tenure} {s s' : LeaseSite}

theorem impact_of_errandStep (hb : (LeaseSite.backend leaseDir (clockFrom origin)).Unreliable b)
    (hstands : s.Stands leaseDir)
    (hlegible : c.attempts = true → s.Legible leaseDir c.tryAcquireCall (clockFrom origin now))
    (hstep : ErrandStep b now c s c' s') :
    Impact c.identity (origin + now) (s.record? leaseDir c.config.key) c'.isGranted
        (s'.record? leaseDir c.config.key) ∧
      s'.Stands leaseDir := by
  have hrelease : s.Legible leaseDir c.releaseCall (clockFrom origin now) :=
    fun _ _ => legible_of_release
  have hholder : s.Legible leaseDir c.holderCall (clockFrom origin now) :=
    fun _ _ => legible_of_currentHolder
  have hreleased : ∀ granted, Impact c.identity (origin + now) (s.record? leaseDir c.config.key)
      granted ((send b c.releaseCall now s).2.record? leaseDir c.config.key) ∧
        (send b c.releaseCall now s).2.Stands leaseDir := by
    intro granted
    obtain ⟨answer, arrives, -, hmakes, hstill⟩ := LeaseSite.makes_send hb hstands hrelease
    refine ⟨?_, hstill⟩
    rcases hmakes.of_release with hafter | hafter
    · exact hafter ▸ .keep granted
    · exact hafter ▸ .remove granted
  have hlooked : ∀ granted, Impact c.identity (origin + now) (s.record? leaseDir c.config.key)
      granted ((send b c.holderCall now s).2.record? leaseDir c.config.key) ∧
        (send b c.holderCall now s).2.Stands leaseDir := by
    intro granted
    obtain ⟨answer, arrives, -, hmakes, hstill⟩ := LeaseSite.makes_send hb hstands hholder
    exact ⟨hmakes.of_currentHolder.1 ▸ .keep granted, hstill⟩
  cases hstep with
  | ask started timeout he =>
    have hattempts : c.attempts = true := by
      unfold attempts
      rw [he]
    obtain ⟨answer, arrives, hsent, hmakes, hstill⟩ :=
      LeaseSite.makes_send hb hstands (hlegible hattempts)
    refine ⟨?_, hstill⟩
    rcases hmakes.of_tryAcquire with hafter | ⟨rfl, r, hafter, hname, hat⟩
    · exact hafter ▸ .keep _
    · have hgranted : isGranted { c with errand := some (.trying started timeout
          (send b c.tryAcquireCall now s).1) } = true := by
        rw [hsent]
        rfl
      rw [hgranted]
      exact hafter ▸ .grant r hname hat
  | drop reason he => exact hreleased _
  | free he => exact hreleased _
  | askName waited he => exact hlooked _
  | confirm deadline he => exact hlooked _
  | _ => exact ⟨.keep _, hstands⟩

theorem freed_of_lookup (hb : (LeaseSite.backend leaseDir (clockFrom origin)).Unreliable b)
    (hstands : s.Stands leaseDir) (hstep : ErrandStep b now c s c' s') {deadline : Nat}
    {r? : Option LeaseRecord} {arrives : Option Nat}
    (herrand : c'.errand = some (.confirming deadline (.answered (.ok r?) arrives)))
    (hother : ∀ r, r? = some r → r.holder ≠ c.identity) :
    Freed c.identity (clockFrom origin now) (s'.record? leaseDir c.config.key) := by
  cases hstep with
  | confirm deadline he =>
    have hholder : s.Legible leaseDir c.holderCall (clockFrom origin now) :=
      fun _ _ => legible_of_currentHolder
    obtain ⟨answer, arrives', hsent, hmakes, -⟩ := LeaseSite.makes_send hb hstands hholder
    obtain ⟨hafter, hlook⟩ := hmakes.of_currentHolder
    rw [hsent] at herrand
    cases herrand
    have hkept : (send b c.holderCall now s).2.record? leaseDir c.config.key =
        s.record? leaseDir c.config.key := hafter
    rw [hkept]
    refine freed_of_filter fun r hr => hother r ?_
    rw [hlook r? rfl]
    exact hr
  | seeAnswer started timeout flight answer he hlanded =>
    rcases afterAttempt_cases c now started timeout answer with
      ⟨-, hc⟩ | ⟨-, ⟨_, hc⟩ | ⟨_, hc⟩⟩ <;> rw [hc] at herrand <;> cases herrand
  | seeFreed flight answer he hlanded => cases answer <;> cases herrand
  | seeHolder deadline flight answer he hlanded =>
    rcases afterConfirmation_cases c now deadline answer with
      ⟨_, -, hc⟩ | ⟨-, -, hc⟩ | ⟨_, -, -, -, hc⟩ | ⟨_, -, -, -, hc⟩ <;>
      rw [hc] at herrand <;> cases herrand
  | stop he hstopped =>
    unfold afterStop at herrand
    cases hlost : c.lost <;> simp [hlost] at herrand
  | _ => cases herrand

theorem lookup_of_isQuit {σ : Type} {b : LeaseBackend σ} {s s' : σ} (h : Attentive c false)
    (hstep : ErrandStep b now c s c' s') (hquit : c'.isQuit = true) :
    s' = s ∧ ∃ deadline r? arrives,
      c.errand = some (.confirming deadline (.answered (.ok r?) arrives)) ∧
        ∀ r, r? = some r → r.holder ≠ c.identity := by
  have hpending : ∀ e, c.errand = some e → c'.outcome ≠ c.outcome := by
    intro e he hsame
    rw [(h.errand e he).1] at hsame
    unfold isQuit at hquit
    rw [hsame] at hquit
    split at hquit <;> contradiction
  cases hstep with
  | seeHolder deadline flight answer he hlanded =>
    obtain ⟨arrives, rfl, -⟩ := Flight.of_landed hlanded
    rcases afterConfirmation_cases c now deadline answer with
      ⟨_, -, hc⟩ | ⟨hother, ⟨r?, rfl⟩, hc⟩ | ⟨_, -, -, -, hc⟩ | ⟨_, -, -, -, hc⟩
    · rw [hc] at hquit
      contradiction
    · exact ⟨rfl, deadline, r?, _, he, fun r hr => hother r (by rw [hr])⟩
    · rw [hc] at hquit
      contradiction
    · rw [hc] at hpending
      exact absurd rfl (hpending _ he)
  | seeAnswer started timeout flight answer he hlanded =>
    rcases afterAttempt_cases c now started timeout answer with
      ⟨-, hc⟩ | ⟨-, ⟨_, hc⟩ | ⟨_, hc⟩⟩
    · rw [hc] at hquit
      contradiction
    · rw [hc] at hpending
      exact absurd rfl (hpending _ he)
    · rw [hc] at hpending
      exact absurd rfl (hpending _ he)
  | giveUp | seeDropped => contradiction
  | seeFreed flight answer he hlanded =>
    cases answer with
    | error error => contradiction
    | ok => exact absurd rfl (hpending _ he)
  | _ => exact absurd rfl (hpending _ (by assumption))

theorem impact_of_renewerStep (hb : (LeaseSite.backend leaseDir (clockFrom origin)).Unreliable b)
    (hstands : s.Stands leaseDir) (ht : c.tenure = some t)
    (hlegible : c.renews = true → s.Legible leaseDir c.renewCall (clockFrom origin now))
    (hstep : RenewerStep b now c t s c' s') :
    Impact c.identity (origin + now) (s.record? leaseDir c.config.key) false
        (s'.record? leaseDir c.config.key) ∧
      s'.Stands leaseDir := by
  cases hstep with
  | renew tick limit hr =>
    have hrenews : c.renews = true := by
      unfold renews
      rw [ht, Option.map_some, hr]
    obtain ⟨answer, arrives, -, hmakes, hstill⟩ :=
      LeaseSite.makes_send hb hstands (hlegible hrenews)
    refine ⟨?_, hstill⟩
    rcases hmakes.of_renew with hafter | ⟨r, hbefore, hheld, hafter⟩
    · exact hafter ▸ .keep false
    · exact hafter ▸ .extend r c.config.ttl false hbefore hheld
  | _ => exact ⟨.keep false, hstands⟩

end

/-! ## Runs -/

structure Quittance where
  now : Nat := 0
  site : LeaseSite
  coordinator : Coordinator
  /-- Whether the lease was granted since the last release that was confirmed. -/
  granted : Bool := false

namespace Quittance

def record? (w : Quittance) (leaseDir : Option String) : Option LeaseRecord :=
  w.site.record? leaseDir w.coordinator.config.key

/-- The backend has no record of the coordinator, or one that has expired. -/
def Released (leaseDir : Option String) (origin : Int) (w : Quittance) : Prop :=
  Freed w.coordinator.identity (clockFrom origin w.now) (w.record? leaseDir)

/-- A coordinator as it is made. If nothing is known to have been granted to its name, no record
bears it. -/
structure Fresh (leaseDir : Option String) (w : Quittance) : Prop where
  coordinator : ∃ config identity, w.coordinator = { config, identity }
  stands : w.site.Stands leaseDir
  stamped : Stamped w.coordinator.identity (w.record? leaseDir)
  unknown : w.granted = false →
    ∀ r, w.record? leaseDir = some r → r.holder ≠ w.coordinator.identity

/-- One step. Nobody else makes a record that bears the name of the coordinator. -/
inductive Step (leaseDir : Option String) (origin : Int) (w : Quittance) : Quittance → Prop
  | wait (later : Nat) (h : w.now ≤ later) : Step leaseDir origin w { w with now := later }
  | outside (site : LeaseSite) (hstands : site.Stands leaseDir)
      (hothers : site.record? leaseDir w.coordinator.config.key = w.record? leaseDir ∨
        ∀ r, site.record? leaseDir w.coordinator.config.key = some r →
          r.holder ≠ w.coordinator.identity) :
      Step leaseDir origin w { w with site }
  | acquire (timeout : Nat) (c : Coordinator) (h : w.coordinator.acquire w.now timeout = .ok c) :
      Step leaseDir origin w { w with coordinator := c }
  | release : Step leaseDir origin w { w with coordinator := w.coordinator.release.1 }
  /-- The caller drops what it set out for, at any point of it. -/
  | drop : Step leaseDir origin w { w with coordinator := w.coordinator.cancel }
  | errand (b : LeaseBackend LeaseSite)
      (hb : (LeaseSite.backend leaseDir (clockFrom origin)).Unreliable b)
      (hlegible : w.coordinator.attempts = true →
        w.site.Legible leaseDir w.coordinator.tryAcquireCall (clockFrom origin w.now))
      (c : Coordinator) (site : LeaseSite)
      (h : w.coordinator.stepErrand b w.now w.site = some (c, site)) :
      Step leaseDir origin w
        { w with coordinator := c, site, granted := (w.granted || c.isGranted) && !c.isQuit }
  | renewer (b : LeaseBackend LeaseSite)
      (hb : (LeaseSite.backend leaseDir (clockFrom origin)).Unreliable b)
      (hlegible : w.coordinator.renews = true →
        w.site.Legible leaseDir w.coordinator.renewCall (clockFrom origin w.now))
      (stopFirst : Bool) (c : Coordinator) (site : LeaseSite)
      (h : w.coordinator.stepRenewer b w.now stopFirst w.site = some (c, site)) :
      Step leaseDir origin w { w with coordinator := c, site }
  | supervisor (c : Coordinator) (h : w.coordinator.stepSupervisor = some c) :
      Step leaseDir origin w { w with coordinator := c }

def Run (leaseDir : Option String) (origin : Int) : Quittance → Quittance → Prop :=
  Relation.ReflTransGen (Step leaseDir origin)

/-- A release returns without an error: at once, or at the end of its errand. -/
inductive Confirms (leaseDir : Option String) (origin : Int) (w : Quittance) : Quittance → Prop
  | atOnce (h : w.coordinator.release.2 = some (.ok ())) :
      Confirms leaseDir origin w { w with coordinator := w.coordinator.release.1 }
  | atEnd (w' : Quittance) (hstep : Step leaseDir origin w w')
      (hreleasing : w.coordinator.state = .releasing) (hidle : w'.coordinator.state = .idle)
      (houtcome : w'.coordinator.outcome = some (.ok ())) : Confirms leaseDir origin w w'

/-! ## What every step keeps -/

/-- The record is in order: what is known of a lookup that was answered still holds, and nothing is
left of a coordinator that has been granted nothing. -/
structure Orderly (leaseDir : Option String) (origin : Int) (w : Quittance) : Prop where
  attentive : Attentive w.coordinator false
  stands : w.site.Stands leaseDir
  stamped : Stamped w.coordinator.identity (w.record? leaseDir)
  quit : w.granted = false → w.Released leaseDir origin
  confirmed : ∀ deadline r? arrives,
    w.coordinator.errand = some (.confirming deadline (.answered (.ok r?) arrives)) →
    (∀ r, r? = some r → r.holder ≠ w.coordinator.identity) → w.Released leaseDir origin

section

variable {leaseDir : Option String} {origin : Int} {w w' start : Quittance} {c : Coordinator}
  {site : LeaseSite}

theorem orderly_of_fresh (h : w.Fresh leaseDir) : w.Orderly leaseDir origin := by
  obtain ⟨config, identity, hnew⟩ := h.coordinator
  refine ⟨.of_no_tenure ?_ ?_ (by simp), h.stands, h.stamped, fun hnone => ?_, ?_⟩
  · rw [hnew]
  · rw [hnew]
    simp
  · intro r hr hholder
    exact absurd hholder (h.unknown hnone r hr)
  · rw [hnew]
    simp

theorem Orderly.next (hsame : w.coordinator.Same c) (hattentive : Attentive c false)
    (hstands : site.Stands leaseDir) {granted : Bool}
    (hstamped : Stamped w.coordinator.identity (site.record? leaseDir w.coordinator.config.key))
    (hquit : granted = false →
      Freed w.coordinator.identity (clockFrom origin w.now)
        (site.record? leaseDir w.coordinator.config.key))
    (hconfirmed : ∀ deadline r? arrives,
      c.errand = some (.confirming deadline (.answered (.ok r?) arrives)) →
      (∀ r, r? = some r → r.holder ≠ w.coordinator.identity) →
      Freed w.coordinator.identity (clockFrom origin w.now)
        (site.record? leaseDir w.coordinator.config.key)) :
    Orderly leaseDir origin { w with coordinator := c, site, granted } := by
  have hidentity := hsame.identity
  have hkey := congrArg LeaseConfig.key hsame.config
  refine ⟨hattentive, hstands, ?_, fun hnone => ?_, fun deadline r? arrives he hother => ?_⟩
  · simp only [record?, hidentity, hkey]
    exact hstamped
  · simp only [Released, record?, hidentity, hkey]
    exact hquit hnone
  · simp only [Released, record?, hidentity, hkey] at hother ⊢
    exact hconfirmed deadline r? arrives he hother

theorem Orderly.turn (h : w.Orderly leaseDir origin) (hsame : w.coordinator.Same c)
    (hattentive : Attentive c false)
    (herrand : ∀ deadline flight, c.errand = some (.confirming deadline flight) →
      w.coordinator.errand = c.errand) :
    Orderly leaseDir origin { w with coordinator := c } :=
  .next hsame hattentive h.stands h.stamped h.quit fun deadline r? arrives he hother =>
    h.confirmed deadline r? arrives ((herrand _ _ he).trans he) hother

theorem Orderly.step (h : w.Orderly leaseDir origin) (hstep : Step leaseDir origin w w') :
    w'.Orderly leaseDir origin := by
  cases hstep with
  | wait later hle =>
    have hlater : origin + w.now ≤ origin + later := by omega
    exact ⟨h.attentive, h.stands, h.stamped,
      fun hnone => (h.quit hnone).later h.stamped hlater,
      fun deadline r? arrives he hother =>
        (h.confirmed deadline r? arrives he hother).later h.stamped hlater⟩
  | outside site hstands hothers =>
    rcases hothers with hsame | hothers
    · refine .next ⟨rfl, rfl⟩ h.attentive hstands ?_ ?_ ?_ <;> rw [hsame]
      · exact h.stamped
      · exact h.quit
      · exact h.confirmed
    · have hfreed : Freed w.coordinator.identity (clockFrom origin w.now)
          (site.record? leaseDir w.coordinator.config.key) :=
        fun r hr hholder => absurd hholder (hothers r hr)
      exact .next ⟨rfl, rfl⟩ h.attentive hstands
        (fun r hr hholder => absurd hholder (hothers r hr)) (fun _ => hfreed)
        fun _ _ _ _ _ => hfreed
  | acquire timeout c hc =>
    refine h.turn (same_of_acquire hc) (h.attentive.acquire hc) fun deadline flight he => ?_
    unfold Coordinator.acquire at hc
    split at hc
    · cases hc
      cases he
    · contradiction
  | release =>
    refine h.turn same_release h.attentive.release fun deadline flight he => ?_
    unfold Coordinator.release at he ⊢
    split at he <;> simp_all
  | drop =>
    refine h.turn same_cancel h.attentive.drop fun deadline flight he => ?_
    cases he
  | errand b hb hlegible c site hc =>
    have hstep := errandStep_of_stepErrand hc
    obtain ⟨himpact, hstands⟩ := impact_of_errandStep hb h.stands hlegible hstep
    refine .next hstep.same (h.attentive.errandStep hstep) hstands (himpact.stamped h.stamped) ?_ ?_
    -- Nothing is granted either because a lookup has just told so, or because it was so before.
    · intro hnone
      cases hquit : c.isQuit with
      | true =>
        obtain ⟨rfl, deadline, r?, arrives, he, hother⟩ := lookup_of_isQuit h.attentive hstep hquit
        exact h.confirmed deadline r? arrives he hother
      | false =>
        simp only [hquit, Bool.not_false, Bool.and_true, Bool.or_eq_false_iff] at hnone
        rw [hnone.2] at himpact
        exact himpact.freed (h.quit hnone.1)
    · intro deadline r? arrives he hother
      exact freed_of_lookup hb h.stands hstep he hother
  | renewer b hb hlegible stopFirst c site hc =>
    obtain ⟨t, ht, hstep⟩ := renewerStep_of_stepRenewer hc
    obtain ⟨himpact, hstands⟩ := impact_of_renewerStep hb h.stands ht hlegible hstep
    have hattentive := h.attentive.renewerStep ht hstep
    refine .next hstep.same
      ⟨hattentive.errand, hattentive.ended, hattentive.watched, by simp⟩ hstands
      (himpact.stamped h.stamped) ?_ ?_
    · exact fun hnone => himpact.freed (h.quit hnone)
    · intro deadline r? arrives he hother
      rw [hstep.caller.2] at he
      exact himpact.freed (h.confirmed deadline r? arrives he hother)
  | supervisor c hc =>
    obtain ⟨t, ht, -, hstep⟩ := supervisorStep_of_stepSupervisor hc
    refine h.turn hstep.same (h.attentive.supervisorStep ht hstep) fun deadline flight he => ?_
    cases hstep <;> rfl

theorem orderly_of_run (hfresh : start.Fresh leaseDir) (hrun : Run leaseDir origin start w) :
    w.Orderly leaseDir origin := by
  induction hrun with
  | refl => exact orderly_of_fresh hfresh
  | tail _ hstep ih => exact ih.step hstep

/-! ## Releases that return without an error -/

theorem granted_of_atEnd (hstep : Step leaseDir origin w w')
    (hreleasing : w.coordinator.state = .releasing) (hidle : w'.coordinator.state = .idle)
    (houtcome : w'.coordinator.outcome = some (.ok ())) : w'.granted = false := by
  have hnever : w'.coordinator.state = w.coordinator.state → w'.granted = false := by
    intro hsame
    rw [hsame, hreleasing] at hidle
    contradiction
  cases hstep with
  | errand b hb hlegible c site hc =>
    have hquit : c.isQuit = true := by
      unfold isQuit
      dsimp only at hidle houtcome
      rw [hidle, houtcome]
    simp [hquit]
  | acquire timeout c hc => simp [Coordinator.acquire, hreleasing] at hc
  | release => exact hnever (by simp [Coordinator.release, hreleasing])
  | drop => exact hnever (by simp [cancel, hreleasing])
  | renewer b hb hlegible stopFirst c site hc =>
    obtain ⟨t, -, hstep⟩ := renewerStep_of_stepRenewer hc
    exact hnever hstep.caller.1
  | supervisor c hc =>
    obtain ⟨t, -, -, hstep⟩ := supervisorStep_of_stepSupervisor hc
    cases hstep with
    | learn reason hreport => exact hnever (by simp [learnLoss, hreleasing])
    | leave hreport hended => exact hnever rfl
  | _ => exact hnever rfl

/-- When a release returns without an error, the backend has no record of the coordinator that has
not expired, provided that the release asked it, or that nothing has been granted since the last
release that was confirmed. -/
theorem released_of_confirms (hfresh : start.Fresh leaseDir) (hrun : Run leaseDir origin start w)
    (hconfirms : Confirms leaseDir origin w w')
    (hasked : w.coordinator.state = .releasing ∨ w.granted = false) :
    w'.Released leaseDir origin := by
  have horderly : w.Orderly leaseDir origin := orderly_of_run hfresh hrun
  cases hconfirms with
  | atOnce h =>
    rcases hasked with hreleasing | hnone
    · simp [Coordinator.release, hreleasing] at h
    · exact (horderly.step .release).quit hnone
  | atEnd w' hstep hreleasing hidle houtcome =>
    exact (horderly.step hstep).quit (granted_of_atEnd hstep hreleasing hidle houtcome)

def newcomer : Quittance where
  site := { folder := {} }
  coordinator := { config := { key := "env" }, identity := "a" }

theorem fresh_newcomer : newcomer.Fresh none where
  coordinator := ⟨_, _, rfl⟩
  stands := nofun
  stamped := nofun
  unknown _ := nofun

theorem unreliable_self :
    (LeaseSite.backend none (clockFrom 0)).Unreliable (LeaseSite.backend none (clockFrom 0)) :=
  fun _ _ _ => .inl ⟨rfl, rfl⟩

/-- It has led and is about to put the release call to the backend. -/
def freeing : Quittance where
  site := {
    folder := {}
    table := ({} : LeaseTable).change "env"
      (.write (.fresh "a" (Duration.ofSeconds 15) (clockFrom 0 0))) }
  coordinator := { newcomer.coordinator with
    state := .releasing
    errand := some (.freeing .sent) }
  granted := true

theorem run_freeing : Run none 0 newcomer freeing :=
  Relation.ReflTransGen.refl
    |>.tail (.acquire 0 _ rfl)
    |>.tail (.errand _ unreliable_self nofun _ _ rfl)
    |>.tail (.errand _ unreliable_self nofun _ _ rfl)
    |>.tail .release
    |>.tail (.renewer _ unreliable_self nofun true _ _ rfl)
    |>.tail (.supervisor _ rfl)
    |>.tail (.errand _ unreliable_self nofun _ _ rfl)

/-- Somebody else has been granted the lease since, and a lookup has told so. -/
def succeeded : Quittance where
  site := {
    folder := {}
    table := ({} : LeaseTable).change "env"
      (.write (.fresh "b" (Duration.ofSeconds 15) (clockFrom 0 0))) }
  coordinator := { freeing.coordinator with
    errand := some (.confirming (0 + Duration.ofSeconds 15)
      (.answered (.ok (some (.fresh "b" (Duration.ofSeconds 15) (clockFrom 0 0)))) (some 0))) }
  granted := true

theorem run_succeeded : Run none 0 newcomer succeeded := by
  have hfreed := run_freeing
    |>.tail (.errand _ unreliable_self nofun _ _ rfl)
    |>.tail (.errand _ unreliable_self nofun _ _ rfl)
  have hother : ∀ r, succeeded.site.record? none "env" = some r → r.holder ≠ "a" := by
    rintro r ⟨⟩
    decide
  exact hfreed
    |>.tail (.outside succeeded.site nofun (.inr hother))
    |>.tail (.errand _ unreliable_self nofun _ _ rfl)

theorem released_of_confirms_succeeded : ∃ w', Run none 0 newcomer succeeded ∧
    succeeded.coordinator.state = .releasing ∧ Confirms none 0 succeeded w' ∧
    w'.Released none 0 := by
  have hconfirms : Confirms none 0 succeeded _ :=
    .atEnd _ (.errand _ unreliable_self nofun _ _ rfl) rfl rfl rfl
  exact ⟨_, run_succeeded, rfl, hconfirms,
    released_of_confirms fresh_newcomer run_succeeded hconfirms (.inl rfl)⟩

def failing : LeaseBackend LeaseSite where
  call _ _ s := (⟨.error (.failed "connection refused"), some 0⟩, s)

theorem unreliable_failing : (LeaseSite.backend none (clockFrom 0)).Unreliable failing :=
  fun _ _ _ => .inr ⟨rfl, _, rfl⟩

/-- The release call fails, and the release with it; the next one returns without an error and
without a call, and the record is still there. -/
theorem not_released_after_failure : ∃ w w', Run none 0 freeing w ∧
    w.coordinator.outcome = some (.error (.backend (.failed "connection refused"))) ∧
    Confirms none 0 w w' ∧
    ∃ r, w'.record? none = some r ∧
      r.isHeldBy w'.coordinator.identity (clockFrom 0 w'.now) = true := by
  have hfailed : Run none 0 freeing _ := Relation.ReflTransGen.refl
    |>.tail (.errand _ unreliable_failing nofun _ _ rfl)
    |>.tail (.errand _ unreliable_failing nofun _ _ rfl)
  exact ⟨_, _, hfailed, rfl, .atOnce rfl, _, rfl, by decide +kernel⟩

end

end Quittance

end GoldenCapture
