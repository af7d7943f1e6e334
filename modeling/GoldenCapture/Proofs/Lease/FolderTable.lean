import GoldenCapture.Proofs.Lease.FolderCall
import GoldenCapture.Proofs.Lease.Rivalry

/-!
# Lease folders as tables

A coordinator cannot tell a folder from a table that holds what the record file of its key holds.
Whatever fails in the folder is a call that never takes effect on the table.
-/

namespace GoldenCapture

/-! ## Steps over two backends -/

section

variable {σ τ : Type} {b : LeaseBackend σ} {b' : LeaseBackend τ} {R : σ → τ → Prop} {now : Nat}
  {s s' : σ} {t : τ}

structure LeaseBackend.Alike (b : LeaseBackend σ) (b' : LeaseBackend τ) (R : σ → τ → Prop)
    (now : Nat) (s : σ) (t : τ) {α : Type} (call : LeaseCall α) : Prop where
  reply : (b.call call now s).1 = (b'.call call now t).1
  after : R (b.call call now s).2 (b'.call call now t).2

namespace Coordinator

variable {c c' : Coordinator}

theorem send_alike {α : Type} {call : LeaseCall α} (h : b.Alike b' R now s t call) :
    (send b call now s).1 = (send b' call now t).1 ∧
      R (send b call now s).2 (send b' call now t).2 := by
  obtain ⟨hreply, hafter⟩ := h
  refine ⟨?_, hafter⟩
  unfold send
  dsimp only
  rw [hreply]

theorem stepErrand_alike (hR : R s t)
    (hattempt : c.attempts = true → b.Alike b' R now s t c.tryAcquireCall)
    (hrelease : b.Alike b' R now s t c.releaseCall)
    (hholder : b.Alike b' R now s t c.holderCall)
    (h : c.stepErrand b now s = some (c', s')) :
    ∃ t', c.stepErrand b' now t = some (c', t') ∧ R s' t' := by
  obtain ⟨hrelease, hreleased⟩ := send_alike hrelease
  obtain ⟨hholder, hnamed⟩ := send_alike hholder
  have hstep := errandStep_of_stepErrand h
  cases hstep with
  | ask started timeout he =>
    have hattempts : c.attempts = true := by
      unfold attempts
      rw [he]
    obtain ⟨hsent, hattempted⟩ := send_alike (hattempt hattempts)
    refine ⟨_, ?_, hattempted⟩
    rw [stepErrand, he, hsent]
  | seeAnswer started timeout flight answer he hlanded =>
    obtain ⟨arrives, rfl, -⟩ := Flight.of_landed hlanded
    refine ⟨t, ?_, hR⟩
    simp only [stepErrand, he, hlanded, Option.map_some]
  | retry started timeout wake he hwake =>
    refine ⟨t, ?_, hR⟩
    simp only [stepErrand, he, if_pos hwake]
  | askName waited he =>
    refine ⟨_, ?_, hnamed⟩
    rw [stepErrand, he, hholder]
  | giveUp waited flight answer he hlanded =>
    obtain ⟨arrives, rfl, -⟩ := Flight.of_landed hlanded
    refine ⟨t, ?_, hR⟩
    simp only [stepErrand, he, hlanded, Option.map_some]
  | stop he hstopped =>
    refine ⟨t, ?_, hR⟩
    simp only [stepErrand, he, if_pos hstopped]
  | drop reason he =>
    refine ⟨_, ?_, hreleased⟩
    rw [stepErrand, he, hrelease]
  | seeDropped reason flight answer he hlanded =>
    obtain ⟨arrives, rfl, -⟩ := Flight.of_landed hlanded
    refine ⟨t, ?_, hR⟩
    simp only [stepErrand, he, hlanded, Option.map_some]
  | free he =>
    refine ⟨_, ?_, hreleased⟩
    rw [stepErrand, he, hrelease]
  | seeFreed flight answer he hlanded =>
    obtain ⟨arrives, rfl, -⟩ := Flight.of_landed hlanded
    refine ⟨t, ?_, hR⟩
    simp only [stepErrand, he, hlanded, Option.map_some]
  | confirm deadline he =>
    refine ⟨_, ?_, hnamed⟩
    rw [stepErrand, he, hholder]
  | seeHolder deadline flight answer he hlanded =>
    obtain ⟨arrives, rfl, -⟩ := Flight.of_landed hlanded
    refine ⟨t, ?_, hR⟩
    simp only [stepErrand, he, hlanded, Option.map_some]
  | askAgain deadline wake he hwake =>
    refine ⟨t, ?_, hR⟩
    simp only [stepErrand, he, if_pos hwake]

theorem stepRenewer_alike {stopFirst : Bool} (hR : R s t)
    (hrenewal : c.renews = true → b.Alike b' R now s t c.renewCall)
    (h : c.stepRenewer b now stopFirst s = some (c', s')) :
    ∃ t', c.stepRenewer b' now stopFirst t = some (c', t') ∧ R s' t' := by
  cases htn : c.tenure with
  | none => simp [stepRenewer, htn] at h
  | some tn =>
    cases hr : tn.renewer with
    | ended => simp [stepRenewer, htn, hr] at h
    | waiting tick =>
      simp only [stepRenewer, htn, hr] at h ⊢
      by_cases hstop : (tn.stopRequested && (stopFirst || decide (now < tick))) = true
      · rw [if_pos hstop] at h ⊢
        cases h
        exact ⟨t, rfl, hR⟩
      · rw [if_neg hstop] at h ⊢
        obtain ⟨htick, heq⟩ := Option.ite_none_right_eq_some.mp h
        cases heq
        rw [if_pos htick]
        exact ⟨t, rfl, hR⟩
    | renewing tick limit flight =>
      cases flight with
      | sent =>
        have hrenews : c.renews = true := by
          unfold renews
          rw [htn, Option.map_some, hr]
        obtain ⟨hsent, hrenewed⟩ := send_alike (hrenewal hrenews)
        simp only [stepRenewer, htn, hr, hsent] at h ⊢
        cases h
        exact ⟨_, rfl, hrenewed⟩
      | answered answer arrives =>
        simp only [stepRenewer, htn, hr] at h ⊢
        cases hlanded : (Flight.answered answer arrives).landed now with
        | some seen =>
          rw [hlanded] at h
          cases h
          exact ⟨t, rfl, hR⟩
        | none =>
          rw [hlanded] at h
          obtain ⟨hlimit, heq⟩ := Option.ite_none_right_eq_some.mp h
          cases heq
          dsimp only
          rw [if_pos hlimit]
          exact ⟨t, rfl, hR⟩

end Coordinator

end

/-! ## Folders and tables -/

/-- The folder stands, and what its record file for the key holds the table holds. A file that
cannot be read says nothing. -/
structure LeaseFolder.Agrees (f : LeaseFolder) (folder key : String) (t : LeaseTable) : Prop where
  stands : ∃ place, f.files.StandsAt folder place
  record : ∀ existing, f.readRecord (recordPath folder key) = .ok existing →
    t.get? key = existing

/-- The backend over a table whose calls fail if they fail in a folder. -/
def LeaseFolder.mirror (f : LeaseFolder) (folder : String) (clock : Nat → Timestamp) :
    LeaseBackend LeaseTable where
  call c now t :=
    match (f.call folder c (clock now)).1 with
    | ⟨.ok _, delay⟩ => (⟨.ok (t.call c (clock now)).1, delay⟩, (t.call c (clock now)).2)
    | ⟨.error error, delay⟩ => (⟨.error error, delay⟩, t)

section

variable {f : LeaseFolder} {folder key : String} {t : LeaseTable}

theorem LeaseFolder.mirror_atomic (f : LeaseFolder) (folder : String) (origin : Int) :
    (f.mirror folder (clockFrom origin)).Atomic origin := by
  intro α c now t
  unfold mirror
  dsimp only
  split
  · exact .answered _
  · exact .never _ _

theorem LeaseFolder.Agrees.call (h : f.Agrees folder key t) {α : Type} {c : LeaseCall α}
    (hkey : c.key = key) {clock : Nat → Timestamp} {now : Nat}
    (hlegible : f.Legible folder c (clock now)) :
    (f.call folder c (clock now)).1 = ((f.mirror folder clock).call c now t).1 ∧
      (f.call folder c (clock now)).2.Agrees folder key
        ((f.mirror folder clock).call c now t).2 := by
  subst hkey
  obtain ⟨place, hstands⟩ := h.stands
  obtain ⟨hstill, houtcome⟩ := call_outcome hstands hlegible
  unfold mirror
  dsimp only
  generalize f.call folder c (clock now) = called at hstill houtcome ⊢
  obtain ⟨⟨answer, delay⟩, g⟩ := called
  cases houtcome with
  | done existing hread hrecord =>
    have hget := h.record existing hread
    refine ⟨?_, ⟨place, hstill⟩, ?_⟩
    · simp only [LeaseTable.call, hget]
    · intro after hafter
      rw [LeaseTable.get?_call, if_pos rfl, hget]
      exact Except.ok.inj (hrecord.symm.trans hafter)
  | failed error hsame =>
    refine ⟨rfl, ⟨place, hstill⟩, ?_⟩
    intro after hafter
    exact h.record after ((readRecord_congr hsame).symm.trans hafter)

end

end GoldenCapture
