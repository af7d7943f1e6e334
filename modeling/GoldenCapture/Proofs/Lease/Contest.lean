import GoldenCapture.Lease.Contest
import GoldenCapture.Proofs.Lease.Steps

/-!
# What contests keep

Whatever no call to the backend changes stays as it is while time passes in a contest. A party only
puts calls about the key that it contends for.
-/

namespace GoldenCapture

variable {σ : Type} {b : LeaseBackend σ} {K : String → Prop} {P : σ → Prop}

/-- No call to the backend leaves a set of its states. -/
def LeaseBackend.Keeps (b : LeaseBackend σ) (P : σ → Prop) : Prop :=
  ∀ {α : Type} (c : LeaseCall α) (now : Nat) (s : σ), P s → P (b.call c now s).2

/-- No call about one of these keys leaves a set of the states of the backend. -/
def LeaseBackend.KeepsFor (b : LeaseBackend σ) (K : String → Prop) (P : σ → Prop) : Prop :=
  ∀ {α : Type} (c : LeaseCall α) (now : Nat) (s : σ), K c.key → P s → P (b.call c now s).2

namespace Coordinator

variable {now : Nat} {stopFirst : Bool} {c c' : Coordinator} {s s' : σ} {t : Tenure}

theorem ErrandStep.keeps (hb : b.KeepsFor K P) (hc : K c.config.key)
    (h : ErrandStep b now c s c' s') (hs : P s) : P s' := by
  cases h with
  | ask => exact hb _ now s hc hs
  | askName => exact hb _ now s hc hs
  | drop => exact hb _ now s hc hs
  | free => exact hb _ now s hc hs
  | confirm => exact hb _ now s hc hs
  | _ => exact hs

theorem RenewerStep.keeps (hb : b.KeepsFor K P) (hc : K c.config.key)
    (h : RenewerStep b now c t s c' s') (hs : P s) : P s' := by
  cases h with
  | renew => exact hb _ now s hc hs
  | _ => exact hs

theorem step_keeps (hb : b.KeepsFor K P) (hc : K c.config.key)
    (h : c.step b now stopFirst s = some (c', s')) (hs : P s) : K c'.config.key ∧ P s' := by
  unfold step at h
  split at h
  · rename_i hstep
    cases h
    have herrand := errandStep_of_stepErrand hstep
    exact ⟨by rw [herrand.same.config]; exact hc, herrand.keeps hb hc hs⟩
  · split at h
    · rename_i hstep
      cases h
      obtain ⟨t, -, hrenewer⟩ := renewerStep_of_stepRenewer hstep
      exact ⟨by rw [hrenewer.same.config]; exact hc, hrenewer.keeps hb hc hs⟩
    · obtain ⟨c'', hstep, heq⟩ := Option.map_eq_some_iff.mp h
      cases heq
      obtain ⟨t, -, -, hsupervisor⟩ := supervisorStep_of_stepSupervisor hstep
      exact ⟨by rw [hsupervisor.same.config]; exact hc, hs⟩

end Coordinator

namespace Contest

/-- Every party contends for one of these keys, and the backend is in a set of its states. -/
structure Within (K : String → Prop) (P : σ → Prop) (w : Contest σ) : Prop where
  keys : ∀ c ∈ w.parties, K c.config.key
  backend : P w.backend

variable {w w' : Contest σ}

theorem stepAny_keeps (hb : b.KeepsFor K P) {now : Nat} {stopFirst : Bool}
    {parties parties' : List Coordinator} {s s' : σ}
    (h : stepAny b now stopFirst s parties = some (parties', s'))
    (hparties : ∀ c ∈ parties, K c.config.key) (hs : P s) :
    (∀ c ∈ parties', K c.config.key) ∧ P s' := by
  induction parties generalizing parties' with
  | nil => contradiction
  | cons c rest ih =>
    rw [List.forall_mem_cons] at hparties
    unfold stepAny at h
    split at h
    · rename_i hstep
      cases h
      obtain ⟨hkey, hkept⟩ := Coordinator.step_keeps hb hparties.1 hstep hs
      exact ⟨List.forall_mem_cons.mpr ⟨hkey, hparties.2⟩, hkept⟩
    · obtain ⟨⟨rest', s''⟩, hrest, heq⟩ := Option.map_eq_some_iff.mp h
      cases heq
      obtain ⟨hkeys, hkept⟩ := ih hrest hparties.2
      exact ⟨List.forall_mem_cons.mpr ⟨hparties.1, hkeys⟩, hkept⟩

theorem Within.step (hb : b.KeepsFor K P) (hw : w.Within K P) (h : w.step b = some w') :
    w'.Within K P := by
  obtain ⟨⟨parties, backend⟩, hstep, rfl⟩ := Option.map_eq_some_iff.mp h
  obtain ⟨hkeys, hbackend⟩ := stepAny_keeps hb hstep hw.keys hw.backend
  exact ⟨hkeys, hbackend⟩

theorem Within.setNow (hw : w.Within K P) (now : Nat) : { w with now }.Within K P :=
  ⟨hw.keys, hw.backend⟩

theorem Within.run (hb : b.KeepsFor K P) (hw : w.Within K P) (done : Contest σ → Bool)
    (horizon : Option Nat) (steps : Nat) : (w.run b done horizon steps).Within K P := by
  induction steps generalizing w with
  | zero => exact hw
  | succ steps ih =>
    unfold Contest.run
    split
    · exact hw
    · split
      · rename_i hstep
        exact ih (hw.step hb hstep)
      · split
        · exact hw
        · exact ih (hw.setNow _)
        · split
          · exact ih (hw.setNow _)
          · exact hw

theorem Within.sleepUntil (hb : b.KeepsFor K P) (hw : w.Within K P) (t : Nat) :
    (w.sleepUntil b t).Within K P :=
  (hw.run hb _ _ _).setNow _

theorem sleepUntil_keeps (hb : b.Keeps P) (t : Nat) (hw : P w.backend) :
    P (w.sleepUntil b t).backend := by
  have hall : w.Within (fun _ => True) P := ⟨fun _ _ => trivial, hw⟩
  exact (hall.sleepUntil (fun c now s _ hs => hb c now s hs) t).backend

/-! ## Errands -/

theorem Within.setParty (hw : w.Within K P) (i : Nat) {c : Coordinator} (hc : K c.config.key) :
    (w.setParty i c).Within K P := by
  refine ⟨fun other hother => ?_, hw.backend⟩
  rcases List.mem_or_eq_of_mem_set hother with hother | rfl
  · exact hw.keys other hother
  · exact hc

theorem Within.acquire (hb : b.KeepsFor K P) (hw : w.Within K P) (i timeout : Nat) :
    (w.acquire b i timeout).2.Within K P := by
  have hstarted : ∀ {w'}, w.startAcquire b i timeout = .ok w' → w'.Within K P := by
    intro w' h
    unfold startAcquire at h
    split at h
    · cases h
      exact hw
    · rename_i c hparty
      cases hacquire : c.acquire w.now timeout with
      | error error =>
        rw [hacquire] at h
        contradiction
      | ok c' =>
        rw [hacquire] at h
        cases h
        refine Within.sleepUntil hb (hw.setParty i ?_) _
        rw [(Coordinator.same_of_acquire hacquire).config]
        exact hw.keys c (List.mem_of_getElem? hparty)
  unfold Contest.acquire
  split
  · exact hw
  · rename_i w' hstart
    exact (hstarted hstart).run hb _ _ _

theorem Within.release (hb : b.KeepsFor K P) (hw : w.Within K P) (i : Nat) :
    (w.release b i).2.Within K P := by
  have hstarted : (w.startRelease b i).2.Within K P := by
    unfold startRelease
    split
    · exact hw
    · rename_i c hparty
      refine Within.sleepUntil hb (hw.setParty i ?_) _
      rw [Coordinator.same_release.config]
      exact hw.keys c (List.mem_of_getElem? hparty)
  unfold Contest.release
  split
  · rename_i hstart
    rw [hstart] at hstarted
    exact hstarted
  · rename_i hstart
    rw [hstart] at hstarted
    exact hstarted.run hb _ _ _

end Contest

end GoldenCapture
