import GoldenCapture.Lease.Coordinator

/-!
# The steps of a coordinator, one by one

What a step of the errand, of the renewer and of the supervisor can be, with what it waits for and
what it leaves. Statements about runs go through these cases and never through the step functions.
-/

namespace GoldenCapture

theorem Flight.of_landed {α : Type} {f : Flight α} {now : Nat} {answer : Except BackendError α}
    (h : f.landed now = some answer) :
    ∃ arrives, f = .answered answer (some arrives) ∧ arrives ≤ now := by
  match f with
  | .sent => contradiction
  | .answered a none => contradiction
  | .answered a (some arrives) =>
    simp only [landed, Option.ite_none_right_eq_some, Option.some.injEq] at h
    obtain ⟨harrives, rfl⟩ := h
    exact ⟨arrives, rfl, harrives⟩

namespace Coordinator

variable {σ : Type}

/-! ## The errand -/

inductive ErrandStep (b : LeaseBackend σ) (now : Nat) (c : Coordinator) (s : σ) :
    Coordinator → σ → Prop
  | ask (started timeout : Nat) (h : c.errand = some (.trying started timeout .sent)) :
      ErrandStep b now c s
        { c with errand := some (.trying started timeout (send b c.tryAcquireCall now s).1) }
        (send b c.tryAcquireCall now s).2
  | seeAnswer (started timeout : Nat) (flight : Flight Bool) (answer : Except BackendError Bool)
      (h : c.errand = some (.trying started timeout flight))
      (hlanded : flight.landed now = some answer) :
      ErrandStep b now c s (c.afterAttempt now started timeout answer) s
  | retry (started timeout wake : Nat) (h : c.errand = some (.resting started timeout wake))
      (hwake : wake ≤ now) :
      ErrandStep b now c s { c with errand := some (.trying started timeout .sent) } s
  | askName (waited : Nat) (h : c.errand = some (.naming waited .sent)) :
      ErrandStep b now c s
        { c with errand := some (.naming waited (send b c.holderCall now s).1) }
        (send b c.holderCall now s).2
  | giveUp (waited : Nat) (flight : Flight (Option LeaseRecord))
      (answer : Except BackendError (Option LeaseRecord))
      (h : c.errand = some (.naming waited flight)) (hlanded : flight.landed now = some answer) :
      ErrandStep b now c s (c.giveUp waited answer) s
  | stop (h : c.errand = some .stopping) (hstopped : c.stopped = true) :
      ErrandStep b now c s c.afterStop s
  | drop (reason : LossReason) (h : c.errand = some (.dropping reason .sent)) :
      ErrandStep b now c s
        { c with errand := some (.dropping reason (send b c.releaseCall now s).1) }
        (send b c.releaseCall now s).2
  | seeDropped (reason : LossReason) (flight : Flight Unit) (answer : Except BackendError Unit)
      (h : c.errand = some (.dropping reason flight)) (hlanded : flight.landed now = some answer) :
      ErrandStep b now c s (c.endRelease (.error (.leadershipLost c.config.key reason))) s
  | free (h : c.errand = some (.freeing .sent)) :
      ErrandStep b now c s { c with errand := some (.freeing (send b c.releaseCall now s).1) }
        (send b c.releaseCall now s).2
  | seeFreed (flight : Flight Unit) (answer : Except BackendError Unit)
      (h : c.errand = some (.freeing flight)) (hlanded : flight.landed now = some answer) :
      ErrandStep b now c s (c.afterFreeing now answer) s
  | confirm (deadline : Nat) (h : c.errand = some (.confirming deadline .sent)) :
      ErrandStep b now c s
        { c with errand := some (.confirming deadline (send b c.holderCall now s).1) }
        (send b c.holderCall now s).2
  | seeHolder (deadline : Nat) (flight : Flight (Option LeaseRecord))
      (answer : Except BackendError (Option LeaseRecord))
      (h : c.errand = some (.confirming deadline flight))
      (hlanded : flight.landed now = some answer) :
      ErrandStep b now c s (c.afterConfirmation now deadline answer) s
  | askAgain (deadline wake : Nat) (h : c.errand = some (.lingering deadline wake))
      (hwake : wake ≤ now) :
      ErrandStep b now c s { c with errand := some (.confirming deadline .sent) } s

theorem errandStep_of_stepErrand {b : LeaseBackend σ} {now : Nat} {c c' : Coordinator} {s s' : σ}
    (h : c.stepErrand b now s = some (c', s')) : ErrandStep b now c s c' s' := by
  cases he : c.errand with
  | none => simp [stepErrand, he] at h
  | some errand =>
    cases errand with
    | trying started timeout flight =>
      cases flight with
      | sent =>
        simp only [stepErrand, he, Option.some.injEq, Prod.mk.injEq] at h
        obtain ⟨rfl, rfl⟩ := h
        exact .ask started timeout he
      | answered a arrives =>
        simp only [stepErrand, he, Option.map_eq_some_iff, Prod.mk.injEq] at h
        obtain ⟨answer, hl, rfl, rfl⟩ := h
        exact .seeAnswer started timeout _ answer he hl
    | resting started timeout wake =>
      simp only [stepErrand, he, Option.ite_none_right_eq_some, Option.some.injEq,
        Prod.mk.injEq] at h
      obtain ⟨hwake, rfl, rfl⟩ := h
      exact .retry started timeout wake he hwake
    | naming waited flight =>
      cases flight with
      | sent =>
        simp only [stepErrand, he, Option.some.injEq, Prod.mk.injEq] at h
        obtain ⟨rfl, rfl⟩ := h
        exact .askName waited he
      | answered a arrives =>
        simp only [stepErrand, he, Option.map_eq_some_iff, Prod.mk.injEq] at h
        obtain ⟨answer, hl, rfl, rfl⟩ := h
        exact .giveUp waited _ answer he hl
    | stopping =>
      simp only [stepErrand, he, Option.ite_none_right_eq_some, Option.some.injEq,
        Prod.mk.injEq] at h
      obtain ⟨hstopped, rfl, rfl⟩ := h
      exact .stop he hstopped
    | dropping reason flight =>
      cases flight with
      | sent =>
        simp only [stepErrand, he, Option.some.injEq, Prod.mk.injEq] at h
        obtain ⟨rfl, rfl⟩ := h
        exact .drop reason he
      | answered a arrives =>
        simp only [stepErrand, he, Option.map_eq_some_iff, Prod.mk.injEq] at h
        obtain ⟨answer, hl, rfl, rfl⟩ := h
        exact .seeDropped reason _ answer he hl
    | freeing flight =>
      cases flight with
      | sent =>
        simp only [stepErrand, he, Option.some.injEq, Prod.mk.injEq] at h
        obtain ⟨rfl, rfl⟩ := h
        exact .free he
      | answered a arrives =>
        simp only [stepErrand, he, Option.map_eq_some_iff, Prod.mk.injEq] at h
        obtain ⟨answer, hl, rfl, rfl⟩ := h
        exact .seeFreed _ answer he hl
    | confirming deadline flight =>
      cases flight with
      | sent =>
        simp only [stepErrand, he, Option.some.injEq, Prod.mk.injEq] at h
        obtain ⟨rfl, rfl⟩ := h
        exact .confirm deadline he
      | answered a arrives =>
        simp only [stepErrand, he, Option.map_eq_some_iff, Prod.mk.injEq] at h
        obtain ⟨answer, hl, rfl, rfl⟩ := h
        exact .seeHolder deadline _ answer he hl
    | lingering deadline wake =>
      simp only [stepErrand, he, Option.ite_none_right_eq_some, Option.some.injEq,
        Prod.mk.injEq] at h
      obtain ⟨hwake, rfl, rfl⟩ := h
      exact .askAgain deadline wake he hwake

/-! ## The renewer -/

def withRenewer (c : Coordinator) (t : Tenure) (renewer : Renewer) : Coordinator :=
  { c with tenure := some { t with renewer } }

inductive RenewerStep (b : LeaseBackend σ) (now : Nat) (c : Coordinator) (t : Tenure) (s : σ) :
    Coordinator → σ → Prop
  | stop (tick : Nat) (h : t.renewer = .waiting tick) (hstop : t.stopRequested = true) :
      RenewerStep b now c t s (c.endRenewals none) s
  | tick (tick : Nat) (h : t.renewer = .waiting tick) (htick : tick ≤ now) :
      RenewerStep b now c t s
        (c.withRenewer t
          (.renewing (tick + c.config.retryPeriod) (now + c.config.retryPeriod) .sent)) s
  | renew (tick limit : Nat) (h : t.renewer = .renewing tick limit .sent) :
      RenewerStep b now c t s
        (c.withRenewer t (.renewing tick limit (send b c.renewCall now s).1))
        (send b c.renewCall now s).2
  | seeAnswer (tick limit : Nat) (flight : Flight Bool) (answer : Except BackendError Bool)
      (h : t.renewer = .renewing tick limit flight) (hlanded : flight.landed now = some answer) :
      RenewerStep b now c t s (c.afterRenewal now tick (some answer)) s
  | cutOff (tick limit : Nat) (flight : Flight Bool) (h : t.renewer = .renewing tick limit flight)
      (hlanded : flight.landed now = none) (hlimit : limit ≤ now) :
      RenewerStep b now c t s (c.afterRenewal now tick none) s

theorem renewerStep_of_stepRenewer {b : LeaseBackend σ} {now : Nat} {stopFirst : Bool}
    {c c' : Coordinator} {s s' : σ} (h : c.stepRenewer b now stopFirst s = some (c', s')) :
    ∃ t, c.tenure = some t ∧ RenewerStep b now c t s c' s' := by
  cases ht : c.tenure with
  | none => simp [stepRenewer, ht] at h
  | some t =>
    refine ⟨t, rfl, ?_⟩
    cases hr : t.renewer with
    | ended => simp [stepRenewer, ht, hr] at h
    | waiting tick =>
      simp only [stepRenewer, ht, hr] at h
      split at h
      · rename_i hstop
        simp only [Option.some.injEq, Prod.mk.injEq] at h
        obtain ⟨rfl, rfl⟩ := h
        exact .stop tick hr (Bool.and_eq_true_iff.mp hstop).1
      · simp only [Option.ite_none_right_eq_some, Option.some.injEq, Prod.mk.injEq] at h
        obtain ⟨htick, rfl, rfl⟩ := h
        exact .tick tick hr htick
    | renewing tick limit flight =>
      cases flight with
      | sent =>
        simp only [stepRenewer, ht, hr, Option.some.injEq, Prod.mk.injEq] at h
        obtain ⟨rfl, rfl⟩ := h
        exact .renew tick limit hr
      | answered a arrives =>
        simp only [stepRenewer, ht, hr] at h
        split at h
        · rename_i answer hl
          simp only [Option.some.injEq, Prod.mk.injEq] at h
          obtain ⟨rfl, rfl⟩ := h
          exact .seeAnswer tick limit _ answer hr hl
        · rename_i hl
          simp only [Option.ite_none_right_eq_some, Option.some.injEq, Prod.mk.injEq] at h
          obtain ⟨hlimit, rfl, rfl⟩ := h
          exact .cutOff tick limit _ hr hl hlimit

/-! ## The supervisor -/

inductive SupervisorStep (c : Coordinator) (t : Tenure) : Coordinator → Prop
  | learn (reason : LossReason) (h : t.report = some reason) :
      SupervisorStep c t (c.learnLoss reason)
  | leave (h : t.report = none) (hended : t.renewer = .ended) :
      SupervisorStep c t { c with tenure := some { t with watched := false } }

theorem supervisorStep_of_stepSupervisor {c c' : Coordinator} (h : c.stepSupervisor = some c') :
    ∃ t, c.tenure = some t ∧ t.watched = true ∧ SupervisorStep c t c' := by
  cases ht : c.tenure with
  | none => simp [stepSupervisor, ht] at h
  | some t =>
    simp only [stepSupervisor, ht, Option.ite_none_right_eq_some] at h
    obtain ⟨hwatched, h⟩ := h
    refine ⟨t, rfl, hwatched, ?_⟩
    split at h
    · rename_i reason hreport
      simp only [Option.some.injEq] at h
      subst h
      exact .learn reason hreport
    · rename_i hreport hended
      simp only [Option.some.injEq] at h
      subst h
      exact .leave hreport hended
    · contradiction

/-! ## After an answer -/

section

variable (c : Coordinator) (now started timeout tick : Nat)

theorem afterAttempt_cases (answer : Except BackendError Bool) :
    (answer = .ok true ∧ c.afterAttempt now started timeout answer = c.lead now) ∨
    (answer ≠ .ok true ∧
      ((∃ waited, c.afterAttempt now started timeout answer =
        { c with errand := some (.naming waited .sent) }) ∨
      (∃ wake, c.afterAttempt now started timeout answer =
        { c with errand := some (.resting started timeout wake) }))) := by
  unfold afterAttempt
  split
  · exact .inl ⟨rfl, rfl⟩
  · rename_i h
    refine .inr ⟨fun heq => h heq, ?_⟩
    dsimp only
    split
    · exact .inl ⟨_, rfl⟩
    · exact .inr ⟨_, rfl⟩

/-- When the last success was seen, after the answer to a renewal. -/
def lastSuccess : Option (Except BackendError Bool) → Nat
  | some (.ok true) => now
  | _ => c.lastRenewed

theorem afterRenewal_cases (answer : Option (Except BackendError Bool)) :
    (answer = some (.ok false) ∧
      c.afterRenewal now tick answer = c.endRenewals (some .refused)) ∨
    (answer ≠ some (.ok false) ∧ c.config.renewDeadline ≤ now - c.lastSuccess now answer ∧
      c.afterRenewal now tick answer =
        { c with lastRenewed := c.lastSuccess now answer }.endRenewals
          (some (.noRenewalWithin c.config.renewDeadline))) ∨
    (answer ≠ some (.ok false) ∧ now - c.lastSuccess now answer < c.config.renewDeadline ∧
      c.afterRenewal now tick answer =
        { c with
          lastRenewed := c.lastSuccess now answer
          tenure := c.tenure.map fun t => { t with renewer := .waiting tick } }) := by
  have hlate : ∀ (a : Option (Except BackendError Bool)), a ≠ some (.ok false) →
      c.afterRenewal now tick a =
        if c.config.renewDeadline ≤ now - c.lastSuccess now a then
          { c with lastRenewed := c.lastSuccess now a }.endRenewals
            (some (.noRenewalWithin c.config.renewDeadline))
        else
          { c with
            lastRenewed := c.lastSuccess now a
            tenure := c.tenure.map fun t => { t with renewer := .waiting tick } } := by
    intro a ha
    match a with
    | some (.ok false) => exact absurd rfl ha
    | some (.ok true) => rfl
    | some (.error _) => rfl
    | none => rfl
  by_cases hrefused : answer = some (.ok false)
  · subst hrefused
    exact .inl ⟨rfl, rfl⟩
  · rw [hlate answer hrefused]
    by_cases hdeadline : c.config.renewDeadline ≤ now - c.lastSuccess now answer
    · exact .inr (.inl ⟨hrefused, hdeadline, if_pos hdeadline⟩)
    · exact .inr (.inr ⟨hrefused, by omega, if_neg hdeadline⟩)

theorem afterConfirmation_cases (deadline : Nat)
    (answer : Except BackendError (Option LeaseRecord)) :
    (∃ error, answer = .error error ∧
      c.afterConfirmation now deadline answer = c.endRelease (.error (.backend error))) ∨
    ((∀ r, answer = .ok (some r) → r.holder ≠ c.identity) ∧ (∃ r?, answer = .ok r?) ∧
      c.afterConfirmation now deadline answer = c.endRelease (.ok ())) ∨
    (∃ r, answer = .ok (some r) ∧ r.holder = c.identity ∧ deadline ≤ now ∧
      c.afterConfirmation now deadline answer =
        c.endRelease (.error (.releaseUnconfirmed c.config.key r.holder))) ∨
    (∃ r, answer = .ok (some r) ∧ r.holder = c.identity ∧ now < deadline ∧
      c.afterConfirmation now deadline answer =
        { c with errand := some (.lingering deadline (now + c.config.retryPeriod)) }) := by
  match answer with
  | .error error => exact .inl ⟨error, rfl, rfl⟩
  | .ok none => exact .inr (.inl ⟨by simp, ⟨none, rfl⟩, rfl⟩)
  | .ok (some r) =>
    simp only [afterConfirmation]
    by_cases hholder : r.holder = c.identity
    · by_cases hdeadline : deadline ≤ now
      · exact .inr (.inr (.inl ⟨r, rfl, hholder, hdeadline, by simp [hholder, hdeadline]⟩))
      · exact .inr (.inr (.inr ⟨r, rfl, hholder, by omega, by simp [hholder, hdeadline]⟩))
    · refine .inr (.inl ⟨?_, ⟨_, rfl⟩, if_neg hholder⟩)
      rintro _ ⟨⟩
      exact hholder

end

/-! ## What no step changes -/

/-- Two stages of one coordinator. Its settings and its name are for good. -/
structure Same (c c' : Coordinator) : Prop where
  config : c'.config = c.config
  identity : c'.identity = c.identity

section

variable {c c' : Coordinator} {now : Nat}

theorem same_of_acquire {timeout : Nat} (h : c.acquire now timeout = .ok c') : Same c c' := by
  unfold acquire at h
  split at h
  · simp only [Except.ok.injEq] at h
    subst h
    exact ⟨rfl, rfl⟩
  · contradiction

theorem same_release : Same c c.release.1 := by
  unfold release
  split <;> exact ⟨rfl, rfl⟩

theorem same_cancel : Same c c.cancel := ⟨rfl, rfl⟩

theorem same_afterAttempt {started timeout : Nat} {answer : Except BackendError Bool} :
    Same c (c.afterAttempt now started timeout answer) := by
  rcases afterAttempt_cases c now started timeout answer with
    ⟨-, h⟩ | ⟨-, ⟨_, h⟩ | ⟨_, h⟩⟩ <;> rw [h] <;> exact ⟨rfl, rfl⟩

theorem same_afterRenewal {tick : Nat} {answer : Option (Except BackendError Bool)} :
    Same c (c.afterRenewal now tick answer) := by
  rcases afterRenewal_cases c now tick answer with
    ⟨-, h⟩ | ⟨-, -, h⟩ | ⟨-, -, h⟩ <;> rw [h] <;> exact ⟨rfl, rfl⟩

theorem same_afterConfirmation {deadline : Nat}
    {answer : Except BackendError (Option LeaseRecord)} :
    Same c (c.afterConfirmation now deadline answer) := by
  rcases afterConfirmation_cases c now deadline answer with
    ⟨_, -, h⟩ | ⟨-, -, h⟩ | ⟨_, -, -, -, h⟩ | ⟨_, -, -, -, h⟩ <;> rw [h] <;> exact ⟨rfl, rfl⟩

variable {b : LeaseBackend σ} {s s' : σ} {t : Tenure}

theorem ErrandStep.same (h : ErrandStep b now c s c' s') : Same c c' := by
  cases h with
  | seeAnswer => exact same_afterAttempt
  | seeHolder => exact same_afterConfirmation
  | seeFreed flight answer => cases answer <;> exact ⟨rfl, rfl⟩
  | _ => exact ⟨rfl, rfl⟩

theorem RenewerStep.same (h : RenewerStep b now c t s c' s') : Same c c' := by
  cases h with
  | seeAnswer => exact same_afterRenewal
  | cutOff => exact same_afterRenewal
  | _ => exact ⟨rfl, rfl⟩

theorem SupervisorStep.same (h : SupervisorStep c t c') : Same c c' := by
  cases h <;> exact ⟨rfl, rfl⟩

end

end Coordinator

end GoldenCapture
