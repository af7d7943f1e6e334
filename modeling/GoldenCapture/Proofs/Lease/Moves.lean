import GoldenCapture.Proofs.Lease.Chronicle

/-!
# Moves of a coordinator

What a step comes to together with what happens at it. A step of the errand goes on, leads or ends;
a step of the renewer changes its tenure and nothing else but the instant of the last success.
-/

namespace GoldenCapture

open TenureEvent

namespace Coordinator

variable {b : LeaseBackend Unit} {now n : Nat} {c c' : Coordinator} {s s' : Unit} {t : Tenure}
  {events : List TenureEvent}

/-! ## The errand -/

inductive ErrandMove (now n : Nat) (c : Coordinator) : Coordinator → List TenureEvent → Prop
  | goOn (e e' : Errand) (he : c.errand = some e)
      (hasked : ∀ started timeout answer arrives,
        e' ≠ .trying started timeout (.answered answer arrives))
      (hdropping : ∀ reason flight, e' = .dropping reason flight →
        ∃ flight', e = .dropping reason flight') :
      ErrandMove now n c { c with errand := some e' } []
  | ask (started timeout : Nat) (answer : Except BackendError Bool) (arrives : Option Nat)
      (he : c.errand = some (.trying started timeout .sent)) :
      ErrandMove now n c
        { c with errand := some (.trying started timeout (.answered answer arrives)) }
        [.attempted answer]
  | lead (started timeout : Nat) (arrives : Option Nat)
      (he : c.errand = some (.trying started timeout (.answered (.ok true) arrives))) :
      ErrandMove now n c (c.lead now) [.led n now]
  | giveUp (outcome : Except LeaseError Unit) (hstate : c.state = .acquiring) :
      ErrandMove now n c { c.finish outcome with state := .idle } []
  | stop (he : c.errand = some .stopping) (hstopped : c.stopped = true) :
      ErrandMove now n c c.afterStop []
  | drop (reason : LossReason) (flight : Flight Unit)
      (he : c.errand = some (.dropping reason flight)) :
      ErrandMove now n c (c.endRelease (.error (.leadershipLost c.config.key reason))) []
  | free (outcome : Except LeaseError Unit) (hstate : c.state = .releasing)
      (hlost : c.lost = none) : ErrandMove now n c (c.endRelease outcome) []

theorem ErrandStep.move (h : Attentive c false) (hstep : c.ErrandStep b now s c' s') :
    ErrandMove now n c c' (c.errandEvents b now n) := by
  have hquiet : (∀ started timeout flight, c.errand ≠ some (.trying started timeout flight)) →
      c.errandEvents b now n = [] := by
    intro hother
    unfold errandEvents
    split
    · rename_i started timeout he
      exact absurd he (hother started timeout .sent)
    · rename_i started timeout flight _ he
      exact absurd he (hother started timeout flight)
    · rfl
  cases hstep with
  | ask started timeout he =>
    unfold errandEvents
    rw [he]
    exact .ask started timeout _ _ he
  | seeAnswer started timeout flight answer he hlanded =>
    have hstate : c.state = .acquiring := (h.errand _ he).2
    obtain ⟨arrives, rfl, -⟩ := Flight.of_landed hlanded
    unfold errandEvents
    rw [he]
    dsimp only
    rw [hlanded]
    rcases afterAttempt_cases c now started timeout answer with
      ⟨rfl, hafter⟩ | ⟨hrefused, ⟨waited, hafter⟩ | ⟨wake, hafter⟩⟩
    · rw [hafter]
      exact .lead started timeout _ he
    · rw [hafter]
      split
      · rename_i heq
        exact absurd (Option.some.inj heq) hrefused
      · exact .goOn _ _ he (by simp) (by simp)
    · rw [hafter]
      split
      · rename_i heq
        exact absurd (Option.some.inj heq) hrefused
      · exact .goOn _ _ he (by simp) (by simp)
  | retry started timeout wake he hwake =>
    rw [hquiet (by simp [he])]
    exact .goOn _ _ he (by simp) (by simp)
  | askName waited he =>
    rw [hquiet (by simp [he])]
    exact .goOn _ _ he (by simp) (by simp)
  | giveUp waited flight answer he hlanded =>
    rw [hquiet (by simp [he])]
    exact .giveUp _ (h.errand _ he).2
  | stop he hstopped =>
    rw [hquiet (by simp [he])]
    exact .stop he hstopped
  | drop reason he =>
    rw [hquiet (by simp [he])]
    refine .goOn _ _ he (by simp) ?_
    rintro reason' flight ⟨⟩
    exact ⟨_, rfl⟩
  | seeDropped reason flight answer he hlanded =>
    rw [hquiet (by simp [he])]
    exact .drop reason flight he
  | free he =>
    rw [hquiet (by simp [he])]
    exact .goOn _ _ he (by simp) (by simp)
  | seeFreed flight answer he hlanded =>
    obtain ⟨hstate, -, hlost⟩ := (h.errand _ he).2
    rw [hquiet (by simp [he])]
    cases answer with
    | error error => exact .free _ hstate hlost
    | ok => exact .goOn _ _ he (by simp) (by simp)
  | confirm deadline he =>
    rw [hquiet (by simp [he])]
    exact .goOn _ _ he (by simp) (by simp)
  | seeHolder deadline flight answer he hlanded =>
    obtain ⟨hstate, -, hlost⟩ := (h.errand _ he).2
    rw [hquiet (by simp [he])]
    rcases afterConfirmation_cases c now deadline answer with
      ⟨_, -, hafter⟩ | ⟨-, -, hafter⟩ | ⟨_, -, -, -, hafter⟩ | ⟨_, -, -, -, hafter⟩
    · rw [hafter]
      exact .free _ hstate hlost
    · rw [hafter]
      exact .free _ hstate hlost
    · rw [hafter]
      exact .free _ hstate hlost
    · rw [hafter]
      exact .goOn _ _ he (by simp) (by simp)
  | askAgain deadline wake he hwake =>
    rw [hquiet (by simp [he])]
    exact .goOn _ _ he (by simp) (by simp)

/-! ## The renewer -/

structure RenewerMove (now n : Nat) (c : Coordinator) (t : Tenure) (c' : Coordinator)
    (events : List TenureEvent) (last : Nat) (t' : Tenure) : Prop where
  eq : c' = { c with lastRenewed := last, tenure := some t' }
  running : t.renewer ≠ .ended
  watched : t'.watched = t.watched
  ended : t'.report ≠ none → t'.renewer = .ended
  asked : ∀ tick limit answer arrives,
    t'.renewer = .renewing tick limit (.answered answer arrives) → events = [.renewal n answer]
  report : ∀ reason, t'.report = some reason →
    (∃ tick limit arrives, t.renewer = .renewing tick limit (.answered (.ok false) arrives)) ∨
      c.config.renewDeadline ≤ now - last
  success : (events = [.renewed n now] ∧ last = now) ∨
    ((events = [] ∨ ∃ answer, events = [.renewal n answer]) ∧ last = c.lastRenewed)

theorem renewerMove_waiting {tick : Nat} (hr : t.renewer = .waiting tick)
    (hquiet : t.report = none) {renewer : Renewer}
    (hasked : ∀ tick limit answer arrives,
      renewer ≠ .renewing tick limit (.answered answer arrives)) :
    RenewerMove now n c t (c.withRenewer t renewer) [] c.lastRenewed { t with renewer } where
  eq := rfl
  running := by simp [hr]
  watched := rfl
  ended hreport := absurd hquiet hreport
  asked tick limit answer arrives h := absurd h (hasked tick limit answer arrives)
  report reason h := by simp [hquiet] at h
  success := .inr ⟨.inl rfl, rfl⟩

theorem renewerMove_afterRenewal (ht : c.tenure = some t) (hquiet : t.report = none)
    (hrunning : t.renewer ≠ .ended) {answer : Option (Except BackendError Bool)} {tick : Nat}
    (hrefused : answer = some (.ok false) → ∃ tick limit arrives,
      t.renewer = .renewing tick limit (.answered (.ok false) arrives))
    (hevents : (events = [.renewed n now] ∧ answer = some (.ok true)) ∨
      ((events = [] ∨ ∃ answer, events = [.renewal n answer]) ∧ answer ≠ some (.ok true))) :
    ∃ last t', RenewerMove now n c t (c.afterRenewal now tick answer) events last t' := by
  have hlast : (events = [.renewed n now] ∧ c.lastSuccess now answer = now) ∨
      ((events = [] ∨ ∃ answer, events = [.renewal n answer]) ∧
        c.lastSuccess now answer = c.lastRenewed) := by
    rcases hevents with ⟨hevents, rfl⟩ | ⟨hevents, hfailed⟩
    · exact .inl ⟨hevents, rfl⟩
    · refine .inr ⟨hevents, ?_⟩
      unfold lastSuccess
      split
      · contradiction
      · rfl
  rcases afterRenewal_cases c now tick answer with ⟨hanswer, hc⟩ | ⟨-, hold, hc⟩ | ⟨-, -, hc⟩
  · rw [hc, endRenewals, ht]
    have hquietly : events = [] ∨ ∃ answer, events = [.renewal n answer] := by
      rcases hevents with ⟨-, htrue⟩ | ⟨hquietly, -⟩
      · simp [hanswer] at htrue
      · exact hquietly
    exact ⟨c.lastRenewed, _, {
      eq := rfl
      running := hrunning
      watched := rfl
      ended := fun _ => rfl
      asked := fun _ _ _ _ h => by contradiction
      report := fun _ _ => .inl (hrefused hanswer)
      success := .inr ⟨hquietly, rfl⟩ }⟩
  · rw [hc, endRenewals, ht]
    exact ⟨c.lastSuccess now answer, _, {
      eq := rfl
      running := hrunning
      watched := rfl
      ended := fun _ => rfl
      asked := fun _ _ _ _ h => by contradiction
      report := fun _ _ => .inr hold
      success := hlast }⟩
  · rw [hc, ht]
    exact ⟨c.lastSuccess now answer, _, {
      eq := rfl
      running := hrunning
      watched := rfl
      ended := fun h => absurd hquiet h
      asked := fun _ _ _ _ h => by contradiction
      report := fun _ h => by simp [hquiet] at h
      success := hlast }⟩

theorem RenewerStep.move (ht : c.tenure = some t) (hquiet : t.report = none)
    (hstep : c.RenewerStep b now t s c' s') :
    ∃ last t', RenewerMove now n c t c' (c.renewerEvents b now n t) last t' := by
  have hrunning := hstep.running
  unfold renewerEvents
  cases hstep with
  | stop tick hr hstop =>
    rw [hr, endRenewals, ht]
    exact ⟨c.lastRenewed, _, {
      eq := rfl
      running := hrunning
      watched := rfl
      ended := fun _ => rfl
      asked := fun _ _ _ _ h => by contradiction
      report := fun _ h => by contradiction
      success := .inr ⟨.inl rfl, rfl⟩ }⟩
  | tick tick hr htick =>
    rw [hr]
    exact ⟨_, _, renewerMove_waiting hr hquiet (by simp)⟩
  | renew tick limit hr =>
    rw [hr]
    exact ⟨c.lastRenewed, _, {
      eq := rfl
      running := hrunning
      watched := rfl
      ended := fun h => absurd hquiet h
      asked := by
        rintro _ _ _ _ ⟨⟩
        rfl
      report := fun _ h => by simp [hquiet] at h
      success := .inr ⟨.inr ⟨_, rfl⟩, rfl⟩ }⟩
  | seeAnswer tick limit flight answer hr hlanded =>
    obtain ⟨arrives, rfl, -⟩ := Flight.of_landed hlanded
    rw [hr]
    dsimp only
    rw [hlanded]
    refine renewerMove_afterRenewal ht hquiet hrunning ?_ ?_
    · rintro ⟨⟩
      exact ⟨tick, limit, _, hr⟩
    · split
      · rename_i htrue
        exact .inl ⟨rfl, htrue⟩
      · rename_i hfailed
        exact .inr ⟨.inl rfl, hfailed⟩
  | cutOff tick limit flight hr hlanded hlimit =>
    refine renewerMove_afterRenewal ht hquiet hrunning (by simp) (.inr ⟨?_, by simp⟩)
    rw [hr]
    cases flight with
    | sent => exact .inr ⟨_, rfl⟩
    | answered answer arrives =>
      dsimp only
      rw [hlanded]
      exact .inl rfl

/-! ## The tasks -/

inductive TaskMove (now n : Nat) (c : Coordinator) (t : Tenure) :
    Coordinator → List TenureEvent → Prop
  | renew (c' : Coordinator) (events : List TenureEvent) (last : Nat) (t' : Tenure)
      (h : RenewerMove now n c t c' events last t') : TaskMove now n c t c' events
  | learn (reason : LossReason) (hwatched : t.watched = true) (hreport : t.report = some reason) :
      TaskMove now n c t (c.learnLoss reason) [.learned n reason]
  | leave (hreport : t.report = none) (hended : t.renewer = .ended) :
      TaskMove now n c t { c with tenure := some { t with watched := false } } []

theorem quiet_of_running (h : Attentive c false) (ht : c.tenure = some t)
    (hrunning : t.renewer ≠ .ended) : t.report = none :=
  Classical.byContradiction fun hreport => hrunning (h.ended t ht (.inl hreport))

theorem TaskStep.move (h : Attentive c false) (ht : c.tenure = some t)
    (hstep : c.TaskStep b now n t c' events) : TaskMove now n c t c' events := by
  cases hstep with
  | renewer _ _ hnext =>
    obtain ⟨t', ht', hstep⟩ := renewerStep_of_stepRenewer hnext
    obtain rfl : t = t' := Option.some.inj (ht.symm.trans ht')
    obtain ⟨last, t', hmove⟩ := hstep.move (n := n) ht (quiet_of_running h ht hstep.running)
    exact .renew _ _ last t' hmove
  | supervisor _ hnext =>
    obtain ⟨t', ht', hwatched, hstep⟩ := supervisorStep_of_stepSupervisor hnext
    obtain rfl : t = t' := Option.some.inj (ht.symm.trans ht')
    cases hstep with
    | learn reason hreport =>
      have hevents : supervisorEvents n t = [.learned n reason] := by
        unfold supervisorEvents
        rw [hreport]
      rw [hevents]
      exact .learn reason hwatched hreport
    | leave hreport hended =>
      have hevents : supervisorEvents n t = [] := by
        unfold supervisorEvents
        rw [hreport]
      rw [hevents]
      exact .leave hreport hended

theorem TaskMove.stays (ht : c.tenure = some t) (hmove : TaskMove now n c t c' events) :
    events.any isLed = false ∧ c'.tenure ≠ none := by
  cases hmove with
  | renew _ _ last t' hmove =>
    obtain rfl := hmove.eq
    rcases hmove.success with ⟨rfl, -⟩ | ⟨rfl | ⟨answer, rfl⟩, -⟩ <;> simp [isLed]
  | learn reason hwatched hreport => simp [isLed, learnLoss, ht]
  | leave hreport hended => simp

theorem TaskStep.alive (ht : c.tenure = some t) (hstep : c.TaskStep b now n t c' events) :
    t.renewer ≠ .ended ∨ t.watched = true := by
  cases hstep with
  | renewer _ _ hnext =>
    obtain ⟨t', ht', hstep⟩ := renewerStep_of_stepRenewer hnext
    obtain rfl : t = t' := Option.some.inj (ht.symm.trans ht')
    exact .inl hstep.running
  | supervisor _ hnext =>
    obtain ⟨t', ht', hwatched, -⟩ := supervisorStep_of_stepSupervisor hnext
    obtain rfl : t = t' := Option.some.inj (ht.symm.trans ht')
    exact .inr hwatched

end Coordinator

end GoldenCapture
