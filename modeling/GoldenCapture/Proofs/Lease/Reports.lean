import GoldenCapture.Proofs.Lease.Tenancy

/-!
# Reports

No loss that a renewer reports gets lost, in whatever order the request to stop, the report and the
supervisor come: a release waits for both of them, and the supervisor reads a report before it ends.
-/

namespace GoldenCapture

/-- What a coordinator with that errand is like. -/
def Errand.Fits (c : Coordinator) : Errand → Prop
  | .trying .. | .resting .. | .naming .. => c.state = .acquiring
  | .stopping => c.state = .releasing
  | .dropping .. => c.state = .releasing ∧ c.tenure = none
  | .freeing .. | .confirming .. | .lingering .. =>
    c.state = .releasing ∧ c.tenure = none ∧ c.lost = none

/-- No report gets lost: it is known, or the supervisor is still there to read it. -/
structure Attentive (c : Coordinator) (alarmed : Bool) : Prop where
  errand : ∀ e, c.errand = some e → c.outcome = none ∧ e.Fits c
  ended : ∀ t, c.tenure = some t → t.report ≠ none ∨ t.watched = false → t.renewer = .ended
  watched : ∀ t, c.tenure = some t → t.watched = true → c.state = .leading ∨ c.state = .releasing
  alarm : alarmed = true →
    c.lost ≠ none ∨ ∃ t, c.tenure = some t ∧ t.watched = true ∧ t.report ≠ none

section

variable {σ : Type} {b : LeaseBackend σ} {now : Nat} {c c' : Coordinator} {s s' : σ}
  {alarmed : Bool} {t : Tenure}

theorem Attentive.of_no_tenure (htenure : c.tenure = none)
    (herrand : ∀ e, c.errand = some e → c.outcome = none ∧ e.Fits c)
    (halarm : alarmed = true → c.lost ≠ none) : Attentive c alarmed where
  errand := herrand
  ended t ht _ := by
    rw [htenure] at ht
    contradiction
  watched t ht _ := by
    rw [htenure] at ht
    contradiction
  alarm ha := .inl (halarm ha)

theorem Attentive.on (h : Attentive c alarmed) {e e' : Errand} (he : c.errand = some e)
    (hfits : e.Fits c → e'.Fits { c with errand := some e' }) :
    Attentive { c with errand := some e' } alarmed where
  errand e'' he'' := by
    cases he''
    obtain ⟨houtcome, hbefore⟩ := h.errand e he
    exact ⟨houtcome, hfits hbefore⟩
  ended := h.ended
  watched := h.watched
  alarm := h.alarm

theorem Attentive.acquire {timeout : Nat} (h : Attentive c alarmed)
    (hc : c.acquire now timeout = .ok c') : Attentive c' false := by
  unfold Coordinator.acquire at hc
  split at hc
  · rename_i hidle
    cases hc
    refine ⟨?_, h.ended, fun t ht hwatched => ?_, by simp⟩
    · rintro e ⟨⟩
      exact ⟨rfl, rfl⟩
    · have hstate := h.watched t ht hwatched
      rw [hidle] at hstate
      simp at hstate
  · contradiction

theorem Attentive.errand_eq_none (h : Attentive c alarmed)
    (hstate : c.state = .idle ∨ c.state = .leading) : c.errand = none := by
  cases he : c.errand with
  | none => rfl
  | some e =>
    have hfits := (h.errand e he).2
    rcases hstate with hstate | hstate <;> cases e <;> simp [Errand.Fits, hstate] at hfits

theorem Attentive.release (h : Attentive c alarmed) : Attentive c.release.1 alarmed := by
  unfold Coordinator.release
  split
  · refine ⟨?_, fun t ht => ?_, fun _ _ _ => .inr rfl, fun ha => ?_⟩
    · rintro e ⟨⟩
      exact ⟨rfl, rfl⟩
    · obtain ⟨t', ht', rfl⟩ := Option.map_eq_some_iff.mp ht
      exact h.ended t' ht'
    · rcases h.alarm ha with hlost | ⟨t, ht, hwatched, hreport⟩
      · exact .inl hlost
      · exact .inr ⟨_, Option.map_eq_some_iff.mpr ⟨t, ht, rfl⟩, hwatched, hreport⟩
  · rename_i hidle
    refine .of_no_tenure rfl (fun e he => ?_) fun ha => ?_
    · have hnone := h.errand_eq_none (.inl hidle)
      rw [hnone] at he
      contradiction
    · rcases h.alarm ha with hlost | ⟨t, ht, hwatched, -⟩
      · exact hlost
      · have hstate := h.watched t ht hwatched
        rw [hidle] at hstate
        simp at hstate
  · exact h

theorem Attentive.drop (h : Attentive c alarmed) : Attentive c.cancel alarmed where
  errand e he := by contradiction
  ended := h.ended
  watched t ht hwatched := by
    have hstate := h.watched t ht hwatched
    unfold Coordinator.cancel
    dsimp only
    rcases hstate with hstate | hstate <;> simp [hstate]
  alarm := h.alarm

theorem Attentive.idle (h : Attentive c alarmed) {outcome : Except LeaseError Unit}
    (hstate : ∀ t, c.tenure = some t → t.watched = false) :
    Attentive { c.finish outcome with state := .idle } alarmed where
  errand e he := by contradiction
  ended := h.ended
  watched t ht hwatched := by
    rw [hstate t ht] at hwatched
    contradiction
  alarm := h.alarm

theorem Attentive.endRelease (h : Attentive c alarmed) {outcome : Except LeaseError Unit}
    (htenure : c.tenure = none) : Attentive (c.endRelease outcome) alarmed := by
  refine h.idle fun t ht => ?_
  rw [htenure] at ht
  contradiction

theorem Attentive.unwatched (h : Attentive c alarmed) (hstate : c.state = .acquiring) :
    ∀ t, c.tenure = some t → t.watched = false := by
  intro t ht
  by_contra hwatched
  have hleads := h.watched t ht (by simpa using hwatched)
  rw [hstate] at hleads
  simp at hleads

theorem Attentive.errandStep (h : Attentive c alarmed)
    (hstep : Coordinator.ErrandStep b now c s c' s') : Attentive c' alarmed := by
  cases hstep with
  | ask started timeout he => exact h.on he id
  | seeAnswer started timeout flight answer he hlanded =>
    have hstate : c.state = .acquiring := (h.errand _ he).2
    rcases Coordinator.afterAttempt_cases c now started timeout answer with
      ⟨-, hafter⟩ | ⟨-, ⟨waited, hafter⟩ | ⟨wake, hafter⟩⟩
    · rw [hafter]
      refine ⟨fun e he => ?_, fun t ht hended => ?_, fun _ _ _ => .inl rfl, fun ha => ?_⟩
      · contradiction
      · cases ht
        simp at hended
      · rcases h.alarm ha with hlost | ⟨t, ht, hwatched, -⟩
        · exact .inl hlost
        · rw [h.unwatched hstate t ht] at hwatched
          contradiction
    · rw [hafter]
      exact h.on he id
    · rw [hafter]
      exact h.on he id
  | retry started timeout wake he hwake => exact h.on he id
  | askName waited he => exact h.on he id
  | giveUp waited flight answer he hlanded => exact h.idle (h.unwatched (h.errand _ he).2)
  | stop he hstopped =>
    obtain ⟨houtcome, hstate⟩ := h.errand _ he
    refine .of_no_tenure rfl (fun e he' => ?_) fun ha => ?_
    · refine ⟨houtcome, ?_⟩
      simp only [Coordinator.afterStop, Option.some.injEq] at he'
      subst he'
      cases hlost : c.lost with
      | none => exact ⟨hstate, rfl, hlost⟩
      | some reason => exact ⟨hstate, rfl⟩
    · rcases h.alarm ha with hlost | ⟨t, ht, hwatched, -⟩
      · exact hlost
      · -- A supervisor that still waits would have kept the renewal from being over.
        unfold Coordinator.stopped at hstopped
        simp [ht, hwatched] at hstopped
  | drop reason he => exact h.on he id
  | seeDropped reason flight answer he hlanded => exact h.endRelease (h.errand _ he).2.2
  | free he => exact h.on he id
  | seeFreed flight answer he hlanded =>
    cases answer with
    | error error => exact h.endRelease (h.errand _ he).2.2.1
    | ok => exact h.on he id
  | confirm deadline he => exact h.on he id
  | seeHolder deadline flight answer he hlanded =>
    have htenure : c.tenure = none := (h.errand _ he).2.2.1
    rcases Coordinator.afterConfirmation_cases c now deadline answer with
      ⟨_, -, hafter⟩ | ⟨-, -, hafter⟩ | ⟨_, -, -, -, hafter⟩ | ⟨_, -, -, -, hafter⟩
    · rw [hafter]
      exact h.endRelease htenure
    · rw [hafter]
      exact h.endRelease htenure
    · rw [hafter]
      exact h.endRelease htenure
    · rw [hafter]
      exact h.on he id
  | askAgain deadline wake he hwake => exact h.on he id

theorem Attentive.withTenure (h : Attentive c alarmed) (ht : c.tenure = some t)
    (hrunning : t.renewer ≠ .ended) {t' : Tenure} {last : Nat}
    (hwatched : t'.watched = t.watched) (hended : t'.report ≠ none → t'.renewer = .ended) :
    Attentive { c with lastRenewed := last, tenure := some t' }
      (alarmed || t'.report.isSome) := by
  have hwatch : t.watched = true := by
    by_contra hnot
    exact hrunning (h.ended t ht (.inr (by simpa using hnot)))
  refine ⟨fun e he => ?_, fun u hu hover => ?_, fun _ _ _ => h.watched t ht hwatch, fun ha => ?_⟩
  · obtain ⟨houtcome, hfits⟩ := h.errand e he
    refine ⟨houtcome, ?_⟩
    cases e <;> simp_all [Errand.Fits]
  · cases hu
    rcases hover with hreport | hnot
    · exact hended hreport
    · rw [hwatched, hwatch] at hnot
      contradiction
  · rcases Bool.or_eq_true_iff.mp ha with ha | ha
    · rcases h.alarm ha with hlost | ⟨u, hu, -, hreport⟩
      · exact .inl hlost
      · rw [ht, Option.some.injEq] at hu
        subst hu
        exact absurd (h.ended t ht (.inl hreport)) hrunning
    · exact .inr ⟨t', rfl, hwatched.trans hwatch, Option.isSome_iff_ne_none.mp ha⟩

theorem Coordinator.RenewerStep.running (h : Coordinator.RenewerStep b now c t s c' s') :
    t.renewer ≠ .ended := by
  cases h with
  | stop tick hr => simp [hr]
  | tick tick hr => simp [hr]
  | renew tick limit hr => simp [hr]
  | seeAnswer tick limit flight answer hr => simp [hr]
  | cutOff tick limit flight hr => simp [hr]

theorem Coordinator.RenewerStep.tenure (ht : c.tenure = some t) (hquiet : t.report = none)
    (h : Coordinator.RenewerStep b now c t s c' s') :
    ∃ last t', c' = { c with lastRenewed := last, tenure := some t' } ∧
      t'.watched = t.watched ∧ (t'.report ≠ none → t'.renewer = .ended) := by
  have hafter : ∀ tick answer, ∃ last t',
      c.afterRenewal now tick answer = { c with lastRenewed := last, tenure := some t' } ∧
        t'.watched = t.watched ∧ (t'.report ≠ none → t'.renewer = .ended) := by
    intro tick answer
    rcases afterRenewal_cases c now tick answer with ⟨-, hc⟩ | ⟨-, -, hc⟩ | ⟨-, -, hc⟩
    · rw [hc, endRenewals, ht]
      exact ⟨c.lastRenewed, _, rfl, rfl, fun _ => rfl⟩
    · rw [hc, endRenewals, ht]
      exact ⟨_, _, rfl, rfl, fun _ => rfl⟩
    · rw [hc, ht]
      exact ⟨_, _, rfl, rfl, fun hreport => absurd hquiet hreport⟩
  cases h with
  | stop tick hr hstop =>
    rw [endRenewals, ht]
    exact ⟨c.lastRenewed, _, rfl, rfl, fun _ => rfl⟩
  | tick tick hr htick =>
    exact ⟨c.lastRenewed, _, rfl, rfl, fun hreport => absurd hquiet hreport⟩
  | renew tick limit hr =>
    exact ⟨c.lastRenewed, _, rfl, rfl, fun hreport => absurd hquiet hreport⟩
  | seeAnswer tick limit flight answer hr hlanded => exact hafter tick (some answer)
  | cutOff tick limit flight hr hlanded hlimit => exact hafter tick none

theorem Attentive.renewerStep (h : Attentive c alarmed) (ht : c.tenure = some t)
    (hstep : Coordinator.RenewerStep b now c t s c' s') :
    Attentive c' (alarmed || c'.reports) := by
  have hquiet : t.report = none := by
    by_contra hreport
    exact hstep.running (h.ended t ht (.inl hreport))
  obtain ⟨last, t', rfl, hwatched, hended⟩ := hstep.tenure ht hquiet
  exact h.withTenure ht hstep.running hwatched hended

theorem Attentive.supervisorStep (h : Attentive c alarmed) (ht : c.tenure = some t)
    (hstep : Coordinator.SupervisorStep c t c') : Attentive c' alarmed := by
  cases hstep with
  | learn reason hreport =>
    have hended : t.renewer = .ended := h.ended t ht (.inl (by simp [hreport]))
    refine ⟨fun e he => ?_, fun u hu _ => ?_, fun u hu hwatched => ?_, fun _ => .inl (by
      simp [Coordinator.learnLoss])⟩
    · -- The tenure is not over, so the errand is not one that comes after it.
      obtain ⟨houtcome, hfits⟩ := h.errand e he
      refine ⟨houtcome, ?_⟩
      cases e <;> simp_all [Errand.Fits, Coordinator.learnLoss]
    · obtain ⟨u', hu', rfl⟩ := Option.map_eq_some_iff.mp hu
      rw [ht, Option.some.injEq] at hu'
      subst hu'
      exact hended
    · obtain ⟨u', -, rfl⟩ := Option.map_eq_some_iff.mp hu
      contradiction
  | leave hreport hended =>
    refine ⟨fun e he => ?_, fun u hu _ => ?_, fun u hu hwatched => ?_, fun ha => ?_⟩
    · obtain ⟨houtcome, hfits⟩ := h.errand e he
      refine ⟨houtcome, ?_⟩
      cases e <;> simp_all [Errand.Fits]
    · cases hu
      exact hended
    · cases hu
      contradiction
    · rcases h.alarm ha with hlost | ⟨u, hu, -, hreports⟩
      · exact .inl hlost
      · rw [ht, Option.some.injEq] at hu
        subst hu
        exact absurd hreport hreports

end

end GoldenCapture
