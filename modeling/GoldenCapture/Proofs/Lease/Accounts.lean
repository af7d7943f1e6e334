import GoldenCapture.Proofs.Lease.Moves

/-!
# Accounts of a lease

What the events of a chronicle say about the coordinator that they happened to: which answers it
waits for, why a loss was reported, when the running tenure last succeeded, and which loss is
recorded.
-/

namespace GoldenCapture

open TenureEvent Coordinator

/-- The events account for what a coordinator holds, at `now` and with `n` tenures begun. -/
structure Accounted (now n : Nat) (events : List TenureEvent) (c : Coordinator) : Prop where
  attentive : Attentive c false
  busy : c.state = .releasing → c.errand ≠ none
  attempt : ∀ started timeout answer arrives,
    c.errand = some (.trying started timeout (.answered answer arrives)) → answer ∈ answers events
  renewal : ∀ t tick limit answer arrives, c.tenure = some t →
    t.renewer = .renewing tick limit (.answered answer arrives) → .renewal n answer ∈ events
  report : ∀ t reason, c.tenure = some t → t.report = some reason →
    .renewal n (.ok false) ∈ events ∨ c.config.renewDeadline ≤ now - c.lastRenewed
  success : ∀ t, c.tenure = some t → t.watched = true → success? n events = some c.lastRenewed
  lost : loss? events = c.lost
  settled : c.lost ≠ none → c.state = .idle ∨ c.state = .releasing
  dropping : ∀ reason flight, c.errand = some (.dropping reason flight) → c.lost = some reason

namespace Accounted

variable {b : LeaseBackend Unit} {now n : Nat} {events events' : List TenureEvent}
  {c c' : Coordinator} {s s' : Unit} {t : Tenure}

theorem later (h : Accounted now n events c) {later : Nat} (hlater : now ≤ later) :
    Accounted later n events c where
  attentive := h.attentive
  busy := h.busy
  attempt := h.attempt
  renewal := h.renewal
  report t reason ht hreport := by
    rcases h.report t reason ht hreport with hrefused | hold
    · exact .inl hrefused
    · right
      omega
  success := h.success
  lost := h.lost
  settled := h.settled
  dropping := h.dropping

theorem lost_eq_none (h : Accounted now n events c)
    (hstate : c.state = .acquiring ∨ c.state = .leading) : c.lost = none := by
  refine Classical.byContradiction fun hlost => ?_
  rcases hstate with hstate | hstate
  · have hsettled := h.settled hlost
    rw [hstate] at hsettled
    simp at hsettled
  · have hsettled := h.settled hlost
    rw [hstate] at hsettled
    simp at hsettled

/-! ### The caller -/

theorem acquire (h : Accounted now n events c) {timeout : Nat}
    (hc : c.acquire now timeout = .ok c') : Accounted now n (.setOut :: events) c' := by
  have hattentive := h.attentive.acquire hc
  unfold Coordinator.acquire at hc
  split at hc
  · cases hc
    exact {
      attentive := hattentive
      busy := by simp
      attempt := by simp
      renewal := fun t tick limit answer arrives ht hr =>
        List.mem_cons_of_mem _ (h.renewal t tick limit answer arrives ht hr)
      report := fun t reason ht hreport =>
        (h.report t reason ht hreport).imp_left (List.mem_cons_of_mem _)
      success := h.success
      lost := rfl
      settled := fun hlost => absurd rfl hlost
      dropping := by simp }
  · contradiction

theorem through_of_idle (h : Accounted now n events c) (hstate : c.state = .idle)
    (ht : c.tenure = some t) : t.renewer = .ended ∧ t.watched = false := by
  have hwatched : t.watched = false := by
    cases hwatched : t.watched with
    | false => rfl
    | true =>
      have hleads := h.attentive.watched t ht hwatched
      rw [hstate] at hleads
      simp at hleads
  exact ⟨h.attentive.ended t ht (.inr hwatched), hwatched⟩

theorem release (h : Accounted now n events c) : Accounted now n events c.release.1 := by
  have hattentive := h.attentive.release
  unfold Coordinator.release at hattentive ⊢
  cases hstate : c.state with
  | leading =>
    rw [hstate] at hattentive
    have hlost := h.lost_eq_none (.inr hstate)
    exact {
      attentive := hattentive
      busy := by simp
      attempt := by simp
      renewal := fun t tick limit answer arrives ht hr => by
        obtain ⟨t', ht', rfl⟩ := Option.map_eq_some_iff.mp ht
        exact h.renewal t' tick limit answer arrives ht' hr
      report := fun t reason ht hreport => by
        obtain ⟨t', ht', rfl⟩ := Option.map_eq_some_iff.mp ht
        exact h.report t' reason ht' hreport
      success := fun t ht hwatched => by
        obtain ⟨t', ht', rfl⟩ := Option.map_eq_some_iff.mp ht
        exact h.success t' ht' hwatched
      lost := h.lost
      settled := fun h => absurd hlost h
      dropping := by simp }
  | idle =>
    rw [hstate] at hattentive
    exact {
      attentive := hattentive
      busy := by simp
      attempt := h.attempt
      renewal := by simp
      report := by simp
      success := by simp
      lost := h.lost
      settled := fun _ => .inl rfl
      dropping := h.dropping }
  | acquiring => exact h
  | releasing => exact h

theorem finish (h : Accounted now n events c) (outcome : Except LeaseError Unit)
    (hattentive : Attentive { c.finish outcome with state := .idle } false) :
    Accounted now n events { c.finish outcome with state := .idle } where
  attentive := hattentive
  busy := by simp
  attempt := by simp [Coordinator.finish]
  renewal := h.renewal
  report := h.report
  success := h.success
  lost := h.lost
  settled _ := .inl rfl
  dropping := by simp [Coordinator.finish]

theorem drop (h : Accounted now n events c) (hstate : c.state = .acquiring) :
    Accounted now n events c.cancel where
  attentive := h.attentive.drop
  busy := by simp [cancel, hstate]
  attempt := by simp [cancel]
  renewal := h.renewal
  report := h.report
  success := h.success
  lost := h.lost
  settled _ := .inl (by simp [cancel, hstate])
  dropping := by simp [cancel]

/-! ### The errand -/

theorem errandMove (h : Accounted now n events c) (hattentive : Attentive c' false)
    (hmove : ErrandMove now (n + 1) c c' events') :
    Accounted now (if events'.any isLed then n + 1 else n) (events' ++ events) c' := by
  cases hmove with
  | goOn e e' he hasked hdropping =>
    exact {
      attentive := hattentive
      busy := by simp
      attempt := fun started timeout answer arrives he' =>
        absurd (Option.some.inj he') (hasked started timeout answer arrives)
      renewal := h.renewal
      report := h.report
      success := h.success
      lost := h.lost
      settled := h.settled
      dropping := fun reason flight he' => by
        obtain ⟨flight', rfl⟩ := hdropping reason flight (Option.some.inj he')
        exact h.dropping reason flight' he }
  | ask started timeout answer arrives he =>
    exact {
      attentive := hattentive
      busy := by simp
      attempt := by
        rintro _ _ _ _ ⟨⟩
        exact List.mem_cons_self
      renewal := fun t tick limit a arrives ht hr =>
        List.mem_cons_of_mem _ (h.renewal t tick limit a arrives ht hr)
      report := fun t reason ht hreport =>
        (h.report t reason ht hreport).imp_left (List.mem_cons_of_mem _)
      success := h.success
      lost := h.lost
      settled := h.settled
      dropping := by simp }
  | lead started timeout arrives he =>
    have hstate : c.state = .acquiring := (h.attentive.errand _ he).2
    have hlost := h.lost_eq_none (.inl hstate)
    exact {
      attentive := hattentive
      busy := by simp [Coordinator.lead]
      attempt := by simp [Coordinator.lead]
      renewal := by
        rintro t tick limit answer arrives ⟨⟩ hr
        contradiction
      report := by
        rintro t reason ⟨⟩ hreport
        contradiction
      success := fun t ht _ => if_pos rfl
      lost := h.lost
      settled := fun h => absurd hlost h
      dropping := by simp [Coordinator.lead] }
  | giveUp outcome hstate => exact h.finish outcome hattentive
  | stop he hstopped =>
    have hstate : c.state = .releasing := (h.attentive.errand _ he).2
    exact {
      attentive := hattentive
      busy := by simp [afterStop]
      attempt := fun started timeout answer arrives he' => by
        unfold afterStop at he'
        cases hlost : c.lost with
        | none => simp [hlost] at he'
        | some reason => simp [hlost] at he'
      renewal := by simp [afterStop]
      report := by simp [afterStop]
      success := by simp [afterStop]
      lost := h.lost
      settled := h.settled
      dropping := fun reason flight he' => by
        unfold afterStop at he' ⊢
        cases hlost : c.lost with
        | none => simp [hlost] at he'
        | some found =>
          simp only [hlost, Option.some.injEq, Errand.dropping.injEq] at he'
          rw [he'.1] }
  | drop reason flight he => exact h.finish _ hattentive
  | free outcome hstate hlost => exact h.finish _ hattentive

/-! ### The tasks -/

theorem renewerMove (h : Accounted now n events c) (ht : c.tenure = some t) {last : Nat}
    {t' : Tenure} (hmove : RenewerMove now n c t c' events' last t') :
    Accounted now n (events' ++ events) c' := by
  have hwatched : t.watched = true := by
    refine Classical.byContradiction fun hnot => hmove.running (h.attentive.ended t ht (.inr ?_))
    simpa using hnot
  have hattentive : Attentive { c with lastRenewed := last, tenure := some t' } _ :=
    h.attentive.withTenure ht hmove.running hmove.watched hmove.ended
  -- what the events of a renewal do not tell
  have hquiet : answers (events' ++ events) = answers events ∧
      loss? (events' ++ events) = loss? events := by
    rcases hmove.success with ⟨rfl, -⟩ | ⟨rfl | ⟨answer, rfl⟩, -⟩ <;> exact ⟨rfl, rfl⟩
  have hsuccess : success? n (events' ++ events) = some last := by
    have hbefore := h.success t ht hwatched
    rcases hmove.success with ⟨rfl, hlast⟩ | ⟨rfl | ⟨answer, rfl⟩, hlast⟩
    · rw [hlast]
      exact if_pos rfl
    · rw [hlast]
      exact hbefore
    · rw [hlast]
      exact hbefore
  obtain rfl := hmove.eq
  exact {
    attentive := ⟨hattentive.errand, hattentive.ended, hattentive.watched, by simp⟩
    busy := h.busy
    attempt := fun started timeout answer arrives he => by
      rw [hquiet.1]
      exact h.attempt started timeout answer arrives he
    renewal := by
      rintro _ tick limit answer arrives ⟨⟩ hr
      rw [hmove.asked tick limit answer arrives hr]
      exact List.mem_cons_self
    report := by
      rintro _ reason ⟨⟩ hreport
      rcases hmove.report reason hreport with ⟨tick, limit, arrives, hr⟩ | hold
      · exact .inl (List.mem_append_right events' (h.renewal t tick limit _ arrives ht hr))
      · exact .inr hold
    success := by
      rintro _ ⟨⟩ _
      exact hsuccess
    lost := hquiet.2.trans h.lost
    settled := h.settled
    dropping := h.dropping }

theorem learn (h : Accounted now n events c) (ht : c.tenure = some t) {reason : LossReason}
    (hwatched : t.watched = true) (hreport : t.report = some reason) :
    Accounted now n (.learned n reason :: events) (c.learnLoss reason) := by
  have hstate := h.attentive.watched t ht hwatched
  exact {
    attentive := h.attentive.supervisorStep ht (.learn reason hreport)
    busy := fun hreleasing => by
      rcases hstate with hstate | hstate
      · simp [learnLoss, hstate] at hreleasing
      · exact h.busy hstate
    attempt := h.attempt
    renewal := fun u tick limit answer arrives hu hr => by
      obtain ⟨u', hu', rfl⟩ := Option.map_eq_some_iff.mp hu
      exact List.mem_cons_of_mem _ (h.renewal u' tick limit answer arrives hu' hr)
    report := fun u reason hu hreport => by
      obtain ⟨u', hu', rfl⟩ := Option.map_eq_some_iff.mp hu
      exact (h.report u' reason hu' hreport).imp_left (List.mem_cons_of_mem _)
    success := fun u hu hwatched => by
      obtain ⟨u', hu', rfl⟩ := Option.map_eq_some_iff.mp hu
      contradiction
    lost := rfl
    settled := fun _ => by
      rcases hstate with hstate | hstate <;> simp [learnLoss, hstate]
    dropping := fun found flight he => by
      -- a release comes to this only once its tenure is over
      have hnone := (h.attentive.errand _ he).2.2
      rw [ht] at hnone
      contradiction }

theorem taskMove (h : Accounted now n events c) (ht : c.tenure = some t)
    (hmove : TaskMove now n c t c' events') : Accounted now n (events' ++ events) c' := by
  cases hmove with
  | renew _ _ last t' hmove => exact h.renewerMove ht hmove
  | learn reason hwatched hreport => exact h.learn ht hwatched hreport
  | leave hreport hended =>
    exact {
      attentive := h.attentive.supervisorStep ht (.leave hreport hended)
      busy := h.busy
      attempt := h.attempt
      renewal := by
        rintro _ tick limit answer arrives ⟨⟩ hr
        exact h.renewal t tick limit answer arrives ht hr
      report := by
        rintro _ reason ⟨⟩ hsome
        exact h.report t reason ht hsome
      success := by
        rintro _ ⟨⟩ hwatched
        contradiction
      lost := h.lost
      settled := h.settled
      dropping := h.dropping }

end Accounted

end GoldenCapture
