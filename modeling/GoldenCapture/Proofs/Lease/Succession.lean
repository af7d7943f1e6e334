import GoldenCapture.Proofs.Lease.Accounts

/-!
# Succession of tenures

No tenure reaches into another one. A tenure begins with an attempt of its own acquisition that was
granted, its renewals end before the coordinator is idle again, and what its supervisor learns is
told about it and about no later one.
-/

namespace GoldenCapture

open TenureEvent Coordinator

namespace Chronicle

variable {w w' : Chronicle} {c : Coordinator} {events : List TenureEvent} {t : Tenure}

/-! ## What every step keeps -/

/-- The events account for the coordinator, and nothing that it has forgotten still runs. -/
structure Coherent (w : Chronicle) : Prop where
  accounted : Accounted w.now w.tenures w.events w.coordinator
  leftover : ∀ entry ∈ w.leftover, entry.2.renewer = .ended ∧ entry.2.watched = false

theorem coherent_of_fresh (h : w.Fresh) : w.Coherent := by
  obtain ⟨now, config, identity, rfl⟩ := h
  refine ⟨?_, by simp⟩
  exact {
    attentive := .of_no_tenure rfl (by simp) (by simp)
    busy := by simp
    attempt := by simp
    renewal := by simp
    report := by simp
    success := by simp
    lost := rfl
    settled := by simp
    dropping := by simp }

theorem Coherent.next (h : w.Coherent)
    (haccounted : Accounted w.now (if events.any isLed then w.tenures + 1 else w.tenures)
      (events ++ w.events) c)
    (hgone : ∀ t, w.coordinator.tenure = some t → events.any isLed = true ∨ c.tenure = none →
      t.renewer = .ended ∧ t.watched = false) : (w.next c events).Coherent := by
  refine ⟨haccounted, fun entry hentry => ?_⟩
  unfold Chronicle.next at hentry
  rcases List.mem_append.mp hentry with hentry | hentry
  · obtain ⟨t, ht, rfl⟩ := List.mem_map.mp hentry
    split at ht
    · rename_i hover
      have htenure : w.coordinator.tenure = some t := Option.mem_toList.mp ht
      exact hgone t htenure (by simpa using hover)
    · simp at ht
  · exact h.leftover entry hentry

theorem gone_of_errandMove (h : w.Coherent)
    (hmove : ErrandMove w.now (w.tenures + 1) w.coordinator c events)
    (ht : w.coordinator.tenure = some t) (hgone : events.any isLed = true ∨ c.tenure = none) :
    t.renewer = .ended ∧ t.watched = false := by
  have hattentive := h.accounted.attentive
  cases hmove with
  | lead started timeout arrives he =>
    have hstate : w.coordinator.state = .acquiring := (hattentive.errand _ he).2
    have hwatched := hattentive.unwatched hstate t ht
    exact ⟨hattentive.ended t ht (.inr hwatched), hwatched⟩
  | stop he hstopped =>
    unfold stopped at hstopped
    rw [ht] at hstopped
    simp only [Bool.and_eq_true, Bool.not_eq_true'] at hstopped
    exact ⟨hattentive.ended t ht (.inr hstopped.1), hstopped.1⟩
  | _ => simp_all [finish, endRelease, isLed]

theorem stale_through (h : w.Coherent) {before after : List (Nat × Tenure)} {n : Nat}
    (hleft : w.leftover = before ++ (n, t) :: after) {b : LeaseBackend Unit} :
    ¬ (w.under t).TaskStep b w.now n t c events := by
  intro hstep
  have hthrough := h.leftover (n, t) (by rw [hleft]; simp)
  rcases hstep.alive rfl with hrunning | hwatches
  · exact hrunning hthrough.1
  · exact absurd (hwatches.symm.trans hthrough.2) (by simp)

theorem coherent_of_step (h : w.Coherent) (hstep : Step w w') : w'.Coherent := by
  have hattentive := h.accounted.attentive
  cases hstep with
  | wait later hlater => exact ⟨h.accounted.later hlater, h.leftover⟩
  | acquire timeout c hfree hc =>
    refine h.next (h.accounted.acquire hc) fun t ht hgone => ?_
    unfold Coordinator.acquire at hc
    split at hc
    · cases hc
      simp [ht, isLed] at hgone
    · contradiction
  | release hfree =>
    refine h.next h.accounted.release fun t ht hgone => ?_
    cases hstate : w.coordinator.state with
    | idle => exact h.accounted.through_of_idle hstate ht
    | _ => simp [Coordinator.release, hstate, ht] at hgone
  | drop hstate => exact h.next (h.accounted.drop hstate) fun t ht hgone => by simp_all [cancel]
  | errand b c hc =>
    have hstep := errandStep_of_stepErrand hc
    have hmove := hstep.move (n := w.tenures + 1) hattentive
    exact h.next (h.accounted.errandMove (hattentive.errandStep hstep) hmove) fun t ht =>
      gone_of_errandMove h hmove ht
  | task b t c events ht hstep =>
    have hmove := hstep.move hattentive ht
    obtain ⟨hquiet, hstays⟩ := hmove.stays ht
    have haccounted := h.accounted.taskMove ht hmove
    refine h.next (by simpa [hquiet] using haccounted) fun t ht hgone => ?_
    rcases hgone with hled | hnone
    · simp [hquiet] at hled
    · exact absurd hnone hstays
  | stale b before after n t c events hleft hstep => exact absurd hstep (stale_through h hleft)

theorem coherent_of_run {start : Chronicle} (hfresh : start.Fresh) (hrun : Run start w) :
    w.Coherent := by
  induction hrun with
  | refl => exact coherent_of_fresh hfresh
  | tail _ hstep ih => exact coherent_of_step ih hstep

/-! ## What every step observes -/

theorem lawful_of_quiet (hstate : w'.coordinator.state = w.coordinator.state)
    (hlost : w'.coordinator.lost = w.coordinator.lost) (hevents : w'.events = events ++ w.events)
    (hlearned : ∀ n reason, events ≠ [.learned n reason])
    (hrenewal : ∀ n answer, events = [.renewal n answer] → w.InTenure n) : Lawful w w' := by
  have hone : ∀ e, w'.events = e :: w.events → events = [e] := by
    intro e he
    rw [hevents, ← List.singleton_append] at he
    exact List.append_cancel_right he
  exact {
    moves := .inl hstate
    sets_out := fun hnot hnow => absurd (hstate ▸ hnow) hnot
    leads := fun hnot hnow => absurd (hstate ▸ hnow) hnot
    loses := fun hleads hidle => by simp [hstate, hleads] at hidle
    learns := fun n reason he => absurd (hone _ he) (hlearned n reason)
    keeps := .inl hlost
    renews := fun n answer he => hrenewal n answer (hone _ he)
    fails := fun _ _ hreleasing hnot => absurd (hstate.trans hreleasing) hnot }

theorem lawful_of_acquire {timeout : Nat} (hc : w.coordinator.acquire w.now timeout = .ok c) :
    Lawful w (w.next c [.setOut]) := by
  unfold Coordinator.acquire at hc
  split at hc
  · rename_i hidle
    cases hc
    exact {
      moves := by
        rw [hidle]
        exact .inr .setOut
      sets_out := fun _ _ => rfl
      leads := fun _ hleads => by simp [Chronicle.next] at hleads
      loses := fun hleads => by simp [hidle] at hleads
      learns := fun n reason he => by simp [Chronicle.next] at he
      keeps := .inr (.inl ⟨rfl, rfl⟩)
      renews := fun n answer he => by simp [Chronicle.next] at he
      fails := fun _ _ hreleasing => by simp [hidle] at hreleasing }
  · contradiction

theorem lawful_of_move (hmoves : w.coordinator.state.Moves c.state)
    (hstate : c.state = .releasing ∨ c.state = .idle ∧ w.coordinator.state ≠ .leading)
    (hlost : c.lost = w.coordinator.lost)
    (hfails : ∀ reason, loss? w.events = some reason → w.coordinator.state = .releasing →
      c.outcome = some (.error (.leadershipLost w.coordinator.config.key reason))) :
    Lawful w (w.next c []) where
  moves := .inr hmoves
  sets_out _ hnow := by
    have hnow : c.state = .acquiring := hnow
    simp [hnow] at hstate
  leads _ hnow := by
    have hnow : c.state = .leading := hnow
    simp [hnow] at hstate
  loses hleads hidle := by
    have hidle : c.state = .idle := hidle
    simp [hidle, hleads] at hstate
  learns n reason he := by simp [Chronicle.next] at he
  keeps := .inl hlost
  renews n answer he := by simp [Chronicle.next] at he
  fails reason hloss hreleasing _ := hfails reason hloss hreleasing

theorem lawful_of_release (h : w.Coherent) (hfree : w.coordinator.errand = none) :
    Lawful w (w.next w.coordinator.release.1 []) := by
  cases hstate : w.coordinator.state with
  | leading =>
    have hc : w.coordinator.release.1.state = .releasing := by simp [Coordinator.release, hstate]
    refine lawful_of_move ?_ (.inl hc) (by simp [Coordinator.release, hstate]) ?_
    · rw [hstate, hc]
      exact .release
    · rintro - - hreleasing
      rw [hstate] at hreleasing
      contradiction
  | releasing => exact absurd hfree (h.accounted.busy hstate)
  | _ =>
    have hquiet : w.coordinator.release.1.state = w.coordinator.state ∧
        w.coordinator.release.1.lost = w.coordinator.lost := by
      simp [Coordinator.release, hstate]
    exact lawful_of_quiet hquiet.1 hquiet.2 rfl (by simp) (by simp)

theorem lawful_of_drop (hstate : w.coordinator.state = .acquiring) :
    Lawful w (w.next w.coordinator.cancel []) := by
  have hc : w.coordinator.cancel.state = .idle := by simp [cancel, hstate]
  refine lawful_of_move ?_ (.inr ⟨hc, by simp [hstate]⟩) rfl ?_
  · rw [hstate, hc]
    exact .giveUp
  · rintro - - hreleasing
    rw [hstate] at hreleasing
    contradiction

theorem lawful_of_errandMove (h : w.Coherent)
    (hmove : ErrandMove w.now (w.tenures + 1) w.coordinator c events) :
    Lawful w (w.next c events) := by
  have hattentive := h.accounted.attentive
  cases hmove with
  | goOn e e' he hasked hdropping => exact lawful_of_quiet rfl rfl rfl (by simp) (by simp)
  | ask started timeout answer arrives he =>
    exact lawful_of_quiet rfl rfl rfl (by simp) (by simp)
  | lead started timeout arrives he =>
    have hstate : w.coordinator.state = .acquiring := (hattentive.errand _ he).2
    exact {
      moves := by
        rw [hstate]
        exact .inr .lead
      sets_out := fun hnot => absurd hstate hnot
      leads := fun _ _ => ⟨h.accounted.attempt started timeout _ arrives he, rfl, rfl⟩
      loses := fun hleads => by simp [hstate] at hleads
      learns := fun n reason hevents => by simp [Chronicle.next] at hevents
      keeps := .inl rfl
      renews := fun n answer hevents => by simp [Chronicle.next] at hevents
      fails := fun _ _ hreleasing => by simp [hstate] at hreleasing }
  | giveUp outcome hstate =>
    refine lawful_of_move ?_ (.inr ⟨rfl, by simp [hstate]⟩) rfl ?_
    · rw [hstate]
      exact .giveUp
    · rintro - - hreleasing
      rw [hstate] at hreleasing
      contradiction
  | stop he hstopped => exact lawful_of_quiet rfl rfl rfl (by simp) (by simp)
  | drop reason flight he =>
    have hstate : w.coordinator.state = .releasing := (hattentive.errand _ he).2.1
    refine lawful_of_move ?_ (.inr ⟨rfl, by simp [hstate]⟩) rfl ?_
    · rw [hstate]
      exact .free
    · intro found hloss _
      rw [h.accounted.lost, h.accounted.dropping reason flight he] at hloss
      rw [← Option.some.inj hloss]
      rfl
  | free outcome hstate hlost =>
    refine lawful_of_move ?_ (.inr ⟨rfl, by simp [hstate]⟩) rfl ?_
    · rw [hstate]
      exact .free
    · intro found hloss _
      rw [h.accounted.lost, hlost] at hloss
      contradiction

theorem inTenure_of_watched (h : w.Coherent) (ht : w.coordinator.tenure = some t)
    (hwatched : t.watched = true) : w.InTenure w.tenures :=
  ⟨rfl, h.accounted.attentive.watched t ht hwatched⟩

theorem watched_of_running (h : w.Coherent) (ht : w.coordinator.tenure = some t)
    (hrunning : t.renewer ≠ .ended) : t.watched = true := by
  refine Classical.byContradiction fun hnot => ?_
  exact hrunning (h.accounted.attentive.ended t ht (.inr (by simpa using hnot)))

theorem lapsed_of_report (h : w.Coherent) (ht : w.coordinator.tenure = some t)
    (hwatched : t.watched = true) {reason : LossReason} (hreport : t.report = some reason) :
    w.Lapsed := by
  rcases h.accounted.report t reason ht hreport with hrefused | hold
  · exact .inl hrefused
  · exact .inr ⟨_, h.accounted.success t ht hwatched, hold⟩

theorem lawful_of_taskMove (h : w.Coherent) (ht : w.coordinator.tenure = some t)
    (hmove : TaskMove w.now w.tenures w.coordinator t c events) : Lawful w (w.next c events) := by
  cases hmove with
  | renew _ _ last t' hmove =>
    have htenure := inTenure_of_watched h ht (watched_of_running h ht hmove.running)
    have hevents := hmove.success
    obtain rfl := hmove.eq
    refine lawful_of_quiet rfl rfl rfl ?_ ?_
    · rintro n reason rfl
      simp at hevents
    · rintro n answer rfl
      obtain rfl : n = w.tenures := by
        rcases hevents with ⟨hevents, -⟩ | ⟨hevents | ⟨_, hevents⟩, -⟩
        · simp at hevents
        · simp at hevents
        · simp only [List.cons.injEq, renewal.injEq] at hevents
          exact hevents.1.1
      exact htenure
  | learn reason hwatched hreport =>
    have htenure := inTenure_of_watched h ht hwatched
    exact {
      moves := by
        rcases htenure.2 with hstate | hstate
        · rw [hstate]
          simp [Chronicle.next, learnLoss, hstate, LeaseState.Moves.lose]
        · simp [Chronicle.next, learnLoss, hstate]
      sets_out := fun _ hnow => by
        rcases htenure.2 with hstate | hstate <;>
          simp [Chronicle.next, learnLoss, hstate] at hnow
      leads := fun hnot hnow => by
        rcases htenure.2 with hstate | hstate <;>
          simp [Chronicle.next, learnLoss, hstate] at hnow
      loses := fun _ _ => ⟨lapsed_of_report h ht hwatched hreport, reason, rfl⟩
      learns := fun n found hevents => by
        obtain ⟨rfl, -⟩ : w.tenures = n ∧ reason = found := by
          simpa [Chronicle.next] using hevents
        exact htenure
      keeps := .inr (.inr ⟨reason, rfl, rfl⟩)
      renews := fun n answer hevents => by simp [Chronicle.next] at hevents
      fails := fun _ _ hreleasing hnot => by
        simp [Chronicle.next, learnLoss, hreleasing] at hnot }
  | leave hreport hended => exact lawful_of_quiet rfl rfl rfl (by simp) (by simp)

theorem lawful_of_step (h : w.Coherent) (hstep : Step w w') : Lawful w w' := by
  have hattentive := h.accounted.attentive
  cases hstep with
  | wait later hlater =>
    exact lawful_of_quiet rfl rfl (List.nil_append w.events).symm (by simp) (by simp)
  | acquire timeout c hfree hc => exact lawful_of_acquire hc
  | release hfree => exact lawful_of_release h hfree
  | drop hstate => exact lawful_of_drop hstate
  | errand b c hc =>
    exact lawful_of_errandMove h ((errandStep_of_stepErrand hc).move hattentive)
  | task b t c events ht hstep => exact lawful_of_taskMove h ht (hstep.move hattentive ht)
  | stale b before after n t c events hleft hstep => exact absurd hstep (stale_through h hleft)

/-- From a loss on until the next acquisition, every check and every release reports it. -/
theorem reportsLoss_of_coherent (h : w.Coherent) : w.ReportsLoss := by
  intro reason hloss
  have hlost : w.coordinator.lost = some reason := h.accounted.lost.symm.trans hloss
  have hsettled := h.accounted.settled (by simp [hlost])
  refine ⟨hlost, fun now => ?_, fun hfree => ?_⟩
  · unfold ensureLeading
    rw [if_neg (by rcases hsettled with hstate | hstate <;> simp [hstate]), hlost]
  · rcases hsettled with hstate | hstate
    · simp [Coordinator.release, hstate, lossResult, hlost]
    · exact absurd hfree (h.accounted.busy hstate)

/-- Tenures do not reach into each other. In every run every step keeps the law, whoever takes it,
and as long as a loss is the last that is known every check and every release reports it. -/
theorem tenures_apart {start : Chronicle} (hfresh : start.Fresh) (hrun : Run start w) :
    w.ReportsLoss ∧ ∀ w', Step w w' → Lawful w w' :=
  have h := coherent_of_run hfresh hrun
  ⟨reportsLoss_of_coherent h, fun _ hstep => lawful_of_step h hstep⟩

/-- Grants the lease, but does not renew it. -/
def fickle : LeaseBackend Unit where
  call
    | .tryAcquire .., _, _ => (⟨.ok true, some 0⟩, ())
    | .renew .., _, _ => (⟨.ok false, some 0⟩, ())
    | .release .., _, _ => (⟨.ok (), some 0⟩, ())
    | .currentHolder _, _, _ => (⟨.ok none, some 0⟩, ())

def newcomer : Chronicle where
  coordinator := { config := { key := "env" }, identity := "a" }

theorem refused_newcomer : ∃ w w', Run newcomer w ∧ Step w w' ∧ w.coordinator.state = .leading ∧
    w'.coordinator.state = .idle ∧ loss? w'.events = some .refused := by
  have hout : Run newcomer _ := .single (.acquire 0 _ rfl rfl)
  have hasked := hout.tail (.errand fickle _ rfl)
  have hled := hasked.tail (.errand fickle _ rfl)
  have hdue := hled.tail (.wait (Duration.ofSeconds 2) (Nat.zero_le _))
  have hticked := hdue.tail (.task fickle _ _ _ rfl (.renewer true _ rfl))
  have hrefused := hticked.tail (.task fickle _ _ _ rfl (.renewer true _ rfl))
  have hreported := hrefused.tail (.task fickle _ _ _ rfl (.renewer true _ rfl))
  exact ⟨_, _, hreported, .task fickle _ _ _ rfl (.supervisor _ rfl), rfl, rfl, rfl⟩

theorem tenures_apart_at_refusal : ∃ w w', Run newcomer w ∧ Step w w' ∧
    w.coordinator.state = .leading ∧ w'.coordinator.state = .idle ∧ Lawful w w' ∧
    loss? w'.events = some .refused ∧ w'.ReportsLoss := by
  have hfresh : newcomer.Fresh := ⟨0, _, _, rfl⟩
  obtain ⟨w, w', hrun, hstep, hleads, hidle, hloss⟩ := refused_newcomer
  exact ⟨w, w', hrun, hstep, hleads, hidle, (tenures_apart hfresh hrun).2 w' hstep, hloss,
    (tenures_apart hfresh (hrun.tail hstep)).1⟩

end Chronicle

end GoldenCapture
