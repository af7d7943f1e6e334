import GoldenCapture.Lease.Contest
import GoldenCapture.Proofs.Lease.Succession
import Mathlib.Algebra.Order.Floor.Div

/-!
# Attempts of an acquisition

Over a backend that answers at once, an acquisition asks for the lease at its start, then after
every retry period and for the last time exactly at its timeout, until the lease is granted.
-/

namespace GoldenCapture

variable {σ : Type} {b : LeaseBackend σ} {now : Nat} {s s' : σ}

/-- Every call is answered at the instant at which it is put. -/
def LeaseBackend.Prompt (b : LeaseBackend σ) : Prop :=
  ∀ {α : Type} (c : LeaseCall α) (now : Nat) (s : σ), (b.call c now s).1.delay = some 0

namespace Coordinator

theorem send_of_prompt (hb : b.Prompt) {α : Type} (call : LeaseCall α) (now : Nat) (s : σ) :
    send b call now s =
      (.answered (b.call call now s).1.answer (some now), (b.call call now s).2) := by
  simp [send, hb call now s]

theorem landed_at_once {α : Type} (answer : Except BackendError α) (now : Nat) :
    (Flight.answered answer (some now)).landed now = some answer :=
  if_pos (Nat.le_refl now)

theorem afterAttempt_of_refused {c : Coordinator} {started timeout : Nat}
    {answer : Except BackendError Bool} (h : answer ≠ .ok true) :
    c.afterAttempt now started timeout answer =
      if timeout ≤ now - started then { c with errand := some (.naming (now - started) .sent) }
      else { c with errand := some (.resting started timeout
        (now + min c.config.retryPeriod (timeout - (now - started)))) } := by
  unfold afterAttempt
  split
  · contradiction
  · rfl

theorem setOut_of_acquire {c c' : Coordinator} {timeout : Nat}
    (h : c.acquire now timeout = .ok c') :
    c'.tenure = c.tenure ∧ c'.errand = some (.trying now timeout .sent) := by
  unfold acquire at h
  split at h
  · cases h
    exact ⟨rfl, rfl⟩
  · contradiction

/-! ## A party alone -/

/-- No task of an earlier tenure is left. -/
def AtRest (c : Coordinator) : Prop :=
  ∀ t, c.tenure = some t → t.renewer = .ended ∧ t.watched = false

variable {c c' : Coordinator}

theorem AtRest.stepRenewer (h : c.AtRest) (stopFirst : Bool) :
    c.stepRenewer b now stopFirst s = none := by
  unfold Coordinator.stepRenewer
  split
  · rfl
  · rename_i t ht
    rw [(h t ht).1]

theorem AtRest.stepSupervisor (h : c.AtRest) : c.stepSupervisor = none := by
  unfold Coordinator.stepSupervisor
  split
  · rfl
  · rename_i t ht
    rw [(h t ht).2]
    rfl

theorem AtRest.step (h : c.AtRest) (stopFirst : Bool) :
    c.step b now stopFirst s = c.stepErrand b now s := by
  unfold Coordinator.step
  rw [h.stepRenewer, h.stepSupervisor]
  split
  · rename_i hstep
    exact hstep.symm
  · rename_i hstep
    exact hstep.symm

theorem AtRest.dues (h : c.AtRest) {started timeout wake : Nat}
    (herrand : c.errand = some (.resting started timeout wake)) : c.dues = [wake] := by
  unfold Coordinator.dues
  rw [herrand]
  cases ht : c.tenure with
  | none => rfl
  | some t =>
    rw [Option.map_some, (h t ht).1]
    rfl

end Coordinator

namespace Contest

variable {c c' : Coordinator} {done : Contest σ → Bool} {w w' : Contest σ}

theorem step_alone (stopFirst : Nat → Bool) (h : c.step b now (stopFirst now) s = some (c', s')) :
    (⟨now, s, [c], stopFirst⟩ : Contest σ).step b = some ⟨now, s', [c'], stopFirst⟩ := by
  simp [step, stepAny, h]

theorem step_alone_none (stopFirst : Nat → Bool) (h : c.step b now (stopFirst now) s = none) :
    (⟨now, s, [c], stopFirst⟩ : Contest σ).step b = none := by
  simp [step, stepAny, h]

theorem run_step (hdone : done w = false) (hstep : w.step b = some w') (steps : Nat) :
    w.run b done none (steps + 1) = w'.run b done none steps := by
  conv_lhs => unfold run
  rw [hdone, hstep]
  rfl

theorem run_sleep {due : Nat} (hdone : done w = false) (hstep : w.step b = none)
    (hdue : w.nextDue = some due) (steps : Nat) :
    w.run b done none (steps + 1) = { w with now := due }.run b done none steps := by
  conv_lhs => unfold run
  rw [hdone, hstep, hdue]
  rfl

theorem run_done (hdone : done w = true) (steps : Nat) : w.run b done none steps = w := by
  cases steps with
  | zero => rfl
  | succ steps =>
    unfold run
    rw [hdone]
    rfl

theorem nextDue_alone {stopFirst : Nat → Bool} {wake : Nat} (hdues : c.dues = [wake])
    (hwake : now < wake) :
    (⟨now, s, [c], stopFirst⟩ : Contest σ).nextDue = some wake := by
  simp [nextDue, hdues, hwake]

end Contest

/-! ## The attempts -/

/-- An acquisition that a party starts. -/
structure Acquisition (σ : Type) where
  b : LeaseBackend σ
  party : Coordinator
  started : Nat
  timeout : Nat
  backend : σ
  stopFirst : Nat → Bool

namespace Acquisition

variable (a : Acquisition σ)

def instant (k : Nat) : Nat := a.started + min (k * a.party.config.retryPeriod) a.timeout

def last : Nat := a.timeout ⌈/⌉ a.party.config.retryPeriod

/-- The backend before an attempt: only the attempts before it have been put. -/
def before : Nat → σ
  | 0 => a.backend
  | k + 1 => (a.b.call a.party.tryAcquireCall (a.instant k) (before k)).2

def answer (k : Nat) : Except BackendError Bool :=
  (a.b.call a.party.tryAcquireCall (a.instant k) (a.before k)).1.answer

variable {a} {k : Nat}

theorem lt_last_iff (hretry : 0 < a.party.config.retryPeriod) :
    k < a.last ↔ k * a.party.config.retryPeriod < a.timeout := by
  rw [Nat.mul_comm]
  exact lt_iff_lt_of_le_iff_le (ceilDiv_le_iff_le_mul hretry)

theorem instant_lt (hretry : 0 < a.party.config.retryPeriod) (hk : k < a.last) :
    a.instant k - a.started < a.timeout := by
  have hmul := (lt_last_iff hretry).mp hk
  unfold instant
  omega

theorem instant_succ (hretry : 0 < a.party.config.retryPeriod) (hk : k < a.last) :
    a.instant (k + 1) = a.instant k +
      min a.party.config.retryPeriod (a.timeout - (a.instant k - a.started)) := by
  have hmul := (lt_last_iff hretry).mp hk
  unfold instant
  rw [Nat.succ_mul]
  omega

theorem instant_last (hretry : 0 < a.party.config.retryPeriod) :
    a.instant a.last = a.started + a.timeout := by
  have hmul := mt (lt_last_iff hretry).mpr (Nat.lt_irrefl a.last)
  unfold instant
  omega

/-! ## The steps of the party -/

def on (a : Acquisition σ) (errand : Errand) : Coordinator := { a.party with errand := some errand }

section

variable (hrest : a.party.AtRest) {stopFirst : Bool}

include hrest

theorem step_on (errand : Errand) :
    (a.on errand).step b now stopFirst s = (a.on errand).stepErrand b now s :=
  Coordinator.AtRest.step (c := a.on errand) hrest stopFirst

theorem step_ask (hb : b.Prompt) (now : Nat) (s : σ) :
    (a.on (.trying a.started a.timeout .sent)).step b now stopFirst s =
      some (a.on (.trying a.started a.timeout
        (.answered (b.call a.party.tryAcquireCall now s).1.answer (some now))),
        (b.call a.party.tryAcquireCall now s).2) := by
  rw [step_on hrest]
  simp only [Coordinator.stepErrand, on, Coordinator.send_of_prompt hb]
  rfl

theorem step_seeAnswer (now : Nat) (answer : Except BackendError Bool) (s : σ) :
    (a.on (.trying a.started a.timeout (.answered answer (some now)))).step b now stopFirst s =
      some (a.party.afterAttempt now a.started a.timeout answer, s) := by
  rw [step_on hrest]
  simp only [Coordinator.stepErrand, on, Coordinator.landed_at_once, Option.map_some]
  cases answer with
  | error error => rfl
  | ok granted => cases granted <;> rfl

theorem step_early {wake : Nat} (h : now < wake) (s : σ) :
    (a.on (.resting a.started a.timeout wake)).step b now stopFirst s = none := by
  rw [step_on hrest]
  exact if_neg (Nat.not_le_of_lt h)

theorem nextDue_resting {wake : Nat} (h : now < wake) (s : σ) :
    (⟨now, s, [a.on (.resting a.started a.timeout wake)], a.stopFirst⟩ : Contest σ).nextDue =
      some wake :=
  Contest.nextDue_alone (Coordinator.AtRest.dues (c := a.on _) hrest rfl) h

theorem step_retry (now : Nat) (s : σ) :
    (a.on (.resting a.started a.timeout now)).step b now stopFirst s =
      some (a.on (.trying a.started a.timeout .sent), s) := by
  rw [step_on hrest]
  exact if_pos (Nat.le_refl now)

theorem step_askName (hb : b.Prompt) (now waited : Nat) (s : σ) :
    (a.on (.naming waited .sent)).step b now stopFirst s =
      some (a.on (.naming waited (.answered (b.call a.party.holderCall now s).1.answer (some now))),
        (b.call a.party.holderCall now s).2) := by
  rw [step_on hrest]
  simp only [Coordinator.stepErrand, on, Coordinator.send_of_prompt hb]
  rfl

theorem step_giveUp (now waited : Nat) (answer : Except BackendError (Option LeaseRecord))
    (s : σ) :
    (a.on (.naming waited (.answered answer (some now)))).step b now stopFirst s =
      some (a.party.giveUp waited answer, s) := by
  rw [step_on hrest]
  simp only [Coordinator.stepErrand, on, Coordinator.landed_at_once, Option.map_some]
  rfl

end

/-! ## The course of an attempt -/

def through (w : Contest σ) : Bool := w.idle 0

def asking (a : Acquisition σ) (k : Nat) : Contest σ :=
  ⟨a.instant k, a.before k, [a.on (.trying a.started a.timeout .sent)], a.stopFirst⟩

section

variable (hb : a.b.Prompt) (hrest : a.party.AtRest) (hretry : 0 < a.party.config.retryPeriod)

include hb hrest

theorem run_attempt (k steps : Nat) :
    (a.asking k).run a.b through none (steps + 2) =
      (⟨a.instant k, a.before (k + 1),
        [a.party.afterAttempt (a.instant k) a.started a.timeout (a.answer k)],
        a.stopFirst⟩ : Contest σ).run a.b through none steps := by
  have hasked := Contest.step_alone a.stopFirst (step_ask hrest hb (a.instant k) (a.before k))
  have hseen := Contest.step_alone a.stopFirst
    (step_seeAnswer (b := a.b) hrest (a.instant k) (a.answer k) (a.before (k + 1)))
  exact (Contest.run_step rfl hasked (steps + 1)).trans (Contest.run_step rfl hseen steps)

include hretry

theorem run_refused (hk : k < a.last) (hrefused : a.answer k ≠ .ok true) (steps : Nat) :
    (a.asking k).run a.b through none (steps + 4) =
      (a.asking (k + 1)).run a.b through none steps := by
  have hearly := instant_lt hretry hk
  have hnext := instant_succ hretry hk
  have hlater : a.instant k < a.instant (k + 1) := by omega
  have hafter : a.party.afterAttempt (a.instant k) a.started a.timeout (a.answer k) =
      a.on (.resting a.started a.timeout (a.instant (k + 1))) := by
    rw [Coordinator.afterAttempt_of_refused hrefused, if_neg (Nat.not_le_of_lt hearly), hnext]
    rfl
  have hresting := Contest.step_alone_none a.stopFirst
    (step_early (b := a.b) hrest hlater (a.before (k + 1)))
  have hdue := nextDue_resting hrest hlater (a.before (k + 1))
  have hretried := Contest.step_alone a.stopFirst
    (step_retry (b := a.b) hrest (a.instant (k + 1)) (a.before (k + 1)))
  rw [run_attempt hb hrest, hafter]
  exact (Contest.run_sleep rfl hresting hdue (steps + 1)).trans
    (Contest.run_step rfl hretried steps)

end

/-! ## The end -/

/-- An attempt was granted, and the party leads at once. -/
structure Granted (a : Acquisition σ) (n : Nat) (w : Contest σ) : Prop where
  answer : a.answer n = .ok true
  now : w.now = a.instant n
  backend : w.backend = a.before (n + 1)
  outcome : w.outcome? 0 = some (.ok ())
  state : (w.party? 0).map Coordinator.state = some .leading

/-- The attempt at the timeout was refused or failed, and the party is idle again. -/
structure TimedOut (a : Acquisition σ) (n : Nat) (w : Contest σ) : Prop where
  answer : a.answer n ≠ .ok true
  instant : a.instant n = a.started + a.timeout
  now : w.now = a.started + a.timeout
  backend : w.backend = (a.b.call a.party.holderCall w.now (a.before (n + 1))).2
  outcome : ∃ holder, w.outcome? 0 =
    some (.error (.acquireTimeout a.party.config.key holder a.timeout))
  state : (w.party? 0).map Coordinator.state = some .idle

/-- An acquisition that ends with the attempt `n`. -/
structure Attempts (a : Acquisition σ) (n : Nat) (w : Contest σ) : Prop where
  /-- Errors are refusals. -/
  refused : ∀ k < n, a.answer k ≠ .ok true
  /-- Every pause begins before the timeout and is cut off there. -/
  pauses : ∀ k < n, a.instant k - a.started < a.timeout ∧ a.instant (k + 1) =
    a.instant k + min a.party.config.retryPeriod (a.timeout - (a.instant k - a.started))
  few : n ≤ a.timeout ⌈/⌉ a.party.config.retryPeriod
  ending : a.Granted n w ∨ a.TimedOut n w

section

variable (hb : a.b.Prompt) (hrest : a.party.AtRest) (hretry : 0 < a.party.config.retryPeriod)

include hb hrest

theorem run_granted (hgranted : a.answer k = .ok true) :
    ∃ w, a.Granted k w ∧ ∀ steps, (a.asking k).run a.b through none (steps + 2) = w := by
  refine ⟨⟨a.instant k, a.before (k + 1), [a.party.lead (a.instant k)], a.stopFirst⟩,
    ⟨hgranted, rfl, rfl, rfl, rfl⟩, fun steps => ?_⟩
  rw [run_attempt hb hrest, hgranted]
  exact Contest.run_done rfl steps

include hretry

theorem run_timedOut (hrefused : a.answer a.last ≠ .ok true) :
    ∃ w, a.TimedOut a.last w ∧
      ∀ steps, (a.asking a.last).run a.b through none (steps + 4) = w := by
  have hinstant := instant_last hretry
  have hwaited : a.instant a.last - a.started = a.timeout := by omega
  have hafter : a.party.afterAttempt (a.instant a.last) a.started a.timeout (a.answer a.last) =
      a.on (.naming a.timeout .sent) := by
    rw [Coordinator.afterAttempt_of_refused hrefused, hwaited, if_pos (Nat.le_refl _)]
    rfl
  refine ⟨⟨a.instant a.last, (a.b.call a.party.holderCall (a.instant a.last)
      (a.before (a.last + 1))).2, [a.party.giveUp a.timeout (a.b.call a.party.holderCall
        (a.instant a.last) (a.before (a.last + 1))).1.answer], a.stopFirst⟩,
    ⟨hrefused, hinstant, hinstant, rfl, ⟨_, rfl⟩, rfl⟩, fun steps => ?_⟩
  have hasked := Contest.step_alone a.stopFirst
    (step_askName hrest hb (a.instant a.last) a.timeout (a.before (a.last + 1)))
  have hnamed := Contest.step_alone a.stopFirst
    (step_giveUp (b := a.b) hrest (a.instant a.last) a.timeout
      (a.b.call a.party.holderCall (a.instant a.last) (a.before (a.last + 1))).1.answer
      (a.b.call a.party.holderCall (a.instant a.last) (a.before (a.last + 1))).2)
  rw [run_attempt hb hrest, hafter]
  exact ((Contest.run_step rfl hasked (steps + 1)).trans (Contest.run_step rfl hnamed steps)).trans
    (Contest.run_done rfl steps)

theorem attempts_from {d : Nat} (hk : k + d = a.last) (hbefore : ∀ j < k, a.answer j ≠ .ok true) :
    ∃ n w, a.Attempts n w ∧
      ∀ steps, (a.asking k).run a.b through none (steps + (4 * d + 4)) = w := by
  have hpauses : ∀ n ≤ a.last, ∀ j < n, a.instant j - a.started < a.timeout ∧
      a.instant (j + 1) = a.instant j +
        min a.party.config.retryPeriod (a.timeout - (a.instant j - a.started)) := by
    intro n hn j hj
    exact ⟨instant_lt hretry (by omega), instant_succ hretry (by omega)⟩
  induction d generalizing k with
  | zero =>
    obtain rfl : k = a.last := by omega
    by_cases hgranted : a.answer a.last = .ok true
    · obtain ⟨w, hw, hrun⟩ := run_granted hb hrest hgranted
      exact ⟨a.last, w, ⟨hbefore, hpauses _ (Nat.le_refl _), Nat.le_refl _, .inl hw⟩,
        fun steps => hrun (steps + 2)⟩
    · obtain ⟨w, hw, hrun⟩ := run_timedOut hb hrest hretry hgranted
      exact ⟨a.last, w, ⟨hbefore, hpauses _ (Nat.le_refl _), Nat.le_refl _, .inr hw⟩, hrun⟩
  | succ d ih =>
    by_cases hgranted : a.answer k = .ok true
    · obtain ⟨w, hw, hrun⟩ := run_granted hb hrest hgranted
      have hle : k ≤ a.last := by omega
      exact ⟨k, w, ⟨hbefore, hpauses k hle, hle, .inl hw⟩,
        fun steps => hrun (steps + (4 * (d + 1) + 2))⟩
    · have hrefused : ∀ j < k + 1, a.answer j ≠ .ok true := by
        intro j hj
        rcases Nat.lt_succ_iff_lt_or_eq.mp hj with hj | rfl
        · exact hbefore j hj
        · exact hgranted
      obtain ⟨n, w, hw, hrun⟩ := ih (by omega) hrefused
      refine ⟨n, w, hw, fun steps => ?_⟩
      rw [← hrun steps]
      exact run_refused hb hrest hretry (by omega) hgranted (steps + (4 * d + 4))

end

end Acquisition

namespace Chronicle

variable {start w : Chronicle}

theorem atRest_of_run (hfresh : start.Fresh) (hrun : Run start w)
    (hidle : w.coordinator.state = .idle) : w.coordinator.AtRest :=
  fun _ ht => (coherent_of_run hfresh hrun).accounted.through_of_idle hidle ht

/-- An idle coordinator that acquires, alone on a backend that answers at once. -/
theorem exists_attempts (hfresh : start.Fresh) (hrun : Run start w)
    (hvalid : w.coordinator.config.validate = .ok ()) (hidle : w.coordinator.state = .idle)
    (hb : b.Prompt) (s : σ) (timeout : Nat) (stopFirst : Nat → Bool) :
    ∃ c, w.coordinator.acquire w.now timeout = .ok c ∧
      ∃ n final, Acquisition.Attempts ⟨b, c, w.now, timeout, s, stopFirst⟩ n final ∧
        ∀ steps, 4 * (timeout ⌈/⌉ w.coordinator.config.retryPeriod + 1) ≤ steps →
          (⟨w.now, s, [c], stopFirst⟩ : Contest σ).run b (fun w => w.idle 0) none steps =
            final := by
  have hretry : 0 < w.coordinator.config.retryPeriod := by
    unfold LeaseConfig.validate at hvalid
    split at hvalid
    · contradiction
    · rename_i hproblem
      exact (LeaseConfig.problem?_eq_none_iff.mp hproblem).2.1
  obtain ⟨c, hc⟩ : ∃ c, w.coordinator.acquire w.now timeout = .ok c := ⟨_, if_pos hidle⟩
  obtain ⟨htenure, herrand⟩ := Coordinator.setOut_of_acquire hc
  have hconfig := (Coordinator.same_of_acquire hc).config
  have hrest : c.AtRest := by
    intro t ht
    rw [htenure] at ht
    exact atRest_of_run hfresh hrun hidle t ht
  have hstart : Acquisition.asking ⟨b, c, w.now, timeout, s, stopFirst⟩ 0 =
      ⟨w.now, s, [c], stopFirst⟩ := by
    simp [Acquisition.asking, Acquisition.instant, Acquisition.before, Acquisition.on, ← herrand]
  obtain ⟨n, final, hattempts, hfinal⟩ := Acquisition.attempts_from
    (a := ⟨b, c, w.now, timeout, s, stopFirst⟩) (k := 0) hb hrest (hconfig ▸ hretry)
    (Nat.zero_add _) nofun
  refine ⟨c, hc, n, final, hattempts, fun steps hsteps => ?_⟩
  rw [← hconfig] at hsteps
  obtain ⟨more, rfl⟩ := Nat.exists_eq_add_of_le' hsteps
  rw [← hfinal more, hstart]
  rfl

end Chronicle

/-! ## A grant at the last attempt -/

/-- Answers to come, one for each attempt, and the instants of the attempts so far. -/
structure Answers where
  coming : List (Except BackendError Bool)
  asked : List Nat := []

namespace Answers

def backend : LeaseBackend Answers where
  call
    | .tryAcquire .., now, s =>
      (⟨s.coming.headD (.ok false), some 0⟩, ⟨s.coming.tail, now :: s.asked⟩)
    | .renew .., _, s => (⟨.ok true, some 0⟩, s)
    | .release .., _, s => (⟨.ok (), some 0⟩, s)
    | .currentHolder _, _, s => (⟨.ok none, some 0⟩, s)

theorem prompt : backend.Prompt := by
  intro α c now s
  cases c <;> rfl

def untiring : Chronicle := { coordinator := { config := { key := "env" }, identity := "a" } }

/-- Refused and failing until the timeout. -/
def patience : Answers := ⟨[.error .storage, .ok false, .error .storage, .ok true], []⟩

theorem exists_attempts_untiring :
    ∃ c, untiring.coordinator.acquire 0 (Duration.ofSeconds 5) = .ok c ∧ ∃ n final,
      Acquisition.Attempts ⟨backend, c, 0, Duration.ofSeconds 5, patience, fun _ => true⟩ n final ∧
      ∀ steps, 4 * (Duration.ofSeconds 5 ⌈/⌉ Duration.ofSeconds 2 + 1) ≤ steps →
        (⟨0, patience, [c], fun _ => true⟩ : Contest Answers).run backend (fun w => w.idle 0) none
          steps = final := by
  have hfresh : untiring.Fresh := ⟨_, _, _, rfl⟩
  exact Chronicle.exists_attempts hfresh .refl rfl rfl prompt patience (Duration.ofSeconds 5) _

/-- The last pause is cut off at the timeout, and the attempt there counts. -/
example :
    let w := (Acquisition.asking ⟨backend, untiring.coordinator, 0, Duration.ofSeconds 5, patience,
      fun _ => true⟩ 0).run backend (fun w => w.idle 0) none 16
    w.backend.asked = [5, 4, 2, 0].map Duration.ofSeconds ∧
      (w.party? 0).map Coordinator.state = some .leading := by
  decide

end Answers

end GoldenCapture
