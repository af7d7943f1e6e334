import GoldenCapture.Proofs.Run.Captures
import GoldenCapture.Proofs.Run.Journal

/-!
# The conduct of a run

What can be relied on in every run that has started, whatever its setup, its verification, its
teardowns and its lease do: nothing but the shutdown follows a failed acquisition, no step changes
the environment without the lease, the final teardown is not forgotten, and no failure hides
another one before it.
-/

namespace GoldenCapture

namespace Lifecycle

variable {ε : Type}

/-- What a run keeps to, by its journal and its result. -/
structure Orderly (switches : Switches) (exclusive : Bool) (journal : Journal ε)
    (result : Except ε Unit) : Prop where
  shutdown : ∃ before last, journal = before ++ [(.shutdown, last)] ∧
    ∀ entry ∈ before, entry.1 ≠ .shutdown
  /-- A run comes out well exactly if every action did. -/
  passed_iff : result = .ok () ↔ journal.Passed
  first_failure : ∀ e, result = .error e → ∃ (before : Journal ε) (action : RunAction)
    (after : Journal ε), journal = before ++ (action, .error e) :: after ∧ before.Passed
  /-- The lease is acquired once, before anything else, and a failure leaves only the shutdown. -/
  acquired : exclusive = true → ∃ r rest, journal = (.acquire, r) :: rest ∧
    (∀ entry ∈ rest, entry.1 ≠ .acquire) ∧ ∀ e, r = .error e → ∃ last, rest = [(.shutdown, last)]
  checked : exclusive = true → journal.Checked
  /-- A verification follows a leading teardown and a setup that came out well. -/
  verified : ∀ before r after, journal = before ++ (.verify, r) :: after →
    (switches.teardownBeforeSetup = true → (.teardown, .ok ()) ∈ before) ∧
    (switches.skipSetup = false → (.setup, .ok ()) ∈ before)
  /-- Past the acquisition and the leading teardown, every run comes to its final teardown. -/
  closed : ∃ opening testing closing last,
    journal = opening ++ testing ++ closing ++ [(.shutdown, last)] ∧
    Opening switches exclusive opening ∧ (∀ entry ∈ testing, entry.1 ≠ .teardown) ∧
    When (opening.Passed ∧ switches.skipTeardown = false) (Attempt exclusive .teardown) closing ∧
    (testing ++ closing).countP (fun entry => entry.1 = .teardown) ≤ 1

variable {switches : Switches} {exclusive : Bool} {action : RunAction} {part journal : Journal ε}

/-! ## Actions of the parts -/

theorem Attempt.action_cases (h : Attempt exclusive action part) :
    ∀ entry ∈ part, entry.1 = .check ∨ entry.1 = action := by
  cases h with
  | refused e h => simp
  | checked r h => simp
  | free r h => simp

theorem When.forall {condition : Prop} {tells : Journal ε → Prop}
    {P : RunAction × Except ε Unit → Prop} (h : When condition tells part)
    (htells : tells part → ∀ entry ∈ part, P entry) : ∀ entry ∈ part, P entry := by
  by_cases hcondition : condition
  · exact htells (h.1 hcondition)
  · rw [h.2 hcondition]
    simp

theorem Opening.action_cases (h : Opening switches exclusive part) :
    ∀ entry ∈ part, entry.1 = .acquire ∨ entry.1 = .check ∨ entry.1 = .teardown := by
  obtain ⟨acquiring, leading, rfl, hacquiring, hleading⟩ := h
  have hfirst : ∀ entry ∈ acquiring, entry.1 = .acquire := hacquiring.forall <| by
    rintro ⟨r, rfl⟩
    simp
  have hsecond := hleading.forall (Attempt.action_cases ·)
  intro entry hentry
  rcases List.mem_append.mp hentry with hentry | hentry
  · exact .inl (hfirst entry hentry)
  · exact .inr (hsecond entry hentry)

theorem Testing.action_cases (h : Testing switches exclusive part) :
    ∀ entry ∈ part, entry.1 = .check ∨ entry.1 = .setup ∨ entry.1 = .verify := by
  obtain ⟨preparing, verifying, rfl, hpreparing, hverifying⟩ := h
  have hfirst := hpreparing.forall (Attempt.action_cases ·)
  have hsecond : ∀ entry ∈ verifying, entry.1 = .verify := hverifying.forall <| by
    rintro ⟨r, rfl⟩
    simp
  intro entry hentry
  rcases List.mem_append.mp hentry with hentry | hentry
  · rcases hfirst entry hentry with hcheck | hsetup
    · exact .inl hcheck
    · exact .inr (.inl hsetup)
  · exact .inr (.inr (hsecond entry hentry))

/-! ## Checks -/

theorem Attempt.checked_of_exclusive (hexclusive : exclusive = true)
    (h : Attempt exclusive action part) : part.Checked := by
  cases h with
  | refused e h => exact Journal.checked_of_others (by simp)
  | checked r h =>
    intro before found r' after hpart hfound
    match before with
    | [] =>
      cases hpart
      simp at hfound
    | [_] =>
      cases hpart
      exact ⟨[], rfl⟩
    | _ :: _ :: rest => simp at hpart
  | free r h => simp [hexclusive] at h

theorem checked_of_when {condition : Prop} {tells : Journal ε → Prop}
    (h : When condition tells part) (htells : tells part → part.Checked) : part.Checked := by
  by_cases hcondition : condition
  · exact htells (h.1 hcondition)
  · rw [h.2 hcondition]
    exact Journal.checked_of_others (by simp)

theorem Opening.checked (hexclusive : exclusive = true) (h : Opening switches exclusive part) :
    part.Checked := by
  obtain ⟨acquiring, leading, rfl, hacquiring, hleading⟩ := h
  refine Journal.Checked.append ?_ (checked_of_when hleading (·.checked_of_exclusive hexclusive))
  refine checked_of_when hacquiring ?_
  rintro ⟨r, rfl⟩
  exact Journal.checked_of_others (by simp)

theorem Testing.checked (hexclusive : exclusive = true) (h : Testing switches exclusive part) :
    part.Checked := by
  obtain ⟨preparing, verifying, rfl, hpreparing, hverifying⟩ := h
  refine .append (checked_of_when hpreparing (·.checked_of_exclusive hexclusive)) ?_
  refine checked_of_when hverifying ?_
  rintro ⟨r, rfl⟩
  exact Journal.checked_of_others (by simp)

/-! ## Verifications -/

theorem Attempt.mem_of_passed (h : Attempt exclusive action part) (hpassed : part.Passed) :
    (action, .ok ()) ∈ part := by
  cases h with
  | refused e h => simp [Journal.Passed] at hpassed
  | checked r h =>
    simp only [Journal.Passed, List.mem_cons, forall_eq_or_imp] at hpassed
    simp [hpassed.2.1]
  | free r h =>
    simp only [Journal.Passed, List.mem_cons, forall_eq_or_imp] at hpassed
    simp [hpassed.1]

theorem Opening.teardown_mem (h : Opening switches exclusive part) (hpassed : part.Passed)
    (hswitch : switches.teardownBeforeSetup = true) : (.teardown, .ok ()) ∈ part := by
  obtain ⟨acquiring, leading, rfl, -, hleading⟩ := h
  obtain ⟨hacquired, hled⟩ := Journal.passed_append.mp hpassed
  have htaken := (hleading.1 ⟨hacquired, hswitch⟩).mem_of_passed hled
  exact List.mem_append_right acquiring htaken

/-! ## Teardowns -/

theorem Attempt.countP_le_one (h : Attempt exclusive action part) (hcheck : action ≠ .check) :
    part.countP (fun entry => entry.1 = action) ≤ 1 := by
  cases h with
  | refused e h => simp [hcheck.symm]
  | checked r h => simp [hcheck.symm]
  | free r h => simp

/-! ## The law -/

section

variable {opening testing closing : Journal ε} {last : Except ε Unit}
  (hopening : Opening switches exclusive opening)
  (htesting : When opening.Passed (Testing switches exclusive) testing)
  (hclosing : When (opening.Passed ∧ switches.skipTeardown = false)
    (Attempt exclusive .teardown) closing)

include htesting hclosing

theorem Course.teardown_once : (∀ entry ∈ testing, entry.1 ≠ .teardown) ∧
    (testing ++ closing).countP (fun entry => entry.1 = .teardown) ≤ 1 := by
  have htested : ∀ entry ∈ testing, entry.1 ≠ .teardown := by
    intro entry hentry
    rcases htesting.forall (Testing.action_cases ·) entry hentry with h | h | h <;> simp [h]
  refine ⟨htested, ?_⟩
  rw [List.countP_append, List.countP_eq_zero.mpr (by simpa using htested), Nat.zero_add]
  by_cases hcondition : opening.Passed ∧ switches.skipTeardown = false
  · exact (hclosing.1 hcondition).countP_le_one (by simp)
  · rw [hclosing.2 hcondition]
    simp

include hopening

theorem Course.not_shutdown : ∀ entry ∈ opening ++ testing ++ closing, entry.1 ≠ .shutdown := by
  have htested := htesting.forall (Testing.action_cases ·)
  have hclosed := hclosing.forall (Attempt.action_cases ·)
  intro entry hentry
  rcases List.mem_append.mp hentry with hentry | hentry
  · rcases List.mem_append.mp hentry with hentry | hentry
    · rcases hopening.action_cases entry hentry with h | h | h <;> simp [h]
    · rcases htested entry hentry with h | h | h <;> simp [h]
  · rcases hclosed entry hentry with h | h <;> simp [h]

theorem Course.acquired (hexclusive : exclusive = true) :
    ∃ r rest, opening ++ testing ++ closing ++ [(.shutdown, last)] = (.acquire, r) :: rest ∧
      (∀ entry ∈ rest, entry.1 ≠ .acquire) ∧
      ∀ e, r = .error e → ∃ last, rest = [(.shutdown, last)] := by
  obtain ⟨acquiring, leading, rfl, hacquiring, hleading⟩ := hopening
  obtain ⟨r, rfl⟩ := hacquiring.1 hexclusive
  have hled := hleading.forall (Attempt.action_cases ·)
  have htested := htesting.forall (Testing.action_cases ·)
  have hclosed := hclosing.forall (Attempt.action_cases ·)
  refine ⟨r, leading ++ testing ++ closing ++ [(.shutdown, last)], by simp, ?_, ?_⟩
  · intro entry hentry
    simp only [List.append_assoc, List.mem_append, List.mem_singleton] at hentry
    rcases hentry with hentry | hentry | hentry | rfl
    · rcases hled entry hentry with h | h <;> simp [h]
    · rcases htested entry hentry with h | h | h <;> simp [h]
    · rcases hclosed entry hentry with h | h <;> simp [h]
    · simp
  · rintro e rfl
    have hfailed : ¬ Journal.Passed [(RunAction.acquire, (.error e : Except ε Unit))] := by
      simp [Journal.Passed]
    have hopened : ¬ Journal.Passed ([(RunAction.acquire, .error e)] ++ leading) := fun h =>
      hfailed (Journal.passed_append.mp h).1
    rw [hleading.2 fun h => hfailed h.1, htesting.2 hopened, hclosing.2 fun h => hopened h.1]
    exact ⟨last, rfl⟩

theorem Course.checked (hexclusive : exclusive = true) :
    Journal.Checked (opening ++ testing ++ closing ++ [(RunAction.shutdown, last)]) := by
  have hopened := hopening.checked hexclusive
  have htested := checked_of_when htesting (·.checked hexclusive)
  have hclosed := checked_of_when hclosing (·.checked_of_exclusive hexclusive)
  exact ((hopened.append htested).append hclosed).append (Journal.checked_of_others (by simp))

theorem Course.verified {before after : Journal ε} {r : Except ε Unit}
    (h : opening ++ testing ++ closing ++ [(.shutdown, last)] =
      before ++ (.verify, r) :: after) :
    (switches.teardownBeforeSetup = true → (.teardown, .ok ()) ∈ before) ∧
      (switches.skipSetup = false → (.setup, .ok ()) ∈ before) := by
  have hopened : ∀ entry ∈ opening, entry.1 ≠ .verify := by
    intro entry hentry
    rcases hopening.action_cases entry hentry with h | h | h <;> simp [h]
  have hclosed : ∀ entry ∈ closing ++ [(.shutdown, last)], entry.1 ≠ .verify := by
    intro entry hentry
    rcases List.mem_append.mp hentry with hentry | hentry
    · rcases hclosing.forall (Attempt.action_cases ·) entry hentry with h | h <;> simp [h]
    · rw [List.mem_singleton.mp hentry]
      simp
  -- the verification stands in the test
  have htaken : (.verify, r) ∈ testing := by
    have hmem : (.verify, r) ∈ opening ++ testing ++ closing ++ [(.shutdown, last)] := by
      rw [h]
      simp
    rw [List.append_assoc] at hmem
    rcases List.mem_append.mp hmem with hmem | hmem
    · exact (List.mem_append.mp hmem).resolve_left fun hmem => hopened _ hmem rfl
    · exact absurd rfl (hclosed _ hmem)
  have hpassed : opening.Passed := by
    refine Classical.byContradiction fun hfailed => ?_
    rw [htesting.2 hfailed] at htaken
    exact List.not_mem_nil htaken
  obtain ⟨preparing, verifying, rfl, hpreparing, hverifying⟩ := htesting.1 hpassed
  have hprepared : ∀ entry ∈ preparing, entry.1 ≠ .verify := by
    intro entry hentry
    rcases hpreparing.forall (Attempt.action_cases ·) entry hentry with h | h <;> simp [h]
  have hreached : preparing.Passed ∧ switches.skipTests = false := by
    refine Classical.byContradiction fun hnot => ?_
    rw [hverifying.2 hnot, List.append_nil] at htaken
    exact hprepared _ htaken rfl
  obtain ⟨r', rfl⟩ := hverifying.1 hreached
  have hbefore : before = opening ++ preparing := by
    have hsplit : (opening ++ preparing) ++ (.verify, r') :: (closing ++ [(.shutdown, last)]) =
        before ++ (.verify, r) :: after := by
      rw [← h]
      simp
    refine Journal.before_eq_of_single (fun entry hentry => ?_) hclosed hsplit
    exact (List.mem_append.mp hentry).elim (hopened entry) (hprepared entry)
  rw [hbefore]
  constructor
  · intro hswitch
    exact List.mem_append_left preparing (hopening.teardown_mem hpassed hswitch)
  · intro hswitch
    have hset := (hpreparing.1 hswitch).mem_of_passed hreached.1
    exact List.mem_append_right opening hset

end

theorem Course.orderly (h : Course switches exclusive journal) :
    Orderly switches exclusive journal journal.verdict := by
  obtain ⟨opening, testing, closing, _, rfl, hopening, htesting, hclosing, last, rfl⟩ := h
  have honce := Course.teardown_once htesting hclosing
  exact {
    shutdown := ⟨_, last, rfl, Course.not_shutdown hopening htesting hclosing⟩
    passed_iff := Journal.verdict_eq_ok_iff
    first_failure := fun e he => Journal.exists_of_verdict_eq_error he
    acquired := Course.acquired hopening htesting hclosing
    checked := Course.checked hopening htesting hclosing
    verified := fun before r after h => Course.verified hopening htesting hclosing h
    closed := ⟨opening, testing, closing, last, rfl, hopening, honce.1, hclosing, honce.2⟩ }

theorem orderly_run {σ : Type} (perform : RunAction → Step σ ε) (switches : Switches)
    (exclusive : Bool) (s : σ) :
    Orderly switches exclusive (Lifecycle.journal perform switches exclusive s)
      (run perform switches exclusive s).1 := by
  obtain ⟨hcourse, hresult⟩ := course_of_run switches exclusive perform s
  rw [hresult]
  exact hcourse.orderly

end Lifecycle

namespace Scenario

open Lifecycle (Step)

variable {τ : Type}

def journal (s : Scenario τ) (started : RunContext) (notes : τ) : Lifecycle.Journal Failure :=
  Lifecycle.journal s.perform started.settings.switches s.mutates (started, notes)

variable {s : Scenario τ} {settings : Settings} {identity : String} {host host' : Host}
  {traffic : List Delivery} {notes : τ} {started : RunContext}

/-- A run that has started is orderly. So is every other run of the same steps, whatever the
lease or the shutdown come to in it. -/
theorem run_orderly (h : RunContext.start settings identity host traffic = (.ok started, host')) :
    Lifecycle.Orderly settings.switches s.mutates (s.journal started notes)
        (s.run settings identity host traffic notes).result ∧
      ∀ perform : RunAction → Step (RunContext × τ) Failure,
        Lifecycle.Orderly settings.switches s.mutates
          (Lifecycle.journal perform settings.switches s.mutates (started, notes))
          (Lifecycle.run perform settings.switches s.mutates (started, notes)).1 := by
  refine ⟨?_, fun perform => Lifecycle.orderly_run perform ..⟩
  have hresult : (s.run settings identity host traffic notes).result =
      (Lifecycle.run s.perform settings.switches s.mutates (started, notes)).1 := by
    unfold run
    rw [h]
  unfold journal
  rw [hresult, (RunContext.genuine_of_start h).settings_eq]
  exact Lifecycle.orderly_run ..

def brokenScenario : Scenario Unit where
  name := "broken"
  setup := fun s => (.error (.assertion "no cluster"), s)

def brokenSettings : Settings where
  lease := some { key := "env" }

def brokenHost : Host where
  clock := fun now => ⟨now, false⟩

theorem run_orderly_of_broken : ∃ started host',
    RunContext.start brokenSettings "a" brokenHost [] = (.ok started, host') ∧
      (brokenScenario.journal started ()).map Prod.fst =
        [.acquire, .check, .setup, .check, .teardown, .shutdown] ∧
      Lifecycle.Orderly brokenSettings.switches brokenScenario.mutates
        (brokenScenario.journal started ())
        (brokenScenario.run brokenSettings "a" brokenHost [] ()).result := by
  obtain ⟨started, host', hstart⟩ : ∃ started host',
      RunContext.start brokenSettings "a" brokenHost [] = (.ok started, host') := ⟨_, _, rfl⟩
  refine ⟨started, host', hstart, ?_, (run_orderly (s := brokenScenario) hstart).1⟩
  cases hstart
  decide +kernel

end Scenario

end GoldenCapture
