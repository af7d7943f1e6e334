import GoldenCapture.Proofs.Run.Stages
import GoldenCapture.Run.Scenario

/-!
# Journals of runs

Which actions a run takes, in what order and with what result, whatever the single actions do. A
run that has started ends with one shutdown, its first failure is what comes out of it, and every
step that changes a shared environment follows a check that came out well.
-/

namespace GoldenCapture

namespace Lifecycle

variable {σ ε : Type}

/-! ## Journals -/

/-- The actions of a run and what each came to, the first one first. -/
abbrev Journal (ε : Type) := List (RunAction × Except ε Unit)

/-- What nothing has failed in. -/
def Journal.Passed (part : Journal ε) : Prop := ∀ entry ∈ part, entry.2 = .ok ()

/-- The first failure, if there is one. -/
def Journal.verdict : Journal ε → Except ε Unit
  | [] => .ok ()
  | (_, .error e) :: _ => .error e
  | (_, .ok ()) :: rest => verdict rest

/-- The actions of a run, each entered in a journal when it has ended. -/
def entering (perform : RunAction → Step σ ε) (action : RunAction) : Step (σ × Journal ε) ε :=
  fun (s, journal) =>
    let (result, s) := perform action s
    (result, s, journal ++ [(action, result)])

def journal (perform : RunAction → Step σ ε) (switches : Switches) (exclusive : Bool) (s : σ) :
    Journal ε :=
  (run (entering perform) switches exclusive (s, [])).2.2

/-! ### Verdicts -/

namespace Journal

variable {part first second before after : Journal ε} {entry : RunAction × Except ε Unit} {e : ε}

theorem passed_append : (first ++ second).Passed ↔ first.Passed ∧ second.Passed :=
  List.forall_mem_append

theorem verdict_append : (first ++ second).verdict =
    match first.verdict with
    | .error e => .error e
    | .ok () => second.verdict := by
  induction first with
  | nil => rfl
  | cons entry rest ih =>
    obtain ⟨action, _ | ⟨⟩⟩ := entry
    · rfl
    · exact ih

theorem verdict_eq_ok_iff : part.verdict = .ok () ↔ part.Passed := by
  induction part with
  | nil => exact ⟨fun _ _ h => absurd h List.not_mem_nil, fun _ => rfl⟩
  | cons entry rest ih =>
    obtain ⟨action, _ | ⟨⟩⟩ := entry
    · simp [verdict, Passed]
    · simpa [verdict, Passed] using ih

theorem exists_of_verdict_eq_error (h : part.verdict = .error e) :
    ∃ (before : Journal ε) (action : RunAction) (after : Journal ε),
      part = before ++ (action, .error e) :: after ∧ before.Passed := by
  induction part with
  | nil => contradiction
  | cons entry rest ih =>
    obtain ⟨action, _ | ⟨⟩⟩ := entry
    · cases h
      exact ⟨[], action, rest, rfl, fun _ h => absurd h List.not_mem_nil⟩
    · obtain ⟨before, failed, after, rfl, hpassed⟩ := ih h
      refine ⟨(action, .ok ()) :: before, failed, after, rfl, ?_⟩
      exact List.forall_mem_cons.mpr ⟨rfl, hpassed⟩

/-! ### Parts -/

theorem before_eq_of_single {action : RunAction} {r r' : Except ε Unit}
    (hfirst : ∀ entry ∈ first, entry.1 ≠ action) (hsecond : ∀ entry ∈ second, entry.1 ≠ action)
    (h : first ++ (action, r) :: second = before ++ (action, r') :: after) : before = first := by
  rcases List.append_eq_append_iff.mp h with ⟨as, rfl, has⟩ | ⟨cs, rfl, hcs⟩
  · cases as with
    | nil => simp
    | cons x xs =>
      cases has
      exact absurd rfl (hsecond (action, r') (by simp))
  · cases cs with
    | nil => simp
    | cons x xs =>
      cases hcs
      exact absurd rfl (hfirst (action, r') (by simp))

/-- Each setup and each teardown comes directly after a check that came out well. -/
def Checked (part : Journal ε) : Prop :=
  ∀ before action r after, part = before ++ (action, r) :: after →
    action = .setup ∨ action = .teardown → ∃ earlier, before = earlier ++ [(.check, .ok ())]

theorem Checked.append (hfirst : first.Checked) (hsecond : second.Checked) :
    (first ++ second).Checked := by
  intro before action r after h haction
  rcases List.append_eq_append_iff.mp h with ⟨as, rfl, has⟩ | ⟨cs, rfl, hcs⟩
  · obtain ⟨earlier, rfl⟩ := hsecond as action r after has haction
    exact ⟨first ++ earlier, (List.append_assoc ..).symm⟩
  · cases cs with
    | nil =>
      obtain ⟨earlier, hearlier⟩ := hsecond [] action r after hcs.symm haction
      simp at hearlier
    | cons x xs =>
      cases hcs
      exact hfirst before action r xs rfl haction

theorem checked_of_others (h : ∀ entry ∈ part, entry.1 ≠ .setup ∧ entry.1 ≠ .teardown) :
    part.Checked := by
  rintro before action r after rfl haction
  have hothers := h (action, r) (by simp)
  rcases haction with rfl | rfl
  · exact absurd rfl hothers.1
  · exact absurd rfl hothers.2

end Journal

/-! ## What a step enters -/

/-- What is entered for a step that changes the environment: with the lease, a check and, if that
comes out well, the step. -/
inductive Attempt (exclusive : Bool) (action : RunAction) : Journal ε → Prop
  | refused (e : ε) (h : exclusive = true) : Attempt exclusive action [(.check, .error e)]
  | checked (r : Except ε Unit) (h : exclusive = true) :
      Attempt exclusive action [(.check, .ok ()), (action, r)]
  | free (r : Except ε Unit) (h : exclusive = false) : Attempt exclusive action [(action, r)]

/-- A part of a journal that is only there under a condition. -/
def When (condition : Prop) (tells : Journal ε → Prop) (part : Journal ε) : Prop :=
  (condition → tells part) ∧ (¬ condition → part = [])

def Single (action : RunAction) (part : Journal ε) : Prop := ∃ r, part = [(action, r)]

/-- The step with a journal does what the plain step does. What it enters fits the description,
and its first failure is what comes out. -/
def Enters (step : Step (σ × Journal ε) ε) (plain : Step σ ε) (tells : Journal ε → Prop) : Prop :=
  ∀ s journal, ∃ part, tells part ∧ (plain s).1 = part.verdict ∧
    step (s, journal) = ((plain s).1, (plain s).2, journal ++ part)

section

variable {step next : Step (σ × Journal ε) ε} {plain plainNext : Step σ ε}
  {tells tellsNext : Journal ε → Prop}

theorem enters_entering (perform : RunAction → Step σ ε) (action : RunAction) :
    Enters (entering perform action) (perform action) (Single action) := by
  intro s journal
  refine ⟨[(action, (perform action s).1)], ⟨_, rfl⟩, ?_, rfl⟩
  rcases (perform action s).1 with _ | ⟨⟩ <;> rfl

theorem enters_skip : Enters (skip : Step (σ × Journal ε) ε) skip fun part => part = [] :=
  fun s journal => ⟨[], rfl, rfl, by simp [skip]⟩

theorem Enters.imp {tells' : Journal ε → Prop} (h : Enters step plain tells)
    (himp : ∀ part, tells part → tells' part) : Enters step plain tells' := by
  intro s journal
  obtain ⟨part, htells, hrest⟩ := h s journal
  exact ⟨part, himp part htells, hrest⟩

theorem Enters.andThen (h : Enters step plain tells) (hnext : Enters next plainNext tellsNext) :
    Enters (andThen step next) (andThen plain plainNext) fun part =>
      ∃ first second, part = first ++ second ∧ tells first ∧
        When first.Passed tellsNext second := by
  intro s journal
  obtain ⟨first, hfirst, hverdict, hstep⟩ := h s journal
  rcases hplain : plain s with ⟨_ | ⟨⟩, s'⟩
  · rw [hplain] at hverdict hstep
    rw [andThen_of_error hplain, andThen_of_error hstep]
    have hfailed : ¬ first.Passed := by
      rw [← Journal.verdict_eq_ok_iff, ← hverdict]
      simp
    exact ⟨first, ⟨first, [], (List.append_nil first).symm, hfirst, (absurd · hfailed),
      fun _ => rfl⟩, hverdict, rfl⟩
  · rw [hplain] at hverdict hstep
    have hpassed : first.Passed := Journal.verdict_eq_ok_iff.mp hverdict.symm
    obtain ⟨second, hsecond, hverdict', hstep'⟩ := hnext s' (journal ++ first)
    refine ⟨first ++ second, ⟨first, second, rfl, hfirst, fun _ => hsecond, (absurd hpassed ·)⟩,
      ?_, ?_⟩
    · rw [andThen_of_ok hplain, Journal.verdict_append, ← hverdict]
      exact hverdict'
    · rw [andThen_of_ok hplain, andThen_of_ok hstep, hstep', List.append_assoc]

theorem Enters.finally (h : Enters step plain tells) (hnext : Enters next plainNext tellsNext) :
    Enters (finally_ step next) (finally_ plain plainNext) fun part =>
      ∃ first second, part = first ++ second ∧ tells first ∧ tellsNext second := by
  intro s journal
  obtain ⟨first, hfirst, hverdict, hstep⟩ := h s journal
  obtain ⟨second, hsecond, hverdict', hstep'⟩ := hnext (plain s).2 (journal ++ first)
  refine ⟨first ++ second, ⟨first, second, rfl, hfirst, hsecond⟩, ?_, ?_⟩
  · rw [Journal.verdict_append, ← hverdict, ← hverdict']
    unfold finally_
    rcases plain s with ⟨_ | ⟨⟩, s'⟩ <;> rfl
  · unfold finally_
    rw [hstep]
    dsimp only
    rw [hstep']
    rcases plain s with ⟨_ | ⟨⟩, s'⟩ <;> simp

theorem Enters.when (condition : Bool) (h : Enters step plain tells) :
    Enters (if condition then step else skip) (if condition then plain else skip)
      (When (condition = true) tells) := by
  cases condition with
  | true => exact h.imp fun part hpart => ⟨fun _ => hpart, (absurd rfl ·)⟩
  | false =>
    exact enters_skip.imp fun part hpart => ⟨fun hno => absurd hno (by simp), fun _ => hpart⟩

theorem Enters.unless (condition : Bool) (h : Enters step plain tells) :
    Enters (if condition then skip else step) (if condition then skip else plain)
      (When (condition = false) tells) := by
  cases condition with
  | true =>
    exact enters_skip.imp fun part hpart => ⟨fun hno => absurd hno (by simp), fun _ => hpart⟩
  | false => exact h.imp fun part hpart => ⟨fun _ => hpart, (absurd rfl ·)⟩

theorem enters_guarded (perform : RunAction → Step σ ε) (exclusive : Bool) (action : RunAction) :
    Enters (guarded (entering perform) exclusive action) (guarded perform exclusive action)
      (Attempt exclusive action) := by
  cases exclusive with
  | false =>
    refine (enters_entering perform action).imp ?_
    rintro part ⟨r, rfl⟩
    exact .free r rfl
  | true =>
    refine ((enters_entering perform .check).andThen (enters_entering perform action)).imp ?_
    rintro part ⟨_, second, rfl, ⟨_ | ⟨⟩, rfl⟩, hthen, helse⟩
    · have hnone : second = [] := helse (by simp [Journal.Passed])
      rw [hnone]
      exact .refused _ rfl
    · obtain ⟨r, rfl⟩ := hthen (by simp [Journal.Passed])
      exact .checked r rfl

end

/-! ## The course of a run -/

section

variable (switches : Switches) (exclusive : Bool)

/-- The acquisition and the leading teardown, as far as the run gets with them. -/
def Opening (opening : Journal ε) : Prop :=
  ∃ acquiring leading, opening = acquiring ++ leading ∧
    When (exclusive = true) (Single .acquire) acquiring ∧
    When (acquiring.Passed ∧ switches.teardownBeforeSetup = true) (Attempt exclusive .teardown)
      leading

/-- The setup and the verification, as far as the run gets with them. -/
def Testing (testing : Journal ε) : Prop :=
  ∃ preparing verifying, testing = preparing ++ verifying ∧
    When (switches.skipSetup = false) (Attempt exclusive .setup) preparing ∧
    When (preparing.Passed ∧ switches.skipTests = false) (Single .verify) verifying

/-- A whole run: an opening; if nothing failed in it, the test and the final teardown; and the
shutdown. -/
def Course (journal : Journal ε) : Prop :=
  ∃ opening testing closing ending, journal = opening ++ testing ++ closing ++ ending ∧
    Opening switches exclusive opening ∧
    When opening.Passed (Testing switches exclusive) testing ∧
    When (opening.Passed ∧ switches.skipTeardown = false) (Attempt exclusive .teardown) closing ∧
    Single .shutdown ending

theorem When.and {p q : Prop} {tells : Journal ε → Prop} {part : Journal ε}
    (h : When p (When q tells) part) : When (p ∧ q) tells part := by
  refine ⟨fun hpq => (h.1 hpq.1).1 hpq.2, fun hpq => ?_⟩
  by_cases hp : p
  · exact (h.1 hp).2 fun hq => hpq ⟨hp, hq⟩
  · exact h.2 hp

theorem enters_testing (perform : RunAction → Step σ ε) :
    Enters
      (andThen
        (if switches.skipSetup then skip else guarded (entering perform) exclusive .setup)
        (if switches.skipTests then skip else entering perform .verify))
      (andThen (if switches.skipSetup then skip else guarded perform exclusive .setup)
        (if switches.skipTests then skip else perform .verify))
      (Testing switches exclusive) := by
  have hsetup := (enters_guarded perform exclusive .setup).unless switches.skipSetup
  have hverify := (enters_entering perform .verify).unless switches.skipTests
  refine (hsetup.andThen hverify).imp ?_
  rintro part ⟨preparing, verifying, rfl, hpreparing, hverifying⟩
  exact ⟨preparing, verifying, rfl, hpreparing, hverifying.and⟩

theorem Enters.closing (perform : RunAction → Step σ ε) {main : Step (σ × Journal ε) ε}
    {plain : Step σ ε} {tells : Journal ε → Prop} (h : Enters main plain tells) :
    Enters
      (if switches.skipTeardown then main
        else finally_ main (guarded (entering perform) exclusive .teardown))
      (if switches.skipTeardown then plain
        else finally_ plain (guarded perform exclusive .teardown))
      fun part => ∃ testing closing, part = testing ++ closing ∧ tells testing ∧
        When (switches.skipTeardown = false) (Attempt exclusive .teardown) closing := by
  cases switches.skipTeardown with
  | true =>
    refine h.imp fun part hpart => ?_
    exact ⟨part, [], (List.append_nil part).symm, hpart, fun hno => by contradiction, fun _ => rfl⟩
  | false =>
    refine (h.finally (enters_guarded perform exclusive .teardown)).imp ?_
    rintro part ⟨testing, closing, rfl, htesting, hclosing⟩
    exact ⟨testing, closing, rfl, htesting, fun _ => hclosing, (absurd rfl ·)⟩

theorem enters_drive (perform : RunAction → Step σ ε) :
    Enters (drive (entering perform) switches exclusive) (drive perform switches exclusive)
      fun part => ∃ opening testing closing, part = opening ++ testing ++ closing ∧
        Opening switches exclusive opening ∧
        When opening.Passed (Testing switches exclusive) testing ∧
        When (opening.Passed ∧ switches.skipTeardown = false) (Attempt exclusive .teardown)
          closing := by
  have hacquire := (enters_entering perform .acquire).when exclusive
  have hleading := (enters_guarded perform exclusive .teardown).when switches.teardownBeforeSetup
  have hrest := (enters_testing switches exclusive perform).closing switches exclusive perform
  refine (hacquire.andThen (hleading.andThen hrest)).imp ?_
  rintro part ⟨acquiring, others, rfl, hacquiring, hothers, hnone⟩
  by_cases hacquired : acquiring.Passed
  · obtain ⟨leading, rest, rfl, hleading, hrest, hnorest⟩ := hothers hacquired
    have hopening : Opening switches exclusive (acquiring ++ leading) :=
      ⟨acquiring, leading, rfl, hacquiring, fun h => hleading.1 h.2,
        fun h => hleading.2 fun hswitch => h ⟨hacquired, hswitch⟩⟩
    have hpassed : (acquiring ++ leading).Passed ↔ leading.Passed := by
      rw [Journal.passed_append]
      exact and_iff_right hacquired
    by_cases hled : leading.Passed
    · obtain ⟨testing, closing, rfl, htesting, hclosing⟩ := hrest hled
      refine ⟨acquiring ++ leading, testing, closing, by simp, hopening,
        ⟨fun _ => htesting, fun h => absurd (hpassed.mpr hled) h⟩, fun h => hclosing.1 h.2, ?_⟩
      exact fun h => hclosing.2 fun hswitch => h ⟨hpassed.mpr hled, hswitch⟩
    · have hfailed : ¬ (acquiring ++ leading).Passed := fun h => hled (hpassed.mp h)
      refine ⟨acquiring ++ leading, [], [], by simp [hnorest hled], hopening,
        ⟨fun h => absurd h hfailed, fun _ => rfl⟩, fun h => absurd h.1 hfailed, fun _ => rfl⟩
  · refine ⟨acquiring, [], [], by simp [hnone hacquired], ?_,
      ⟨fun h => absurd h hacquired, fun _ => rfl⟩, fun h => absurd h.1 hacquired, fun _ => rfl⟩
    exact ⟨acquiring, [], (List.append_nil acquiring).symm, hacquiring,
      fun h => absurd h.1 hacquired, fun _ => rfl⟩

theorem enters_run (perform : RunAction → Step σ ε) :
    Enters (run (entering perform) switches exclusive) (run perform switches exclusive)
      (Course switches exclusive) := by
  refine ((enters_drive switches exclusive perform).finally (enters_entering perform _)).imp ?_
  rintro part ⟨_, ending, rfl, ⟨opening, testing, closing, rfl, hopening, htesting, hclosing⟩,
    hending⟩
  exact ⟨opening, testing, closing, ending, rfl, hopening, htesting, hclosing, hending⟩

/-- The journal of a run tells its course, and the first failure in it is what comes out. -/
theorem course_of_run (perform : RunAction → Step σ ε) (s : σ) :
    Course switches exclusive (journal perform switches exclusive s) ∧
      (run perform switches exclusive s).1 = (journal perform switches exclusive s).verdict := by
  obtain ⟨part, hcourse, hverdict, hrun⟩ := enters_run switches exclusive perform s []
  have hjournal : journal perform switches exclusive s = part := by
    unfold journal
    rw [hrun]
    exact List.nil_append part
  rw [hjournal]
  exact ⟨hcourse, hverdict⟩

end

end Lifecycle

end GoldenCapture
