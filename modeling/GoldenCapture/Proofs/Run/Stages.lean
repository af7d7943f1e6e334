import GoldenCapture.Run.Lifecycle

/-!
# Stages of a run

A run that tests is an approach, a verification and what comes after it. It comes out well only if
the approach and the verification do, and if the verification fails its failure is what comes out.
-/

namespace GoldenCapture

namespace Lifecycle

variable {σ ε : Type} {first next : Step σ ε} {s s' : σ} {e : ε}

theorem andThen_of_ok (h : first s = (.ok (), s')) : andThen first next s = next s' := by
  unfold andThen
  rw [h]

theorem andThen_of_error (h : first s = (.error e, s')) :
    andThen first next s = (.error e, s') := by
  unfold andThen
  rw [h]

theorem of_andThen_ok (h : (andThen first next s).1 = .ok ()) :
    ∃ s', first s = (.ok (), s') ∧ (next s').1 = .ok () := by
  rcases hfirst : first s with ⟨_ | ⟨⟩, s'⟩
  · rw [andThen_of_error hfirst] at h
    contradiction
  · rw [andThen_of_ok hfirst] at h
    exact ⟨s', rfl, h⟩

theorem of_finally_ok (h : (finally_ first next s).1 = .ok ()) : (first s).1 = .ok () := by
  unfold finally_ at h
  dsimp only at h
  split at h
  · contradiction
  · assumption

theorem finally_of_error (h : (first s).1 = .error e) : (finally_ first next s).1 = .error e := by
  unfold finally_
  dsimp only
  rw [h]

theorem andThen_keeps_of_ok {P : σ → Prop} (hfirst : P (first s).2)
    (hnext : ∀ s', first s = (.ok (), s') → P s' → P (next s').2) :
    P (andThen first next s).2 := by
  rcases h : first s with ⟨_ | ⟨⟩, s'⟩
  · rw [andThen_of_error h]
    rw [h] at hfirst
    exact hfirst
  · rw [andThen_of_ok h]
    rw [h] at hfirst
    exact hnext s' h hfirst

theorem andThen_keeps {P : σ → Prop} (hfirst : ∀ s, P s → P (first s).2)
    (hnext : ∀ s, P s → P (next s).2) (hs : P s) : P (andThen first next s).2 :=
  andThen_keeps_of_ok (hfirst s hs) fun s' _ hs' => hnext s' hs'

theorem finally_snd : (finally_ first next s).2 = (next (first s).2).2 := by
  unfold finally_
  dsimp only
  split <;> rfl

/-! ## Runs -/

variable (perform : RunAction → Step σ ε) (switches : Switches) (exclusive : Bool)

def approach : Step σ ε :=
  let acquire := if exclusive then perform .acquire else skip
  let leading := if switches.teardownBeforeSetup then guarded perform exclusive .teardown else skip
  let setup := if switches.skipSetup then skip else guarded perform exclusive .setup
  andThen acquire (andThen leading setup)

variable {perform switches exclusive}

theorem guarded_keeps {P : σ → Prop} {action : RunAction}
    (hcheck : ∀ s, P s → P (perform .check s).2) (haction : ∀ s, P s → P (perform action s).2)
    (s : σ) (hs : P s) : P (guarded perform exclusive action s).2 := by
  unfold guarded
  split
  · exact andThen_keeps hcheck haction hs
  · exact haction s hs

theorem approach_keeps {P : σ → Prop}
    (h : ∀ action, action ≠ .verify → action ≠ .shutdown → ∀ s, P s → P (perform action s).2)
    (hs : P s) : P (approach perform switches exclusive s).2 := by
  have hskip : ∀ s, P s → P ((skip : Step σ ε) s).2 := fun s hs => hs
  have hguarded (action : RunAction) (hverify : action ≠ .verify) (hshutdown : action ≠ .shutdown) :
      ∀ s, P s → P (guarded perform exclusive action s).2 :=
    guarded_keeps (h .check (by simp) (by simp)) (h action hverify hshutdown)
  refine andThen_keeps ?_ (fun s hs => andThen_keeps ?_ ?_ hs) hs
  · split
    · exact h .acquire (by simp) (by simp)
    · exact hskip
  · split
    · exact hguarded .teardown (by simp) (by simp)
    · exact hskip
  · split
    · exact hskip
    · exact hguarded .setup (by simp) (by simp)

theorem verified_of_run (htests : switches.skipTests = false)
    (h : (run perform switches exclusive s).1 = .ok ()) :
    ∃ s', approach perform switches exclusive s = (.ok (), s') ∧
      (perform .verify s').1 = .ok () := by
  have hdrive := of_finally_ok h
  unfold drive at hdrive
  simp only [htests, Bool.false_eq_true, if_false] at hdrive
  obtain ⟨s₁, hacquire, hdrive⟩ := of_andThen_ok hdrive
  obtain ⟨s₂, hleading, hdrive⟩ := of_andThen_ok hdrive
  have hmain : (andThen (if switches.skipSetup then skip else guarded perform exclusive .setup)
      (perform .verify) s₂).1 = .ok () := by
    split at hdrive
    · exact hdrive
    · exact of_finally_ok hdrive
  obtain ⟨s₃, hsetup, hverify⟩ := of_andThen_ok hmain
  refine ⟨s₃, ?_, hverify⟩
  unfold approach
  rw [andThen_of_ok hacquire, andThen_of_ok hleading, hsetup]

theorem drive_of_approach (htests : switches.skipTests = false)
    (happroach : approach perform switches exclusive s = (.ok (), s')) :
    drive perform switches exclusive s =
      (if switches.skipTeardown then perform .verify
        else finally_ (perform .verify) (guarded perform exclusive .teardown)) s' := by
  obtain ⟨s₁, hacquire, hrest⟩ := of_andThen_ok (congrArg Prod.fst happroach)
  obtain ⟨s₂, hleading, -⟩ := of_andThen_ok hrest
  have hsetup : (if switches.skipSetup then skip else guarded perform exclusive .setup) s₂ =
      (.ok (), s') := by
    unfold approach at happroach
    rw [andThen_of_ok hacquire, andThen_of_ok hleading] at happroach
    exact happroach
  unfold drive
  simp only [htests, Bool.false_eq_true, if_false]
  rw [andThen_of_ok hacquire, andThen_of_ok hleading]
  split
  · exact andThen_of_ok hsetup
  · unfold finally_
    rw [andThen_of_ok hsetup]

theorem run_of_verify_error (htests : switches.skipTests = false)
    (happroach : approach perform switches exclusive s = (.ok (), s'))
    (hverify : (perform .verify s').1 = .error e) :
    (run perform switches exclusive s).1 = .error e := by
  refine finally_of_error ?_
  rw [drive_of_approach htests happroach]
  split
  · exact hverify
  · exact finally_of_error hverify

theorem run_keeps_verified {P : σ → Prop} (htests : switches.skipTests = false)
    (happroach : approach perform switches exclusive s = (.ok (), s'))
    (h : ∀ action, action ≠ .verify → ∀ s, P s → P (perform action s).2)
    (hverified : P (perform .verify s').2) : P (run perform switches exclusive s).2 := by
  unfold run
  rw [finally_snd]
  refine h .shutdown (by simp) _ ?_
  rw [drive_of_approach htests happroach]
  split
  · exact hverified
  · rw [finally_snd]
    exact guarded_keeps (h .check (by simp)) (h .teardown (by simp)) _ hverified

end Lifecycle

end GoldenCapture
