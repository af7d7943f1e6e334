import GoldenCapture.Proofs.Run.Stages
import GoldenCapture.Run.Scenario

/-!
# Trails of runs

The worlds that a run comes through: the one it starts in and the one after each of its actions.
What the single actions keep holds all along the trail, and the trail ends where the run ends.
-/

namespace GoldenCapture

namespace Lifecycle

variable {σ τ ε : Type}

/-! ## Steps with notes -/

/-- The step does what the plain step does, whatever it notes besides. -/
def Erases (step : Step (σ × τ) ε) (plain : Step σ ε) : Prop :=
  ∀ s t, (step (s, t)).1 = (plain s).1 ∧ (step (s, t)).2.1 = (plain s).2

section

variable {step next : Step (σ × τ) ε} {plain plainNext : Step σ ε}

theorem erases_skip : Erases (skip : Step (σ × τ) ε) skip := fun _ _ => ⟨rfl, rfl⟩

theorem Erases.andThen (h : Erases step plain) (hnext : Erases next plainNext) :
    Erases (andThen step next) (andThen plain plainNext) := by
  intro s t
  obtain ⟨hresult, hworld⟩ := h s t
  rcases hstep : step (s, t) with ⟨e | ⟨⟩, s', t'⟩
  · rw [hstep] at hresult hworld
    have hplain : plain s = (.error e, s') := Prod.ext hresult.symm hworld.symm
    rw [andThen_of_error hstep, andThen_of_error hplain]
    exact ⟨rfl, rfl⟩
  · rw [hstep] at hresult hworld
    have hplain : plain s = (.ok (), s') := Prod.ext hresult.symm hworld.symm
    rw [andThen_of_ok hstep, andThen_of_ok hplain]
    exact hnext s' t'

theorem Erases.finally (h : Erases step plain) (hnext : Erases next plainNext) :
    Erases (finally_ step next) (finally_ plain plainNext) := by
  intro s t
  obtain ⟨hresult, hworld⟩ := h s t
  unfold finally_
  rcases hstep : step (s, t) with ⟨result, s', t'⟩
  rw [hstep] at hresult hworld
  have hplain : plain s = (result, s') := Prod.ext hresult.symm hworld.symm
  rw [hplain]
  cases result with
  | error e => exact ⟨rfl, (hnext s' t').2⟩
  | ok => exact hnext s' t'

theorem Erases.ite (condition : Bool) (h : Erases step plain) (hnext : Erases next plainNext) :
    Erases (if condition then step else next) (if condition then plain else plainNext) := by
  cases condition with
  | true => exact h
  | false => exact hnext

variable {noting : RunAction → Step (σ × τ) ε} {perform : RunAction → Step σ ε}
  {switches : Switches} {exclusive : Bool}

theorem erases_guarded (h : ∀ action, Erases (noting action) (perform action))
    (action : RunAction) :
    Erases (guarded noting exclusive action) (guarded perform exclusive action) :=
  Erases.ite exclusive ((h .check).andThen (h action)) (h action)

theorem erases_approach (h : ∀ action, Erases (noting action) (perform action)) :
    Erases (approach noting switches exclusive) (approach perform switches exclusive) :=
  (Erases.ite _ (h .acquire) erases_skip).andThen
    ((Erases.ite _ (erases_guarded h .teardown) erases_skip).andThen
      (Erases.ite _ erases_skip (erases_guarded h .setup)))

theorem erases_run (h : ∀ action, Erases (noting action) (perform action)) :
    Erases (run noting switches exclusive) (run perform switches exclusive) := by
  have hmain : Erases
      (andThen (if switches.skipSetup then skip else guarded noting exclusive .setup)
        (if switches.skipTests then skip else noting .verify))
      (andThen (if switches.skipSetup then skip else guarded perform exclusive .setup)
        (if switches.skipTests then skip else perform .verify)) :=
    (Erases.ite _ erases_skip (erases_guarded h .setup)).andThen
      (Erases.ite _ erases_skip (h .verify))
  refine Erases.finally ?_ (h .shutdown)
  refine (Erases.ite _ (h .acquire) erases_skip).andThen
    ((Erases.ite _ (erases_guarded h .teardown) erases_skip).andThen ?_)
  exact Erases.ite _ hmain (hmain.finally (erases_guarded h .teardown))

end

/-! ## What a run keeps -/

variable {perform : RunAction → Step σ ε} {switches : Switches} {exclusive : Bool} {s : σ}
  {R : σ → Prop}

theorem run_keeps (h : ∀ action, action ≠ .verify → ∀ s, R s → R (perform action s).2)
    (hverify : ∀ s', switches.skipTests = false →
      approach perform switches exclusive s = (.ok (), s') → R s' → R (perform .verify s').2)
    (hs : R s) : R (run perform switches exclusive s).2 := by
  have hguarded (action : RunAction) (haction : action ≠ .verify) :
      ∀ s, R s → R (guarded perform exclusive action s).2 :=
    guarded_keeps (h .check (by simp)) (h action haction)
  unfold run
  rw [finally_snd]
  refine h .shutdown (by simp) _ ?_
  -- Stage by stage, since the verification has to be met where the approach ends.
  refine andThen_keeps_of_ok ?_ fun s₁ hacquire hs₁ =>
    andThen_keeps_of_ok ?_ fun s₂ hleading hs₂ => ?_
  · split
    · exact h .acquire (by simp) s hs
    · exact hs
  · split
    · exact hguarded .teardown (by simp) s₁ hs₁
    · exact hs₁
  have hmain : R (andThen (if switches.skipSetup then skip else guarded perform exclusive .setup)
      (if switches.skipTests then skip else perform .verify) s₂).2 := by
    refine andThen_keeps_of_ok ?_ fun s₃ hsetup hs₃ => ?_
    · split
      · exact hs₂
      · exact hguarded .setup (by simp) s₂ hs₂
    · split
      · exact hs₃
      · rename_i htests
        refine hverify s₃ (by simpa using htests) ?_ hs₃
        unfold approach
        rw [andThen_of_ok hacquire, andThen_of_ok hleading, hsetup]
  split
  · exact hmain
  · rw [finally_snd]
    exact hguarded .teardown (by simp) _ hmain

/-! ## Trails -/

/-- The actions of a run, each with the world that it leaves put at the end of a trail. -/
def trailing (perform : RunAction → Step σ ε) (action : RunAction) : Step (σ × List σ) ε :=
  fun (s, trail) =>
    let (result, s) := perform action s
    (result, s, trail ++ [s])

/-- The world that a run starts in and the world after each of its actions. -/
def trail (perform : RunAction → Step σ ε) (switches : Switches) (exclusive : Bool) (s : σ) :
    List σ :=
  (run (trailing perform) switches exclusive (s, [s])).2.2

theorem erases_trailing (action : RunAction) :
    Erases (trailing perform action) (perform action) :=
  fun _ _ => ⟨rfl, rfl⟩

theorem getLast?_trail : (trail perform switches exclusive s).getLast? =
    some (run perform switches exclusive s).2 := by
  rw [← (erases_run erases_trailing s [s]).2]
  unfold trail run
  rw [finally_snd]
  exact List.getLast?_concat

theorem forall_mem_trail (h : ∀ action, action ≠ .verify → ∀ s, R s → R (perform action s).2)
    (hverify : ∀ s', switches.skipTests = false →
      approach perform switches exclusive s = (.ok (), s') → R s' → R (perform .verify s').2)
    (hs : R s) : ∀ x ∈ trail perform switches exclusive s, R x := by
  -- The trail is a part of the world of the run that notes it, and so kept like any other.
  have hkept : R (run (trailing perform) switches exclusive (s, [s])).2.1 ∧
      ∀ x ∈ trail perform switches exclusive s, R x := by
    refine run_keeps (R := fun w : σ × List σ => R w.1 ∧ ∀ x ∈ w.2, R x) ?_ ?_ ⟨hs, by simpa⟩
    · rintro action haction ⟨s, trail⟩ ⟨hs, htrail⟩
      have hnext := h action haction s hs
      exact ⟨hnext, List.forall_mem_append.mpr ⟨htrail, by simpa using hnext⟩⟩
    · rintro ⟨s', trail⟩ htests happroach ⟨hs', htrail⟩
      have herases : Erases (approach (trailing perform) switches exclusive)
          (approach perform switches exclusive) := erases_approach erases_trailing
      obtain ⟨hresult, hworld⟩ := herases s [s]
      rw [happroach] at hresult hworld
      have hnext := hverify s' htests (Prod.ext hresult.symm hworld.symm) hs'
      exact ⟨hnext, List.forall_mem_append.mpr ⟨htrail, by simpa using hnext⟩⟩
  exact hkept.2

end Lifecycle

/-! ## The files of a run -/

namespace Scenario

variable {τ : Type} (s : Scenario τ) (settings : Settings) (identity : String) (host : Host)
  (traffic : List Delivery) (notes : τ)

/-- The files of the host when the run has started and after each of its actions, or when it has
failed to start. -/
def fileTrail : List FileTree :=
  match RunContext.start settings identity host traffic with
  | (.error _, host) => [host.folder.files]
  | (.ok started, _) =>
    (Lifecycle.trail s.perform settings.switches s.mutates (started, notes)).map fun w => w.1.files

theorem getLast?_fileTrail : (s.fileTrail settings identity host traffic notes).getLast? =
    some (s.run settings identity host traffic notes).host.folder.files := by
  unfold fileTrail run
  rcases RunContext.start settings identity host traffic with ⟨failure | started, host'⟩
  · rfl
  · dsimp only
    rw [List.getLast?_map, Lifecycle.getLast?_trail]
    rfl

end Scenario

end GoldenCapture
