import GoldenCapture.Proofs.Lease.FolderCall
import GoldenCapture.Proofs.Lease.Sharing

/-!
# Schedules of a shared lease folder

A run as a list of turns, each with the call that takes it. Calls that are made one after the other
are one schedule among many.
-/

namespace GoldenCapture

namespace LeaseFolder

variable {α ι : Type} {path : String} {calls : ι → AnyCall}

/-! ## Turns -/

/-- What comes next: a step of a call at a time of day, or the crash of its process, perhaps in
the middle of writing. -/
inductive Turn (ι : Type) where
  | advance (id : ι) (now : Timestamp)
  | crash (id : ι)
  | tear (id : ι) (text : String)

def Turn.id : Turn ι → ι
  | .advance id _ | .crash id | .tear id _ => id

namespace Sharing

variable [DecidableEq ι]

/-- A turn that cannot be taken changes nothing: the process of the call has crashed, or what is
torn is not being written. -/
def turn (path : String) (w : Sharing calls) : Turn ι → Sharing calls
  | .advance i now =>
    match w.progress i with
    | none => w
    | some p => w.advance path i p now
  | .crash i =>
    match w.progress i with
    | none => w
    | some p => w.crash path i p w.folder.files
  | .tear i text =>
    match w.progress i with
    | some (.writing answer record) =>
      match w.folder.files.write (stagingPath path (calls i).key) text with
      | .error _ => w
      | .ok files => w.crash path i (.writing answer record) files
    | _ => w

def play (path : String) (w : Sharing calls) (turns : List (Turn ι)) : Sharing calls :=
  turns.foldl (turn path) w

variable {w w' : Sharing calls}

theorem play_append (turns turns' : List (Turn ι)) :
    w.play path (turns ++ turns') = (w.play path turns).play path turns' :=
  List.foldl_append

theorem Step.exists_turn (h : Step path w w') : ∃ t, w.turn path t = w' := by
  cases h with
  | advance i p hp now hreadable =>
    refine ⟨.advance i now, ?_⟩
    simp only [turn, hp]
  | crash i p hp =>
    refine ⟨.crash i, ?_⟩
    simp only [turn, hp]
  | tear i answer record hp text files hwrite =>
    refine ⟨.tear i text, ?_⟩
    simp only [turn, hp, hwrite]

theorem Run.exists_play (h : Run path w w') : ∃ turns, w.play path turns = w' := by
  induction h with
  | refl => exact ⟨[], rfl⟩
  | tail hrun hstep ih =>
    obtain ⟨turns, rfl⟩ := ih
    obtain ⟨t, rfl⟩ := hstep.exists_turn
    exact ⟨turns ++ [t], play_append turns [t]⟩

end Sharing

/-! ## Calls one at a time -/

variable [DecidableEq ι]

/-- The turns of a call that is made while the others rest. -/
def wholeCall (i : ι) (now : Timestamp) : List (Turn ι) :=
  List.replicate stepsOfCall (.advance i now)

theorem play_replicate {i : ι} {now : Timestamp} {steps : Nat} (slept : Nat)
    {p : Progress (calls i).α} {w : Sharing calls} (hp : w.progress i = some p)
    (hfuel : p.remaining ≤ steps) :
    (w.play path (List.replicate steps (.advance i now))).folder =
        (finish path (calls i).call now steps slept p w.folder).2 ∧
      (w.play path (List.replicate steps (.advance i now))).progress i =
        some (.finished (finish path (calls i).call now steps slept p w.folder).1.answer) ∧
      ∀ j, j ≠ i →
        (w.play path (List.replicate steps (.advance i now))).progress j = w.progress j := by
  induction steps generalizing slept p w with
  | zero =>
    cases p with
    | finished answer => exact ⟨rfl, hp, fun _ _ => rfl⟩
    | _ => simp [Progress.remaining] at hfuel
  | succ steps ih =>
    -- The world after the first of the turns.
    have hturn : w.turn path (.advance i now) = w.advance path i p now := by
      simp only [Sharing.turn, hp]
    have hplay : w.play path (List.replicate (steps + 1) (.advance i now)) =
        (w.advance path i p now).play path (List.replicate steps (.advance i now)) := by
      rw [← hturn]
      rfl
    have hnext : (w.advance path i p now).progress i =
        some (w.folder.step path (calls i).call now p).1 := Function.update_self ..
    have hothers : ∀ j, j ≠ i → (w.advance path i p now).progress j = w.progress j :=
      fun j hj => Function.update_of_ne hj ..
    rw [hplay]
    by_cases hfinished : p.isFinished = true
    · cases p with
      | finished answer =>
        obtain ⟨hfolder, hanswer, hrest⟩ := ih slept hnext (Nat.zero_le steps)
        have hsame : finish path (calls i).call now (steps + 1) slept (.finished answer) w.folder =
            finish path (calls i).call now steps slept (.finished answer) w.folder := by
          cases steps <;> rfl
        rw [hsame]
        exact ⟨hfolder, hanswer, fun j hj => (hrest j hj).trans (hothers j hj)⟩
      | _ => contradiction
    · have hfinished : p.isFinished = false := by simpa using hfinished
      have hcloser := remaining_step_lt path (calls i).call now w.folder hfinished
      obtain ⟨pause, -, hsucc⟩ := finish_succ path (calls i).call now w.folder steps slept hfinished
      obtain ⟨hfolder, hanswer, hrest⟩ := ih (slept + pause) hnext (by omega)
      rw [hsucc]
      exact ⟨hfolder, hanswer, fun j hj => (hrest j hj).trans (hothers j hj)⟩

theorem remaining_first_le (c : LeaseCall α) : (Progress.first c).remaining ≤ stepsOfCall := by
  unfold Progress.first stepsOfCall
  split
  · exact Nat.le_succ _
  · simp [Progress.remaining]

theorem play_wholeCall (path : String) {i : ι} {w : Sharing calls}
    (hp : w.progress i = some (.first (calls i).call)) (now : Timestamp) :
    (w.play path (wholeCall i now)).folder = (w.folder.call path (calls i).call now).2 ∧
      (w.play path (wholeCall i now)).progress i =
        some (.finished (w.folder.call path (calls i).call now).1.answer) ∧
      ∀ j, j ≠ i → (w.play path (wholeCall i now)).progress j = w.progress j := by
  unfold wholeCall LeaseFolder.call
  exact play_replicate 0 hp (remaining_first_le _)

end LeaseFolder

end GoldenCapture
