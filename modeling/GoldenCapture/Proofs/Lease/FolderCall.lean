import GoldenCapture.Proofs.Lease.FolderSteps

/-!
# Whole calls to a lease folder

What a call comes to if nothing else happens in the folder until it is through: the answer and the
change that it decides on, at once, or an error and the record as it was.
-/

namespace GoldenCapture

namespace LeaseFolder

open FileTree

variable {α : Type} {folder : String} {place : List String} {c : LeaseCall α} {now : Timestamp}
  {f g g' : LeaseFolder} {p p' : Progress α}

/-- What the call writes reads back. -/
def Legible (f : LeaseFolder) (folder : String) (c : LeaseCall α) (now : Timestamp) : Prop :=
  ∀ existing answer record, f.readRecord (recordPath folder c.key) = .ok existing →
    c.decide existing now = (answer, .write record) → Readable record

/-! ## Stages -/

/-- What a call made of a folder with its answer. -/
inductive Outcome (folder : String) (c : LeaseCall α) (now : Timestamp) (f g : LeaseFolder) :
    Except BackendError α → Prop
  | done (existing : Option LeaseRecord)
      (hread : f.readRecord (recordPath folder c.key) = .ok existing)
      (hrecord : g.readRecord (recordPath folder c.key) =
        .ok ((c.decide existing now).2.apply existing)) :
      Outcome folder c now f g (.ok (c.decide existing now).1)
  | failed (error : BackendError)
      (hsame : g.files.read (recordPath folder c.key) =
        f.files.read (recordPath folder c.key)) :
      Outcome folder c now f g (.error error)

theorem outcome_of_decide {existing : Option LeaseRecord} {answer : α} {change : RecordChange}
    (hread : f.readRecord (recordPath folder c.key) = .ok existing)
    (hdecide : c.decide existing now = (answer, change))
    (hrecord : g.readRecord (recordPath folder c.key) = .ok (change.apply existing)) :
    Outcome folder c now f g (.ok answer) := by
  have hdone : Outcome folder c now f g (.ok (c.decide existing now).1) := by
    refine .done existing hread ?_
    rw [hdecide]
    exact hrecord
  rw [hdecide] at hdone
  exact hdone

/-- The record is still there as it was, and this is what the call made of it. -/
structure Bound (folder : String) (c : LeaseCall α) (now : Timestamp) (f g : LeaseFolder)
    (answer : α) (change : RecordChange) : Prop where
  same : g.files.read (recordPath folder c.key) = f.files.read (recordPath folder c.key)
  decided : ∃ existing, f.readRecord (recordPath folder c.key) = .ok existing ∧
    c.decide existing now = (answer, change)

/-- What holds of the folder once the call has come as far as this. -/
def Underway (folder : String) (c : LeaseCall α) (now : Timestamp) (f g : LeaseFolder) :
    Progress α → Prop
  | .locking _ | .reading =>
    g.files.read (recordPath folder c.key) = f.files.read (recordPath folder c.key)
  | .writing answer record => Bound folder c now f g answer (.write record)
  | .renaming answer => ∃ record, Bound folder c now f g answer (.write record) ∧
      g.files.read (stagingPath folder c.key) = .ok record.toJson.pretty
  | .removing answer => Bound folder c now f g answer .remove
  | .unlocking answer | .finished answer => Outcome folder c now f g answer

theorem underway_leave {answer : Except BackendError α} (h : Outcome folder c now f g answer) :
    Underway folder c now f g (.leave c answer) := by
  unfold Progress.leave
  split <;> exact h

theorem Underway.same (h : Underway folder c now f g p) (hp : p.settled? = none) :
    g.files.read (recordPath folder c.key) = f.files.read (recordPath folder c.key) := by
  cases p with
  | locking failures => exact h
  | reading => exact h
  | writing answer record => exact Bound.same h
  | «renaming» answer =>
    obtain ⟨record, hbound, -⟩ := h
    exact hbound.same
  | removing answer => exact Bound.same h
  | unlocking answer => contradiction
  | finished answer => contradiction

theorem Underway.step (hlegible : f.Legible folder c now) (hstands : g.files.StandsAt folder place)
    (h : Underway folder c now f g p) (hstep : CallStep folder c now g p p' g') :
    Underway folder c now f g' p' := by
  -- A step without an effect leaves the record file.
  have hquiet : effect? p p' = none → g'.files.read (recordPath folder c.key) =
      g.files.read (recordPath folder c.key) := fun hnone =>
    hstep.read_recordName hstands (.inl hnone) (stagingName_ne_recordName c.key c.key).symm
  have hread : p.settled? = none → g.readRecord (recordPath folder c.key) =
      f.readRecord (recordPath folder c.key) := fun hp => readRecord_congr (h.same hp)
  cases hstep with
  | noLockFile failures => exact .failed _ h
  | tryAgain failures g' hopen => exact (hquiet rfl).trans h
  | notLocked failures g' hopen => exact .failed _ ((hquiet rfl).trans h)
  | lock failures g' hopen hfree => exact (hquiet rfl).trans h
  | unreadable error herror => exact underway_leave (.failed error h)
  | keep existing answer hexisting hdecide =>
    exact underway_leave
      (outcome_of_decide ((hread rfl).symm.trans hexisting) hdecide hexisting)
  | prepare existing answer record hexisting hdecide =>
    exact ⟨h, existing, (hread rfl).symm.trans hexisting, hdecide⟩
  | condemn existing answer hexisting hdecide =>
    exact ⟨h, existing, (hread rfl).symm.trans hexisting, hdecide⟩
  | notWritten answer record => exact underway_leave (.failed _ (Bound.same h))
  | write answer record files hwrite =>
    refine ⟨record, ⟨(hquiet rfl).trans (Bound.same h), Bound.decided h⟩, ?_⟩
    exact read_of_write hwrite
  | notRenamed answer =>
    obtain ⟨record, hbound, -⟩ := h
    exact underway_leave (.failed _ hbound.same)
  | rename answer files hrename =>
    obtain ⟨record, ⟨-, existing, hexisting, hdecide⟩, hstaging⟩ := h
    have hreadable : Readable record := hlegible existing answer record hexisting hdecide
    rw [stagingPath_eq] at hrename hstaging
    obtain ⟨text, htext, -, hrecord, -⟩ := changed_of_rename hstands (plain_stagingName c.key)
      (plain_recordName c.key) (stagingName_ne_recordName c.key c.key) hrename
    rw [hstaging] at htext
    cases htext
    exact underway_leave (outcome_of_decide hexisting hdecide (hreadable.readRecord hrecord))
  | notRemoved answer => exact underway_leave (.failed _ (Bound.same h))
  | remove answer files hremove =>
    obtain ⟨-, existing, hexisting, hdecide⟩ := h
    have hchanged := changed_of_remove hstands (plain_recordName c.key) hremove
    exact underway_leave
      (outcome_of_decide hexisting hdecide (readRecord_of_missing hchanged.read_name))
  | unlock answer =>
    cases h with
    | done existing hexisting hrecord => exact .done existing hexisting hrecord
    | failed error hsame => exact .failed error hsame
  | rest answer => exact h

/-! ## From the first step to the last -/

/-- A bound on the steps that are left to a call. -/
def Progress.remaining : Progress α → Nat
  | .locking failures => lockAttempts - failures + 5
  | .reading => 4
  | .writing .. => 3
  | .renaming _ | .removing _ => 2
  | .unlocking _ => 1
  | .finished _ => 0

def Progress.isLocking : Progress α → Bool
  | .locking _ => true
  | _ => false

def Progress.isFinished : Progress α → Bool
  | .finished _ => true
  | _ => false

theorem remaining_leave_le (c : LeaseCall α) (answer : Except BackendError α) :
    (Progress.leave c answer).remaining ≤ 1 := by
  unfold Progress.leave
  split
  · exact Nat.le_refl 1
  · exact Nat.zero_le 1

theorem isLocking_leave (c : LeaseCall α) (answer : Except BackendError α) :
    (Progress.leave c answer).isLocking = false := by
  unfold Progress.leave
  split <;> rfl

theorem tryLock_cases (g : LeaseFolder) (path : String) (failures : Nat) :
    (∃ error, (g.tryLock path failures : Progress α × LeaseFolder).1 = .finished (.error error)) ∨
    ((g.tryLock path failures : Progress α × LeaseFolder).1 = .reading ∧ path ∉ g.locked) ∨
    (failures + 1 < lockAttempts ∧
      (g.tryLock path failures : Progress α × LeaseFolder).1 = .locking (failures + 1) ∧
      path ∈ (g.tryLock path failures : Progress α × LeaseFolder).2.locked) := by
  unfold tryLock
  cases hopen : g.openLock path with
  | error fault => exact .inl ⟨_, rfl⟩
  | ok g' =>
    have hlocks := locked_of_openLock hopen
    dsimp only
    by_cases htaken : path ∈ g'.locked
    · rw [if_pos htaken]
      by_cases hlast : lockAttempts ≤ failures + 1
      · rw [if_pos hlast]
        exact .inl ⟨_, rfl⟩
      · rw [if_neg hlast]
        exact .inr (.inr ⟨by omega, rfl, htaken⟩)
    · rw [if_neg htaken]
      rw [hlocks] at htaken
      exact .inr (.inl ⟨rfl, htaken⟩)

theorem CallStep.remaining_lt (h : CallStep folder c now g p p' g') (hp : p.isLocking = false)
    (hfinished : p.isFinished = false) :
    p'.remaining < p.remaining ∧ p'.isLocking = false := by
  have hleave : ∀ answer, (Progress.leave c answer).remaining < 2 := fun answer =>
    Nat.lt_succ_of_le (remaining_leave_le c answer)
  have hunlocked := isLocking_leave c
  cases h with
  | noLockFile | tryAgain | notLocked | lock => contradiction
  | unreadable | keep =>
    exact ⟨Nat.lt_of_lt_of_le (hleave _) (by simp [Progress.remaining]), hunlocked _⟩
  | prepare | condemn | write => exact ⟨by simp [Progress.remaining], rfl⟩
  | notWritten =>
    exact ⟨Nat.lt_of_lt_of_le (hleave _) (by simp [Progress.remaining]), hunlocked _⟩
  | notRenamed | «rename» | notRemoved | remove => exact ⟨hleave _, hunlocked _⟩
  | unlock => exact ⟨Nat.one_pos, rfl⟩
  | rest => contradiction

theorem remaining_step_lt (folder : String) (c : LeaseCall α) (now : Timestamp) (g : LeaseFolder)
    (hfinished : p.isFinished = false) :
    (g.step folder c now p).1.remaining < p.remaining := by
  by_cases hp : p.isLocking = true
  · cases p with
    | locking failures =>
      have hstep : g.step folder c now (.locking failures) =
          g.tryLock (lockPath folder c.key) failures := rfl
      rw [hstep]
      rcases tryLock_cases g (lockPath folder c.key) failures with
        ⟨error, hnext⟩ | ⟨hnext, -⟩ | ⟨hfew, hnext, -⟩
      all_goals
        rw [hnext]
        simp only [Progress.remaining]
        omega
    | _ => contradiction
  · exact ((callStep_step folder c now g p).remaining_lt (by simpa using hp) hfinished).1

theorem finish_succ (folder : String) (c : LeaseCall α) (now : Timestamp) (g : LeaseFolder)
    (steps slept : Nat) (hfinished : p.isFinished = false) :
    ∃ pause, (p.isLocking = false ∨ (g.step folder c now p).1 = .reading → pause = 0) ∧
      finish folder c now (steps + 1) slept p g =
        finish folder c now steps (slept + pause) (g.step folder c now p).1
          (g.step folder c now p).2 := by
  cases p with
  | finished answer => contradiction
  | locking failures =>
    have hunfold : ∀ stepped, g.step folder c now (.locking failures) = stepped →
        ∃ pause, (stepped.1 = .reading → pause = 0) ∧
          finish folder c now (steps + 1) slept (.locking failures) g =
            finish folder c now steps (slept + pause) stepped.1 stepped.2 := by
      intro stepped hstep
      rw [finish, hstep]
      · refine ⟨_, ?_, rfl⟩
        intro hnext
        rw [hnext]
      · nofun
    obtain ⟨pause, hpause, hnext⟩ := hunfold _ rfl
    refine ⟨pause, ?_, hnext⟩
    rintro (hp | hreading)
    · contradiction
    · exact hpause hreading
  | _ => exact ⟨0, fun _ => rfl, rfl⟩

theorem finish_outcome (hlegible : f.Legible folder c now) :
    ∀ {steps slept : Nat} {p : Progress α} {g : LeaseFolder}, p.remaining ≤ steps →
      g.files.StandsAt folder place → Underway folder c now f g p →
      (finish folder c now steps slept p g).2.files.StandsAt folder place ∧
        Outcome folder c now f (finish folder c now steps slept p g).2
          (finish folder c now steps slept p g).1.answer := by
  intro steps
  -- The induction is on the steps that are granted, which are as many as may be needed.
  induction steps with
  | zero =>
    intro slept p g hfuel hstands h
    cases p with
    | finished answer =>
      unfold finish
      exact ⟨hstands, h⟩
    | _ => simp [Progress.remaining] at hfuel
  | succ steps ih =>
    intro slept p g hfuel hstands h
    by_cases hfinished : p.isFinished = true
    · cases p with
      | finished answer =>
        unfold finish
        exact ⟨hstands, h⟩
      | _ => contradiction
    · have hfinished : p.isFinished = false := by simpa using hfinished
      obtain ⟨pause, -, hnext⟩ := finish_succ folder c now g steps slept hfinished
      have hstep := callStep_step folder c now g p
      have hcloser := remaining_step_lt folder c now g hfinished
      rw [hnext]
      exact ih (by omega) (hstep.leavesAlone hstands).1 (h.step hlegible hstands hstep)

/-! ## How long it takes -/

theorem finish_delay : ∀ {steps slept : Nat} {p : Progress α} {g : LeaseFolder},
    p.isLocking = false → (finish folder c now steps slept p g).1.delay = some slept := by
  intro steps
  induction steps with
  | zero =>
    intro slept p g hp
    cases p <;> rfl
  | succ steps ih =>
    intro slept p g hp
    by_cases hfinished : p.isFinished = true
    · cases p with
      | finished answer => rfl
      | _ => contradiction
    · have hfinished : p.isFinished = false := by simpa using hfinished
      obtain ⟨pause, hpause, hnext⟩ := finish_succ folder c now g steps slept hfinished
      have hunlocked := ((callStep_step folder c now g p).remaining_lt hp hfinished).2
      rw [hnext, ih hunlocked, hpause (.inl hp), Nat.add_zero]

theorem finish_of_locked : ∀ {steps slept failures : Nat} {g : LeaseFolder},
    lockPath folder c.key ∈ g.locked →
      ∃ error, (finish folder c now steps slept (.locking failures) g).1.answer = .error error := by
  intro steps
  induction steps with
  | zero =>
    intro slept failures g _
    exact ⟨_, rfl⟩
  | succ steps ih =>
    intro slept failures g hlocked
    obtain ⟨pause, -, hnext⟩ :=
      finish_succ folder c now g (p := .locking failures) steps slept rfl
    have hstep : g.step folder c now (.locking failures) =
        g.tryLock (lockPath folder c.key) failures := rfl
    rw [hnext, hstep]
    rcases tryLock_cases (α := α) g (lockPath folder c.key) failures with
      ⟨error, hfinished⟩ | ⟨-, hfree⟩ | ⟨-, hagain, htaken⟩
    · rw [hfinished]
      unfold finish
      exact ⟨error, rfl⟩
    · exact absurd hlocked hfree
    · rw [hagain]
      exact ih htaken

/-! ## The call as a whole -/

theorem call_outcome (hstands : f.files.StandsAt folder place)
    (hlegible : f.Legible folder c now) :
    (f.call folder c now).2.files.StandsAt folder place ∧
      Outcome folder c now f (f.call folder c now).2 (f.call folder c now).1.answer := by
  unfold call
  refine finish_outcome hlegible ?_ hstands ?_
  · unfold Progress.first
    split <;> simp [Progress.remaining, stepsOfCall]
  · unfold Progress.first
    split <;> rfl

theorem call_delay {answer : α} (h : (f.call folder c now).1.answer = .ok answer) :
    (f.call folder c now).1.delay = some 0 := by
  unfold call Progress.first at h ⊢
  by_cases hchanges : c.changes = true
  · rw [if_pos hchanges] at h ⊢
    obtain ⟨pause, hpause, hnext⟩ :=
      finish_succ folder c now f (p := .locking 0) (stepsOfCall - 1) 0 rfl
    have hsteps : stepsOfCall = stepsOfCall - 1 + 1 := rfl
    have hstep : f.step folder c now (.locking 0) = f.tryLock (lockPath folder c.key) 0 := rfl
    rw [hsteps, hnext, hstep] at h ⊢
    rw [hstep] at hpause
    rcases tryLock_cases (α := α) f (lockPath folder c.key) 0 with
      ⟨error, hfinished⟩ | ⟨hreading, -⟩ | ⟨-, hagain, htaken⟩
    · rw [hfinished] at h
      unfold finish at h
      contradiction
    · rw [hreading] at h ⊢
      rw [finish_delay rfl, hpause (.inr hreading)]
    · rw [hagain] at h
      obtain ⟨error, herror⟩ := finish_of_locked htaken
      rw [herror] at h
      contradiction
  · rw [if_neg hchanges]
    exact finish_delay rfl

end LeaseFolder

end GoldenCapture
