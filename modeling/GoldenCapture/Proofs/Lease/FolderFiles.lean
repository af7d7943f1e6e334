import GoldenCapture.Proofs.FileTree.Places
import GoldenCapture.Proofs.Lease.FolderCall

/-!
# The files of a lease

A call to a lease folder writes, moves and removes the record file, the staging file and the lock
file of its key. Every text that stands elsewhere stays as it is.
-/

namespace GoldenCapture

namespace LeaseFolder

open FileTree (locationOf)

structure Apart (folder key : String) (location : List String) : Prop where
  record : location ≠ locationOf (recordPath folder key)
  lock : location ≠ locationOf (lockPath folder key)
  staging : location ≠ locationOf (stagingPath folder key)

instance (folder key : String) (location : List String) :
    Decidable (Apart folder key location) :=
  decidable_of_iff (location ≠ locationOf (recordPath folder key) ∧
      location ≠ locationOf (lockPath folder key) ∧ location ≠ locationOf (stagingPath folder key))
    ⟨fun ⟨hrecord, hlock, hstaging⟩ => ⟨hrecord, hlock, hstaging⟩,
      fun h => ⟨h.record, h.lock, h.staging⟩⟩

variable {α : Type} {folder key : String} {c : LeaseCall α} {now : Timestamp} {f f' : LeaseFolder}
  {l : List String}

theorem fileAt?_of_openLock {path : String} (h : f.openLock path = .ok f')
    (hl : l ≠ locationOf path) : f'.files.fileAt? l = f.files.fileAt? l := by
  rcases openLock_cases h with rfl | ⟨files, hwrite, rfl⟩
  · rfl
  · exact (FileTree.fileAt?_of_write hwrite l).trans (if_neg hl)

theorem CallStep.fileAt?_eq {p p' : Progress α} (h : CallStep folder c now f p p' f')
    (hl : Apart folder c.key l) : f'.files.fileAt? l = f.files.fileAt? l := by
  cases h with
  | tryAgain failures opened hopen => exact fileAt?_of_openLock hopen hl.lock
  | notLocked failures opened hopen => exact fileAt?_of_openLock hopen hl.lock
  | lock failures opened hopen =>
    have hopened := fileAt?_of_openLock hopen hl.lock
    exact hopened
  | write answer record files hwrite =>
    exact (FileTree.fileAt?_of_write hwrite l).trans (if_neg hl.staging)
  | rename answer files hrename => exact FileTree.fileAt?_of_rename hrename hl.staging hl.record
  | remove answer files hremove => exact FileTree.fileAt?_of_remove hremove hl.record
  | _ => rfl

theorem fileAt?_finish (hl : Apart folder c.key l) (steps slept : Nat) (p : Progress α) :
    (finish folder c now steps slept p f).2.files.fileAt? l = f.files.fileAt? l := by
  induction steps generalizing slept p f with
  | zero => cases p <;> rfl
  | succ steps ih =>
    cases hfinished : p.isFinished with
    | true =>
      cases p with
      | finished answer => rfl
      | _ => contradiction
    | false =>
      obtain ⟨pause, -, hstep⟩ := finish_succ folder c now f steps slept hfinished
      rw [hstep, ih]
      exact (callStep_step folder c now f p).fileAt?_eq hl

theorem fileAt?_call (hl : Apart folder c.key l) :
    (f.call folder c now).2.files.fileAt? l = f.files.fileAt? l :=
  fileAt?_finish hl ..

end LeaseFolder

end GoldenCapture
