import GoldenCapture.FileTree
import GoldenCapture.Json.Reader
import GoldenCapture.Json.Writer
import GoldenCapture.Lease.Call
import GoldenCapture.Time.Duration

/-!
# Lease folders

The backend that keeps each record in a file, for processes that share a folder. A call that can
change a record holds an advisory lock from before it reads the record until after it has changed
it. A new record is written beside the old one and then moved over it, so whoever reads without
the lock sees one record or the other. A call goes step by step, and other calls may come between
any two steps.
-/

namespace GoldenCapture

/-- The files that lease records are kept in, and the paths that are locked. -/
structure LeaseFolder where
  files : FileTree := {}
  locked : List String := []

namespace LeaseFolder

/-! ## Names -/

/-- The start of the file names of a key: whatever is not plain becomes `_`. -/
def stem (key : String) : String :=
  key.map fun c => if c.isAlphanum || c = '-' || c = '_' || c = '.' then c else '_'

def recordPath (folder key : String) : String := FileTree.join folder (stem key ++ ".lease")

def lockPath (folder key : String) : String := FileTree.join folder (stem key ++ ".lock")

/-- Where a new record is written first. -/
def stagingPath (folder key : String) : String :=
  let name := stem key
  FileTree.join folder (if name = "" then ".lease.lease.tmp" else name ++ ".lease.tmp")

/-! ## One step of a call -/

deriving instance DecidableEq for Except

/-- How far a call has come. -/
inductive Progress (α : Type) where
  /-- Not locked yet, after so many failures. -/
  | locking (failures : Nat)
  | reading
  | writing (answer : α) (record : LeaseRecord)
  | renaming (answer : α)
  | removing (answer : α)
  | unlocking (answer : Except BackendError α)
  | finished (answer : Except BackendError α)
deriving DecidableEq

/-- A call that changes nothing needs no lock. -/
def Progress.first {α : Type} (c : LeaseCall α) : Progress α :=
  if c.changes then .locking 0 else .reading

/-- What is left to do once the answer is known. -/
def Progress.leave {α : Type} (c : LeaseCall α) (answer : Except BackendError α) : Progress α :=
  if c.changes then .unlocking answer else .finished answer

/-- How often a call tries to lock before it gives up. -/
def lockAttempts : Nat := 250

/-- The pause after a failure to lock. -/
def lockRetry : Nat := Duration.ofMillis 20

/-- Makes the lock file if it is not there. -/
def openLock (f : LeaseFolder) (path : String) : Except FileFault LeaseFolder :=
  match f.files.read path with
  | .ok _ => .ok f
  | .error .blocked => .error .blocked
  | .error .missing => (f.files.write path "").map fun files => { f with files }

/-- One attempt to lock. -/
def tryLock {α : Type} (f : LeaseFolder) (path : String) (failures : Nat) :
    Progress α × LeaseFolder :=
  match f.openLock path with
  | .error _ => (.finished (.error .storage), f)
  | .ok f =>
    if path ∈ f.locked then
      if lockAttempts ≤ failures + 1 then (.finished (.error (.notLocked path)), f)
      else (.locking (failures + 1), f)
    else (.reading, { f with locked := path :: f.locked })

/-- The record of a key, if there is one. -/
def readRecord (f : LeaseFolder) (path : String) : Except BackendError (Option LeaseRecord) :=
  match f.files.read path with
  | .error .missing => .ok none
  | .error .blocked => .error .storage
  | .ok text =>
    match (Json.parse? text).bind LeaseRecord.ofJson? with
    | none => .error .corruptRecord
    | some record => .ok (some record)

/-- The next step of a call. -/
def step {α : Type} (folder : String) (c : LeaseCall α) (now : Timestamp) (f : LeaseFolder) :
    Progress α → Progress α × LeaseFolder
  | .locking failures => f.tryLock (lockPath folder c.key) failures
  | .reading =>
    match f.readRecord (recordPath folder c.key) with
    | .error error => (.leave c (.error error), f)
    | .ok existing =>
      match c.decide existing now with
      | (answer, .keep) => (.leave c (.ok answer), f)
      | (answer, .write record) => (.writing answer record, f)
      | (answer, .remove) => (.removing answer, f)
  | .writing answer record =>
    match f.files.write (stagingPath folder c.key) record.toJson.pretty with
    | .error _ => (.leave c (.error .storage), f)
    | .ok files => (.renaming answer, { f with files })
  | .renaming answer =>
    match f.files.rename (stagingPath folder c.key) (recordPath folder c.key) with
    | .error _ => (.leave c (.error .storage), f)
    | .ok files => (.leave c (.ok answer), { f with files })
  | .removing answer =>
    match f.files.remove (recordPath folder c.key) with
    | .error _ => (.leave c (.error .storage), f)
    | .ok files => (.leave c (.ok answer), { f with files })
  | .unlocking answer =>
    (.finished answer, { f with locked := f.locked.erase (lockPath folder c.key) })
  | .finished answer => (.finished answer, f)

/-! ## A whole call -/

/-- Enough steps for any call that is left alone. -/
def stepsOfCall : Nat := lockAttempts + 6

/-- Steps until the call is finished, and how long it slept. -/
def finish {α : Type} (folder : String) (c : LeaseCall α) (now : Timestamp) :
    (steps : Nat) → (slept : Nat) → Progress α → LeaseFolder → LeaseReply α × LeaseFolder
  | _, slept, .finished answer, f => (⟨answer, some slept⟩, f)
  | 0, slept, _, f => (⟨.error .storage, some slept⟩, f)
  | steps + 1, slept, progress, f =>
    let (next, f) := f.step folder c now progress
    let pause : Nat := match progress, next with
      | .locking _, .locking _ | .locking _, .finished (.error (.notLocked _)) => lockRetry
      | _, _ => 0
    finish folder c now steps (slept + pause) next f

/-- Answers a call while nothing else happens in the folder. -/
def call {α : Type} (f : LeaseFolder) (folder : String) (c : LeaseCall α) (now : Timestamp) :
    LeaseReply α × LeaseFolder :=
  finish folder c now stepsOfCall 0 (.first c) f

/-- The backend over a folder. `clock` says what time of day it is at an instant. -/
def backend (folder : String) (clock : Nat → Timestamp) : LeaseBackend LeaseFolder where
  call c now f := f.call folder c (clock now)

end LeaseFolder

end GoldenCapture
