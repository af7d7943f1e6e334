import GoldenCapture.Proofs.Lease.FolderSteps
import GoldenCapture.Proofs.Lease.Record
import Mathlib.Logic.Function.Basic
import Mathlib.Logic.Relation

/-!
# Shared lease folders

Any number of calls on one folder, each a step at a time, with the steps of others and any passage
of time between any two of them. Calls of one process that follow each other are calls whose steps
happen not to mix. A process may crash between any two steps, which takes its calls away and its
locks with them.

What is assumed of the file system is in the steps themselves: a move replaces a file at once, a
read sees one version of a file, and a path that is locked cannot be locked again. That a written
record reads back is asked of every record that a run writes.
-/

namespace GoldenCapture

structure AnyCall where
  {α : Type}
  call : LeaseCall α

abbrev AnyCall.key (c : AnyCall) : String := c.call.key

namespace LeaseFolder

variable {ι : Type}

/-- A call that took effect, with its answer and the time of day that it went by. -/
structure Effect (calls : ι → AnyCall) where
  id : ι
  now : Timestamp
  answer : (calls id).α

/-- A folder, how far each call has come and what has happened. -/
structure Sharing (calls : ι → AnyCall) where
  folder : LeaseFolder
  /-- Nothing once the process of the call has crashed. -/
  progress : (i : ι) → Option (Progress (calls i).α)
  /-- The time of day that each call saw when it read its record. -/
  sampled : ι → Timestamp
  /-- The effects, from the latest on. -/
  log : List (Effect calls) := []

namespace Sharing

variable {calls : ι → AnyCall} [DecidableEq ι]

/-- A call goes from `p` to `next` and leaves the folder like this. -/
def after (w : Sharing calls) (i : ι) (p next : Progress (calls i).α) (folder : LeaseFolder)
    (now : Timestamp) : Sharing calls :=
  let sampled := match p with
    | .reading => Function.update w.sampled i now
    | _ => w.sampled
  { folder
    progress := Function.update w.progress i (some next)
    sampled
    log := match effect? p next with
      | some answer => ⟨i, sampled i, answer⟩ :: w.log
      | none => w.log }

/-- The next step of a call that has come as far as `p`. -/
def advance (w : Sharing calls) (path : String) (i : ι) (p : Progress (calls i).α)
    (now : Timestamp) : Sharing calls :=
  let (next, folder) := w.folder.step path (calls i).call now p
  w.after i p next folder now

/-- The end of a call that has come as far as `p`, with the files as the crash leaves them. -/
def crash (w : Sharing calls) (path : String) (i : ι) (p : Progress (calls i).α)
    (files : FileTree) : Sharing calls :=
  let key := (calls i).key
  { w with
    folder := {
      files
      locked := if p.locked (calls i).call then w.folder.locked.erase (lockPath path key)
        else w.folder.locked }
    progress := Function.update w.progress i none }

/-- One step of one call. The time of day is whatever the clock shows then. -/
inductive Step (path : String) (w : Sharing calls) : Sharing calls → Prop
  | advance (i : ι) (p : Progress (calls i).α) (hp : w.progress i = some p) (now : Timestamp)
      (hreadable : ∀ answer record, p = .writing answer record → Readable record) :
      Step path w (w.advance path i p now)
  | crash (i : ι) (p : Progress (calls i).α) (hp : w.progress i = some p) :
      Step path w (w.crash path i p w.folder.files)
  /-- A crash in the middle of writing leaves any text where the record is written first. -/
  | tear (i : ι) (answer : (calls i).α) (record : LeaseRecord)
      (hp : w.progress i = some (.writing answer record)) (text : String) (files : FileTree)
      (hwrite : w.folder.files.write (stagingPath path (calls i).key) text = .ok files) :
      Step path w (w.crash path i (.writing answer record) files)

def Run (path : String) : Sharing calls → Sharing calls → Prop :=
  Relation.ReflTransGen (Step path)

end Sharing

/-! ## What is to be shown -/

variable (calls : ι → AnyCall)

/-- The effects, one call at a time on a table: each answer is the one that the table gives. -/
inductive Serial (table : LeaseTable) : List (Effect calls) → LeaseTable → Prop
  | nil : Serial table [] table
  | cons {log : List (Effect calls)} {t : LeaseTable} (h : Serial table log t) (e : Effect calls)
      (hanswer : (t.call (calls e.id).call e.now).1 = e.answer) :
      Serial table (e :: log) (t.call (calls e.id).call e.now).2

variable {calls}

def Sharing.text (w : Sharing calls) (path key : String) : Except FileFault String :=
  w.folder.files.read (recordPath path key)

/-- What the record file of a key holds, if that is nothing or one whole record. -/
def Sharing.record (w : Sharing calls) (path key : String) :
    Except BackendError (Option LeaseRecord) :=
  w.folder.readRecord (recordPath path key)

/-- Different keys have different stems. -/
def Distinct (calls : ι → AnyCall) : Prop :=
  ∀ i j, stem (calls i).key = stem (calls j).key → (calls i).key = (calls j).key

/-- Not both of the keys are in use whose staging files are one. -/
def Unmixed (calls : ι → AnyCall) : Prop :=
  ∀ i j, (calls i).key = "" → (calls j).key ≠ ".lease"

/-- The calls before their first steps, on a folder that is there and holds the records of a
table. -/
structure Opening (path : String) (table : LeaseTable) (start : Sharing calls) : Prop where
  stands : ∃ place, start.folder.files.StandsAt path place
  first : ∀ i, start.progress i = some (.first (calls i).call)
  log : start.log = []
  table : ∀ i record, start.record path (calls i).key = .ok record →
    table.get? (calls i).key = record

variable [DecidableEq ι]

/-- The folder is as good as a table. -/
structure Refines (path : String) (table : LeaseTable) (start w : Sharing calls) : Prop where
  /-- At every instant a record file holds nothing or one whole record: what a table holds after
  the effects, one at a time, with the same answers. -/
  serial : ∃ t, Serial calls table w.log t ∧ ∀ i record,
    start.record path (calls i).key = .ok record →
      w.record path (calls i).key = .ok (t.get? (calls i).key)
  /-- An effect goes by the time of day that its call saw. -/
  clock : ∀ e ∈ w.log, e.now = w.sampled e.id
  /-- A call has its effect once or, if it crashes, perhaps not at all. -/
  once : (w.log.map Effect.id).Nodup
  /-- A call that was answered had its effect, with this answer. -/
  answered : ∀ i answer, w.progress i = some (.finished (.ok answer)) →
    ⟨i, w.sampled i, answer⟩ ∈ w.log
  /-- A call that failed had no effect. -/
  failed : ∀ i error, w.progress i = some (.finished (.error error)) → i ∉ w.log.map Effect.id
  /-- A record file changes only with the effect of the call that goes on, a call for its key. -/
  changed : ∀ w', Sharing.Step path w w' → ∀ i,
    w'.text path (calls i).key ≠ w.text path (calls i).key →
      ∃ e, w'.log = e :: w.log ∧ (calls e.id).key = (calls i).key ∧
        ∀ j, w'.progress j ≠ w.progress j → j = e.id
  /-- A record that cannot be read is left as it is, and every call for it fails. -/
  unreadable : ∀ i error, start.record path (calls i).key = .error error →
    w.text path (calls i).key = start.text path (calls i).key ∧
      ∀ e ∈ w.log, (calls e.id).key ≠ (calls i).key

end LeaseFolder

end GoldenCapture
