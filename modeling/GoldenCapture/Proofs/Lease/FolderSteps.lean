import GoldenCapture.Lease.Folder
import GoldenCapture.Proofs.FileTree.Frame

/-!
# The steps of a call to a lease folder, one by one

The files of a key, what one step of a call can be, and which files it leaves alone.
-/

namespace GoldenCapture

namespace LeaseFolder

open FileTree

/-! ## The files of a key -/

def recordName (key : String) : String := stem key ++ ".lease"

def lockName (key : String) : String := stem key ++ ".lock"

/-- What the staging file of a key goes by. A record file of which only the extension is left is
all stem, so the keys `""` and `".lease"` share a staging file. -/
def stagingStem (key : String) : String := if stem key = "" then ".lease" else stem key

def stagingName (key : String) : String := stagingStem key ++ ".lease.tmp"

variable {folder key other name : String}

theorem recordPath_eq : recordPath folder key = join folder (recordName key) := rfl

theorem stagingPath_eq : stagingPath folder key = join folder (stagingName key) := by
  unfold stagingPath stagingName stagingStem
  by_cases h : stem key = ""
  · simp only [h, if_true]
    rfl
  · simp only [h, if_false]

theorem no_slash_stem (key : String) : '/' ∉ (stem key).toList := by
  rw [stem, String.toList_map, List.mem_map]
  rintro ⟨c, -, hc⟩
  split at hc
  · rename_i hplain
    subst hc
    contradiction
  · contradiction

theorem plain_append {start extension : String} (hstart : '/' ∉ start.toList)
    (hslash : '/' ∉ extension.toList) (hlength : 2 < extension.length) :
    Plain (start ++ extension) := by
  have hlong : 2 < (start ++ extension).length := by
    rw [String.length_append]
    omega
  refine ⟨?_, ?_, ?_, ?_⟩
  · rw [String.toList_append, List.mem_append]
    rintro (h | h)
    · exact hstart h
    · exact hslash h
  all_goals
    intro heq
    rw [heq] at hlong
    contradiction

theorem plain_recordName (key : String) : Plain (recordName key) :=
  plain_append (no_slash_stem key) (by decide) (by decide)

theorem plain_lockName (key : String) : Plain (lockName key) :=
  plain_append (no_slash_stem key) (by decide) (by decide)

theorem plain_stagingName (key : String) : Plain (stagingName key) := by
  refine plain_append ?_ (by decide) (by decide)
  unfold stagingStem
  split
  · decide
  · exact no_slash_stem key

theorem getLast?_append {start extension : String} {c : Char}
    (h : extension.toList.getLast? = some c) :
    (start ++ extension).toList.getLast? = some c := by
  rw [String.toList_append, List.getLast?_append, h, Option.some_or]

theorem recordName_ne_lockName (key other : String) : recordName key ≠ lockName other := by
  -- The last letters of the two names differ.
  intro heq
  have hlast := congrArg (fun name : String => name.toList.getLast?) heq
  simp only [recordName, lockName] at hlast
  rw [getLast?_append (c := 'e') (by decide), getLast?_append (c := 'k') (by decide)] at hlast
  contradiction

theorem stagingName_ne_lockName (key other : String) : stagingName key ≠ lockName other := by
  intro heq
  have hlast := congrArg (fun name : String => name.toList.getLast?) heq
  simp only [stagingName, lockName] at hlast
  rw [getLast?_append (c := 'p') (by decide), getLast?_append (c := 'k') (by decide)] at hlast
  contradiction

theorem stagingName_ne_recordName (key other : String) : stagingName key ≠ recordName other := by
  intro heq
  have hlast := congrArg (fun name : String => name.toList.getLast?) heq
  simp only [stagingName, recordName] at hlast
  rw [getLast?_append (c := 'p') (by decide), getLast?_append (c := 'e') (by decide)] at hlast
  contradiction

theorem key_of_stem (h : stem key = name) (hplain : '_' ∉ name.toList) : key = name := by
  subst h
  rw [← String.toList_inj, stem, String.toList_map]
  rw [stem, String.toList_map, List.mem_map] at hplain
  have hkept : ∀ c ∈ key.toList,
      c = if c.isAlphanum || c = '-' || c = '_' || c = '.' then c else '_' := by
    intro c hc
    split
    · rfl
    · rename_i hother
      exact absurd ⟨c, hc, if_neg hother⟩ hplain
  exact (List.map_id _).symm.trans (List.map_congr_left hkept)

/-- Staging files tell keys apart as stems do, but for one pair. -/
theorem stagingStem_eq_iff : stagingStem key = stagingStem other ↔
    stem key = stem other ∨ stem key = "" ∧ stem other = ".lease" ∨
      stem key = ".lease" ∧ stem other = "" := by
  unfold stagingStem
  by_cases hkey : stem key = ""
  · rw [if_pos hkey]
    grind
  · rw [if_neg hkey]
    grind

theorem stagingStem_of_recordName (h : recordName key = recordName other) :
    stagingStem key = stagingStem other :=
  stagingStem_eq_iff.mpr (.inl ((String.append_left_inj _).mp h))

theorem stagingStem_of_lockName (h : lockName key = lockName other) :
    stagingStem key = stagingStem other :=
  stagingStem_eq_iff.mpr (.inl ((String.append_left_inj _).mp h))

/-- The files of a key that hold records. -/
def IsFileOf (key name : String) : Prop := name = stagingName key ∨ name = recordName key

theorem IsFileOf.plain (h : IsFileOf key name) : Plain name := by
  rcases h with rfl | rfl
  · exact plain_stagingName key
  · exact plain_recordName key

theorem IsFileOf.ne_lockName (h : IsFileOf key name) (other : String) : name ≠ lockName other := by
  rcases h with rfl | rfl
  · exact stagingName_ne_lockName key other
  · exact recordName_ne_lockName key other

theorem IsFileOf.stagingStem_eq (h : IsFileOf key name) (h' : IsFileOf other name) :
    stagingStem key = stagingStem other := by
  rcases h with rfl | rfl
  · rcases h' with hstaging | hrecord
    · exact (String.append_left_inj _).mp hstaging
    · exact absurd hrecord (stagingName_ne_recordName key other)
  · rcases h' with hstaging | hrecord
    · exact absurd hstaging.symm (stagingName_ne_recordName other key)
    · exact stagingStem_of_recordName hrecord

/-! ## One step -/

variable {α : Type} {c : LeaseCall α} {now : Timestamp} {f f' : LeaseFolder}

theorem openLock_cases {path : String} (h : f.openLock path = .ok f') :
    f' = f ∨ ∃ files, f.files.write path "" = .ok files ∧ f' = { f with files } := by
  unfold openLock at h
  split at h
  · cases h
    exact .inl rfl
  · contradiction
  · cases hwrite : f.files.write path "" with
    | error fault =>
      rw [hwrite] at h
      contradiction
    | ok files =>
      rw [hwrite] at h
      cases h
      exact .inr ⟨files, rfl, rfl⟩

inductive CallStep (folder : String) (c : LeaseCall α) (now : Timestamp) (f : LeaseFolder) :
    Progress α → Progress α → LeaseFolder → Prop
  | noLockFile (failures : Nat) :
      CallStep folder c now f (.locking failures) (.finished (.error .storage)) f
  | tryAgain (failures : Nat) (f' : LeaseFolder)
      (hopen : f.openLock (lockPath folder c.key) = .ok f') :
      CallStep folder c now f (.locking failures) (.locking (failures + 1)) f'
  | notLocked (failures : Nat) (f' : LeaseFolder)
      (hopen : f.openLock (lockPath folder c.key) = .ok f') :
      CallStep folder c now f (.locking failures)
        (.finished (.error (.notLocked (lockPath folder c.key)))) f'
  | lock (failures : Nat) (f' : LeaseFolder)
      (hopen : f.openLock (lockPath folder c.key) = .ok f')
      (hfree : lockPath folder c.key ∉ f'.locked) :
      CallStep folder c now f (.locking failures) .reading
        { f' with locked := lockPath folder c.key :: f'.locked }
  | unreadable (error : BackendError)
      (hread : f.readRecord (recordPath folder c.key) = .error error) :
      CallStep folder c now f .reading (.leave c (.error error)) f
  | keep (existing : Option LeaseRecord) (answer : α)
      (hread : f.readRecord (recordPath folder c.key) = .ok existing)
      (hdecide : c.decide existing now = (answer, .keep)) :
      CallStep folder c now f .reading (.leave c (.ok answer)) f
  | prepare (existing : Option LeaseRecord) (answer : α) (record : LeaseRecord)
      (hread : f.readRecord (recordPath folder c.key) = .ok existing)
      (hdecide : c.decide existing now = (answer, .write record)) :
      CallStep folder c now f .reading (.writing answer record) f
  | condemn (existing : Option LeaseRecord) (answer : α)
      (hread : f.readRecord (recordPath folder c.key) = .ok existing)
      (hdecide : c.decide existing now = (answer, .remove)) :
      CallStep folder c now f .reading (.removing answer) f
  | notWritten (answer : α) (record : LeaseRecord) :
      CallStep folder c now f (.writing answer record) (.leave c (.error .storage)) f
  | write (answer : α) (record : LeaseRecord) (files : FileTree)
      (hwrite : f.files.write (stagingPath folder c.key) record.toJson.pretty = .ok files) :
      CallStep folder c now f (.writing answer record) (.renaming answer) { f with files }
  | notRenamed (answer : α) :
      CallStep folder c now f (.renaming answer) (.leave c (.error .storage)) f
  | rename (answer : α) (files : FileTree)
      (hrename : f.files.rename (stagingPath folder c.key) (recordPath folder c.key) = .ok files) :
      CallStep folder c now f (.renaming answer) (.leave c (.ok answer)) { f with files }
  | notRemoved (answer : α) :
      CallStep folder c now f (.removing answer) (.leave c (.error .storage)) f
  | remove (answer : α) (files : FileTree)
      (hremove : f.files.remove (recordPath folder c.key) = .ok files) :
      CallStep folder c now f (.removing answer) (.leave c (.ok answer)) { f with files }
  | unlock (answer : Except BackendError α) :
      CallStep folder c now f (.unlocking answer) (.finished answer)
        { f with locked := f.locked.erase (lockPath folder c.key) }
  | rest (answer : Except BackendError α) :
      CallStep folder c now f (.finished answer) (.finished answer) f

theorem callStep_step (folder : String) (c : LeaseCall α) (now : Timestamp) (f : LeaseFolder)
    (p : Progress α) :
    CallStep folder c now f p (f.step folder c now p).1 (f.step folder c now p).2 := by
  cases p with
  | locking failures =>
    simp only [step, tryLock]
    cases hopen : f.openLock (lockPath folder c.key) with
    | error fault => exact .noLockFile failures
    | ok f' =>
      dsimp only
      by_cases hlocked : lockPath folder c.key ∈ f'.locked
      · rw [if_pos hlocked]
        split
        · exact .notLocked failures f' hopen
        · exact .tryAgain failures f' hopen
      · rw [if_neg hlocked]
        exact .lock failures f' hopen hlocked
  | reading =>
    simp only [step]
    cases hread : f.readRecord (recordPath folder c.key) with
    | error error => exact .unreadable error hread
    | ok existing =>
      dsimp only
      cases hdecide : c.decide existing now with
      | mk answer change =>
        cases change with
        | keep => exact .keep existing answer hread hdecide
        | write record => exact .prepare existing answer record hread hdecide
        | remove => exact .condemn existing answer hread hdecide
  | writing answer record =>
    simp only [step]
    cases hwrite : f.files.write (stagingPath folder c.key) record.toJson.pretty with
    | error fault => exact .notWritten answer record
    | ok files => exact .write answer record files hwrite
  | «renaming» answer =>
    simp only [step]
    cases hrename : f.files.rename (stagingPath folder c.key) (recordPath folder c.key) with
    | error fault => exact .notRenamed answer
    | ok files => exact .rename answer files hrename
  | removing answer =>
    simp only [step]
    cases hremove : f.files.remove (recordPath folder c.key) with
    | error fault => exact .notRemoved answer
    | ok files => exact .remove answer files hremove
  | unlocking answer => exact .unlock answer
  | finished answer => exact .rest answer

/-! ## What a step leaves alone -/

/-- The next step changes the files of the key. -/
def Progress.touches : Progress α → Bool
  | .writing .. | .renaming _ | .removing _ => true
  | _ => false

variable {p p' : Progress α} {place : List String}

theorem locked_of_openLock {path : String} (h : f.openLock path = .ok f') :
    f'.locked = f.locked := by
  rcases openLock_cases h with rfl | ⟨files, -, rfl⟩ <;> rfl

/-- The folder stays, and so does every file that is not touched. -/
def LeavesAlone (folder : String) (place : List String) (f f' : LeaseFolder)
    (touched : String → Prop) : Prop :=
  f'.files.StandsAt folder place ∧ ∀ name, Plain name → ¬ touched name →
    f'.files.read (join folder name) = f.files.read (join folder name)

theorem leavesAlone_of_openLock (hstands : f.files.StandsAt folder place)
    (h : f.openLock (lockPath folder key) = .ok f') :
    LeavesAlone folder place f f' fun name => name = lockName key := by
  rcases openLock_cases h with rfl | ⟨files, hwrite, rfl⟩
  · exact ⟨hstands, fun _ _ _ => rfl⟩
  · have hchanged := changed_of_write hstands (plain_lockName key) hwrite
    exact ⟨hchanged.stands, hchanged.read_other⟩

theorem CallStep.leavesAlone (hstands : f.files.StandsAt folder place)
    (h : CallStep folder c now f p p' f') :
    LeavesAlone folder place f f' fun name =>
      name = lockName c.key ∨ p.touches = true ∧ IsFileOf c.key name := by
  have hsame : LeavesAlone folder place f f fun name =>
      name = lockName c.key ∨ p.touches = true ∧ IsFileOf c.key name :=
    ⟨hstands, fun _ _ _ => rfl⟩
  cases h with
  | tryAgain failures f' hopen | notLocked failures f' hopen | lock failures f' hopen hfree =>
    obtain ⟨hstands', hread⟩ := leavesAlone_of_openLock hstands hopen
    exact ⟨hstands', fun name hname h => hread name hname fun hlock => h (.inl hlock)⟩
  | write answer record files hwrite =>
    rw [stagingPath_eq] at hwrite
    have hchanged := changed_of_write hstands (plain_stagingName c.key) hwrite
    exact ⟨hchanged.stands, fun name hname h =>
      hchanged.read_other name hname fun hs => h (.inr ⟨rfl, .inl hs⟩)⟩
  | rename answer files hrename =>
    rw [stagingPath_eq, recordPath_eq] at hrename
    obtain ⟨text, -, hstands', -, hread⟩ := changed_of_rename hstands (plain_stagingName c.key)
      (plain_recordName c.key) (stagingName_ne_recordName c.key c.key) hrename
    exact ⟨hstands', fun name hname h => hread name hname
      (fun hs => h (.inr ⟨rfl, .inl hs⟩)) (fun hr => h (.inr ⟨rfl, .inr hr⟩))⟩
  | remove answer files hremove =>
    rw [recordPath_eq] at hremove
    have hchanged := changed_of_remove hstands (plain_recordName c.key) hremove
    exact ⟨hchanged.stands, fun name hname h =>
      hchanged.read_other name hname fun hr => h (.inr ⟨rfl, .inr hr⟩)⟩
  | _ => exact hsame

theorem readRecord_congr {path : String} (h : f'.files.read path = f.files.read path) :
    f'.readRecord path = f.readRecord path := by
  rw [readRecord, readRecord, h]

def Readable (r : LeaseRecord) : Prop :=
  (Json.parse? r.toJson.pretty).bind LeaseRecord.ofJson? = some r

theorem Readable.readRecord {r : LeaseRecord} (h : Readable r) {path : String}
    (hread : f.files.read path = .ok r.toJson.pretty) : f.readRecord path = .ok (some r) := by
  unfold Readable at h
  simp only [LeaseFolder.readRecord, hread, h]

theorem readRecord_of_missing {path : String} (hread : f.files.read path = .error .missing) :
    f.readRecord path = .ok none := by
  simp only [readRecord, hread]

/-! ## Locks -/

/-- Whether a call that has come so far holds the lock of its key. -/
def Progress.locked (c : LeaseCall α) : Progress α → Bool
  | .locking _ | .finished _ => false
  | _ => c.changes

theorem locked_leave (c : LeaseCall α) (answer : Except BackendError α) :
    (Progress.leave c answer).locked c = c.changes := by
  unfold Progress.leave
  split
  · rfl
  · rename_i hchanges
    exact (Bool.eq_false_iff.mpr hchanges).symm

theorem CallStep.locked_cases (h : CallStep folder c now f p p' f') :
    (f'.locked = f.locked ∧ p'.locked c = p.locked c) ∨
    (lockPath folder c.key ∉ f.locked ∧ f'.locked = lockPath folder c.key :: f.locked) ∨
    ((∃ answer, p = .unlocking answer) ∧ p'.locked c = false ∧
      f'.locked = f.locked.erase (lockPath folder c.key)) := by
  cases h with
  | noLockFile | prepare | condemn | write | rest => exact .inl ⟨rfl, rfl⟩
  | tryAgain failures f' hopen => exact .inl ⟨locked_of_openLock hopen, rfl⟩
  | notLocked failures f' hopen => exact .inl ⟨locked_of_openLock hopen, rfl⟩
  | lock failures f' hopen hfree =>
    rw [locked_of_openLock hopen] at hfree ⊢
    exact .inr (.inl ⟨hfree, rfl⟩)
  | unlock answer => exact .inr (.inr ⟨⟨answer, rfl⟩, rfl, rfl⟩)
  | _ => exact .inl ⟨rfl, locked_leave c _⟩

/-! ## Settled answers -/

/-- The answer, once nothing that is left to do can change it. -/
def Progress.settled? : Progress α → Option (Except BackendError α)
  | .unlocking answer | .finished answer => some answer
  | _ => none

/-- A call takes effect with the step that settles its answer, if the answer is no error. -/
def effect? (before after : Progress α) : Option α :=
  match before.settled?, after.settled? with
  | none, some (.ok answer) => some answer
  | _, _ => none

theorem settled?_leave (c : LeaseCall α) (answer : Except BackendError α) :
    (Progress.leave c answer).settled? = some answer := by
  unfold Progress.leave
  split <;> rfl

theorem effect?_leave_ok (c : LeaseCall α) (answer : α) (h : p.settled? = none) :
    effect? p (.leave c (.ok answer)) = some answer := by
  rw [effect?, h, settled?_leave]

theorem effect?_leave_error (c : LeaseCall α) (error : BackendError) :
    effect? p (.leave c (.error error)) = none := by
  rw [effect?, settled?_leave]
  split <;> simp_all

theorem CallStep.read_recordName (hstands : f.files.StandsAt folder place)
    (h : CallStep folder c now f p p' f')
    (hquiet : effect? p p' = none ∨ recordName other ≠ recordName c.key)
    (hstaging : recordName other ≠ stagingName c.key) :
    f'.files.read (join folder (recordName other)) =
      f.files.read (join folder (recordName other)) := by
  by_cases htouches : p.touches = true ∧ recordName other = recordName c.key
  · obtain ⟨htouches, hname⟩ := htouches
    have hquiet := hquiet.resolve_right (not_not_intro hname)
    cases h with
    | write answer record files hwrite =>
      rw [stagingPath_eq] at hwrite
      exact (changed_of_write hstands (plain_stagingName c.key) hwrite).read_other _
        (plain_recordName other) hstaging
    | rename answer files hrename =>
      rw [effect?_leave_ok c answer rfl] at hquiet
      contradiction
    | remove answer files hremove =>
      rw [effect?_leave_ok c answer rfl] at hquiet
      contradiction
    | notWritten | notRenamed | notRemoved => rfl
    | _ => contradiction
  · refine (h.leavesAlone hstands).2 _ (plain_recordName other) ?_
    rintro (hlock | ⟨ht, hs | hr⟩)
    · exact recordName_ne_lockName other c.key hlock
    · exact hstaging hs
    · exact htouches ⟨ht, hr⟩

end LeaseFolder

end GoldenCapture
