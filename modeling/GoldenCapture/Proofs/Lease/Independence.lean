import GoldenCapture.Proofs.FileTree.Likeness
import GoldenCapture.Proofs.Lease.Schedules

/-!
# Keys of a shared lease folder

A call depends on the files and the lock of its key and reaches no others. So the calls on one key
go as if no call on another key had ever been made, provided that no two keys go by one stem.
-/

namespace GoldenCapture

namespace LeaseFolder

open FileTree

/-! ## Folders that look alike to a key -/

def BelongsTo (key name : String) : Prop := name = lockName key ∨ IsFileOf key name

/-- The calls on a key cannot tell one folder from the other. -/
structure Alike (path : String) (place : List String) (key : String) (f f' : LeaseFolder) :
    Prop where
  files : f.files.Alike f'.files path place (BelongsTo key)
  locked : f'.locked.count (lockPath path key) = f.locked.count (lockPath path key)

/-- One step in two folders: the call goes on alike, and the folders stay alike. -/
def AlikeSteps {α : Type} (path : String) (place : List String) (key : String)
    (result result' : Progress α × LeaseFolder) : Prop :=
  result'.1 = result.1 ∧ Alike path place key result.2 result'.2

variable {α : Type} {path key : String} {place : List String} {c : LeaseCall α} {now : Timestamp}
  {f f' : LeaseFolder} {p p' : Progress α}

theorem BelongsTo.plain {name : String} (h : BelongsTo key name) : Plain name := by
  rcases h with rfl | hfile
  · exact plain_lockName key
  · exact hfile.plain

theorem BelongsTo.stagingStem_eq {name other : String} (h : BelongsTo key name)
    (h' : BelongsTo other name) : stagingStem other = stagingStem key := by
  rcases h' with hlock | hfile
  · rcases h with hlock' | hfile'
    · exact stagingStem_of_lockName (hlock.symm.trans hlock')
    · exact absurd hlock (hfile'.ne_lockName other)
  · rcases h with hlock' | hfile'
    · exact absurd hlock' (hfile.ne_lockName key)
    · exact hfile.stagingStem_eq hfile'

theorem Alike.refl (h : f.files.StandsAt path place) : Alike path place key f f :=
  ⟨.of_stands (fun _ => BelongsTo.plain) h, rfl⟩

theorem Alike.mem_locked (h : Alike path place key f f') :
    lockPath path key ∈ f'.locked ↔ lockPath path key ∈ f.locked := by
  rw [← List.count_pos_iff, ← List.count_pos_iff, h.locked]

theorem Alike.lock (h : Alike path place key f f') :
    Alike path place key { f with locked := lockPath path key :: f.locked }
      { f' with locked := lockPath path key :: f'.locked } :=
  ⟨h.files, by rw [List.count_cons_self, List.count_cons_self, h.locked]⟩

theorem Alike.unlock (h : Alike path place key f f') :
    Alike path place key { f with locked := f.locked.erase (lockPath path key) }
      { f' with locked := f'.locked.erase (lockPath path key) } :=
  ⟨h.files, by rw [List.count_erase_self, List.count_erase_self, h.locked]⟩

/-! ## A step of a call on the key -/

theorem Alike.openLock (h : Alike path place key f f') :
    (∃ fault, f.openLock (lockPath path key) = .error fault ∧
      f'.openLock (lockPath path key) = .error fault) ∨
    ∃ g g', f.openLock (lockPath path key) = .ok g ∧ f'.openLock (lockPath path key) = .ok g' ∧
      Alike path place key g g' := by
  have hread : f'.files.read (lockPath path key) = f.files.read (lockPath path key) :=
    h.files.read _ (.inl rfl)
  unfold LeaseFolder.openLock
  rw [hread]
  cases f.files.read (lockPath path key) with
  | ok text => exact .inr ⟨f, f', rfl, rfl, h⟩
  | error fault =>
    cases fault with
    | blocked => exact .inl ⟨.blocked, rfl, rfl⟩
    | missing =>
      dsimp only
      have hwritten : AlikeResults path place (BelongsTo key)
          (f.files.write (lockPath path key) "") (f'.files.write (lockPath path key) "") :=
        h.files.write (.inl rfl) ""
      rcases hwritten with ⟨fault, hwrite, hwrite'⟩ | ⟨u, u', hwrite, hwrite', halike⟩
      · rw [hwrite, hwrite']
        exact .inl ⟨fault, rfl, rfl⟩
      · rw [hwrite, hwrite']
        exact .inr ⟨_, _, rfl, rfl, halike, h.locked⟩

theorem Alike.tryLock (h : Alike path place key f f') (failures : Nat) :
    AlikeSteps path place key (f.tryLock (α := α) (lockPath path key) failures)
      (f'.tryLock (lockPath path key) failures) := by
  unfold LeaseFolder.tryLock
  rcases h.openLock with ⟨fault, hopen, hopen'⟩ | ⟨g, g', hopen, hopen', halike⟩
  · rw [hopen, hopen']
    exact ⟨rfl, h⟩
  · rw [hopen, hopen']
    dsimp only
    by_cases hlocked : lockPath path key ∈ g.locked
    · rw [if_pos hlocked, if_pos (halike.mem_locked.mpr hlocked)]
      split
      · exact ⟨rfl, halike⟩
      · exact ⟨rfl, halike⟩
    · rw [if_neg hlocked, if_neg (mt halike.mem_locked.mp hlocked)]
      exact ⟨rfl, halike.lock⟩

theorem Alike.onFiles (h : Alike path place key f f') {result result' : Except FileFault FileTree}
    (failed next : Progress α) : AlikeResults path place (BelongsTo key) result result' →
      AlikeSteps path place key
        (match result with
          | .error _ => (failed, f)
          | .ok files => (next, { f with files }))
        (match result' with
          | .error _ => (failed, f')
          | .ok files => (next, { f' with files })) := by
  rintro (⟨fault, rfl, rfl⟩ | ⟨u, u', rfl, rfl, halike⟩)
  · exact ⟨rfl, h⟩
  · exact ⟨rfl, halike, h.locked⟩

theorem Alike.step (h : Alike path place c.key f f') (now : Timestamp) (p : Progress α) :
    AlikeSteps path place c.key (f.step path c now p) (f'.step path c now p) := by
  cases p with
  | locking failures => exact h.tryLock failures
  | reading =>
    have hread : f'.readRecord (recordPath path c.key) = f.readRecord (recordPath path c.key) :=
      readRecord_congr (h.files.read _ (.inr (.inr rfl)))
    simp only [LeaseFolder.step]
    rw [hread]
    cases f.readRecord (recordPath path c.key) with
    | error error => exact ⟨rfl, h⟩
    | ok existing =>
      dsimp only
      cases c.decide existing now with
      | mk answer change => cases change <;> exact ⟨rfl, h⟩
  | writing answer record =>
    have hwritten := h.files.write (.inr (.inl rfl)) record.toJson.pretty
    simp only [LeaseFolder.step]
    rw [stagingPath_eq]
    exact h.onFiles _ _ hwritten
  | «renaming» answer =>
    have hrenamed := h.files.rename (.inr (.inl rfl)) (.inr (.inr rfl))
    simp only [LeaseFolder.step]
    rw [stagingPath_eq, recordPath_eq]
    exact h.onFiles _ _ hrenamed
  | removing answer =>
    have hremoved := h.files.remove (.inr (.inr rfl))
    simp only [LeaseFolder.step]
    rw [recordPath_eq]
    exact h.onFiles _ _ hremoved
  | unlocking answer => exact ⟨rfl, h.unlock⟩
  | finished answer => exact ⟨rfl, h⟩

/-! ## A step of a call on another key -/

theorem lockPath_ne (hne : stagingStem c.key ≠ stagingStem key) :
    lockPath path c.key ≠ lockPath path key :=
  fun heq => hne (stagingStem_of_lockName
    ((plain_lockName c.key).join_injective (plain_lockName key) heq))

theorem Alike.of_leavesAlone (h : Alike path place key f f') {g : LeaseFolder} {other : String}
    (hne : stagingStem other ≠ stagingStem key)
    (hleaves : LeavesAlone path place f g (BelongsTo other))
    (hlocked : g.locked.count (lockPath path key) = f.locked.count (lockPath path key)) :
    Alike path place key g f' where
  files := {
    plain := h.files.plain
    left := hleaves.1
    right := h.files.right
    read := by
      intro name hname
      rw [h.files.read name hname, hleaves.2 name hname.plain]
      intro hother
      exact hne (hname.stagingStem_eq hother) }
  locked := by rw [h.locked, hlocked]

theorem CallStep.count_locked (hstep : CallStep path c now f p p' f')
    (hne : stagingStem c.key ≠ stagingStem key) :
    f'.locked.count (lockPath path key) = f.locked.count (lockPath path key) := by
  rcases hstep.locked_cases with ⟨hsame, -⟩ | ⟨-, htaken⟩ | ⟨-, -, hdropped⟩
  · rw [hsame]
  · rw [htaken, List.count_cons_of_ne (lockPath_ne hne)]
  · rw [hdropped, List.count_erase_of_ne (lockPath_ne hne).symm]

theorem Alike.step_other (h : Alike path place key f f') (hne : stagingStem c.key ≠ stagingStem key)
    (now : Timestamp) (p : Progress α) : Alike path place key (f.step path c now p).2 f' := by
  have hstep := callStep_step path c now f p
  obtain ⟨hstands, hread⟩ := hstep.leavesAlone h.files.left
  refine h.of_leavesAlone hne ⟨hstands, fun name hname hother => ?_⟩ (hstep.count_locked hne)
  refine hread name hname ?_
  rintro (hlock | ⟨-, hfile⟩)
  · exact hother (.inl hlock)
  · exact hother (.inr hfile)

/-! ## Two runs -/

namespace Sharing

variable {ι : Type} {calls : ι → AnyCall} [DecidableEq ι] {w w' : Sharing calls}

/-- The calls on a key have come equally far, in folders that look alike to them. -/
structure Alike (path : String) (place : List String) (key : String) (w w' : Sharing calls) :
    Prop where
  folder : LeaseFolder.Alike path place key w.folder w'.folder
  progress : ∀ i, (calls i).key = key → w'.progress i = w.progress i

theorem Alike.update (h : Alike path place key w w') (i : ι)
    (next : Option (Progress (calls i).α)) :
    ∀ j, (calls j).key = key →
      Function.update w'.progress i next j = Function.update w.progress i next j := by
  intro j hj
  by_cases hji : j = i
  · subst hji
    rw [Function.update_self, Function.update_self]
  · rw [Function.update_of_ne hji, Function.update_of_ne hji, h.progress j hj]

theorem Alike.update_other (h : Alike path place key w w') {i : ι} (hi : (calls i).key ≠ key)
    (next : Option (Progress (calls i).α)) :
    ∀ j, (calls j).key = key → w'.progress j = Function.update w.progress i next j := by
  intro j hj
  have hji : j ≠ i := by
    rintro rfl
    exact hi hj
  rw [Function.update_of_ne hji, h.progress j hj]

theorem Alike.crash {i : ι} (h : Alike path place (calls i).key w w') (p : Progress (calls i).α)
    {files files' : FileTree}
    (hfiles : files.Alike files' path place (BelongsTo (calls i).key)) :
    Alike path place (calls i).key (w.crash path i p files) (w'.crash path i p files') := by
  refine ⟨⟨hfiles, ?_⟩, h.update i none⟩
  unfold Sharing.crash
  dsimp only
  split
  · exact h.folder.unlock.locked
  · exact h.folder.locked

theorem Alike.turn {t : Turn ι} (h : Alike path place (calls t.id).key w w') :
    Alike path place (calls t.id).key (w.turn path t) (w'.turn path t) := by
  cases t with
  | advance i now =>
    simp only [Sharing.turn, Turn.id] at h ⊢
    rw [h.progress i rfl]
    cases w.progress i with
    | none => exact h
    | some p =>
      obtain ⟨hnext, hfolder⟩ := h.folder.step now p
      refine ⟨hfolder, ?_⟩
      simp only [advance, after]
      rw [hnext]
      exact h.update i _
  | crash i =>
    simp only [Sharing.turn, Turn.id] at h ⊢
    rw [h.progress i rfl]
    cases w.progress i with
    | none => exact h
    | some p => exact h.crash p h.folder.files
  | tear i text =>
    simp only [Sharing.turn, Turn.id] at h ⊢
    rw [h.progress i rfl]
    split
    · rw [stagingPath_eq]
      rcases h.folder.files.write (.inr (.inl rfl)) text with
        ⟨fault, hwrite, hwrite'⟩ | ⟨u, u', hwrite, hwrite', halike⟩
      · rw [hwrite, hwrite']
        exact h
      · rw [hwrite, hwrite']
        exact h.crash _ halike
    · exact h

theorem Alike.crash_other (h : Alike path place key w w') {i : ι}
    (hne : stagingStem (calls i).key ≠ stagingStem key) (p : Progress (calls i).α)
    {files : FileTree}
    (hstands : files.StandsAt path place)
    (hread : ∀ name, Plain name → name ≠ stagingName (calls i).key →
      files.read (join path name) = w.folder.files.read (join path name)) :
    Alike path place key (w.crash path i p files) w' := by
  refine ⟨?_, h.update_other (mt (congrArg stagingStem) hne) none⟩
  refine h.folder.of_leavesAlone hne ⟨hstands, fun name hname hother => ?_⟩ ?_
  · exact hread name hname fun hstaging => hother (.inr (.inl hstaging))
  · unfold Sharing.crash
    dsimp only
    split
    · exact List.count_erase_of_ne (lockPath_ne hne).symm
    · rfl

theorem Alike.turn_other (h : Alike path place key w w') {t : Turn ι}
    (hne : stagingStem (calls t.id).key ≠ stagingStem key) :
    Alike path place key (w.turn path t) w' := by
  have hkey : (calls t.id).key ≠ key := mt (congrArg stagingStem) hne
  have hstands := h.folder.files.left
  cases t with
  | advance i now =>
    simp only [Sharing.turn]
    split
    · exact h
    · exact ⟨h.folder.step_other hne now _, h.update_other hkey _⟩
  | crash i =>
    simp only [Sharing.turn]
    split
    · exact h
    · exact h.crash_other hne _ hstands fun _ _ _ => rfl
  | tear i text =>
    simp only [Sharing.turn]
    split
    · split
      · exact h
      · rename_i files hwrite
        rw [stagingPath_eq] at hwrite
        have hchanged := changed_of_write hstands (plain_stagingName (calls i).key) hwrite
        exact h.crash_other hne _ hchanged.stands hchanged.read_other
    · exact h

/-- The turns of the calls on a key. -/
def ofKey (calls : ι → AnyCall) (key : String) (turns : List (Turn ι)) : List (Turn ι) :=
  turns.filter fun t => (calls t.id).key = key

theorem Alike.play (hapart : ∀ i, (calls i).key ≠ key → stagingStem (calls i).key ≠ stagingStem key)
    (turns : List (Turn ι)) (h : Alike path place key w w') :
    Alike path place key (w.play path turns) (w'.play path (ofKey calls key turns)) := by
  induction turns generalizing w w' with
  | nil => exact h
  | cons t turns ih =>
    by_cases hkey : (calls t.id).key = key
    · have hturns : ofKey calls key (t :: turns) = t :: ofKey calls key turns :=
        List.filter_cons_of_pos (by simpa using hkey)
      rw [hturns]
      subst hkey
      exact ih h.turn
    · have hturns : ofKey calls key (t :: turns) = ofKey calls key turns :=
        List.filter_cons_of_neg (by simpa using hkey)
      rw [hturns]
      exact ih (h.turn_other (hapart t.id hkey))

end Sharing

/-! ## The keys of a run -/

theorem stagingStem_of_ne_empty (h : key ≠ "") : stagingStem key = stem key :=
  if_neg fun hstem => h (key_of_stem hstem (by decide))

variable {ι : Type} [DecidableEq ι] {calls : ι → AnyCall} {start : Sharing calls}

/-- Of any number of calls on one folder, each on a key that is not empty, those on a key that
shares its stem with no other go as if all the others had never been made: they come equally far at
the same times of day and get the same answers. -/
theorem progress_play_ofKey (hstands : start.folder.files.StandsAt path place)
    (hnonempty : ∀ i, (calls i).key ≠ "")
    (hstem : ∀ i, stem (calls i).key = stem key → (calls i).key = key)
    (turns : List (Turn ι)) {i : ι} (hi : (calls i).key = key) :
    (start.play path turns).progress i =
      (start.play path (Sharing.ofKey calls key turns)).progress i := by
  have hkey : key ≠ "" := hi ▸ hnonempty i
  have hapart : ∀ j, (calls j).key ≠ key → stagingStem (calls j).key ≠ stagingStem key := by
    intro j hj hsame
    rw [stagingStem_of_ne_empty (hnonempty j), stagingStem_of_ne_empty hkey] at hsame
    exact hj (hstem j hsame)
  have hstart : start.Alike path place key start := ⟨.refl hstands, fun _ _ => rfl⟩
  have hplayed := hstart.play hapart turns
  exact (hplayed.progress i hi).symm

/-! ## Two clusters -/

abbrev pair (key other : String) (i : Bool) : AnyCall :=
  ⟨.tryAcquire (if i then key else other) (if i then "a" else "b") (Duration.ofSeconds 15)⟩

def dawn : Timestamp := ⟨1700028000000000000, false⟩

def unused : LeaseFolder := { files := ⟨⟨[(["locks"], .folder)]⟩⟩ }

theorem standsAt_unused : unused.files.StandsAt "locks" ["locks"] := ⟨by decide +kernel, rfl⟩

def pairAtDawn (key other : String) : Sharing (pair key other) where
  folder := unused
  progress i := some (.first (pair key other i).call)
  sampled _ := dawn

def oneAfterTheOther : List (Turn Bool) := wholeCall true dawn ++ wholeCall false dawn

theorem ofKey_oneAfterTheOther {key other : String} (h : key ≠ other) :
    Sharing.ofKey (pair key other) other oneAfterTheOther = wholeCall false dawn := by
  simp [Sharing.ofKey, oneAfterTheOther, wholeCall, Turn.id, AnyCall.key, LeaseCall.key, h]

theorem progress_play_ofKey_clusters :
    stem "kind/east" ≠ stem "kind/west" ∧
    ((pairAtDawn "kind/east" "kind/west").play "locks" oneAfterTheOther).progress false =
      some (.finished (.ok true)) := by
  have hgranted : (unused.call "locks" (pair "kind/east" "kind/west" false).call
      dawn).1.answer = .ok true := by decide +kernel
  constructor
  · decide +kernel
  · have hstems : ∀ i, stem (pair "kind/east" "kind/west" i).key = stem "kind/west" →
        (pair "kind/east" "kind/west" i).key = "kind/west" := by decide +kernel
    rw [progress_play_ofKey standsAt_unused (by decide) hstems oneAfterTheOther rfl,
      ofKey_oneAfterTheOther (by decide)]
    have halone := (play_wholeCall "locks" (i := false)
      (w := pairAtDawn "kind/east" "kind/west") rfl dawn).2.1
    exact halone.trans (congrArg (fun answer => some (Progress.finished answer)) hgranted)

deriving instance DecidableEq for Dictionary

deriving instance DecidableEq for FileTree

deriving instance DecidableEq for LeaseFolder

def leased : LeaseFolder where
  files := ⟨⟨[
    (["locks", "kind_cluster.lease"],
      .file (LeaseRecord.fresh "a" (Duration.ofSeconds 15) dawn).toJson.pretty),
    (["locks", "kind_cluster.lock"], .file ""),
    (["locks"], .folder)]⟩⟩

/-- A slash and an underscore are one to the folder: who holds the one key keeps others from the
other. -/
theorem refused_for_lookalike :
    (∀ i, (pair "kind/cluster" "kind_cluster" i).key ≠ "") ∧
    ((pairAtDawn "kind/cluster" "kind_cluster").play "locks" oneAfterTheOther).progress false =
      some (.finished (.ok false)) ∧
    ((pairAtDawn "kind/cluster" "kind_cluster").play "locks"
        (Sharing.ofKey (pair "kind/cluster" "kind_cluster") "kind_cluster"
          oneAfterTheOther)).progress false =
      some (.finished (.ok true)) := by
  have hleased : (unused.call "locks" (pair "kind/cluster" "kind_cluster" true).call dawn).2 =
      leased := by decide +kernel
  have hrefused : (leased.call "locks" (pair "kind/cluster" "kind_cluster" false).call
      dawn).1.answer = .ok false := by decide +kernel
  have hgranted : (unused.call "locks" (pair "kind/cluster" "kind_cluster" false).call
      dawn).1.answer = .ok true := by decide +kernel
  have hstart : ∀ i, (pairAtDawn "kind/cluster" "kind_cluster").progress i =
      some (.first (pair "kind/cluster" "kind_cluster" i).call) := fun _ => rfl
  refine ⟨by decide, ?_, ?_⟩
  · obtain ⟨hfolder, -, hother⟩ := play_wholeCall "locks" (hstart true) dawn
    have hsecond := (play_wholeCall "locks"
      ((hother false (by decide)).trans (hstart false)) dawn).2.1
    rw [hfolder.trans hleased, hrefused] at hsecond
    rw [oneAfterTheOther, Sharing.play_append, hsecond]
  · rw [ofKey_oneAfterTheOther (by decide)]
    have halone := (play_wholeCall "locks" (hstart false) dawn).2.1
    exact halone.trans (congrArg (fun answer => some (Progress.finished answer)) hgranted)

end LeaseFolder

end GoldenCapture
