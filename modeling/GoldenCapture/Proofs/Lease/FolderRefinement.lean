import GoldenCapture.Proofs.Lease.FolderInvariant

/-!
# A shared folder is as good as a table

Whatever order the steps of the calls come in and wherever they crash, the folder holds what a
table would hold after the effects, one at a time.
-/

namespace GoldenCapture

namespace LeaseFolder

open FileTree

variable {ι : Type} {calls : ι → AnyCall} {path : String}

/-! ## A step of a call -/

section

variable [DecidableEq ι] {place : List String} {table : LeaseTable} {start w : Sharing calls}
  {i : ι} {p next : Progress (calls i).α} {folder : LeaseFolder} {now : Timestamp}

theorem after_progress : (w.after i p next folder now).progress i = some next := by
  simp [Sharing.after]

theorem Guarded.move_after (hg : Guarded path place table start w) (hp : w.progress i = some p)
    (hstep : CallStep path (calls i).call now w.folder p next folder) :
    Move path place w (w.after i p next folder now) i p where
  progress j hji := Function.update_of_ne hji _ _
  sampled j hji := by
    unfold Sharing.after
    dsimp only
    split
    · exact Function.update_of_ne hji _ _
    · rfl
  log := by
    unfold Sharing.after
    dsimp only
    split
    · exact .inr ⟨_, _, rfl⟩
    · exact .inl rfl
  files := hstep.leavesAlone hg.stands
  locks lock hlock := by
    rcases hstep.locked_cases with ⟨hsame, -⟩ | ⟨-, htaken⟩ | ⟨⟨answer, rfl⟩, -, hdropped⟩
    · exact .inr (hsame ▸ hlock)
    · exact .inr (htaken ▸ List.mem_cons_of_mem _ hlock)
    · by_cases hown : lock = lockPath path (calls i).key
      · exact .inl ⟨(hg.stage i _ hp).1, hown⟩
      · refine .inr (hdropped ▸ ?_)
        exact (List.mem_erase_of_ne hown).mpr hlock
  own q hq hlocked := by
    rw [after_progress] at hq
    cases hq
    rcases hstep.locked_cases with ⟨hsame, hkept⟩ | ⟨hfree, htaken⟩ | ⟨-, hnot, -⟩
    · rw [hkept] at hlocked
      exact ⟨hsame ▸ hg.held i p hp hlocked, .inl hlocked⟩
    · exact ⟨htaken ▸ List.mem_cons_self, .inr hfree⟩
    · rw [hnot] at hlocked
      contradiction

theorem after_sampled (h : p ≠ .reading) : (w.after i p next folder now).sampled = w.sampled := by
  unfold Sharing.after
  dsimp only
  split
  · contradiction
  · rfl

theorem after_sampled_reading : (w.after i .reading next folder now).sampled i = now := by
  simp [Sharing.after]

theorem after_log_of_none (he : effect? p next = none) :
    (w.after i p next folder now).log = w.log := by
  unfold Sharing.after
  dsimp only
  rw [he]

theorem after_log_of_some {answer : (calls i).α} (he : effect? p next = some answer) :
    (w.after i p next folder now).log =
      ⟨i, (w.after i p next folder now).sampled i, answer⟩ :: w.log := by
  unfold Sharing.after
  dsimp only
  rw [he]

theorem Guarded.stage_after (hg : Guarded path place table start w) (hp : w.progress i = some p)
    (hreadable : ∀ answer record, p = .writing answer record → Readable record)
    (hstep : CallStep path (calls i).call now w.folder p next folder) :
    Stage (w.after i p next folder now) path i next := by
  have hstage := hg.stage i p hp
  have hidle : effect? p next = none → Idle w i → Idle (w.after i p next folder now) i := by
    intro he hi
    unfold Idle at hi ⊢
    rw [after_log_of_none he]
    exact hi
  have heffect : ∀ answer, effect? p next = some answer →
      Settled (w.after i p next folder now) i (.ok answer) := by
    intro answer he
    refine ⟨(w.after i p next folder now).sampled i, ?_⟩
    rw [after_log_of_some he]
    exact List.mem_cons_self
  cases hstep with
  | noLockFile | tryAgain | notLocked | lock => exact hidle rfl hstage
  | unreadable error hread =>
    exact Stage.leave (hidle (effect?_leave_error _ error) hstage)
  | keep existing answer hread hdecide =>
    exact Stage.leave (heffect answer (effect?_leave_ok _ answer rfl))
  | prepare existing answer record hread hdecide | condemn existing answer hread hdecide =>
    refine ⟨hidle rfl hstage, existing, hread, ?_⟩
    rw [after_sampled_reading]
    exact hdecide
  | notWritten | notRenamed | notRemoved =>
    exact Stage.leave (hidle (effect?_leave_error _ _) hstage.1)
  | write answer record files hwrite =>
    obtain ⟨hi, existing, hread, hdecide⟩ := hstage
    rw [stagingPath_eq] at hwrite
    have hchanged := changed_of_write hg.stands (plain_stagingName _) hwrite
    refine ⟨hidle rfl hi, record, ⟨existing, ?_, hdecide⟩, ?_, hreadable answer record rfl⟩
    · rw [← hread]
      exact readRecord_congr (hchanged.read_other _ (plain_recordName _)
        (stagingName_ne_recordName _ _).symm)
    · rw [stagingPath_eq]
      exact hchanged.read_name
  | rename answer files hrename =>
    exact Stage.leave (heffect answer (effect?_leave_ok _ answer rfl))
  | remove answer files hremove =>
    exact Stage.leave (heffect answer (effect?_leave_ok _ answer rfl))
  | unlock answer =>
    obtain ⟨-, hsettled⟩ := hstage
    cases answer with
    | ok answer => exact hsettled
    | error error => exact hidle rfl hsettled
  | rest answer =>
    cases answer with
    | ok answer => exact hstage
    | error error => exact hidle rfl hstage

/-- A step that takes effect does to the record file what the call decides on the record. -/
theorem Guarded.effect (hg : Guarded path place table start w) (hp : w.progress i = some p)
    (hstep : CallStep path (calls i).call now w.folder p next folder) {answer : (calls i).α}
    (he : effect? p next = some answer) :
    Idle w i ∧ ∃ existing change, w.record path (calls i).key = .ok existing ∧
      (calls i).call.decide existing ((w.after i p next folder now).sampled i) =
        (answer, change) ∧
      (w.after i p next folder now).record path (calls i).key = .ok (change.apply existing) := by
  have hstage := hg.stage i p hp
  cases hstep with
  | keep existing kept hread hdecide =>
    rw [effect?_leave_ok _ kept rfl, Option.some.injEq] at he
    subst he
    refine ⟨hstage, existing, .keep, hread, ?_, hread⟩
    rw [after_sampled_reading]
    exact hdecide
  | rename kept files hrename =>
    rw [effect?_leave_ok _ kept rfl, Option.some.injEq] at he
    subst he
    obtain ⟨hi, record, ⟨existing, hread, hdecide⟩, hstaging, hreadable⟩ := hstage
    rw [stagingPath_eq] at hrename hstaging
    obtain ⟨text, htext, -, htarget, -⟩ := changed_of_rename hg.stands (plain_stagingName _)
      (plain_recordName _) (stagingName_ne_recordName _ _) hrename
    rw [hstaging] at htext
    cases htext
    exact ⟨hi, existing, .write record, hread, hdecide, hreadable.readRecord htarget⟩
  | remove kept files hremove =>
    rw [effect?_leave_ok _ kept rfl, Option.some.injEq] at he
    subst he
    obtain ⟨hi, existing, hread, hdecide⟩ := hstage
    have hchanged := changed_of_remove hg.stands (plain_recordName _) hremove
    exact ⟨hi, existing, .remove, hread, hdecide, readRecord_of_missing hchanged.read_name⟩
  | unreadable | notWritten | notRenamed | notRemoved =>
    rw [effect?_leave_error] at he
    contradiction
  | _ => contradiction

theorem Guarded.text_after (hg : Guarded path place table start w)
    (hstep : CallStep path (calls i).call now w.folder p next folder) {key : String}
    (hquiet : effect? p next = none ∨ recordName key ≠ recordName (calls i).key) :
    (w.after i p next folder now).text path key = w.text path key :=
  hstep.read_recordName hg.stands hquiet (stagingName_ne_recordName _ _).symm

theorem Guarded.serial_after (hg : Guarded path place table start w) (hd : Separate calls)
    (hp : w.progress i = some p)
    (hstep : CallStep path (calls i).call now w.folder p next folder) :
    ∃ t, Serial calls table (w.after i p next folder now).log t ∧ ∀ j record,
      start.record path (calls j).key = .ok record →
        (w.after i p next folder now).record path (calls j).key =
          .ok (t.get? (calls j).key) := by
  obtain ⟨t, hserial, hrecords⟩ := hg.serial
  cases he : effect? p next with
  | none =>
    rw [after_log_of_none he]
    refine ⟨t, hserial, fun j record hj => ?_⟩
    rw [← hrecords j record hj]
    exact readRecord_congr (hg.text_after hstep (.inl he))
  | some answer =>
    obtain ⟨-, existing, change, hread, hdecide, hafter⟩ := hg.effect hp hstep he
    obtain ⟨record, hstart⟩ := hg.readable_of_record hread
    -- The call read what the table has, so the table gives the same answer and changes alike.
    have hexisting : existing = t.get? (calls i).key := by
      have htable := hrecords i record hstart
      rw [hread] at htable
      exact Except.ok.inj htable
    rw [hexisting] at hdecide hafter
    have hanswer : (t.call (calls i).call ((w.after i p next folder now).sampled i)).1 =
        answer := by
      rw [LeaseTable.call, hdecide]
    rw [after_log_of_some he]
    refine ⟨_, hserial.cons ⟨i, _, answer⟩ hanswer, fun j record hj => ?_⟩
    rw [LeaseTable.get?_call, hdecide]
    by_cases hkey : (calls j).key = (calls i).key
    · rw [if_pos hkey, hkey]
      exact hafter
    · rw [if_neg hkey, ← hrecords j record hj]
      exact readRecord_congr (hg.text_after hstep (.inr (hd.recordName_ne hkey)))

theorem Guarded.unreadable_after (hg : Guarded path place table start w) (hd : Separate calls)
    (hp : w.progress i = some p)
    (hstep : CallStep path (calls i).call now w.folder p next folder) (j : ι)
    (error : BackendError) (hj : start.record path (calls j).key = .error error) :
    (w.after i p next folder now).text path (calls j).key = start.text path (calls j).key ∧
      ∀ e ∈ (w.after i p next folder now).log, (calls e.id).key ≠ (calls j).key := by
  obtain ⟨htext, hlog⟩ := hg.unreadable j error hj
  cases he : effect? p next with
  | none =>
    rw [after_log_of_none he, hg.text_after hstep (.inl he)]
    exact ⟨htext, hlog⟩
  | some answer =>
    obtain ⟨-, existing, change, hread, -, -⟩ := hg.effect hp hstep he
    have hkey : (calls j).key ≠ (calls i).key := by
      intro hkey
      obtain ⟨record, hstart⟩ := hg.readable_of_record hread
      rw [← hkey, hj] at hstart
      contradiction
    rw [after_log_of_some he, hg.text_after hstep (.inr (hd.recordName_ne hkey))]
    refine ⟨htext, fun e hmem => ?_⟩
    rcases List.mem_cons.mp hmem with rfl | hmem
    · exact hkey.symm
    · exact hlog e hmem

theorem Guarded.clock_after (hg : Guarded path place table start w) (hp : w.progress i = some p)
    (hstep : CallStep path (calls i).call now w.folder p next folder) :
    ∀ e ∈ (w.after i p next folder now).log,
      e.now = (w.after i p next folder now).sampled e.id := by
  have hold : ∀ e ∈ w.log, e.now = (w.after i p next folder now).sampled e.id := by
    intro e he
    rw [hg.clock e he]
    by_cases hei : e.id = i
    · have hnot : p ≠ .reading := by
        rintro rfl
        exact hg.stage i _ hp (hei ▸ List.mem_map_of_mem he)
      rw [after_sampled hnot]
    · exact ((hg.move_after hp hstep).sampled e.id hei).symm
  cases he : effect? p next with
  | none =>
    rw [after_log_of_none he]
    exact hold
  | some answer =>
    rw [after_log_of_some he]
    intro e hmem
    rcases List.mem_cons.mp hmem with rfl | hmem
    · rfl
    · exact hold e hmem

theorem Guarded.once_after (hg : Guarded path place table start w) (hp : w.progress i = some p)
    (hstep : CallStep path (calls i).call now w.folder p next folder) :
    ((w.after i p next folder now).log.map Effect.id).Nodup := by
  cases he : effect? p next with
  | none =>
    rw [after_log_of_none he]
    exact hg.once
  | some answer =>
    obtain ⟨hidle, -⟩ := hg.effect hp hstep he
    rw [after_log_of_some he, List.map_cons, List.nodup_cons]
    exact ⟨hidle, hg.once⟩

theorem Guarded.after (hg : Guarded path place table start w) (hd : Separate calls)
    (hp : w.progress i = some p)
    (hreadable : ∀ answer record, p = .writing answer record → Readable record)
    (hstep : CallStep path (calls i).call now w.folder p next folder) :
    Guarded path place table start (w.after i p next folder now) where
  stands := (hstep.leavesAlone hg.stands).1
  held := hg.held_of_move hd hp (hg.move_after hp hstep)
  exclusive := hg.exclusive_of_move hp (hg.move_after hp hstep)
  stage j q hq := by
    by_cases hji : j = i
    · subst hji
      rw [after_progress] at hq
      cases hq
      exact hg.stage_after hp hreadable hstep
    · exact hg.stage_of_move hd hp (hg.move_after hp hstep) hji q hq
  clock := hg.clock_after hp hstep
  once := hg.once_after hp hstep
  serial := hg.serial_after hd hp hstep
  unreadable := hg.unreadable_after hd hp hstep

/-! ## A crash -/

theorem move_crash {files : FileTree}
    (hfiles : LeavesAlone path place w.folder ⟨files, w.folder.locked⟩ fun name =>
      name = lockName (calls i).key ∨ p.touches = true ∧ IsFileOf (calls i).key name) :
    Move path place w (w.crash path i p files) i p where
  progress j hji := Function.update_of_ne hji _ _
  sampled j hji := rfl
  log := .inl rfl
  files := hfiles
  locks lock hlock := by
    unfold Sharing.crash
    dsimp only
    split
    · rename_i hlocked
      by_cases hown : lock = lockPath path (calls i).key
      · exact .inl ⟨hlocked, hown⟩
      · exact .inr ((List.mem_erase_of_ne hown).mpr hlock)
    · exact .inr hlock
  own q hq hlocked := by
    simp [Sharing.crash] at hq

theorem Guarded.crash (hg : Guarded path place table start w) (hd : Separate calls)
    (hp : w.progress i = some p) {files : FileTree}
    (hfiles : LeavesAlone path place w.folder ⟨files, w.folder.locked⟩ fun name =>
      name = lockName (calls i).key ∨ p.touches = true ∧ IsFileOf (calls i).key name)
    (htext : ∀ key, (w.crash path i p files).text path key = w.text path key) :
    Guarded path place table start (w.crash path i p files) where
  stands := hfiles.1
  held := hg.held_of_move hd hp (move_crash hfiles)
  exclusive := hg.exclusive_of_move hp (move_crash hfiles)
  stage j q hq := by
    by_cases hji : j = i
    · subst hji
      simp [Sharing.crash] at hq
    · exact hg.stage_of_move hd hp (move_crash hfiles) hji q hq
  clock := hg.clock
  once := hg.once
  serial := by
    obtain ⟨t, hserial, hrecords⟩ := hg.serial
    refine ⟨t, hserial, fun j record hj => ?_⟩
    rw [← hrecords j record hj]
    exact readRecord_congr (htext _)
  unreadable j error hj := by
    rw [htext]
    exact hg.unreadable j error hj

/-! ## Runs -/

theorem Guarded.step (hg : Guarded path place table start w) (hd : Separate calls)
    {w' : Sharing calls} (h : Sharing.Step path w w') : Guarded path place table start w' := by
  cases h with
  | advance i p hp now hreadable =>
    exact hg.after hd hp hreadable (callStep_step path (calls i).call now w.folder p)
  | crash i p hp => exact hg.crash hd hp ⟨hg.stands, fun _ _ _ => rfl⟩ fun _ => rfl
  | tear i answer record hp text files hwrite =>
    rw [stagingPath_eq] at hwrite
    have hchanged := changed_of_write hg.stands (plain_stagingName _) hwrite
    refine hg.crash hd hp ⟨hchanged.stands, fun name hname h => ?_⟩ fun key => ?_
    · exact hchanged.read_other name hname fun hs => h (.inr ⟨rfl, .inl hs⟩)
    · exact hchanged.read_other _ (plain_recordName key) (stagingName_ne_recordName _ _).symm

theorem guarded_of_run (hopening : Opening path table start) (hd : Separate calls)
    (hrun : Sharing.Run path start w) : ∃ place, Guarded path place table start w := by
  obtain ⟨place, hg⟩ := guarded_of_opening hopening
  refine ⟨place, ?_⟩
  induction hrun with
  | refl => exact hg
  | tail _ hstep ih => exact ih.step hd hstep

theorem Guarded.changed (hg : Guarded path place table start w) (hd : Separate calls)
    {w' : Sharing calls} (h : Sharing.Step path w w') (j : ι)
    (hne : w'.text path (calls j).key ≠ w.text path (calls j).key) :
    ∃ e, w'.log = e :: w.log ∧ (calls e.id).key = (calls j).key ∧
      ∀ k, w'.progress k ≠ w.progress k → k = e.id := by
  cases h with
  | advance i p hp now hreadable =>
    have hstep := callStep_step path (calls i).call now w.folder p
    cases he : effect? p (w.folder.step path (calls i).call now p).1 with
    | none => exact absurd (hg.text_after hstep (.inl he)) hne
    | some answer =>
      refine ⟨_, after_log_of_some he, ?_, fun k hk => ?_⟩
      · apply Classical.byContradiction
        intro hkey
        exact hne (hg.text_after hstep (.inr (hd.recordName_ne (Ne.symm hkey))))
      · apply Classical.byContradiction
        intro hki
        exact hk ((hg.move_after hp hstep).progress k hki)
  | crash i p hp => exact absurd rfl hne
  | tear i answer record hp text files hwrite =>
    rw [stagingPath_eq] at hwrite
    have hchanged := changed_of_write hg.stands (plain_stagingName _) hwrite
    exact absurd (hchanged.read_other _ (plain_recordName _)
      (stagingName_ne_recordName _ _).symm) hne

/-- Of keys with different stems no two share a file, unless they are `""` and `".lease"`. -/
theorem refines_of_run (hopening : Opening path table start) (hdistinct : Distinct calls)
    (hunmixed : Unmixed calls) (hrun : Sharing.Run path start w) : Refines path table start w := by
  have hd : Separate calls := hdistinct.separate hunmixed
  obtain ⟨place, hg⟩ := guarded_of_run hopening hd hrun
  exact {
    serial := hg.serial
    clock := hg.clock
    once := hg.once
    answered := fun i answer hi => by
      obtain ⟨now, hmem⟩ := hg.stage i _ hi
      have hnow : now = w.sampled i := hg.clock _ hmem
      exact hnow ▸ hmem
    failed := fun i error hi => hg.stage i _ hi
    changed := fun w' hstep i hne => hg.changed hd hstep i hne
    unreadable := hg.unreadable }

end

/-! ## Two calls -/

def noon : Timestamp := ⟨1700049600000000000, false⟩

def bare : LeaseFolder := { files := ⟨⟨[(["locks"], .folder)]⟩⟩ }

theorem standsAt_bare : bare.files.StandsAt "locks" ["locks"] := ⟨by decide +kernel, rfl⟩

def atNoon (calls : Bool → AnyCall) : Sharing calls where
  folder := bare
  progress i := some (.first (calls i).call)
  sampled _ := noon

theorem opening_atNoon {calls : Bool → AnyCall}
    (hempty : ∀ i, (atNoon calls).record "locks" (calls i).key = .ok none) :
    Opening "locks" {} (atNoon calls) where
  stands := ⟨_, standsAt_bare⟩
  first _ := rfl
  log := rfl
  table i record h := by
    cases (hempty i).symm.trans h
    rfl

def rivals (i : Bool) : AnyCall :=
  ⟨.tryAcquire "deploy" (if i then "a" else "b") (Duration.ofSeconds 15)⟩

instance (i : Bool) : DecidableEq (rivals i).α := inferInstanceAs (DecidableEq Bool)

/-- The second call tries to lock while the first is between writing its record and moving it. -/
theorem refines_of_run_rivals : ∃ w, Sharing.Run "locks" (atNoon rivals) w ∧
    w.progress true = some (.finished (.ok true)) ∧
    w.progress false = some (.finished (.ok false)) ∧ Refines "locks" {} (atNoon rivals) w := by
  have hwritten : ∀ answer record,
      (.writing true (.fresh "a" (Duration.ofSeconds 15) noon) : Progress (rivals true).α) =
        .writing answer record → Readable record := by
    intro answer record h
    cases h
    unfold Readable
    decide +kernel
  have hrun : Sharing.Run "locks" (atNoon rivals) _ :=
    Relation.ReflTransGen.refl
      |>.tail (.advance true (.locking 0) rfl noon fun _ _ => nofun)
      |>.tail (.advance true .reading (by decide +kernel) noon fun _ _ => nofun)
      |>.tail (.advance true _ (by decide +kernel) noon hwritten)
      |>.tail (.advance false (.locking 0) (by decide +kernel) noon fun _ _ => nofun)
      |>.tail (.advance true (.renaming true) (by decide +kernel) noon fun _ _ => nofun)
      |>.tail (.advance true (.unlocking (.ok true)) (by decide +kernel) noon fun _ _ => nofun)
      |>.tail (.advance false (.locking 1) (by decide +kernel) noon fun _ _ => nofun)
      |>.tail (.advance false .reading (by decide +kernel) noon fun _ _ => nofun)
      |>.tail (.advance false (.unlocking (.ok false)) (by decide +kernel) noon fun _ _ => nofun)
  have hopening : Opening "locks" {} (atNoon rivals) := opening_atNoon (by decide +kernel)
  have hunmixed : Unmixed rivals := fun _ _ => by simp [rivals, AnyCall.key, LeaseCall.key]
  refine ⟨_, hrun, ?_, ?_, refines_of_run hopening (fun _ _ _ => rfl) hunmixed hrun⟩
  · decide +kernel
  · decide +kernel

/-! ## One staging file for two keys -/

/-- Two calls for two leases whose staging files are one. -/
def mixed (i : Bool) : AnyCall :=
  ⟨.tryAcquire (if i then "" else ".lease") (if i then "a" else "b") (Duration.ofSeconds 15)⟩

instance (i : Bool) : DecidableEq (mixed i).α := inferInstanceAs (DecidableEq Bool)

theorem holder_of_serial_mixed {log : List (Effect mixed)} {t : LeaseTable}
    (h : Serial mixed {} log t) : ∀ record, t.get? "" = some record → record.holder = "a" := by
  induction h with
  | nil =>
    intro record hrecord
    contradiction
  | @cons _ t _ e _ ih =>
    intro record hrecord
    rw [LeaseTable.get?_call] at hrecord
    obtain ⟨_ | _, now, answer⟩ := e
    · exact ih record (by simpa [mixed, LeaseCall.key] using hrecord)
    · have hstored : (LeaseCall.stored (LeaseRecord.grant? (t.get? "") "a" (Duration.ofSeconds 15)
        now)).2.apply (t.get? "") = some record := hrecord
      rcases LeaseRecord.grant?_cases (t.get? "") "a" (Duration.ofSeconds 15) now with
        ⟨r, hr, -, hgranted⟩ | ⟨-, hgranted⟩ | ⟨r, -, -, -, hrefused⟩
      · rw [hgranted] at hstored
        cases hstored
        exact ih r hr
      · rw [hgranted] at hstored
        cases hstored
        rfl
      · rw [hrefused] at hstored
        exact ih record hstored

/-- The first call is about to move its record when the second one writes its own in the same
place. The move then puts the record of the one holder under the key of the other. -/
theorem not_refines_of_run_mixed : Distinct mixed ∧ Opening "locks" {} (atNoon mixed) ∧
    ∃ w, Sharing.Run "locks" (atNoon mixed) w ∧ ¬ Refines "locks" {} (atNoon mixed) w := by
  have hwritten : ∀ i answer record,
      (.writing true (.fresh (if i then "a" else "b") (Duration.ofSeconds 15) noon) :
          Progress (mixed i).α) = .writing answer record → Readable record := by
    intro i answer record h
    cases h
    unfold Readable
    revert i
    decide +kernel
  have hempty : ∀ i, (atNoon mixed).record "locks" (mixed i).key = .ok none := by decide +kernel
  have hdistinct : Distinct mixed := by
    unfold Distinct
    decide +kernel
  obtain ⟨w, hrun, hmoved⟩ : ∃ w, Sharing.Run "locks" (atNoon mixed) w ∧
      w.record "locks" "" = .ok (some (.fresh "b" (Duration.ofSeconds 15) noon)) := by
    refine ⟨_, Relation.ReflTransGen.refl
      |>.tail (.advance true (.locking 0) rfl noon fun _ _ => nofun)
      |>.tail (.advance true .reading (by decide +kernel) noon fun _ _ => nofun)
      |>.tail (.advance true _ (by decide +kernel) noon (hwritten true))
      |>.tail (.advance false (.locking 0) (by decide +kernel) noon fun _ _ => nofun)
      |>.tail (.advance false .reading (by decide +kernel) noon fun _ _ => nofun)
      |>.tail (.advance false _ (by decide +kernel) noon (hwritten false))
      |>.tail (.advance true (.renaming true) (by decide +kernel) noon fun _ _ => nofun), ?_⟩
    decide +kernel
  refine ⟨hdistinct, opening_atNoon hempty, w, hrun, fun hrefines => ?_⟩
  obtain ⟨t, hserial, hrecords⟩ := hrefines.serial
  have htable : w.record "locks" "" = .ok (t.get? "") := hrecords true none (hempty true)
  rw [hmoved] at htable
  have hholder := holder_of_serial_mixed hserial _ (Except.ok.inj htable).symm
  contradiction

end LeaseFolder

end GoldenCapture
