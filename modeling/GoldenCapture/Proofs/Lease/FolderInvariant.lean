import GoldenCapture.Proofs.Lease.Sharing

/-!
# What holds of a shared folder at every instant

What each call may rely on at the point it has come to, what holds of all calls together, and what
one call can do to the others. The lock of a key keeps everyone else from its record between the
step that reads it and the step that settles the answer.
-/

namespace GoldenCapture

namespace LeaseFolder

open FileTree

variable {ι : Type} {calls : ι → AnyCall} {path : String}

/-! ## How far a call has come -/

section

variable {w w' : Sharing calls} {i j : ι}

def Idle (w : Sharing calls) (i : ι) : Prop := i ∉ w.log.map Effect.id

/-- An answer stands for an effect, an error for none. -/
def Settled (w : Sharing calls) (i : ι) : Except BackendError (calls i).α → Prop
  | .ok answer => ∃ now, ⟨i, now, answer⟩ ∈ w.log
  | .error _ => Idle w i

/-- The record of the key is still the one that the call read, and what it decided then is the
answer and the change. -/
def Decided (w : Sharing calls) (path : String) (i : ι) (answer : (calls i).α)
    (change : RecordChange) : Prop :=
  ∃ existing, w.record path (calls i).key = .ok existing ∧
    (calls i).call.decide existing (w.sampled i) = (answer, change)

/-- What holds of a call that has come as far as this. -/
def Stage (w : Sharing calls) (path : String) (i : ι) : Progress (calls i).α → Prop
  | .locking _ | .reading => Idle w i
  | .writing answer record => Idle w i ∧ Decided w path i answer (.write record)
  | .renaming answer => Idle w i ∧ ∃ record, Decided w path i answer (.write record) ∧
      w.folder.files.read (stagingPath path (calls i).key) = .ok record.toJson.pretty ∧
      Readable record
  | .removing answer => Idle w i ∧ Decided w path i answer .remove
  | .unlocking answer => (calls i).call.changes = true ∧ Settled w i answer
  | .finished answer => Settled w i answer

theorem changes_of_decide {α : Type} {c : LeaseCall α} {existing : Option LeaseRecord}
    {now : Timestamp} {answer : α} {change : RecordChange}
    (h : c.decide existing now = (answer, change)) (hchange : change ≠ .keep) :
    c.changes = true := by
  cases c with
  | currentHolder key =>
    have hkeep := LeaseCall.decide_currentHolder key existing now
    rw [h] at hkeep
    exact absurd hkeep hchange
  | _ => rfl

theorem Decided.changes {answer : (calls i).α} {change : RecordChange}
    (h : Decided w path i answer change) (hchange : change ≠ .keep) :
    (calls i).call.changes = true := by
  obtain ⟨existing, -, hdecide⟩ := h
  exact changes_of_decide hdecide hchange

theorem Stage.locked_of_touches {p : Progress (calls i).α} (h : Stage w path i p)
    (htouches : p.touches = true) : p.locked (calls i).call = true := by
  cases p with
  | writing answer record => exact h.2.changes (by simp)
  | «renaming» answer =>
    obtain ⟨-, record, hdecided, -⟩ := h
    exact hdecided.changes (by simp)
  | removing answer => exact h.2.changes (by simp)
  | _ => contradiction

theorem Stage.leave {answer : Except BackendError (calls i).α}
    (h : Settled w i answer) : Stage w path i (.leave (calls i).call answer) := by
  unfold Progress.leave
  split
  · rename_i hchanges
    exact ⟨hchanges, h⟩
  · exact h

theorem Stage.frame {p : Progress (calls j).α} (h : Stage w path j p)
    (hsampled : w'.sampled j = w.sampled j)
    (hmem : ∀ e ∈ w.log, e ∈ w'.log) (hidle : Idle w j → Idle w' j)
    (hfiles : p.touches = true → ∀ name, IsFileOf (calls j).key name →
      w'.folder.files.read (join path name) = w.folder.files.read (join path name)) :
    Stage w' path j p := by
  have hsettled : ∀ answer, Settled w j answer → Settled w' j answer := by
    intro answer hs
    cases answer with
    | ok answer =>
      obtain ⟨now, he⟩ := hs
      exact ⟨now, hmem _ he⟩
    | error error => exact hidle hs
  have hdecided : p.touches = true → ∀ answer change, Decided w path j answer change →
      Decided w' path j answer change := by
    rintro htouches answer change ⟨existing, hread, hdecide⟩
    refine ⟨existing, ?_, by rw [hsampled, hdecide]⟩
    rw [← hread]
    exact readRecord_congr (hfiles htouches _ (.inr rfl))
  cases p with
  | locking failures => exact hidle h
  | reading => exact hidle h
  | writing answer record => exact ⟨hidle h.1, hdecided rfl _ _ h.2⟩
  | «renaming» answer =>
    obtain ⟨hi, record, hd, hstaging, hreadable⟩ := h
    refine ⟨hidle hi, record, hdecided rfl _ _ hd, ?_, hreadable⟩
    rw [← hstaging, stagingPath_eq]
    exact hfiles rfl _ (.inl rfl)
  | removing answer => exact ⟨hidle h.1, hdecided rfl _ _ h.2⟩
  | unlocking answer => exact ⟨h.1, hsettled answer h.2⟩
  | finished answer => exact hsettled answer h

end

/-! ## All calls -/

/-- Different keys share no file. -/
def Separate (calls : ι → AnyCall) : Prop :=
  ∀ i j, stagingStem (calls i).key = stagingStem (calls j).key → (calls i).key = (calls j).key

theorem Distinct.separate (hd : Distinct calls) (hunmixed : Unmixed calls) : Separate calls := by
  intro i j hstem
  rcases stagingStem_eq_iff.mp hstem with hstem | ⟨hi, hj⟩ | ⟨hi, hj⟩
  · exact hd i j hstem
  · exact absurd (key_of_stem hj (by decide)) (hunmixed i j (key_of_stem hi (by decide)))
  · exact absurd (key_of_stem hi (by decide)) (hunmixed j i (key_of_stem hj (by decide)))

/-- What holds at every instant. The first four say who may do what next, the others what the
folder has come to. -/
structure Guarded (path : String) (place : List String) (table : LeaseTable)
    (start w : Sharing calls) : Prop where
  stands : w.folder.files.StandsAt path place
  held : ∀ i p, w.progress i = some p → p.locked (calls i).call = true →
    lockPath path (calls i).key ∈ w.folder.locked
  exclusive : ∀ i j p q, w.progress i = some p → w.progress j = some q →
    p.locked (calls i).call = true → q.locked (calls j).call = true →
    (calls i).key = (calls j).key → i = j
  stage : ∀ i p, w.progress i = some p → Stage w path i p
  clock : ∀ e ∈ w.log, e.now = w.sampled e.id
  once : (w.log.map Effect.id).Nodup
  serial : ∃ t, Serial calls table w.log t ∧ ∀ i record,
    start.record path (calls i).key = .ok record →
      w.record path (calls i).key = .ok (t.get? (calls i).key)
  unreadable : ∀ i error, start.record path (calls i).key = .error error →
    w.text path (calls i).key = start.text path (calls i).key ∧
      ∀ e ∈ w.log, (calls e.id).key ≠ (calls i).key

/-- What one call can do to the others when it goes on from `p` or crashes there. -/
structure Move (path : String) (place : List String) (w w' : Sharing calls) (i : ι)
    (p : Progress (calls i).α) : Prop where
  progress : ∀ j, j ≠ i → w'.progress j = w.progress j
  sampled : ∀ j, j ≠ i → w'.sampled j = w.sampled j
  log : w'.log = w.log ∨ ∃ now answer, w'.log = ⟨i, now, answer⟩ :: w.log
  files : LeavesAlone path place w.folder w'.folder fun name =>
    name = lockName (calls i).key ∨ p.touches = true ∧ IsFileOf (calls i).key name
  locks : ∀ lock ∈ w.folder.locked,
    p.locked (calls i).call = true ∧ lock = lockPath path (calls i).key ∨
      lock ∈ w'.folder.locked
  own : ∀ q, w'.progress i = some q → q.locked (calls i).call = true →
    lockPath path (calls i).key ∈ w'.folder.locked ∧
      (p.locked (calls i).call = true ∨ lockPath path (calls i).key ∉ w.folder.locked)

section

variable {place : List String} {table : LeaseTable} {start w w' : Sharing calls} {i : ι}
  {p : Progress (calls i).α}

theorem Separate.key_eq_of_lockPath (hd : Separate calls) {j : ι}
    (h : lockPath path (calls i).key = lockPath path (calls j).key) :
    (calls i).key = (calls j).key :=
  hd i j (stagingStem_of_lockName ((plain_lockName _).join_injective (plain_lockName _) h))

theorem Separate.recordName_ne (hd : Separate calls) {j : ι}
    (h : (calls j).key ≠ (calls i).key) :
    recordName (calls j).key ≠ recordName (calls i).key :=
  fun hname => h (hd j i (stagingStem_of_recordName hname))

theorem Guarded.readable_of_record (hg : Guarded path place table start w)
    {existing : Option LeaseRecord} (hread : w.record path (calls i).key = .ok existing) :
    ∃ record, start.record path (calls i).key = .ok record := by
  cases hstart : start.record path (calls i).key with
  | ok record => exact ⟨record, rfl⟩
  | error error =>
    have hsame : w.record path (calls i).key = start.record path (calls i).key :=
      readRecord_congr (hg.unreadable i error hstart).1
    rw [hread, hstart] at hsame
    contradiction

theorem Guarded.held_of_move (hg : Guarded path place table start w) (hd : Separate calls)
    (hp : w.progress i = some p) (hm : Move path place w w' i p) (j : ι)
    (q : Progress (calls j).α) (hq : w'.progress j = some q)
    (hlocked : q.locked (calls j).call = true) :
    lockPath path (calls j).key ∈ w'.folder.locked := by
  by_cases hji : j = i
  · subst hji
    exact (hm.own q hq hlocked).1
  · rw [hm.progress j hji] at hq
    rcases hm.locks _ (hg.held j q hq hlocked) with ⟨hplocked, hlock⟩ | hlock
    · exact absurd (hg.exclusive j i q p hq hp hlocked hplocked (hd.key_eq_of_lockPath hlock)) hji
    · exact hlock

theorem Guarded.exclusive_of_move (hg : Guarded path place table start w)
    (hp : w.progress i = some p) (hm : Move path place w w' i p) (j k : ι)
    (q : Progress (calls j).α) (r : Progress (calls k).α) (hq : w'.progress j = some q)
    (hr : w'.progress k = some r) (hqlocked : q.locked (calls j).call = true)
    (hrlocked : r.locked (calls k).call = true) (hkey : (calls j).key = (calls k).key) :
    j = k := by
  -- Only a call that takes a step can have taken a lock, and it took one that was free.
  have hown : ∀ k, k ≠ i → ∀ r : Progress (calls k).α, w.progress k = some r →
      r.locked (calls k).call = true → ∀ q, w'.progress i = some q →
      q.locked (calls i).call = true → (calls i).key ≠ (calls k).key := by
    intro k hki r hr hrlocked q hq hqlocked hkey
    rcases (hm.own q hq hqlocked).2 with hplocked | hfree
    · exact hki (hg.exclusive i k p r hp hr hplocked hrlocked hkey).symm
    · rw [hkey] at hfree
      exact hfree (hg.held k r hr hrlocked)
  by_cases hji : j = i
  · by_cases hki : k = i
    · rw [hji, hki]
    · subst hji
      rw [hm.progress k hki] at hr
      exact absurd hkey (hown k hki r hr hrlocked q hq hqlocked)
  · by_cases hki : k = i
    · subst hki
      rw [hm.progress j hji] at hq
      exact absurd hkey.symm (hown j hji q hq hqlocked r hr hrlocked)
    · rw [hm.progress j hji] at hq
      rw [hm.progress k hki] at hr
      exact hg.exclusive j k q r hq hr hqlocked hrlocked hkey

theorem Guarded.stage_of_move (hg : Guarded path place table start w) (hd : Separate calls)
    (hp : w.progress i = some p) (hm : Move path place w w' i p) {j : ι} (hji : j ≠ i)
    (q : Progress (calls j).α) (hq : w'.progress j = some q) : Stage w' path j q := by
  rw [hm.progress j hji] at hq
  have hstage := hg.stage j q hq
  refine hstage.frame (hm.sampled j hji) (fun e he => ?_) (fun hidle => ?_) ?_
  · rcases hm.log with hlog | ⟨now, answer, hlog⟩
    · rw [hlog]
      exact he
    · rw [hlog]
      exact List.mem_cons_of_mem _ he
  · unfold Idle at hidle ⊢
    rcases hm.log with hlog | ⟨now, answer, hlog⟩
    · rw [hlog]
      exact hidle
    · rw [hlog, List.map_cons, List.mem_cons]
      rintro (heq | hmem)
      · exact hji heq
      · exact hidle hmem
  · intro hqtouches name hname
    refine hm.files.2 name hname.plain ?_
    rintro (hlock | ⟨hptouches, hname'⟩)
    · exact hname.ne_lockName _ hlock
    · have hkey := hd j i (hname.stagingStem_eq hname')
      exact hji (hg.exclusive j i q p hq hp (hstage.locked_of_touches hqtouches)
        ((hg.stage i p hp).locked_of_touches hptouches) hkey)

theorem guarded_of_opening (h : Opening path table start) :
    ∃ place, Guarded path place table start start := by
  obtain ⟨place, hstands⟩ := h.stands
  have hunlocked : ∀ i p, start.progress i = some p → p.locked (calls i).call = false := by
    intro i p hp
    rw [h.first i, Option.some.injEq] at hp
    subst hp
    unfold Progress.first
    split
    · rfl
    · rename_i hchanges
      exact Bool.eq_false_iff.mpr hchanges
  have hidle : ∀ i, Idle start i := by
    intro i
    rw [Idle, h.log]
    exact List.not_mem_nil
  refine ⟨place, hstands, fun i p hp hlocked => ?_, fun i j p q hp _ hlocked => ?_,
    fun i p hp => ?_, ?_, ?_, ?_, fun i error _ => ⟨rfl, ?_⟩⟩
  · rw [hunlocked i p hp] at hlocked
    contradiction
  · rw [hunlocked i p hp] at hlocked
    contradiction
  · rw [h.first i, Option.some.injEq] at hp
    subst hp
    unfold Progress.first
    split <;> exact hidle i
  · rw [h.log]
    exact fun e he => absurd he List.not_mem_nil
  · rw [h.log]
    exact List.nodup_nil
  · rw [h.log]
    exact ⟨table, .nil, fun i record hi => by rw [hi, h.table i record hi]⟩
  · rw [h.log]
    exact fun e he => absurd he List.not_mem_nil

end

end LeaseFolder

end GoldenCapture
