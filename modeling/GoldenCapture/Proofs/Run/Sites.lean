import GoldenCapture.Proofs.Run.Concord

/-!
# Sites

What a call makes of the record of its key, in memory or in a file, if it may fail without an
effect: it answers as it decides and changes the record so, or fails and leaves it.
-/

namespace GoldenCapture

/-! ## What a call makes of a record -/

namespace LeaseCall

variable {key holder : String} {ttl : Nat} {now : Timestamp} {before after : Option LeaseRecord}

/-- A call answers as it decides on the record, and changes it so, or fails and leaves it. -/
inductive Makes {α : Type} (c : LeaseCall α) (now : Timestamp) (before : Option LeaseRecord) :
    Except BackendError α → Option LeaseRecord → Prop
  | done : Makes c now before (.ok (c.decide before now).1) ((c.decide before now).2.apply before)
  | failed (error : BackendError) : Makes c now before (.error error) before

theorem Makes.of_tryAcquire {answer : Except BackendError Bool}
    (h : (tryAcquire key holder ttl).Makes now before answer after) :
    after = before ∨
      answer = .ok true ∧ ∃ r, after = some r ∧ r.holder = holder ∧ r.renewedAt = now := by
  cases h with
  | failed error => exact .inl rfl
  | done =>
    rw [decide]
    rcases LeaseRecord.grant?_cases before holder ttl now with
      ⟨old, -, hheld, hgrant⟩ | ⟨-, hgrant⟩ | ⟨old, -, -, -, hgrant⟩
    · rw [hgrant]
      exact .inr ⟨rfl, _, rfl, (LeaseRecord.isHeldBy_iff.mp hheld).1, rfl⟩
    · rw [hgrant]
      exact .inr ⟨rfl, _, rfl, rfl, rfl⟩
    · rw [hgrant]
      exact .inl rfl

theorem Makes.of_renew {answer : Except BackendError Bool}
    (h : (renew key holder ttl).Makes now before answer after) :
    after = before ∨
      ∃ r, before = some r ∧ r.isHeldBy holder now = true ∧ after = some (r.renewed ttl now) := by
  cases h with
  | failed error => exact .inl rfl
  | done =>
    rw [decide]
    rcases LeaseRecord.extend?_cases before holder ttl now with
      ⟨r, hbefore, hheld, hextend⟩ | ⟨-, hextend⟩
    · rw [hextend]
      exact .inr ⟨r, hbefore, hheld, rfl⟩
    · rw [hextend]
      exact .inl rfl

theorem Makes.of_release {answer : Except BackendError Unit}
    (h : (release key holder).Makes now before answer after) :
    after = before ∨ after = none := by
  cases h with
  | failed error => exact .inl rfl
  | done =>
    rw [decide]
    dsimp only
    split
    · exact .inr rfl
    · exact .inl rfl

theorem Makes.of_currentHolder {answer : Except BackendError (Option LeaseRecord)}
    (h : (currentHolder key).Makes now before answer after) :
    after = before ∧
      ∀ r?, answer = .ok r? → r? = before.filter fun r => !r.isExpired now := by
  cases h with
  | failed error => exact ⟨rfl, nofun⟩
  | done =>
    refine ⟨rfl, ?_⟩
    rintro _ ⟨⟩
    rfl

end LeaseCall

/-! ## Records of one holder -/

/-- Whatever record of `holder` there is has expired. -/
def Freed (holder : String) (now : Timestamp) (record : Option LeaseRecord) : Prop :=
  ∀ r, record = some r → r.holder = holder → r.isExpired now = true

/-- A record of `holder` was last renewed away from leap seconds. -/
def Stamped (holder : String) (record : Option LeaseRecord) : Prop :=
  ∀ r, record = some r → r.holder = holder → ∃ since, r.renewedAt = .ofNanos since

/-- What a step of a coordinator may make of the record of its key. `granted` tells whether the step
is a granted attempt. -/
inductive Impact (holder : String) (now : Int) (before : Option LeaseRecord) :
    (granted : Bool) → Option LeaseRecord → Prop
  | keep (granted : Bool) : Impact holder now before granted before
  | grant (r : LeaseRecord) (hholder : r.holder = holder) (hat : r.renewedAt = .ofNanos now) :
      Impact holder now before true (some r)
  | extend (r : LeaseRecord) (ttl : Nat) (granted : Bool) (hbefore : before = some r)
      (hheld : r.isHeldBy holder (.ofNanos now) = true) :
      Impact holder now before granted (some (r.renewed ttl (.ofNanos now)))
  | remove (granted : Bool) : Impact holder now before granted none

section

variable {holder : String} {now : Int} {record before after : Option LeaseRecord} {granted : Bool}

theorem Freed.later (h : Freed holder (.ofNanos now) record) (hstamped : Stamped holder record)
    {later : Int} (hle : now ≤ later) : Freed holder (.ofNanos later) record := by
  intro r hr hholder
  obtain ⟨since, hsince⟩ := hstamped r hr hholder
  exact LeaseRecord.isExpired_mono hsince hle (h r hr hholder)

theorem Impact.stamped (h : Impact holder now before granted after)
    (hbefore : Stamped holder before) : Stamped holder after := by
  cases h with
  | keep => exact hbefore
  | grant r hholder hat =>
    rintro _ ⟨⟩ _
    exact ⟨now, hat⟩
  | extend r ttl granted hr hheld =>
    rintro _ ⟨⟩ _
    exact ⟨now, rfl⟩
  | remove =>
    intro r hr
    contradiction

theorem Impact.freed (h : Impact holder now before false after)
    (hbefore : Freed holder (.ofNanos now) before) : Freed holder (.ofNanos now) after := by
  cases h with
  | keep => exact hbefore
  | extend r ttl granted hr hheld =>
    obtain ⟨hholder, hlive⟩ := LeaseRecord.isHeldBy_iff.mp hheld
    rw [hbefore r hr hholder] at hlive
    contradiction
  | remove =>
    intro r hr
    contradiction

theorem freed_of_filter {now : Timestamp}
    (h : ∀ r, (record.filter fun r => !r.isExpired now) = some r → r.holder ≠ holder) :
    Freed holder now record := by
  intro r hr hholder
  cases hexpired : r.isExpired now with
  | true => rfl
  | false =>
    refine absurd hholder (h r ?_)
    rw [hr, Option.filter_some, hexpired]
    rfl

end

/-! ## Sites -/

/-- The backend `b'` answers as `b` does, now or later or never, or fails and does nothing. -/
def LeaseBackend.Unreliable {σ : Type} (b b' : LeaseBackend σ) : Prop :=
  ∀ {α : Type} (call : LeaseCall α) (now : Nat) (s : σ),
    ((b'.call call now s).1.answer = (b.call call now s).1.answer ∧
      (b'.call call now s).2 = (b.call call now s).2) ∨
    ((b'.call call now s).2 = s ∧ ∃ error, (b'.call call now s).1.answer = .error error)

namespace LeaseSite

variable {leaseDir : Option String} {clock : Nat → Timestamp} {now : Nat} {s : LeaseSite} {α : Type}
  {call : LeaseCall α}

def record? (s : LeaseSite) (leaseDir : Option String) (key : String) : Option LeaseRecord :=
  match leaseDir with
  | none => s.table.get? key
  | some folder =>
    match s.folder.readRecord (LeaseFolder.recordPath folder key) with
    | .ok record => record
    | .error _ => none

/-- The folder for records is there, if one is set. -/
def Stands (s : LeaseSite) (leaseDir : Option String) : Prop :=
  ∀ folder, leaseDir = some folder → ∃ place, s.folder.files.StandsAt folder place

/-- What the call would write reads back. -/
def Legible (s : LeaseSite) (leaseDir : Option String) (call : LeaseCall α) (now : Timestamp) :
    Prop :=
  ∀ folder, leaseDir = some folder → s.folder.Legible folder call now

theorem makes_call (hstands : s.Stands leaseDir) (hlegible : s.Legible leaseDir call (clock now)) :
    call.Makes (clock now) (s.record? leaseDir call.key)
        ((backend leaseDir clock).call call now s).1.answer
        (((backend leaseDir clock).call call now s).2.record? leaseDir call.key) ∧
      ((backend leaseDir clock).call call now s).2.Stands leaseDir := by
  cases leaseDir with
  | none =>
    refine ⟨?_, nofun⟩
    have hdone : call.Makes (clock now) (s.table.get? call.key) _ _ := .done
    have hafter := LeaseTable.get?_call s.table call (clock now) call.key
    rw [if_pos rfl] at hafter
    rw [← hafter] at hdone
    exact hdone
  | some folder =>
    obtain ⟨place, hplace⟩ := hstands folder rfl
    obtain ⟨hstill, houtcome⟩ := LeaseFolder.call_outcome hplace (hlegible folder rfl)
    have hsite : (backend (some folder) clock).call call now s =
        ((s.folder.call folder call (clock now)).1,
          { s with folder := (s.folder.call folder call (clock now)).2 }) := rfl
    rw [hsite]
    unfold record?
    dsimp only
    generalize s.folder.call folder call (clock now) = called at hstill houtcome ⊢
    obtain ⟨⟨answer, delay⟩, g⟩ := called
    refine ⟨?_, ?_⟩
    · cases houtcome with
      | done existing hread hrecord =>
        dsimp only
        rw [hread, hrecord]
        exact .done
      | failed error hsame =>
        dsimp only
        rw [LeaseFolder.readRecord_congr hsame]
        exact .failed error
    · rintro _ ⟨⟩
      exact ⟨place, hstill⟩

theorem makes_send {b : LeaseBackend LeaseSite} (hb : (backend leaseDir clock).Unreliable b)
    (hstands : s.Stands leaseDir) (hlegible : s.Legible leaseDir call (clock now)) :
    ∃ answer arrives, (Coordinator.send b call now s).1 = .answered answer arrives ∧
      call.Makes (clock now) (s.record? leaseDir call.key) answer
        ((Coordinator.send b call now s).2.record? leaseDir call.key) ∧
      (Coordinator.send b call now s).2.Stands leaseDir := by
  refine ⟨_, _, rfl, ?_⟩
  have hsite : (Coordinator.send b call now s).2 = (b.call call now s).2 := rfl
  rw [hsite]
  rcases hb call now s with ⟨hanswer, hafter⟩ | ⟨hafter, error, herror⟩
  · rw [hanswer, hafter]
    exact makes_call hstands hlegible
  · rw [herror, hafter]
    exact ⟨.failed error, hstands⟩

end LeaseSite

end GoldenCapture
