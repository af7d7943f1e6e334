import GoldenCapture.Proofs.Lease.Record
import GoldenCapture.Proofs.Lease.Steps
import Mathlib.Logic.Function.Basic
import Mathlib.Logic.Relation

/-!
# Rivalries

Any number of coordinators over one table and one clock. Whoever schedules them may let time pass
between any two steps, take the steps of different parties in any order, leave a party out for as
long as it likes, and choose for every call whether and when it takes effect and is answered.
-/

namespace GoldenCapture

/-! ## Atomic backends -/

/-- A call to a table takes effect at once or never. What comes back is the answer of that effect,
or an error; when it comes back, if at all, is open. -/
inductive TakesEffect {α : Type} (c : LeaseCall α) (now : Timestamp) (t : LeaseTable) :
    LeaseReply α → LeaseTable → Prop
  | answered (delay : Option Nat) :
      TakesEffect c now t ⟨.ok (t.call c now).1, delay⟩ (t.call c now).2
  | failed (error : BackendError) (delay : Option Nat) :
      TakesEffect c now t ⟨.error error, delay⟩ (t.call c now).2
  | never (error : BackendError) (delay : Option Nat) :
      TakesEffect c now t ⟨.error error, delay⟩ t

/-- The time of day at an instant of a clock that started at `origin`. -/
def clockFrom (origin : Int) (now : Nat) : Timestamp := .ofNanos (origin + now)

/-- A backend over a table each call of which takes effect at once or never. -/
def LeaseBackend.Atomic (origin : Int) (b : LeaseBackend LeaseTable) : Prop :=
  ∀ {α : Type} (c : LeaseCall α) (now : Nat) (t : LeaseTable),
    TakesEffect c (clockFrom origin now) t (b.call c now t).1 (b.call c now t).2

theorem LeaseTable.backend_atomic (origin : Int) :
    (LeaseTable.backend (clockFrom origin)).Atomic origin :=
  fun _ _ _ => .answered (some 0)

/-- A call on behalf of `holder`. Anyone may look up a holder. -/
def LeaseCall.By {α : Type} (holder : String) : LeaseCall α → Prop
  | .tryAcquire _ h _ | .renew _ h _ | .release _ h => h = holder
  | .currentHolder _ => True

/-- The table after at most one call on behalf of `holder`. -/
def MovedBy (origin : Int) (now : Nat) (holder : String) (t t' : LeaseTable) : Prop :=
  t' = t ∨ ∃ (α : Type) (c : LeaseCall α), c.By holder ∧ t' = (t.call c (clockFrom origin now)).2

section

variable {origin : Int} {b : LeaseBackend LeaseTable} {α : Type} (c : LeaseCall α) (now : Nat)
  (t : LeaseTable)

theorem LeaseBackend.Atomic.send_effect (hb : b.Atomic origin) :
    (Coordinator.send b c now t).2 = t ∨
      (Coordinator.send b c now t).2 = (t.call c (clockFrom origin now)).2 := by
  have h := hb c now t
  unfold Coordinator.send
  generalize b.call c now t = sent at h ⊢
  obtain ⟨reply, t'⟩ := sent
  cases h with
  | answered => exact .inr rfl
  | failed => exact .inr rfl
  | never => exact .inl rfl

theorem LeaseBackend.Atomic.movedBy (hb : b.Atomic origin) {holder : String} (hc : c.By holder) :
    MovedBy origin now holder t (Coordinator.send b c now t).2 := by
  rcases hb.send_effect c now t with htable | htable
  · exact .inl htable
  · exact .inr ⟨α, c, hc, htable⟩

theorem LeaseBackend.Atomic.send_of_ok (hb : b.Atomic origin) {answer : α} {arrives : Option Nat}
    (h : (Coordinator.send b c now t).1 = .answered (.ok answer) arrives) :
    (t.call c (clockFrom origin now)).1 = answer ∧
      (Coordinator.send b c now t).2 = (t.call c (clockFrom origin now)).2 := by
  have heffect := hb c now t
  unfold Coordinator.send at h ⊢
  generalize b.call c now t = sent at h heffect ⊢
  obtain ⟨reply, t'⟩ := sent
  cases heffect with
  | answered =>
    simp only [Flight.answered.injEq, Except.ok.injEq] at h
    exact ⟨h.1, rfl⟩
  | failed => simp at h
  | never => simp at h

theorem Coordinator.ErrandStep.movedBy {c c' : Coordinator} {now : Nat} {t t' : LeaseTable}
    (hb : b.Atomic origin) (h : ErrandStep b now c t c' t') :
    MovedBy origin now c.identity t t' := by
  cases h with
  | ask => exact hb.movedBy _ now t rfl
  | askName => exact hb.movedBy _ now t trivial
  | drop => exact hb.movedBy _ now t rfl
  | free => exact hb.movedBy _ now t rfl
  | confirm => exact hb.movedBy _ now t trivial
  | _ => exact .inl rfl

theorem Coordinator.RenewerStep.movedBy {c c' : Coordinator} {tenure : Tenure} {now : Nat}
    {t t' : LeaseTable} (hb : b.Atomic origin) (h : RenewerStep b now c tenure t c' t') :
    MovedBy origin now c.identity t t' := by
  cases h with
  | renew => exact hb.movedBy _ now t rfl
  | _ => exact .inl rfl

end

/-! ## Parties -/

/-- A coordinator, and when its last calls for the lease took effect. -/
structure Party where
  coordinator : Coordinator
  /-- The instant of the last attempt to take the lease. -/
  attempted : Nat := 0
  /-- The instant of the last attempt to renew it. -/
  renewed : Nat := 0

namespace Coordinator

/-- The next step of the errand puts an attempt to the backend. -/
def attempts (c : Coordinator) : Bool :=
  match c.errand with
  | some (.trying _ _ .sent) => true
  | _ => false

/-- The next step of the renewer puts a renewal to the backend. -/
def renews (c : Coordinator) : Bool :=
  match c.tenure.map Tenure.renewer with
  | some (.renewing _ _ .sent) => true
  | _ => false

/-- The next step of the errand sees that the lease was granted. -/
def SeesGrant (c : Coordinator) (now : Nat) : Prop :=
  ∃ started timeout flight,
    c.errand = some (.trying started timeout flight) ∧ flight.landed now = some (.ok true)

/-- The next step of the renewer sees that the lease was renewed. -/
def SeesRenewal (c : Coordinator) (now : Nat) : Prop :=
  ∃ t tick limit flight, c.tenure = some t ∧ t.renewer = .renewing tick limit flight ∧
    flight.landed now = some (.ok true)

end Coordinator

/-! ## Runs -/

structure Rivalry (ι : Type) where
  now : Nat := 0
  table : LeaseTable := {}
  party : ι → Party

namespace Rivalry

variable {ι : Type}

def coordinator (w : Rivalry ι) (i : ι) : Coordinator := (w.party i).coordinator

def Fresh (w : Rivalry ι) : Prop := ∀ i, ∃ config identity, w.coordinator i = { config, identity }

/-- All coordinators are for one key and each has a name of its own. Lifetimes are stored as they
are, and a reply may take `d` without eating into what a leader takes for granted. -/
structure Terms (key : String) (d : Nat) (w : Rivalry ι) : Prop where
  key_eq : ∀ i, (w.coordinator i).config.key = key
  identity_injective : Function.Injective fun i => (w.coordinator i).identity
  whole : ∀ i, LeaseRecord.Whole (w.coordinator i).config.ttl
  margin : ∀ i, d + (w.coordinator i).config.renewDeadline ≤ (w.coordinator i).config.ttl

theorem Terms.of_same {w w' : Rivalry ι} {key : String} {d : Nat} (h : Terms key d w)
    (hsame : ∀ j, (w.coordinator j).Same (w'.coordinator j)) : Terms key d w' where
  key_eq i := by rw [(hsame i).config, h.key_eq i]
  identity_injective := by
    intro i j hij
    simp only [(hsame i).identity, (hsame j).identity] at hij
    exact h.identity_injective hij
  whole i := by
    rw [(hsame i).config]
    exact h.whole i
  margin i := by
    rw [(hsame i).config]
    exact h.margin i

variable [DecidableEq ι]

def setParty (w : Rivalry ι) (i : ι) (p : Party) : Rivalry ι :=
  { w with party := Function.update w.party i p }

def setCoordinator (w : Rivalry ι) (i : ι) (c : Coordinator) : Rivalry ι :=
  w.setParty i { w.party i with coordinator := c }

/-- One step. A success is seen no later than `d` after it took effect; nothing else is ever due. -/
inductive Step (origin : Int) (d : Nat) (w : Rivalry ι) : Rivalry ι → Prop
  | wait (later : Nat) (h : w.now ≤ later) : Step origin d w { w with now := later }
  /-- A caller sets out to acquire the lease. -/
  | acquire (i : ι) (timeout : Nat) (c : Coordinator)
      (h : (w.coordinator i).acquire w.now timeout = .ok c) :
      Step origin d w (w.setCoordinator i c)
  /-- A caller sets out to release the lease. -/
  | release (i : ι) : Step origin d w (w.setCoordinator i (w.coordinator i).release.1)
  /-- A caller drops what it set out for, at any point of it. -/
  | drop (i : ι) : Step origin d w (w.setCoordinator i (w.coordinator i).cancel)
  | errand (i : ι) (b : LeaseBackend LeaseTable) (hb : b.Atomic origin) (c : Coordinator)
      (t : LeaseTable) (h : (w.coordinator i).stepErrand b w.now w.table = some (c, t))
      (hseen : (w.coordinator i).SeesGrant w.now → w.now ≤ (w.party i).attempted + d) :
      Step origin d w
        { w.setParty i { w.party i with
            coordinator := c
            attempted := if (w.coordinator i).attempts then w.now else (w.party i).attempted }
          with table := t }
  | renewer (i : ι) (b : LeaseBackend LeaseTable) (hb : b.Atomic origin) (stopFirst : Bool)
      (c : Coordinator) (t : LeaseTable)
      (h : (w.coordinator i).stepRenewer b w.now stopFirst w.table = some (c, t))
      (hseen : (w.coordinator i).SeesRenewal w.now → w.now ≤ (w.party i).renewed + d) :
      Step origin d w
        { w.setParty i { w.party i with
            coordinator := c
            renewed := if (w.coordinator i).renews then w.now else (w.party i).renewed }
          with table := t }
  | supervisor (i : ι) (c : Coordinator) (h : (w.coordinator i).stepSupervisor = some c) :
      Step origin d w (w.setCoordinator i c)

def Run (origin : Int) (d : Nat) : Rivalry ι → Rivalry ι → Prop :=
  Relation.ReflTransGen (Step origin d)

section

variable {w w' : Rivalry ι}

theorem party_setParty (w : Rivalry ι) (i j : ι) (p : Party) :
    (w.setParty i p).party j = if j = i then p else w.party j :=
  Function.update_apply w.party i p j

theorem same_setParty {i : ι} {p : Party} (h : (w.coordinator i).Same p.coordinator) (j : ι) :
    (w.coordinator j).Same ((w.setParty i p).coordinator j) := by
  rw [coordinator, coordinator, party_setParty]
  split
  · rename_i hji
    subst hji
    exact h
  · exact ⟨rfl, rfl⟩

theorem Step.same {origin : Int} {d : Nat} (h : Step origin d w w') (j : ι) :
    (w.coordinator j).Same (w'.coordinator j) := by
  cases h with
  | wait later h => exact ⟨rfl, rfl⟩
  | acquire i timeout c h => exact same_setParty (Coordinator.same_of_acquire h) j
  | release i => exact same_setParty Coordinator.same_release j
  | drop i => exact same_setParty Coordinator.same_cancel j
  | errand i b hb c t h hseen =>
    exact same_setParty (Coordinator.errandStep_of_stepErrand h).same j
  | renewer i b hb stopFirst c t h hseen =>
    obtain ⟨tenure, -, hstep⟩ := Coordinator.renewerStep_of_stepRenewer h
    exact same_setParty hstep.same j
  | supervisor i c h =>
    obtain ⟨tenure, -, -, hstep⟩ := Coordinator.supervisorStep_of_stepSupervisor h
    exact same_setParty hstep.same j

end

end Rivalry

end GoldenCapture
