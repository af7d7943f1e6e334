import GoldenCapture.Proofs.Lease.Reports
import Mathlib.Logic.Relation

/-!
# Chronicles

One coordinator from its making on, with all that happens to its lease. One caller acquires, checks
and releases, and may drop an acquisition on its way. Renewer and supervisor take their steps in
between, and every call is answered as the backend likes. Tenures are numbered from one. Tasks that
the coordinator has forgotten are kept: nothing here says that they take no more steps.
-/

namespace GoldenCapture

/-! ## Events -/

inductive TenureEvent where
  /-- An acquisition begins. -/
  | setOut
  /-- An attempt to take the lease is put to the backend, with that answer. -/
  | attempted (answer : Except BackendError Bool)
  | led (tenure instant : Nat)
  /-- A renewal is put to the backend, with that answer. -/
  | renewal (tenure : Nat) (answer : Except BackendError Bool)
  /-- A renewal is seen to have succeeded. -/
  | renewed (tenure instant : Nat)
  /-- The supervisor of a tenure learns of a loss. -/
  | learned (tenure : Nat) (reason : LossReason)

namespace TenureEvent

/-- The answers to the attempts of the acquisition that began last. The latest event comes first,
here as in what follows. -/
def answers : List TenureEvent → List (Except BackendError Bool)
  | [] => []
  | setOut :: _ => []
  | attempted answer :: rest => answer :: answers rest
  | _ :: rest => answers rest

def isLed : TenureEvent → Bool
  | led .. => true
  | _ => false

/-- The last loss, unless an acquisition has begun since. -/
def loss? : List TenureEvent → Option LossReason
  | [] => none
  | setOut :: _ => none
  | learned _ reason :: _ => some reason
  | _ :: rest => loss? rest

/-- When the last success of a tenure was seen. Its beginning counts as one. -/
def success? (tenure : Nat) : List TenureEvent → Option Nat
  | [] => none
  | led n instant :: rest => if n = tenure then some instant else success? tenure rest
  | renewed n instant :: rest => if n = tenure then some instant else success? tenure rest
  | _ :: rest => success? tenure rest

end TenureEvent

namespace Coordinator

/-- What happens at the next step of the errand. `tenure` is the number of a tenure that begins. -/
def errandEvents (b : LeaseBackend Unit) (now tenure : Nat) (c : Coordinator) : List TenureEvent :=
  match c.errand with
  | some (.trying _ _ .sent) => [.attempted (b.call c.tryAcquireCall now ()).1.answer]
  | some (.trying _ _ flight) =>
    match flight.landed now with
    | some (.ok true) => [.led tenure now]
    | _ => []
  | _ => []

/-- What happens at the next step of a renewer. -/
def renewerEvents (b : LeaseBackend Unit) (now tenure : Nat) (c : Coordinator) (t : Tenure) :
    List TenureEvent :=
  match t.renewer with
  | .renewing _ _ .sent => [.renewal tenure (b.call c.renewCall now ()).1.answer]
  | .renewing _ _ flight =>
    match flight.landed now with
    | some (.ok true) => [.renewed tenure now]
    | _ => []
  | _ => []

/-- What happens at the next step of a supervisor. -/
def supervisorEvents (tenure : Nat) (t : Tenure) : List TenureEvent :=
  match t.report with
  | some reason => [.learned tenure reason]
  | none => []

/-- A step of the tasks of a coordinator. -/
inductive TaskStep (b : LeaseBackend Unit) (now tenure : Nat) (c : Coordinator) (t : Tenure) :
    Coordinator → List TenureEvent → Prop
  | renewer (stopFirst : Bool) (c' : Coordinator)
      (h : c.stepRenewer b now stopFirst () = some (c', ())) :
      TaskStep b now tenure c t c' (c.renewerEvents b now tenure t)
  | supervisor (c' : Coordinator) (h : c.stepSupervisor = some c') :
      TaskStep b now tenure c t c' (supervisorEvents tenure t)

end Coordinator

/-! ## Runs -/

structure Chronicle where
  now : Nat := 0
  coordinator : Coordinator
  /-- How many tenures have begun. -/
  tenures : Nat := 0
  /-- The tasks that the coordinator has forgotten, each with the number of its tenure. -/
  leftover : List (Nat × Tenure) := []
  events : List TenureEvent := []

namespace Chronicle

def Fresh (w : Chronicle) : Prop :=
  ∃ now config identity, w = { now, coordinator := { config, identity } }

/-- Goes on with `c`. The tasks of a tenure that it no longer has are left over. -/
def next (w : Chronicle) (c : Coordinator) (events : List TenureEvent) : Chronicle :=
  let begun := events.any TenureEvent.isLed
  let gone := if begun || c.tenure.isNone then w.coordinator.tenure.toList else []
  { w with
    coordinator := c
    tenures := if begun then w.tenures + 1 else w.tenures
    leftover := gone.map (w.tenures, ·) ++ w.leftover
    events := events ++ w.events }

/-- The coordinator as the tasks of the tenure `t` would have it. -/
def under (w : Chronicle) (t : Tenure) : Coordinator := { w.coordinator with tenure := some t }

/-- One step. The caller does one thing at a time, and drops nothing but an acquisition. -/
inductive Step (w : Chronicle) : Chronicle → Prop
  | wait (later : Nat) (h : w.now ≤ later) : Step w { w with now := later }
  | acquire (timeout : Nat) (c : Coordinator) (hfree : w.coordinator.errand = none)
      (h : w.coordinator.acquire w.now timeout = .ok c) : Step w (w.next c [.setOut])
  | release (hfree : w.coordinator.errand = none) : Step w (w.next w.coordinator.release.1 [])
  | drop (h : w.coordinator.state = .acquiring) : Step w (w.next w.coordinator.cancel [])
  | errand (b : LeaseBackend Unit) (c : Coordinator)
      (h : w.coordinator.stepErrand b w.now () = some (c, ())) :
      Step w (w.next c (w.coordinator.errandEvents b w.now (w.tenures + 1)))
  | task (b : LeaseBackend Unit) (t : Tenure) (c : Coordinator) (events : List TenureEvent)
      (ht : w.coordinator.tenure = some t)
      (h : w.coordinator.TaskStep b w.now w.tenures t c events) : Step w (w.next c events)
  /-- A step of a task that the coordinator has forgotten. -/
  | stale (b : LeaseBackend Unit) (before after : List (Nat × Tenure)) (n : Nat) (t : Tenure)
      (c : Coordinator) (events : List TenureEvent) (hleft : w.leftover = before ++ (n, t) :: after)
      (h : (w.under t).TaskStep b w.now n t c events) :
      Step w
        { w.next { c with tenure := w.coordinator.tenure } events with
          leftover := before ++ c.tenure.toList.map (n, ·) ++ after }

def Run : Chronicle → Chronicle → Prop := Relation.ReflTransGen Step

end Chronicle

/-! ## The law of a lease -/

namespace LeaseState

inductive Moves : LeaseState → LeaseState → Prop
  | setOut : Moves idle acquiring
  | lead : Moves acquiring leading
  | giveUp : Moves acquiring idle
  | release : Moves leading releasing
  | free : Moves releasing idle
  | lose : Moves leading idle

end LeaseState

namespace Chronicle

/-- A renewal of the running tenure has been refused, or its last success is as old as the renew
deadline. -/
def Lapsed (w : Chronicle) : Prop :=
  .renewal w.tenures (.ok false) ∈ w.events ∨
    ∃ instant, TenureEvent.success? w.tenures w.events = some instant ∧
      w.coordinator.config.renewDeadline ≤ w.now - instant

/-- The running tenure is the last that has begun. -/
def InTenure (w : Chronicle) (n : Nat) : Prop :=
  n = w.tenures ∧ (w.coordinator.state = .leading ∨ w.coordinator.state = .releasing)

/-- What a step keeps to. -/
structure Lawful (w w' : Chronicle) : Prop where
  moves : w'.coordinator.state = w.coordinator.state ∨
    w.coordinator.state.Moves w'.coordinator.state
  sets_out : w.coordinator.state ≠ .acquiring → w'.coordinator.state = .acquiring →
    w'.events = .setOut :: w.events
  leads : w.coordinator.state ≠ .leading → w'.coordinator.state = .leading →
    .ok true ∈ TenureEvent.answers w.events ∧ w'.tenures = w.tenures + 1 ∧
      w'.events = .led w'.tenures w.now :: w.events
  loses : w.coordinator.state = .leading → w'.coordinator.state = .idle →
    w.Lapsed ∧ ∃ reason, w'.events = .learned w.tenures reason :: w.events
  /-- A loss is learned of in its own tenure only. -/
  learns : ∀ n reason, w'.events = .learned n reason :: w.events → w.InTenure n
  /-- Nothing else than an acquisition or a loss touches the reason of a loss. -/
  keeps : w'.coordinator.lost = w.coordinator.lost ∨
    (w'.events = .setOut :: w.events ∧ w'.coordinator.lost = none) ∨
    ∃ reason, w'.events = .learned w.tenures reason :: w.events ∧
      w'.coordinator.lost = some reason
  renews : ∀ n answer, w'.events = .renewal n answer :: w.events → w.InTenure n
  /-- A release that is on its way when the lease is lost ends with the loss. -/
  fails : ∀ reason, TenureEvent.loss? w.events = some reason →
    w.coordinator.state = .releasing → w'.coordinator.state ≠ .releasing →
    w'.coordinator.outcome =
      some (.error (.leadershipLost w.coordinator.config.key reason))

/-- After a loss, both a check and a release report it. -/
def ReportsLoss (w : Chronicle) : Prop :=
  ∀ reason, TenureEvent.loss? w.events = some reason →
    w.coordinator.lost = some reason ∧
    (∀ now, w.coordinator.ensureLeading now =
      .error (.leadershipLost w.coordinator.config.key reason)) ∧
    (w.coordinator.errand = none → w.coordinator.release.2 =
      some (.error (.leadershipLost w.coordinator.config.key reason)))

end Chronicle

end GoldenCapture
