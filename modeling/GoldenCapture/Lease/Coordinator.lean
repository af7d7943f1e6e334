import GoldenCapture.Lease.Call
import GoldenCapture.Lease.Config

/-!
# Lease coordinators

One party's side of a lease. A coordinator goes from idle over acquiring to leading, and over
releasing back to idle. While it leads, a renewer extends the lease at every tick and a supervisor
waits for the report of a loss, which sends the coordinator straight back to idle. What a
coordinator does between two instants at which it waits is one pure step here; whoever schedules
the steps decides how those of several parties mix.
-/

namespace GoldenCapture

/-- A call on its way. Its answer arrives at an instant, or never. -/
inductive Flight (α : Type) where
  | sent
  | answered (answer : Except BackendError α) (arrives : Option Nat)

/-- The answer, if it is there. -/
def Flight.landed {α : Type} (f : Flight α) (now : Nat) : Option (Except BackendError α) :=
  match f with
  | sent => none
  | answered _ none => none
  | answered answer (some arrives) => if arrives ≤ now then some answer else none

/-- The instant at which the answer arrives, if it does. -/
def Flight.dues {α : Type} : Flight α → List Nat
  | answered _ (some arrives) => [arrives]
  | _ => []

/-- How far an acquisition or a release has come. -/
inductive Errand where
  /-- Asking for the lease. -/
  | trying (started timeout : Nat) (flight : Flight Bool)
  /-- Between two attempts. -/
  | resting (started timeout wake : Nat)
  /-- Out of time, and asking who holds the lease. -/
  | naming (waited : Nat) (flight : Flight (Option LeaseRecord))
  /-- Waiting for the renewer and the supervisor to end. -/
  | stopping
  /-- Freeing what is left of a lease that was lost. -/
  | dropping (reason : LossReason) (flight : Flight Unit)
  /-- Freeing the lease. -/
  | freeing (flight : Flight Unit)
  /-- Asking whether the lease is free. -/
  | confirming (deadline : Nat) (flight : Flight (Option LeaseRecord))
  /-- Between two such questions. -/
  | lingering (deadline wake : Nat)

inductive Renewer where
  /-- Until the next tick. -/
  | waiting (tick : Nat)
  /-- Asking for a renewal, no longer than up to `limit`. -/
  | renewing (tick limit : Nat) (flight : Flight Bool)
  | ended

/-- What goes on beside the caller while a coordinator leads. -/
structure Tenure where
  renewer : Renewer
  /-- A loss that the renewer has reported. -/
  report : Option LossReason := none
  /-- Whether the supervisor still waits for a report. -/
  watched : Bool := true
  stopRequested : Bool := false

structure Coordinator where
  config : LeaseConfig
  identity : String
  state : LeaseState := .idle
  /-- Why leadership was lost, until the next acquisition. -/
  lost : Option LossReason := none
  /-- When the answer to the last successful attempt or renewal arrived. -/
  lastRenewed : Nat := 0
  tenure : Option Tenure := none
  errand : Option Errand := none
  /-- How the last errand ended. -/
  outcome : Option (Except LeaseError Unit) := none

namespace Coordinator

def invalidState (c : Coordinator) (operation : String) : LeaseError :=
  .invalidState c.config.key operation c.state

/-- Ends the errand. -/
def finish (c : Coordinator) (outcome : Except LeaseError Unit) : Coordinator :=
  { c with errand := none, outcome := some outcome }

/-! ## Acquisition -/

/-- Sets out to acquire the lease. Only an idle coordinator can. -/
def acquire (c : Coordinator) (now timeout : Nat) : Except LeaseError Coordinator :=
  if c.state = .idle then
    .ok { c with
      state := .acquiring, lost := none, outcome := none,
      errand := some (.trying now timeout .sent) }
  else .error (c.invalidState "acquire")

/-- The lease is granted: a new tenure begins. -/
def lead (c : Coordinator) (now : Nat) : Coordinator :=
  { c with
    state := .leading, lastRenewed := now, errand := none, outcome := some (.ok ()),
    tenure := some { renewer := .waiting (now + c.config.retryPeriod) } }

/-- After an attempt. A failed attempt counts as a refusal. -/
def afterAttempt (c : Coordinator) (now started timeout : Nat) :
    Except BackendError Bool → Coordinator
  | .ok true => c.lead now
  | _ =>
    let elapsed := now - started
    if timeout ≤ elapsed then { c with errand := some (.naming elapsed .sent) }
    else
      let pause := min c.config.retryPeriod (timeout - elapsed)
      { c with errand := some (.resting started timeout (now + pause)) }

/-- Gives up. The holder is named if the backend tells. -/
def giveUp (c : Coordinator) (waited : Nat)
    (answer : Except BackendError (Option LeaseRecord)) : Coordinator :=
  let holder := match answer with
    | .ok (some record) => some record.holder
    | _ => none
  { c.finish (.error (.acquireTimeout c.config.key holder waited)) with state := .idle }

/-! ## Leading -/

/-- Whether exclusive access is still certain. A lease that has not been renewed for as long as
the renew deadline counts as lost, seen or not. -/
def ensureLeading (c : Coordinator) (now : Nat) : Except LeaseError Unit :=
  if c.state = .leading then
    let since := now - c.lastRenewed
    if since < c.config.renewDeadline then .ok ()
    else .error (.leadershipLost c.config.key (.noRenewalFor since))
  else
    match c.lost with
    | some reason => .error (.leadershipLost c.config.key reason)
    | none => .error (c.invalidState "exclusive access")

/-- The renewer ends, with or without a report. -/
def endRenewals (c : Coordinator) (report : Option LossReason) : Coordinator :=
  { c with tenure := c.tenure.map fun t => { t with renewer := .ended, report } }

/-- After a renewal. One that did not answer in time failed. -/
def afterRenewal (c : Coordinator) (now tick : Nat) (answer : Option (Except BackendError Bool)) :
    Coordinator :=
  match answer with
  | some (.ok false) => c.endRenewals (some .refused)
  | answer =>
    let c := match answer with
      | some (.ok true) => { c with lastRenewed := now }
      | _ => c
    if c.config.renewDeadline ≤ now - c.lastRenewed then
      c.endRenewals (some (.noRenewalWithin c.config.renewDeadline))
    else { c with tenure := c.tenure.map fun t => { t with renewer := .waiting tick } }

/-- The supervisor learns of a loss. -/
def learnLoss (c : Coordinator) (reason : LossReason) : Coordinator :=
  { c with
    lost := some reason
    state := if c.state = .leading then .idle else c.state
    tenure := c.tenure.map fun t => { t with watched := false } }

/-! ## Release -/

/-- The answer to a release of a coordinator that does not lead. -/
def lossResult (c : Coordinator) : Except LeaseError Unit :=
  match c.lost with
  | some reason => .error (.leadershipLost c.config.key reason)
  | none => .ok ()

/-- Sets out to release the lease, or answers at once if there is nothing to release. -/
def release (c : Coordinator) : Coordinator × Option (Except LeaseError Unit) :=
  match c.state with
  | .leading =>
    ({ c with
      state := .releasing, outcome := none, errand := some .stopping
      tenure := c.tenure.map fun t => { t with stopRequested := true } }, none)
  | .idle => ({ c with tenure := none }, some c.lossResult)
  | _ => (c, some (.error (c.invalidState "release")))

/-- The tenure is over. A loss that was reported meanwhile is not forgotten. -/
def afterStop (c : Coordinator) : Coordinator :=
  { c with
    tenure := none
    errand := some (match c.lost with
      | some reason => .dropping reason .sent
      | none => .freeing .sent) }

/-- Ends a release. -/
def endRelease (c : Coordinator) (outcome : Except LeaseError Unit) : Coordinator :=
  { c.finish outcome with state := .idle }

def afterFreeing (c : Coordinator) (now : Nat) : Except BackendError Unit → Coordinator
  | .error error => c.endRelease (.error (.backend error))
  | .ok () => { c with errand := some (.confirming (now + c.config.ttl) .sent) }

/-- After the question whether the lease is free. -/
def afterConfirmation (c : Coordinator) (now deadline : Nat) :
    Except BackendError (Option LeaseRecord) → Coordinator
  | .error error => c.endRelease (.error (.backend error))
  | .ok none => c.endRelease (.ok ())
  | .ok (some record) =>
    if record.holder = c.identity then
      if deadline ≤ now then
        c.endRelease (.error (.releaseUnconfirmed c.config.key record.holder))
      else { c with errand := some (.lingering deadline (now + c.config.retryPeriod)) }
    else c.endRelease (.ok ())

/-! ## Cancellation -/

/-- Drops the errand where it is. A dropped acquisition leaves an idle coordinator. -/
def cancel (c : Coordinator) : Coordinator :=
  { c with errand := none, state := if c.state = .acquiring then .idle else c.state }

/-! ## Steps

A step is taken if what it waits for is there. `send` puts a call to the backend. -/

variable {σ : Type}

def send {α : Type} (b : LeaseBackend σ) (c : LeaseCall α) (now : Nat) (s : σ) : Flight α × σ :=
  let (reply, s) := b.call c now s
  (.answered reply.answer (reply.delay.map (now + ·)), s)

def tryAcquireCall (c : Coordinator) : LeaseCall Bool :=
  .tryAcquire c.config.key c.identity c.config.ttl

def renewCall (c : Coordinator) : LeaseCall Bool := .renew c.config.key c.identity c.config.ttl

def releaseCall (c : Coordinator) : LeaseCall Unit := .release c.config.key c.identity

def holderCall (c : Coordinator) : LeaseCall (Option LeaseRecord) := .currentHolder c.config.key

/-- Whether renewer and supervisor have ended. -/
def stopped (c : Coordinator) : Bool :=
  match c.tenure with
  | none => true
  | some t => !t.watched && t.renewer matches .ended

/-- The next step of the errand. -/
def stepErrand (b : LeaseBackend σ) (now : Nat) (c : Coordinator) (s : σ) :
    Option (Coordinator × σ) :=
  let on (errand : Errand) : Coordinator := { c with errand := some errand }
  match c.errand with
  | none => none
  | some (.trying started timeout .sent) =>
    let (flight, s) := send b c.tryAcquireCall now s
    some (on (.trying started timeout flight), s)
  | some (.trying started timeout flight) =>
    (flight.landed now).map fun answer => (c.afterAttempt now started timeout answer, s)
  | some (.resting started timeout wake) =>
    if wake ≤ now then some (on (.trying started timeout .sent), s) else none
  | some (.naming waited .sent) =>
    let (flight, s) := send b c.holderCall now s
    some (on (.naming waited flight), s)
  | some (.naming waited flight) =>
    (flight.landed now).map fun answer => (c.giveUp waited answer, s)
  | some .stopping => if c.stopped then some (c.afterStop, s) else none
  | some (.dropping reason .sent) =>
    let (flight, s) := send b c.releaseCall now s
    some (on (.dropping reason flight), s)
  | some (.dropping reason flight) =>
    (flight.landed now).map fun _ =>
      (c.endRelease (.error (.leadershipLost c.config.key reason)), s)
  | some (.freeing .sent) =>
    let (flight, s) := send b c.releaseCall now s
    some (on (.freeing flight), s)
  | some (.freeing flight) =>
    (flight.landed now).map fun answer => (c.afterFreeing now answer, s)
  | some (.confirming deadline .sent) =>
    let (flight, s) := send b c.holderCall now s
    some (on (.confirming deadline flight), s)
  | some (.confirming deadline flight) =>
    (flight.landed now).map fun answer => (c.afterConfirmation now deadline answer, s)
  | some (.lingering deadline wake) =>
    if wake ≤ now then some (on (.confirming deadline .sent), s) else none

/-- The next step of the renewer. A request to stop is heard between two renewals. If the next
renewal is due as well, either may come first. -/
def stepRenewer (b : LeaseBackend σ) (now : Nat) (stopFirst : Bool) (c : Coordinator) (s : σ) :
    Option (Coordinator × σ) :=
  match c.tenure with
  | none => none
  | some t =>
    let on (renewer : Renewer) : Coordinator := { c with tenure := some { t with renewer } }
    match t.renewer with
    | .ended => none
    | .waiting tick =>
      if t.stopRequested && (stopFirst || now < tick) then some (c.endRenewals none, s)
      else if tick ≤ now then
        let period := c.config.retryPeriod
        some (on (.renewing (tick + period) (now + period) .sent), s)
      else none
    | .renewing tick limit .sent =>
      let (flight, s) := send b c.renewCall now s
      some (on (.renewing tick limit flight), s)
    | .renewing tick limit flight =>
      match flight.landed now with
      | some answer => some (c.afterRenewal now tick (some answer), s)
      | none => if limit ≤ now then some (c.afterRenewal now tick none, s) else none

/-- The next step of the supervisor. -/
def stepSupervisor (c : Coordinator) : Option Coordinator :=
  match c.tenure with
  | none => none
  | some t =>
    if t.watched then
      match t.report, t.renewer with
      | some reason, _ => some (c.learnLoss reason)
      | none, .ended => some { c with tenure := some { t with watched := false } }
      | none, _ => none
    else none

/-- Some step that can be taken now. -/
def step (b : LeaseBackend σ) (now : Nat) (stopFirst : Bool) (c : Coordinator) (s : σ) :
    Option (Coordinator × σ) :=
  match c.stepErrand b now s with
  | some next => some next
  | none =>
    match c.stepRenewer b now stopFirst s with
    | some next => some next
    | none => c.stepSupervisor.map fun c => (c, s)

/-! ## Waiting -/

/-- The instants that the coordinator waits for. -/
def dues (c : Coordinator) : List Nat :=
  let errand := match c.errand with
    | some (.trying _ _ flight) => flight.dues
    | some (.resting _ _ wake) => [wake]
    | some (.naming _ flight) => flight.dues
    | some (.dropping _ flight) => flight.dues
    | some (.freeing flight) => flight.dues
    | some (.confirming _ flight) => flight.dues
    | some (.lingering _ wake) => [wake]
    | some .stopping | none => []
  let renewer := match c.tenure.map Tenure.renewer with
    | some (.waiting tick) => [tick]
    | some (.renewing _ limit flight) => limit :: flight.dues
    | some .ended | none => []
  errand ++ renewer

end Coordinator

end GoldenCapture
