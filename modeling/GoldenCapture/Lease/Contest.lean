import GoldenCapture.Lease.Coordinator
import GoldenCapture.Wait

/-!
# Contests

Parties that contend for a lease over one backend, with one clock. Time passes from one awaited
instant to the next; at each instant every step that can be taken is taken.
-/

namespace GoldenCapture

structure Contest (σ : Type) where
  now : Nat := 0
  backend : σ
  parties : List Coordinator
  /-- Whether a request to stop is heard before a renewal that is due at the same instant. -/
  stopFirst : Nat → Bool := fun _ => true

namespace Contest

variable {σ : Type}

/-! ## Steps -/

/-- A step of the first party that can take one. -/
def stepAny (b : LeaseBackend σ) (now : Nat) (stopFirst : Bool) (s : σ) :
    List Coordinator → Option (List Coordinator × σ)
  | [] => none
  | c :: rest =>
    match c.step b now stopFirst s with
    | some (c, s) => some (c :: rest, s)
    | none => (stepAny b now stopFirst s rest).map fun (rest, s) => (c :: rest, s)

def step (b : LeaseBackend σ) (w : Contest σ) : Option (Contest σ) :=
  (stepAny b w.now (w.stopFirst w.now) w.backend w.parties).map fun (parties, backend) =>
    { w with parties, backend }

/-- The next instant after now that some party waits for. -/
def nextDue (w : Contest σ) : Option Nat :=
  ((w.parties.flatMap Coordinator.dues).filter (w.now < ·)).min?

/-- How many steps one stretch of time may take. -/
def stepLimit : Nat := 1000000000

/-- Takes steps and lets time pass until `done` holds or nothing happens up to `horizon`. -/
def run (b : LeaseBackend σ) (done : Contest σ → Bool) (horizon : Option Nat) :
    (steps : Nat) → Contest σ → Contest σ
  | 0, w => w
  | steps + 1, w =>
    if done w then w
    else
      match w.step b with
      | some w => run b done horizon steps w
      | none =>
        match w.nextDue, horizon with
        | none, _ => w
        | some due, none => run b done horizon steps { w with now := due }
        | some due, some last =>
          if due ≤ last then run b done horizon steps { w with now := due } else w

/-- Lets time pass up to an instant. -/
def sleepUntil (b : LeaseBackend σ) (t : Nat) (w : Contest σ) : Contest σ :=
  let rested := w.run b (fun _ => false) (some t) stepLimit
  { rested with now := max w.now t }

/-- Takes all steps that can be taken now. -/
def settle (b : LeaseBackend σ) (w : Contest σ) : Contest σ := w.sleepUntil b w.now

def timeline (b : LeaseBackend σ) : Timeline (Contest σ) where
  now := Contest.now
  sleepUntil := sleepUntil b
  now_sleepUntil _ _ := rfl

/-! ## Parties -/

def party? (w : Contest σ) (i : Nat) : Option Coordinator := w.parties[i]?

def setParty (w : Contest σ) (i : Nat) (c : Coordinator) : Contest σ :=
  { w with parties := w.parties.set i c }

/-- Whether a party is through with its errand. -/
def idle (w : Contest σ) (i : Nat) : Bool :=
  match w.party? i with
  | none => true
  | some c => c.errand.isNone

/-- Starts an acquisition. An error means that it did not start. -/
def startAcquire (b : LeaseBackend σ) (i timeout : Nat) (w : Contest σ) :
    Except LeaseError (Contest σ) :=
  match w.party? i with
  | none => .ok w
  | some c => (c.acquire w.now timeout).map fun c => (w.setParty i c).settle b

/-- Starts a release, or answers at once. -/
def startRelease (b : LeaseBackend σ) (i : Nat) (w : Contest σ) :
    Option (Except LeaseError Unit) × Contest σ :=
  match w.party? i with
  | none => (some (.ok ()), w)
  | some c =>
    let (c, answer) := c.release
    (answer, (w.setParty i c).settle b)

/-- Waits until a party is through with its errand, no longer than up to `horizon`. -/
def await (b : LeaseBackend σ) (i : Nat) (horizon : Option Nat) (w : Contest σ) : Contest σ :=
  w.run b (fun w => w.idle i) horizon stepLimit

/-- How the last errand of a party ended, if it has. -/
def outcome? (w : Contest σ) (i : Nat) : Option (Except LeaseError Unit) :=
  (w.party? i).bind fun c => if c.errand.isNone then c.outcome else none

/-- Acquires the lease for a party. Nothing comes back if the backend never answers. -/
def acquire (b : LeaseBackend σ) (i timeout : Nat) (w : Contest σ) :
    Option (Except LeaseError Unit) × Contest σ :=
  match w.startAcquire b i timeout with
  | .error error => (some (.error error), w)
  | .ok w =>
    let w := w.await b i none
    (w.outcome? i, w)

/-- Acquires the lease for a party and gives up after some time. -/
def acquireWithin (b : LeaseBackend σ) (i timeout patience : Nat) (w : Contest σ) :
    Option (Except LeaseError Unit) × Contest σ :=
  let last := w.now + patience
  match w.startAcquire b i timeout with
  | .error error => (some (.error error), w)
  | .ok w =>
    let w := w.await b i (some last)
    match w.outcome? i, w.party? i with
    | some outcome, _ => (some outcome, w)
    | none, none => (none, w)
    | none, some c => (none, { (w.setParty i c.cancel) with now := max w.now last })

def release (b : LeaseBackend σ) (i : Nat) (w : Contest σ) :
    Option (Except LeaseError Unit) × Contest σ :=
  match w.startRelease b i with
  | (some answer, w) => (some answer, w)
  | (none, w) =>
    let w := w.await b i none
    (w.outcome? i, w)

/-- Waits for a party to be in a state, no longer than `patience`. -/
def awaitState (b : LeaseBackend σ) (i : Nat) (state : LeaseState) (patience : Nat)
    (w : Contest σ) : Bool × Contest σ :=
  let there (w : Contest σ) : Bool := (w.party? i).any fun c => c.state == state
  let last := w.now + patience
  let w := w.run b there (some last) stepLimit
  if there w then (true, w) else (false, { w with now := max w.now last })

/-- Puts a call to the backend directly and waits for the answer. -/
def ask {α : Type} (b : LeaseBackend σ) (c : LeaseCall α) (w : Contest σ) :
    Option (Except BackendError α) × Contest σ :=
  let (reply, backend) := b.call c w.now w.backend
  let w := { w with backend }
  match reply.delay with
  | none => (none, w)
  | some delay => (some reply.answer, w.sleepUntil b (w.now + delay))

end Contest

end GoldenCapture
