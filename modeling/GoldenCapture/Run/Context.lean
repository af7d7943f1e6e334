import GoldenCapture.Golden
import GoldenCapture.Lease.Contest
import GoldenCapture.Lease.Folder
import GoldenCapture.Lease.Table
import GoldenCapture.Shell
import GoldenCapture.Sink

/-!
# Run contexts

What one run owns from its start to its shutdown: sinks, an API stub, a lease, golden files and a
deadline. A start that fails leaves nothing running. Shutdown happens once.
-/

namespace GoldenCapture

/-- Runs a command line on files: what it wrote, or why it failed, and the files after it. -/
abbrev CommandRunner := String → FileTree → Except Failure String × FileTree

/-- The places in which a run may keep its lease. -/
structure LeaseSite where
  folder : LeaseFolder
  table : LeaseTable := {}

namespace LeaseSite

/-- The backend of a run: files if a folder is set, else memory of its own. -/
def backend (leaseDir : Option String) (clock : Nat → Timestamp) : LeaseBackend LeaseSite where
  call c now site :=
    match leaseDir with
    | some folder =>
      let (reply, folder) := (LeaseFolder.backend folder clock).call c now site.folder
      (reply, { site with folder })
    | none =>
      let (reply, table) := (LeaseTable.backend clock).call c now site.table
      (reply, { site with table })

end LeaseSite

/-- What others do about the lease of a run. -/
structure Interference where
  /-- What they have done to its place by the time of a call. -/
  act : Nat → LeaseSite → LeaseSite := fun _ site => site
  /-- Why the answer to a call is lost, if it is. -/
  fault : Nat → Option BackendError := fun _ => none
  /-- How much later than without them the answer to a call comes. -/
  delay : Nat → Nat := fun _ => 0

/-- A backend with others about. -/
def Interference.over (o : Interference) (b : LeaseBackend LeaseSite) : LeaseBackend LeaseSite where
  call c now site :=
    let (reply, site) := b.call c now (o.act now site)
    let answer := match o.fault now with
      | some error => .error error
      | none => reply.answer
    ({ answer, delay := reply.delay.map (· + o.delay now) }, site)

/-- Where runs take place. -/
structure Host where
  now : Nat := 0
  /-- The time of day at an instant. -/
  clock : Nat → Timestamp
  folder : LeaseFolder := {}
  listeners : Listeners := {}
  shell : CommandRunner := Shell.runLine
  /-- How long a run is busy with something of its own, such as a command, from an instant on. -/
  lag : Nat → Nat := fun _ => 0
  others : Interference := {}
  /-- Whether a request to stop is heard before a renewal that is due at the same instant. -/
  stopFirst : Nat → Bool := fun _ => true

/-- A request that will reach a sink. -/
structure Delivery where
  due : Nat
  protocol : Protocol
  request : HttpRequest

structure RunContext where
  settings : Settings
  clock : Nat → Timestamp
  shell : CommandRunner
  lag : Nat → Nat := fun _ => 0
  others : Interference := {}
  /-- The clock, the files and the lease. There is no party without a lease. -/
  lease : Contest LeaseSite
  listeners : Listeners
  sinks : SinkSet
  stub : Option ApiStub
  deadline : Option Nat
  /-- What the outside will send. -/
  traffic : List Delivery := []
  /-- How the sinks answered, the last answer first. -/
  answered : List HttpStatus := []
  shutDown : Bool := false

namespace RunContext

/-! ## Start -/

/-- The party that a run puts up for its lease, and the folder for its records. -/
def enter (settings : Settings) (identity : String) (files : FileTree) :
    Except Failure (List Coordinator × FileTree) :=
  match settings.lease with
  | none => .ok ([], files)
  | some config =>
    let parties : List Coordinator := [{ config, identity }]
    match settings.leaseDir with
    | none => .ok (parties, files)
    | some folder =>
      match files.makeFolder folder with
      | .error _ => .error (.lease (.backend .storage))
      | .ok files => .ok (parties, files)

/-- Starts the API stub, if there is to be one. -/
def startStub (settings : Settings) (n : Listeners) :
    Except Failure (Option ApiStub × Listeners) :=
  match settings.apiStub with
  | none => .ok (none, n)
  | some address =>
    match n.start ApiStub.label address with
    | none => .error (.listener ApiStub.label address.text)
    | some (listener, n) => .ok (some { listener := listener.id }, n)

def stopStub (stub : Option ApiStub) (n : Listeners) : Listeners :=
  match stub with
  | none => n
  | some stub => n.stop stub.listener

/-- Checks the settings and starts everything that they ask for. -/
def start (settings : Settings) (identity : String) (host : Host)
    (traffic : List Delivery) : Except Failure RunContext × Host :=
  match settings.validate with
  | .error failure => (.error failure, host)
  | .ok () =>
    match enter settings identity host.folder.files with
    | .error failure => (.error failure, host)
    | .ok (parties, files) =>
      let host := { host with folder := { host.folder with files } }
      match startStub settings host.listeners with
      | .error failure => (.error failure, host)
      | .ok (stub, listeners) =>
        match SinkSet.startAll settings.sinks {} listeners with
        | (.error failure, listeners) =>
          (.error failure, { host with listeners := stopStub stub listeners })
        | (.ok sinks, listeners) =>
          let context : RunContext := {
            settings, listeners, sinks, stub, traffic
            clock := host.clock
            shell := host.shell
            lag := host.lag
            others := host.others
            lease := {
              now := host.now
              backend := { folder := host.folder }
              parties
              stopFirst := host.stopFirst }
            deadline := settings.overallTimeout.map (host.now + ·) }
          (.ok context, { host with listeners })

/-! ## Parts -/

def now (c : RunContext) : Nat := c.lease.now

def files (c : RunContext) : FileTree := c.lease.backend.folder.files

def setFiles (c : RunContext) (files : FileTree) : RunContext :=
  let site := c.lease.backend
  { c with lease := { c.lease with
      backend := { site with folder := { site.folder with files } } } }

/-- The host, once the run is over. -/
def host (c : RunContext) : Host where
  now := c.now
  clock := c.clock
  folder := c.lease.backend.folder
  listeners := c.listeners
  shell := c.shell
  lag := c.lag
  others := c.others
  stopFirst := c.lease.stopFirst

def golden (c : RunContext) : GoldenStore :=
  { root := c.settings.goldenRoot, regenerating := c.settings.switches.updateExpectedResults }

def coordinator? (c : RunContext) : Option Coordinator := c.lease.party? 0

def leaseBackend (c : RunContext) : LeaseBackend LeaseSite :=
  LeaseSite.backend c.settings.leaseDir c.clock

/-- The backend as the run finds it. -/
def service (c : RunContext) : LeaseBackend LeaseSite := c.others.over c.leaseBackend

/-! ## Time -/

/-- A request reaches its sink. -/
def deliver (c : RunContext) (d : Delivery) : RunContext :=
  let (status, sinks) := c.sinks.handle d.protocol d.request
  { c with sinks, answered := status.toList ++ c.answered }

/-- All requests that are due by an instant reach their sinks. -/
def receiveUntil (t : Nat) (c : RunContext) : RunContext :=
  (c.traffic.filter fun d => d.due ≤ t).foldl deliver
    { c with traffic := c.traffic.filter fun d => !(d.due ≤ t) }

/-- Lets time pass for the lease and for the traffic. -/
def sleepUntil (t : Nat) (c : RunContext) : RunContext :=
  { c.receiveUntil t with lease := c.lease.sleepUntil c.service t }

/-- Lets the time pass for which the run is busy. -/
def elapse (c : RunContext) : RunContext :=
  if c.lag c.now = 0 then c else c.sleepUntil (c.now + c.lag c.now)

def timeline : Timeline RunContext where
  now := RunContext.now
  sleepUntil := sleepUntil
  now_sleepUntil _ _ := rfl

/-! ## Operations -/

def store (c : RunContext) (p : Protocol) : Except Failure Store := c.sinks.store p

/-- The store of a protocol, empty if it has no sink. -/
def captured (p : Protocol) (c : RunContext) : Store := (c.store p).toOption.getD {}

/-- Waits until the sink of a protocol has captured enough. -/
def waitForBatches (p : Protocol) (wanted : Nat) (c : RunContext) :
    Except Failure Unit × RunContext :=
  match c.store p with
  | .error failure => (.error failure, c)
  | .ok _ => timeline.waitForBatches c.settings.wait c.deadline (captured p) wanted c

/-- Selects a batch that the sink of a protocol has captured, and waits for it if need be. -/
def waitForSelection (p : Protocol) (selector : Selector) (expected : Batch) (c : RunContext) :
    Except Failure Captured × RunContext :=
  match c.store p with
  | .error failure => (.error failure, c)
  | .ok _ =>
    timeline.waitForSelection c.settings.select c.deadline (captured p) selector expected c

/-- What an errand of the lease came to. One without an end counts as refused. -/
def leaseResult (c : Coordinator) (operation : String) :
    Option (Except LeaseError Unit) → Except Failure Unit
  | none => .error (.lease (c.invalidState operation))
  | some result => result.mapError .lease

/-- Becomes the leader of the lease, if there is one. That may take time. -/
def acquireLease (c : RunContext) : Except Failure Unit × RunContext :=
  match c.coordinator? with
  | none => (.ok (), c)
  | some party =>
    let (result, lease) := c.lease.acquire c.service 0 party.config.acquireTimeout
    (leaseResult party "acquire" result, { c.receiveUntil lease.now with lease })

/-- Fails if there is a lease and it is not held. -/
def ensureExclusive (c : RunContext) : Except Failure Unit :=
  match c.coordinator? with
  | none => .ok ()
  | some party => (party.ensureLeading c.now).mapError .lease

def releaseLease (c : RunContext) : Except Failure Unit × RunContext :=
  match c.coordinator? with
  | none => (.ok (), c)
  | some party =>
    let (result, lease) := c.lease.release c.service 0
    (leaseResult party "release" result, { c with lease })

/-- Runs a command line. What it has done to the files of the host is there when it ends. -/
def runLine (line : String) (c : RunContext) : Except Failure Unit × RunContext :=
  let c := c.elapse
  let (result, files) := c.shell line c.files
  (result.map fun _ => (), c.setFiles files)

/-- Stops all that is running. -/
def stopListeners (c : RunContext) : RunContext :=
  { c with
    listeners := stopStub c.stub (c.sinks.stopAll c.listeners)
    sinks := {}
    stub := none }

/-- Stops the sinks and releases the lease, the first time. -/
def shutdown (c : RunContext) : Except Failure Unit × RunContext :=
  if c.shutDown then (.ok (), c) else ({ c with shutDown := true }.stopListeners).releaseLease

end RunContext

end GoldenCapture
