import GoldenCapture.Failure
import GoldenCapture.Lease.Config
import GoldenCapture.Net.Address
import GoldenCapture.Switches
import GoldenCapture.Wait

/-!
# Settings of a run

Which sinks listen where, how long a run waits, where golden files are, and the lease that guards
the environment.
-/

namespace GoldenCapture

/-- A listener for one protocol. -/
structure SinkSettings where
  protocol : Protocol
  bind : SocketAddress
deriving DecidableEq, Repr

namespace SinkSettings

/-- A listener on every address at the protocol's usual port. -/
def default (p : Protocol) : SinkSettings := ⟨p, .anyAddress p.defaultPort⟩

end SinkSettings

structure Settings where
  sinks : List SinkSettings := []
  /-- For counts of batches. -/
  wait : WaitPolicy := ⟨Duration.ofSeconds 180, Duration.ofSeconds 1⟩
  /-- For the selection of a batch. -/
  select : WaitPolicy := ⟨Duration.ofSeconds 180, Duration.ofSeconds 5⟩
  /-- A bound on every wait, from the start of the run. -/
  overallTimeout : Option Nat := none
  goldenRoot : String := "testdata"
  lease : Option LeaseConfig := none
  /-- Where lease records are kept; without it they live in memory. -/
  leaseDir : Option String := none
  switches : Switches := {}
  apiStub : Option SocketAddress := none
  logLevel : Option String := none

namespace Settings

/-- The first sink of a protocol. -/
def sink? (s : Settings) (p : Protocol) : Option SinkSettings :=
  s.sinks.find? fun sink => sink.protocol == p

/-- The first protocol that is listed a second time. -/
def protocolTwice? : List Protocol → List SinkSettings → Option Protocol
  | _, [] => none
  | seen, sink :: rest =>
    if seen.contains sink.protocol then some sink.protocol
    else protocolTwice? (sink.protocol :: seen) rest

/-- The first sink on the port of the API stub. Port zero stands for any free port. -/
def portTaken? (s : Settings) : Option ConfigProblem :=
  s.apiStub.bind fun stub =>
    (s.sinks.find? fun sink => stub.port != 0 && sink.bind.port == stub.port).map
      fun sink => .portTaken stub.port sink.protocol

/-- The first problem with the settings, apart from the lease. -/
def problem? (s : Settings) : Option ConfigProblem :=
  match protocolTwice? [] s.sinks with
  | some p => some (.protocolTwice p)
  | none =>
    if s.wait.pollInterval = 0 then some .waitWithoutPoll
    else if s.select.pollInterval = 0 then some .selectWithoutPoll
    else s.portTaken?

/-- Whether a run can start from the settings. -/
def validate (s : Settings) : Except Failure Unit :=
  match s.problem? with
  | some problem => .error (.config problem)
  | none =>
    match s.lease with
    | none => .ok ()
    | some lease => lease.validate.mapError .lease

end Settings

/-- The log filter for a base level. -/
def logFilter (level : String) : String :=
  s!"harness={level},shared={level},tower=warn,hyper=warn,axum=warn,reqwest=warn"

end GoldenCapture
