import GoldenCapture.Compare.Mismatch
import GoldenCapture.Lease.Error
import GoldenCapture.Protocol

/-!
# Failures

Why a run, a step of it or a check failed.
-/

namespace GoldenCapture

/-- What is wrong with the settings of a run, apart from its lease. -/
inductive ConfigProblem where
  | protocolTwice (protocol : Protocol)
  | waitWithoutPoll
  | selectWithoutPoll
  | portTaken (port : UInt16) (protocol : Protocol)
deriving DecidableEq, Repr

/-- The setting that has the problem. -/
def ConfigProblem.field : ConfigProblem → String
  | protocolTwice _ => "sinks"
  | waitWithoutPoll => "wait"
  | selectWithoutPoll => "select"
  | portTaken _ _ => "api_stub"

def ConfigProblem.reason : ConfigProblem → String
  | protocolTwice p => s!"protocol {p.name} configured twice"
  | waitWithoutPoll | selectWithoutPoll => "poll interval must be positive"
  | portTaken port p => s!"port {port} is already used by the {p.name} sink"

inductive Failure where
  | timeout (what : String) (observed : Nat) (waited : Nat)
  | mismatch (m : Mismatch Place)
  | lease (error : LeaseError)
  | regenerated (path : String)
  | goldenMissing (path : String)
  /-- A listener could not be bound. `label` says what it was for. -/
  | listener (label address : String)
  | noSink (protocol : Protocol)
  | command (line reason : String)
  | assertion (message : String)
  | config (problem : ConfigProblem)
  /-- A file could not be read or written. -/
  | storage
  /-- A golden file holds no snapshot. -/
  | snapshot
deriving DecidableEq

def Failure.message : Failure → String
  | timeout what observed waited =>
    s!"Timed out after {Duration.text waited} waiting for {what} (last observed: {observed})"
  | mismatch m => "Telemetry mismatch: " ++ m.text
  | lease error => "Lease error: " ++ error.message
  | regenerated path =>
    s!"Golden file {path} was regenerated; review it and rerun without regeneration"
  | goldenMissing path => "Golden file not found: " ++ path
  | listener label address => s!"Sink for {label} failed to start on {address}"
  | noSink p => "No sink configured for " ++ p.name
  | command line reason =>
    "Command `" ++ line ++ "` failed: " ++ reason
  | assertion message => "Assertion failed: " ++ message
  | config problem => s!"Configuration error: {problem.field}: {problem.reason}"
  | storage => "I/O error"
  | snapshot => "YAML error"

end GoldenCapture
