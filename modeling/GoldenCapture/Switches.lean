/-!
# Switches

Settings that a run takes from its environment: which steps are skipped, whether golden files are
written anew, and under which name the sinks are reachable.
-/

namespace GoldenCapture

structure Switches where
  skipSetup : Bool := false
  skipTeardown : Bool := false
  teardownBeforeSetup : Bool := false
  skipTests : Bool := false
  /-- Golden files are written instead of compared with. -/
  updateExpectedResults : Bool := false
  hostEndpoint : Option String := none
deriving DecidableEq, Repr, Inhabited

namespace Switches

/-- The switches in an environment. A switch is on only if its value is exactly `true`; an empty
endpoint is none. -/
def ofLookup (lookup : String → Option String) : Switches :=
  let on (name : String) : Bool := lookup name == some "true"
  { skipSetup := on "SKIP_SETUP"
    skipTeardown := on "SKIP_TEARDOWN"
    teardownBeforeSetup := on "TEARDOWN_BEFORE_SETUP"
    skipTests := on "SKIP_TESTS"
    updateExpectedResults := on "UPDATE_EXPECTED_RESULTS"
    hostEndpoint := (lookup "HOST_ENDPOINT").filter (· != "") }

/-- The names of all settings. -/
def names : List String := ["SKIP_SETUP", "SKIP_TEARDOWN", "TEARDOWN_BEFORE_SETUP", "SKIP_TESTS",
  "UPDATE_EXPECTED_RESULTS", "HOST_ENDPOINT"]

/-- The names of the switches that are on. -/
def active (s : Switches) : List String :=
  [("SKIP_SETUP", s.skipSetup), ("SKIP_TEARDOWN", s.skipTeardown),
    ("TEARDOWN_BEFORE_SETUP", s.teardownBeforeSetup), ("SKIP_TESTS", s.skipTests),
    ("UPDATE_EXPECTED_RESULTS", s.updateExpectedResults)].filterMap
    fun (name, on) => if on then some name else none

/-- The host under which the system under test reaches the sinks. -/
def reachableHost (s : Switches) : String := s.hostEndpoint.getD "127.0.0.1"

end Switches

end GoldenCapture
