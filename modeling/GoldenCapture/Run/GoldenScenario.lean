import GoldenCapture.Run.Scenario

/-!
# Golden scenarios

Captures by one protocol, selects the batch with a marker and verifies it against a golden file.
Commands may set the environment up and tear it down; with one of them the scenario needs the
lease.
-/

namespace GoldenCapture

structure GoldenScenario where
  name : String
  protocol : Protocol
  /-- The name of the golden file under the golden root. -/
  golden : String
  selector : Selector
  /-- How many batches have to arrive before one is selected. -/
  minBatches : Nat := 1
  rules : Rules := []
  scrubber : Scrubber := {}
  setupCommand : Option String := none
  teardownCommand : Option String := none

namespace GoldenScenario

/-- A command may change the environment. -/
def mutates (s : GoldenScenario) : Bool := s.setupCommand.isSome || s.teardownCommand.isSome

/-- Runs a command, if there is one. -/
def runCommand (command : Option String) (c : RunContext) : Except Failure Unit × RunContext :=
  match command with
  | none => (.ok (), c)
  | some line => c.runLine line

def setup (s : GoldenScenario) (c : RunContext) : Except Failure Unit × RunContext :=
  runCommand s.setupCommand c

def teardown (s : GoldenScenario) (c : RunContext) : Except Failure Unit × RunContext :=
  runCommand s.teardownCommand c

/-- How to select, and what the batch is to look like. A golden file may be missing while golden
files are written anew; then the marker alone counts. -/
def reference (s : GoldenScenario) (c : RunContext) : Except Failure (Selector × Batch) :=
  match GoldenStore.read c.files (c.golden.path s.golden) with
  | .ok expected => .ok (s.selector, expected)
  | .error (.goldenMissing path) =>
    if c.golden.regenerating then
      .ok ({ s.selector with matchShape := false }, { signal := s.protocol.signal })
    else .error (.goldenMissing path)
  | .error failure => .error failure

/-- Selects a batch and verifies it. -/
def verifySelection (s : GoldenScenario) (selector : Selector) (expected : Batch)
    (c : RunContext) : Except Failure Unit × RunContext :=
  match c.waitForSelection s.protocol selector expected with
  | (.error failure, c) => (.error failure, c)
  | (.ok captured, c) =>
    let golden := { c.golden with scrubber := s.scrubber }
    let (result, files) := golden.verify c.files (golden.path s.golden) captured.batch s.rules
    (result, c.setFiles files)

/-- To read the golden file takes the run some time. -/
def verify (s : GoldenScenario) (c : RunContext) : Except Failure Unit × RunContext :=
  match c.waitForBatches s.protocol s.minBatches with
  | (.error failure, c) => (.error failure, c)
  | (.ok (), c) =>
    match s.reference c with
    | .error failure => (.error failure, c)
    | .ok (selector, expected) => s.verifySelection selector expected c.elapse

def scenario (s : GoldenScenario) : Scenario Unit where
  name := s.name
  mutates := s.mutates
  setup := Scenario.onContext s.setup
  verify := Scenario.onContext s.verify
  teardown := Scenario.onContext s.teardown

end GoldenScenario

end GoldenCapture
