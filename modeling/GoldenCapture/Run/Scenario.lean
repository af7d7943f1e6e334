import GoldenCapture.Run.Context
import GoldenCapture.Run.Lifecycle

/-!
# Scenarios

What is set up, verified and torn down in a run. A scenario works on the context of its run and on
notes of its own.
-/

namespace GoldenCapture

open Lifecycle (Step)

structure Scenario (τ : Type) where
  name : String
  /-- Whether it changes the environment and needs the lease. -/
  mutates : Bool := true
  setup : Step (RunContext × τ) Failure := Lifecycle.skip
  verify : Step (RunContext × τ) Failure := Lifecycle.skip
  teardown : Step (RunContext × τ) Failure := Lifecycle.skip

/-- What is left of a run. -/
structure RunReport (τ : Type) where
  result : Except Failure Unit
  host : Host
  notes : τ
  /-- How the sinks answered, the first answer first. -/
  answered : List HttpStatus := []

namespace Scenario

variable {τ : Type}

/-- A step that leaves the notes alone. -/
def onContext (step : Step RunContext Failure) : Step (RunContext × τ) Failure :=
  fun (context, notes) =>
    let (result, context) := step context
    (result, context, notes)

/-- The actions of a run, each as a step. -/
def act (s : Scenario τ) : RunAction → Step (RunContext × τ) Failure
  | .acquire => onContext RunContext.acquireLease
  | .check => onContext fun context => (context.ensureExclusive, context)
  | .setup => s.setup
  | .verify => s.verify
  | .teardown => s.teardown
  | .shutdown => onContext RunContext.shutdown

/-- An action, and the time that the run takes to come to it. -/
def perform (s : Scenario τ) (action : RunAction) : Step (RunContext × τ) Failure :=
  fun (context, notes) => s.act action (context.elapse, notes)

/-- Runs a scenario from the start of its context to the shutdown. -/
def run (s : Scenario τ) (settings : Settings) (identity : String) (host : Host)
    (traffic : List Delivery) (notes : τ) : RunReport τ :=
  match RunContext.start settings identity host traffic with
  | (.error failure, host) => { result := .error failure, host, notes }
  | (.ok context, _) =>
    let (result, context, notes) :=
      Lifecycle.run s.perform settings.switches s.mutates (context, notes)
    { result, host := context.host, notes, answered := context.answered.reverse }

end Scenario

end GoldenCapture
