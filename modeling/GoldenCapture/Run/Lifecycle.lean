import GoldenCapture.Switches

/-!
# Lifecycles

The order in which a run takes its steps. A scenario that changes the environment needs the lease:
nothing happens before it is acquired, and each setup and teardown follows a check that it is still
held. The first failure decides what comes out, and what comes after it is cleaning up.
-/

namespace GoldenCapture

inductive RunAction where
  | acquire
  /-- Checks that the lease is still held. -/
  | check
  | setup
  | verify
  | teardown
  | shutdown
deriving DecidableEq, Repr

namespace Lifecycle

variable {σ ε : Type}

/-- What a step does to the world that it is taken in. -/
abbrev Step (σ ε : Type) := σ → Except ε Unit × σ

def skip : Step σ ε := fun s => (.ok (), s)

/-- Goes on only if nothing has failed. -/
def andThen (first next : Step σ ε) : Step σ ε := fun s =>
  match first s with
  | (.ok (), s) => next s
  | failed => failed

/-- Goes on in any case. The first failure counts. -/
def finally_ (first next : Step σ ε) : Step σ ε := fun s =>
  let (outcome, s) := first s
  let (cleanup, s) := next s
  match outcome with
  | .error e => (.error e, s)
  | .ok () => (cleanup, s)

/-- A step that changes the environment, after a check if it needs the lease. -/
def guarded (perform : RunAction → Step σ ε) (exclusive : Bool) (action : RunAction) :
    Step σ ε :=
  if exclusive then andThen (perform .check) (perform action) else perform action

/-- The steps between start and shutdown. -/
def drive (perform : RunAction → Step σ ε) (switches : Switches) (exclusive : Bool) : Step σ ε :=
  let acquire := if exclusive then perform .acquire else skip
  let leading := if switches.teardownBeforeSetup then guarded perform exclusive .teardown else skip
  let setup := if switches.skipSetup then skip else guarded perform exclusive .setup
  let verify := if switches.skipTests then skip else perform .verify
  let main := andThen setup verify
  let rest := if switches.skipTeardown then main
    else finally_ main (guarded perform exclusive .teardown)
  andThen acquire (andThen leading rest)

/-- A whole run, once it has started. -/
def run (perform : RunAction → Step σ ε) (switches : Switches) (exclusive : Bool) : Step σ ε :=
  finally_ (drive perform switches exclusive) (perform .shutdown)

end Lifecycle

end GoldenCapture
