import GoldenCapture.CommandLine.Report
import GoldenCapture.CommandLine.Request
import GoldenCapture.CommandLine.Variables

/-!
# The command line

Runs the scenario that a user asks for and says how it ended: status zero if it passed, one if it
failed, two if the arguments are no request.
-/

namespace GoldenCapture.CommandLine

/-- How a call of the program ended. -/
structure Outcome where
  status : Nat
  output : String := ""
  errors : String := ""
  host : Host
  /-- How the sink answered what was posted. -/
  answered : List HttpStatus := []

/-- The file that may set variables. -/
def variablesFile : String := ".env"

/-- The variables of a call: those that are set, and then those of the file. -/
def knownVariables (set : Variables) (files : FileTree) : Variables :=
  match files.text? variablesFile with
  | none => set
  | some text => readVariables set text

/-- The files that a call may read: the variables, the golden file and the record of the lease. -/
def paths (argv : List String) : List String :=
  variablesFile ::
    match Request.ofArguments argv with
    | .error _ => []
    | .ok r =>
      let record := match r.options.leaseDir, r.options.leaseKey with
        | some folder, some key => [LeaseFolder.recordPath folder key]
        | _, _ => []
      FileTree.join r.options.goldenRoot r.golden :: record

/-- Runs a request. What is posted reaches the sink as soon as it listens. -/
def perform (r : Request) (switches : Switches) (host : Host) (posts : List HttpRequest) :
    Outcome :=
  let settings := r.settings switches
  match settings.validate with
  | .error failure =>
    { status := 1, errors := report "invalid harness configuration" failure.causes, host }
  | .ok () =>
    let traffic := posts.map fun request => { due := host.now, protocol := r.protocol, request }
    let run := r.scenario.scenario.run settings "golden-capture" host traffic ()
    match run.result with
    | .ok () => { status := 0, host := run.host, answered := run.answered }
    | .error failure =>
      { status := 1
        errors := report s!"scenario '{r.golden}' failed" failure.causes
        host := run.host
        answered := run.answered }

/-- Calls the program. -/
def run (argv : List String) (set : Variables) (host : Host) (posts : List HttpRequest) :
    Outcome :=
  match Request.ofArguments argv with
  | .error .help => { status := 0, output := usage ++ "\n", host }
  | .error .misuse => { status := 2, errors := usage ++ "\n", host }
  | .ok request =>
    perform request (.ofLookup (knownVariables set host.folder.files)) host posts

end GoldenCapture.CommandLine
