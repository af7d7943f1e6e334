import GoldenCapture.CommandLine
import Std.Time.DateTime.Timestamp

/-!
# The program

Reads the files of a call and the payloads, one a line of the input, runs the call, and writes back
what has changed.
-/

namespace GoldenCapture.CommandLine

/-- Adds a file to a tree, if it can be read. -/
def load (files : FileTree) (path : String) : IO FileTree := do
  try
    let text ← IO.FS.readFile path
    return (files.put path text).toOption.getD files
  catch _ => return files

/-- Writes a file, or takes it away if it has no text. -/
def save (location : List String) (text : Option String) : IO Unit := do
  let path := FileTree.pathOf location
  match text with
  | none => IO.FS.removeFile path
  | some text =>
    let folder := FileTree.pathOf location.dropLast
    if folder ≠ "" then IO.FS.createDirAll folder
    IO.FS.writeFile path text

/-- The variables that a call may ask for: the switches, and what its own file speaks of. -/
def readEnvironment (files : FileTree) : IO Variables := do
  let spoken := ((files.text? variablesFile).getD "").splitToList fun c =>
    !(isNamePart c || c = '_' || c = '.')
  let values ← (Switches.names ++ spoken).filterMapM fun name => do
    return (← IO.getEnv name).map fun value => (name, value)
  return fun name => values.lookup name

/-- The lines that are left of an input. -/
partial def readPayloads (input : IO.FS.Stream) : IO (List HttpRequest) := do
  let line ← input.getLine
  if line.isEmpty then return []
  let body := line.trimAsciiEnd.toString.toUTF8.toList
  return { body } :: (← readPayloads input)

/-- The clock of a run that starts now. -/
def readClock : IO (Nat → Timestamp) := do
  let start := (← Std.Time.Timestamp.now).toNanosecondsSinceUnixEpoch.val
  return fun elapsed => ⟨start + elapsed, false⟩

end GoldenCapture.CommandLine

open GoldenCapture CommandLine in
def main (argv : List String) : IO UInt32 := do
  let files ← (paths argv).foldlM load {}
  let set ← readEnvironment files
  let posts ← match Request.ofArguments argv with
    | .ok _ => readPayloads (← IO.getStdin)
    | .error _ => pure []
  let clock ← readClock
  let outcome := run argv set { clock, folder := { files } } posts
  for (location, text) in FileTree.changes files outcome.host.folder.files do
    save location text
  IO.print outcome.output
  IO.eprint outcome.errors
  return UInt32.ofNat outcome.status
