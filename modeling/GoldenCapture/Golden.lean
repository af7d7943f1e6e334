import GoldenCapture.Batch.Yaml
import GoldenCapture.Compare
import GoldenCapture.Failure
import GoldenCapture.FileTree
import GoldenCapture.Snapshot

/-!
# Golden files

Reviewed snapshots in files. Verification compares a capture with its golden file. While golden
files are written anew it writes the snapshot instead and fails, so that somebody reviews it.
-/

namespace GoldenCapture

structure GoldenStore where
  root : String
  /-- Whether golden files are written anew. -/
  regenerating : Bool := false
  scrubber : Scrubber := {}

namespace GoldenStore

/-- The path of a golden file. -/
def path (g : GoldenStore) (name : String) : String := FileTree.join g.root name

/-- The snapshot in a file. -/
def read (files : FileTree) (path : String) : Except Failure Batch :=
  match files.read path with
  | .error .missing => .error (.goldenMissing path)
  | .error .blocked => .error .storage
  | .ok text =>
    match Batch.ofYaml? text with
    | none => .error .snapshot
    | some batch => .ok batch

/-- Writes a snapshot, and the folders above its file. -/
def write (files : FileTree) (path : String) (snapshot : Batch) :
    Except Failure Unit × FileTree :=
  match files.makeParents path with
  | .error _ => (.error .storage, files)
  | .ok files =>
    match files.write path snapshot.yaml with
    | .error _ => (.error .storage, files)
    | .ok files => (.ok (), files)

/-- Checks that the snapshot of a capture equals the one in a file, up to the rules. -/
def check (g : GoldenStore) (files : FileTree) (path : String) (actual : Batch) (rules : Rules) :
    Except Failure Unit :=
  match read files path with
  | .error failure => .error failure
  | .ok expected =>
    match rules.compare (g.scrubber.snapshot actual) expected with
    | some mismatch => .error (.mismatch mismatch)
    | none => .ok ()

/-- Writes the snapshot of a capture and fails all the same. -/
def regenerate (g : GoldenStore) (files : FileTree) (path : String) (actual : Batch) :
    Except Failure Unit × FileTree :=
  match write files path (g.scrubber.snapshot actual) with
  | (.error failure, files) => (.error failure, files)
  | (.ok (), files) => (.error (.regenerated path), files)

def verify (g : GoldenStore) (files : FileTree) (path : String) (actual : Batch)
    (rules : Rules) : Except Failure Unit × FileTree :=
  if g.regenerating then g.regenerate files path actual
  else (g.check files path actual rules, files)

end GoldenStore

end GoldenCapture
