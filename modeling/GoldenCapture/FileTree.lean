import GoldenCapture.Dictionary

/-!
# File trees

Folders and text files under their paths. A path is walked from the top, one part at a time, so
`..` after a folder that does not exist leads nowhere. Every way of opening a file fails either
because nothing is there or because something is in the way.
-/

namespace GoldenCapture

inductive FileNode where
  | folder
  | file (text : String)
deriving DecidableEq, Repr

/-- Why a path cannot be opened. -/
inductive FileFault where
  | missing
  /-- A file stands for a folder, a folder for a file, or a name is too long. -/
  | blocked
deriving DecidableEq, Repr

structure FileTree where
  nodes : Dictionary (List String) FileNode := {}

namespace FileTree

/-! ## Paths -/

/-- A name under a folder. An absolute name stands for itself. -/
def join (folder name : String) : String :=
  if name.startsWith "/" || folder.isEmpty then name
  else if folder.endsWith "/" then folder ++ name
  else folder ++ "/" ++ name

/-- What stands between the slashes of a path. -/
def pieces (path : String) : List String := (path.toList.splitOn '/').map String.ofList

/-- The parts of a path. An absolute one starts with the part `/`. -/
def parts (path : String) : List String :=
  (if path.startsWith "/" then ["/"] else []) ++
    (pieces path).filter fun part => part != "" && part != "."

/-- Whether a path can only stand for a folder. -/
def namesFolder (path : String) : Bool :=
  match (pieces path).getLast? with
  | none => true
  | some last => last == "" || last == "."

/-- The longest name that a folder takes, in bytes. -/
def longestName : Nat := 255

def fits (part : String) : Bool := part.utf8ByteSize ≤ longestName && !part.toList.contains '\x00'

/-! ## Nodes -/

/-- What stands at a location. The top and the absolute top are folders. -/
def node? (t : FileTree) (location : List String) : Option FileNode :=
  if location = [] ∨ location = ["/"] then some .folder else t.nodes.get? location

def isFolder (t : FileTree) (location : List String) : Bool :=
  t.node? location == some .folder

/-- The location that a path leads to. All but the last part have to be folders. -/
def walk (t : FileTree) (location : List String) : List String → Except FileFault (List String)
  | [] => .ok location
  | part :: rest =>
    match t.node? location with
    | none => .error .missing
    | some (.file _) => .error .blocked
    | some .folder =>
      if part = ".." then walk t location.dropLast rest
      else if fits part then walk t (location ++ [part]) rest
      else .error .blocked

def locate (t : FileTree) (path : String) : Except FileFault (List String) :=
  if path = "" then .error .missing else t.walk [] (parts path)

/-! ## Reading -/

def read (t : FileTree) (path : String) : Except FileFault String :=
  match t.locate path with
  | .error fault => .error fault
  | .ok location =>
    match t.node? location with
    | none => .error .missing
    | some .folder => .error .blocked
    | some (.file text) => if namesFolder path then .error .blocked else .ok text

/-- The text of a file, if there is one. -/
def text? (t : FileTree) (path : String) : Option String := (t.read path).toOption

def exists? (t : FileTree) (path : String) : Bool :=
  match t.locate path with
  | .error _ => false
  | .ok location =>
    match t.node? location with
    | none => false
    | some .folder => true
    | some (.file _) => !namesFolder path

def isFolderPath (t : FileTree) (path : String) : Bool :=
  match t.locate path with
  | .error _ => false
  | .ok location => t.isFolder location

/-- The names in a folder, in order. -/
def names (t : FileTree) (folder : String) : List String :=
  match t.locate folder with
  | .error _ => []
  | .ok location =>
    let inside := t.nodes.entries.filterMap fun (place, _) =>
      if place.dropLast = location then place.getLast? else none
    inside.mergeSort fun a b => decide (a ≤ b)

/-! ## Writing -/

/-- Makes the folders on the way from a location that are not there yet. -/
def makeFolders (t : FileTree) (location : List String) :
    List String → Except FileFault FileTree
  | [] => .ok t
  | part :: rest =>
    if part = ".." then makeFolders t location.dropLast rest
    else if fits part then
      let location := location ++ [part]
      match t.node? location with
      | some .folder => makeFolders t location rest
      | some (.file _) => .error .blocked
      | none => makeFolders ⟨t.nodes.insert location .folder⟩ location rest
    else .error .blocked

/-- Makes a folder and all folders above it. -/
def makeFolder (t : FileTree) (path : String) : Except FileFault FileTree :=
  t.makeFolders [] (parts path)

/-- Makes all folders above a path. -/
def makeParents (t : FileTree) (path : String) : Except FileFault FileTree :=
  t.makeFolders [] (parts path).dropLast

/-- Puts a text into a file, new or old, of a folder that is there. -/
def write (t : FileTree) (path text : String) : Except FileFault FileTree :=
  match t.locate path with
  | .error fault => .error fault
  | .ok location =>
    if namesFolder path || t.isFolder location || !t.isFolder location.dropLast then
      .error .blocked
    else .ok ⟨t.nodes.insert location (.file text)⟩

/-- Puts a text into a file and makes the folders above it. -/
def put (t : FileTree) (path text : String) : Except FileFault FileTree :=
  match t.makeParents path with
  | .error fault => .error fault
  | .ok t => t.write path text

/-- Takes a file away. -/
def remove (t : FileTree) (path : String) : Except FileFault FileTree :=
  match t.locate path with
  | .error fault => .error fault
  | .ok location =>
    match t.node? location with
    | none => .error .missing
    | some .folder => .error .blocked
    | some (.file _) => .ok ⟨t.nodes.erase location⟩

/-- Moves a file over what stands at its new path, at once. -/
def rename (t : FileTree) (source target : String) : Except FileFault FileTree :=
  match t.read source with
  | .error fault => .error fault
  | .ok text =>
    match t.write target text with
    | .error fault => .error fault
    | .ok t => t.remove source

/-! ## Changes -/

/-- The path of a location. -/
def pathOf : List String → String
  | "/" :: rest => "/" ++ "/".intercalate rest
  | location => "/".intercalate location

/-- The text of a file at a location. -/
def fileAt? (t : FileTree) (location : List String) : Option String :=
  match t.nodes.get? location with
  | some (.file text) => some text
  | _ => none

/-- The files that one tree holds otherwise than another, each with its new text, or with none if
it is gone. -/
def changes (before after : FileTree) : List (List String × Option String) :=
  ((after.nodes.entries ++ before.nodes.entries).map Prod.fst).eraseDups.filterMap fun location =>
    if before.fileAt? location = after.fileAt? location then none
    else some (location, after.fileAt? location)

end FileTree

end GoldenCapture
