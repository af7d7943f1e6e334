import GoldenCapture.Shell.Effect

/-!
# Shell utilities on files

Utilities that show files and folders, make them, and take them away.
-/

namespace GoldenCapture.Shell

/-- What a utility says that lacks something, and how to learn more. -/
def lacking (files : FileTree) (name message : String) : Effect :=
  complaint files 1 s!"{name}: {message}\nTry '{name} --help' for more information."

/-- Does something to each operand, of which there has to be one. -/
def eachOperand (files : FileTree) (name missing : String) (operands : List String)
    (one : FileTree → String → Except String (Bytes × FileTree)) : Effect :=
  if operands.isEmpty then lacking files name missing else each files operands one

def cat (files : FileTree) (input : Bytes) (arguments : List String) : Effect :=
  let (_, operands) := options arguments
  if operands.isEmpty then { output := input, files, drains := true }
  else
    let e := each files operands fun files operand =>
      if operand == "-" then .ok (input, files)
      else if files.isFolderPath operand then .error s!"cat: {operand}: Is a directory"
      else
        match files.read operand with
        | .ok text => .ok (bytesOf text, files)
        | .error fault => .error s!"cat: {operand}: {faultText fault}"
    { e with drains := operands.contains "-" }

def list (files : FileTree) (arguments : List String) : Effect :=
  let (letters, operands) := options arguments
  let shown (names : List String) : Bytes :=
    let kept := if letters.any fun c => c = 'a' || c = 'A' then names
      else names.filter fun name => !name.startsWith "."
    bytesOf (String.join (kept.map (· ++ "\n")))
  let several := decide (operands.length > 1)
  let e := each files (if operands.isEmpty then ["."] else operands) fun files operand =>
    if files.isFolderPath operand && !letters.contains 'd' then
      let heading := if several then bytesOf s!"{operand}:\n" else []
      .ok (heading ++ shown (files.names operand), files)
    else if files.exists? operand then .ok (bytesOf (operand ++ "\n"), files)
    else .error s!"ls: cannot access '{operand}': No such file or directory"
  { e with status := 2 * e.status }

/-- Makes one folder; the folder above it has to be there. -/
def makeOneFolder (files : FileTree) (path : String) : Except FileFault FileTree :=
  match files.walk [] (FileTree.parts path).dropLast with
  | .error fault => .error fault
  | .ok location =>
    if files.isFolder location then files.makeFolder path else .error .missing

def mkdir (files : FileTree) (arguments : List String) : Effect :=
  let (letters, operands) := options arguments
  let parents := letters.contains 'p'
  eachOperand files "mkdir" "missing operand" operands fun files operand =>
    let refused (why : String) : Except String (Bytes × FileTree) :=
      .error s!"mkdir: cannot create directory '{operand}': {why}"
    if files.exists? operand && !(parents && files.isFolderPath operand) then
      refused "File exists"
    else
      match (if parents then files.makeFolder operand else makeOneFolder files operand) with
      | .ok files => .ok ([], files)
      | .error fault => refused (faultText fault)

def touch (files : FileTree) (arguments : List String) : Effect :=
  let (letters, operands) := options arguments
  eachOperand files "touch" "missing file operand" operands fun files operand =>
    if files.exists? operand || letters.contains 'c' then .ok ([], files)
    else
      match files.write operand "" with
      | .ok files => .ok ([], files)
      | .error fault => .error s!"touch: cannot touch '{operand}': {faultText fault}"

/-- Takes away a folder and all that is in it, or a file. -/
def removeAll (files : FileTree) (path : String) : FileTree :=
  match files.locate path with
  | .error _ => files
  | .ok location =>
    ⟨⟨files.nodes.entries.filter fun (place, _) => !location.isPrefixOf place⟩⟩

def remove (files : FileTree) (arguments : List String) : Effect :=
  let (letters, operands) := options arguments
  let force := letters.contains 'f'
  let deep := letters.contains 'r' || letters.contains 'R'
  if operands.isEmpty && force then { files }
  else
    eachOperand files "rm" "missing operand" operands fun files operand =>
      let refused (why : String) : Except String (Bytes × FileTree) :=
        .error s!"rm: cannot remove '{operand}': {why}"
      if files.isFolderPath operand then
        if deep then .ok ([], removeAll files operand) else refused "Is a directory"
      else
        match files.remove operand with
        | .ok files => .ok ([], files)
        | .error fault => if force then .ok ([], files) else refused (faultText fault)

def removeFolder (files : FileTree) (arguments : List String) : Effect :=
  let (_, operands) := options arguments
  eachOperand files "rmdir" "missing operand" operands fun files operand =>
    let refused (why : String) : Except String (Bytes × FileTree) :=
      .error s!"rmdir: failed to remove '{operand}': {why}"
    if files.isFolderPath operand then
      if (files.names operand).isEmpty then .ok ([], removeAll files operand)
      else refused "Directory not empty"
    else if files.exists? operand then refused "Not a directory"
    else refused "No such file or directory"

/-- The place of a copy: under the name of the source if the target is a folder. -/
def copyTarget (files : FileTree) (source target : String) : String :=
  if files.isFolderPath target then
    FileTree.join target (((FileTree.parts source).getLast?).getD "")
  else target

def copyOne (name target : String) (move : Bool) (files : FileTree) (source : String) :
    Except String (Bytes × FileTree) :=
  match files.read source with
  | .error .missing => .error s!"{name}: cannot stat '{source}': No such file or directory"
  | .error .blocked =>
    .error (if files.isFolderPath source then s!"{name}: -r not specified; omitting '{source}'"
      else s!"{name}: cannot stat '{source}': Not a directory")
  | .ok text =>
    match files.write (copyTarget files source target) text with
    | .error fault =>
      .error s!"{name}: cannot create regular file '{target}': {faultText fault}"
    | .ok files => .ok ([], if move then ((files.remove source).toOption).getD files else files)

def copy (files : FileTree) (name : String) (move : Bool) (arguments : List String) : Effect :=
  match (options arguments).2.reverse with
  | [] => lacking files name "missing file operand"
  | [one] => lacking files name s!"missing destination file operand after '{one}'"
  | target :: sources => each files sources.reverse (copyOne name target move)

/-! ## Paths -/

def lastPart (path : String) : String :=
  match path.splitOn "/" |>.filter (· != "") |>.getLast? with
  | some part => part
  | none => if path.isEmpty then "" else "/"

def basename (files : FileTree) (arguments : List String) : Effect :=
  match arguments with
  | [] => lacking files "basename" "missing operand"
  | path :: rest =>
    let name := lastPart path
    let ending := rest.headD ""
    let shown := if name != ending && name.endsWith ending then
      (name.dropEnd ending.length).toString else name
    { output := bytesOf (shown ++ "\n"), files }

def dirname (files : FileTree) (arguments : List String) : Effect :=
  match arguments with
  | [] => lacking files "dirname" "missing operand"
  | path :: _ =>
    let above := "/".intercalate ((path.splitOn "/").filter (· != "")).dropLast
    let shown := if path.startsWith "/" then "/" ++ above
      else if above.isEmpty then "." else above
    { output := bytesOf (shown ++ "\n"), files }

end GoldenCapture.Shell
