import GoldenCapture.Shell.Condition
import GoldenCapture.Shell.Printing
import GoldenCapture.Shell.TextUtility

/-!
# Shell utilities

The utilities that a command line may call, by their names.
-/

namespace GoldenCapture.Shell

/-- Folders in which utilities may be looked up. -/
def utilityFolders : List String := ["/bin/", "/usr/bin/"]

/-- The name of a utility without its folder. -/
def utilityName (name : String) : String :=
  match utilityFolders.find? fun folder => name.startsWith folder with
  | some folder => (name.drop folder.length).toString
  | none => name

/-- Runs a utility by its name, if there is one. -/
def utility? (files : FileTree) (input : Bytes) (name : String) (arguments : List String) :
    Option Effect :=
  match utilityName name with
  | "true" | ":" | "sleep" | "wait" | "sync" | "umask" | "hash" | "chmod" => some { files }
  | "false" => some { status := 1, files }
  | "echo" => some (echo files arguments)
  | "printf" => some (printf files arguments)
  | "test" => some (test files "test" arguments)
  | "[" =>
    if arguments.getLast? == some "]" then some (test files "[" arguments.dropLast)
    else some (complaint files 2 (shellMessage "[: missing ]"))
  | "cat" => some (cat files input arguments)
  | "ls" => some (list files arguments)
  | "mkdir" => some (mkdir files arguments)
  | "touch" => some (touch files arguments)
  | "rm" => some (remove files arguments)
  | "rmdir" => some (removeFolder files arguments)
  | "cp" => some (copy files "cp" false arguments)
  | "mv" => some (copy files "mv" true arguments)
  | "basename" => some (basename files arguments)
  | "dirname" => some (dirname files arguments)
  | "head" => some (head files input arguments)
  | "tail" => some (tail files input arguments)
  | "wc" => some (count files input arguments)
  | "sort" => some (sort files input arguments)
  | "uniq" => some (unique files input arguments)
  | "tr" => some (mapCharacters files input arguments)
  | "grep" => some (search files input arguments)
  | "seq" => some (sequence files arguments)
  | "tee" => some (tee files input arguments)
  | _ => none

end GoldenCapture.Shell
