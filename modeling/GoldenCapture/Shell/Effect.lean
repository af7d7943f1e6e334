import GoldenCapture.FileTree
import GoldenCapture.Text.Utf8

/-!
# Effects of shell utilities

What a utility writes, how it ends, and what it does to files.
-/

namespace GoldenCapture.Shell

abbrev Bytes := List UInt8

def bytesOf (s : String) : Bytes := s.toUTF8.toList

structure Effect where
  status : Nat := 0
  output : Bytes := []
  errors : String := ""
  files : FileTree
  /-- Whether it has read its input to the end. -/
  drains : Bool := false

/-- An effect of nothing but a message. -/
def complaint (files : FileTree) (status : Nat) (message : String) : Effect :=
  { status, errors := message ++ "\n", files }

/-- How the shell itself says something. -/
def shellMessage (message : String) : String := "sh: 1: " ++ message

/-- Whether an argument is an option. -/
def isOption (s : String) : Bool := s.startsWith "-" && s != "-"

/-- The letters of all options, and what is no option. -/
def options (arguments : List String) : List Char × List String :=
  ((arguments.filter isOption).flatMap fun a => (a.drop 1).toString.toList,
    arguments.filter fun a => !isOption a)

/-- What the outside says about a path that cannot be opened. -/
def faultText : FileFault → String
  | .missing => "No such file or directory"
  | .blocked => "Not a directory"

/-- Does one thing to each operand; the status is one if some of them failed. -/
def each (files : FileTree) (operands : List String)
    (one : FileTree → String → Except String (Bytes × FileTree)) : Effect :=
  operands.foldl (fun e operand =>
    match one e.files operand with
    | .ok (bytes, files) => { e with output := e.output ++ bytes, files }
    | .error message => { e with status := 1, errors := e.errors ++ message ++ "\n" })
    { files }

end GoldenCapture.Shell
