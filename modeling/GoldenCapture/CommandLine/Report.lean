import GoldenCapture.Failure

/-!
# Reports

How a failure is told to the user: what failed, and below it the causes, the outermost first.
Several causes are numbered. Further lines of a cause are set under its first one.
-/

namespace GoldenCapture

/-- What a failure says, and what it says about its own cause. -/
def Failure.causes : Failure → List String
  | .lease error => [(Failure.lease error).message, error.message]
  | failure => [failure.message]

namespace CommandLine

/-- Sets all lines but the first one in. -/
def hang (indent text : String) : String := ("\n" ++ indent).intercalate (text.splitOn "\n")

/-- A number, right in a column of five. -/
def ordinal (n : Nat) : String :=
  let digits := toString n
  String.ofList (List.replicate (5 - digits.length) ' ') ++ digits ++ ": "

/-- The lines of the causes. -/
def causeLines : List String → List String
  | [] => []
  | [cause] => ["    " ++ hang "    " cause]
  | causes => causes.mapIdx fun i cause => ordinal i ++ hang "       " cause

def report (what : String) (causes : List String) : String :=
  let below := if causes.isEmpty then [] else ["", "Caused by:"] ++ causeLines causes
  "\n".intercalate (("Error: " ++ what) :: below) ++ "\n"

end CommandLine

end GoldenCapture
