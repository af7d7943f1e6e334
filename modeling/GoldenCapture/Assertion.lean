import GoldenCapture.Regex.Engine
import GoldenCapture.Store
import GoldenCapture.Value.Display

/-!
# Assertions

Checks on captured data that need no reference.
-/

namespace GoldenCapture

/-- The outcome of a check: what was found and, after a failure, where. -/
structure Assertion where
  success : Bool
  message : String
  details : Option String := none
deriving DecidableEq, Repr

namespace Assertion

/-- What a failed check says as one line; nothing after a success. -/
def failure (a : Assertion) : Option String :=
  if a.success then none
  else some (match a.details with
    | none => a.message
    | some details => a.message ++ " - " ++ details)

end Assertion

/-! ## Attributes -/

/-- The pattern, made to match whole texts. -/
def wholePattern (pattern : String) : String := "^(?:" ++ pattern ++ ")$"

/-- What is wrong with an attribute that has to match a pattern. -/
inductive AttributeProblem where
  | invalidPattern (key pattern : String)
  | missing (key : String)
  | noMatch (key text pattern : String)
deriving DecidableEq, Repr

def AttributeProblem.message : AttributeProblem → String
  | invalidPattern key pattern => s!"{key}: invalid pattern '{pattern}': <regex error>"
  | missing key => s!"{key}: missing"
  | noMatch key text pattern => s!"{key}: '{text}' does not match '{pattern}'"

/-- The text that patterns see: a string as it is, any other value as it is shown. -/
def Value.matchedText (v : Value) : String := v.text?.getD v.display

def checkAttribute (engine : Regex.Engine) (attributes : Attributes) (key pattern : String) :
    Option AttributeProblem :=
  match engine.compile? (wholePattern pattern) with
  | none => some (.invalidPattern key pattern)
  | some r =>
    match attributes.get? key with
    | none => some (.missing key)
    | some v => if r.isMatch v.matchedText then none else some (.noMatch key v.matchedText pattern)

def attributeProblems (engine : Regex.Engine) (attributes : Attributes)
    (patterns : List (String × String)) : List AttributeProblem :=
  patterns.filterMap fun (key, pattern) => checkAttribute engine attributes key pattern

/-- Each key has to be there, and its value to match the whole pattern. -/
def assertAttributes (attributes : Attributes) (patterns : List (String × String))
    (engine : Regex.Engine := {}) : Assertion :=
  match attributeProblems engine attributes patterns with
  | [] => ⟨true, s!"All {patterns.length} attribute patterns matched", none⟩
  | problems =>
    ⟨false, s!"{problems.length} of {patterns.length} attribute patterns failed",
      some (String.intercalate "; " (problems.map AttributeProblem.message))⟩

/-! ## Batches -/

def nameList (names : List String) : String := "[" ++ String.intercalate ", " names ++ "]"

/-- Nothing may have been captured. -/
def assertNoBatches (s : Store) : Assertion :=
  match s.latest with
  | none => ⟨true, "No batches captured", none⟩
  | some latest =>
    ⟨false, s!"Expected no batches, captured {s.count}",
      some ("Latest batch entries: " ++ nameList latest.batch.entryNames)⟩

/-- Every entry name of `expected` has to be in `actual`. -/
def assertEntries (expected actual : Batch) : Assertion :=
  match expected.entryNames.filter fun name => !actual.entryNames.contains name with
  | [] => ⟨true, s!"All {expected.entryNames.length} expected entries present", none⟩
  | missing =>
    ⟨false, s!"{missing.length} expected entries missing", some ("Missing: " ++ nameList missing)⟩

end GoldenCapture
