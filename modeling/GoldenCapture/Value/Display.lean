import GoldenCapture.Value

/-!
# Values in reports

The text that shows a value in a mismatch report.
-/

namespace GoldenCapture

/-- Reports write every digit of a double and never an exponent. -/
def reportLayout : NumberLayout where
  positional := none
  exponentSign := ""
  integralTail := ""
  nan := "NaN"
  infinity := "inf"
  negativeInfinity := "-inf"

namespace Value

mutual

/-- Strings are quoted, keys are not. -/
def display : Value → String
  | bool b => if b then "true" else "false"
  | int i => toString i.toInt
  | uint u => toString u.toNat
  | double d => reportLayout.text d
  | string s => quoted s
  | seq items => "[" ++ ", ".intercalate (displayItems items) ++ "]"
  | map fields => "\x7b" ++ ", ".intercalate (displayFields fields) ++ "\x7d"
  | empty => "<empty>"

def displayItems : List Value → List String
  | [] => []
  | v :: rest => display v :: displayItems rest

def displayFields : List (String × Value) → List String
  | [] => []
  | (key, v) :: rest => (key ++ ": " ++ display v) :: displayFields rest

end

end Value

end GoldenCapture
