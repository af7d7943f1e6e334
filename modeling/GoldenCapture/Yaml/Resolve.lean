import GoldenCapture.Number.Double
import GoldenCapture.Yaml.Token

/-!
# What plain scalars mean

A plain scalar is null, a bool, a number or, failing that, a string. Numbers are decimal without
leading zeros, or hexadecimal, octal or binary behind a mark.
-/

namespace GoldenCapture.Yaml

def isNull (s : String) : Bool := ["null", "Null", "NULL", "~"].contains s

def bool? (s : String) : Option Bool :=
  if ["true", "True", "TRUE"].contains s then some true
  else if ["false", "False", "FALSE"].contains s then some false
  else none

/-! ## Integers -/

/-- The number of a text that is made of digits only. -/
def digits? (radix : Nat) (cs : List Char) : Option Nat :=
  if cs.isEmpty then none
  else
    (cs.mapM fun c => (hexDigit? c).filter (· < radix)).map
      fun ds => ds.foldl (fun n d => radix * n + d) 0

/-- The radix that a text is marked with, and its digits. -/
def marked? : List Char → Option (Nat × List Char)
  | '0' :: 'x' :: rest => some (16, rest)
  | '0' :: 'o' :: rest => some (8, rest)
  | '0' :: 'b' :: rest => some (2, rest)
  | _ => none

/-- Whether a text is a zero with more digits behind it. -/
def hasLeadingZero : List Char → Bool
  | '0' :: c :: rest => (c :: rest).all isDigit
  | _ => false

/-- The number of a text without a sign. -/
def magnitude? (cs : List Char) : Option Nat :=
  match marked? cs with
  | some (radix, digits) => digits? radix digits
  | none => if hasLeadingZero cs then none else digits? 10 cs

/-- The integer of a text, if 128 bits hold it. -/
def integer? (s : String) : Option Int :=
  match s.toList with
  | '-' :: rest =>
    ((magnitude? rest).filter fun n => n ≤ Nat.pow 2 127).map fun n => -(n : Int)
  | '+' :: rest => ((magnitude? rest).filter fun n => n < Nat.pow 2 128).map fun n => (n : Int)
  | rest => ((magnitude? rest).filter fun n => n < Nat.pow 2 128).map fun n => (n : Int)

/-! ## Floating-point numbers -/

/-- A sign, and what follows it. -/
def sign : List Char → Bool × List Char
  | '-' :: rest => (true, rest)
  | '+' :: rest => (false, rest)
  | rest => (false, rest)

def exponent? : List Char → Option Int
  | [] => some 0
  | e :: rest =>
    if e == 'e' || e == 'E' then
      let (negative, digits) := sign rest
      if digits.all isDigit then
        (digits? 10 digits).map fun n => if negative then -(n : Int) else n
      else none
    else none

/-- The finite double of a decimal text. A point may stand first or last, next to a digit. -/
def decimal? (cs : List Char) : Option Double := do
  let (negative, cs) := sign cs
  let whole := cs.takeWhile isDigit
  let rest := cs.dropWhile isDigit
  let (fraction, rest) := match rest with
    | '.' :: rest => (rest.takeWhile isDigit, rest.dropWhile isDigit)
    | rest => ([], rest)
  let exponent ← exponent? rest
  let n ← digits? 10 (whole ++ fraction)
  let x := Double.ofDecimal negative n (exponent - fraction.length)
  if x.isFinite then some x else none

def float? (s : String) : Option Double :=
  if [".inf", ".Inf", ".INF", "+.inf", "+.Inf", "+.INF"].contains s then some Double.infinity
  else if ["-.inf", "-.Inf", "-.INF"].contains s then some Double.infinity.neg
  else if [".nan", ".NaN", ".NAN"].contains s then some Double.nan
  else decimal? s.toList

/-- Whether a text is a sign at most, a zero and more digits. Such a text is no number. -/
def isZeroPadded (s : String) : Bool := hasLeadingZero (sign s.toList).2

/-! ## Plain scalars -/

inductive Plain where
  | null
  | bool (b : Bool)
  | integer (n : Int)
  | float (x : Double)
  | string (s : String)

/-- What a plain scalar means. -/
def Plain.ofText (s : String) : Plain :=
  if s == "" || isNull s then .null
  else
    match bool? s with
    | some b => .bool b
    | none =>
      match integer? s with
      | some n => .integer n
      | none =>
        match if isZeroPadded s then none else float? s with
        | some x => .float x
        | none => .string s

end GoldenCapture.Yaml
