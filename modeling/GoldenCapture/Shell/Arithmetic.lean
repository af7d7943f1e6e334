import GoldenCapture.Dictionary
import GoldenCapture.Shell.Token

/-!
# Shell arithmetic

Whole numbers of 64 bits with the operators of a shell. A name stands for the number that its
variable holds, and for zero if it holds none.
-/

namespace GoldenCapture.Shell

inductive Arithmetic where
  | number (n : Int)
  | name (s : String)
  | unary (operator : String) (operand : Arithmetic)
  | binary (operator : String) (left right : Arithmetic)
  | conditional (test yes no : Arithmetic)
  /-- Sets a variable to a value, or to what an operator makes of its own and that value. -/
  | assign (name operator : String) (value : Arithmetic)
deriving Repr

inductive ArithmeticError where
  | noPrimary
  | noEnd
  | noParenthesis
  | noColon
  | divisionByZero
  | illegalNumber (s : String)
deriving Repr

namespace Arithmetic

/-! ## Reading -/

inductive Lexeme where
  | number (n : Nat)
  | name (s : String)
  | operator (s : String)
deriving Repr, DecidableEq

def hexValue? (c : Char) : Option Nat :=
  if c.isDigit then some (c.toNat - '0'.toNat)
  else if 'a' ≤ c ∧ c ≤ 'f' then some (c.toNat - 'a'.toNat + 10)
  else if 'A' ≤ c ∧ c ≤ 'F' then some (c.toNat - 'A'.toNat + 10)
  else none

/-- The number that starts with some digits of a base, and the rest. -/
def digits (base value : Nat) : List Char → Nat × List Char
  | [] => (value, [])
  | c :: rest =>
    match (hexValue? c).filter (· < base) with
    | some d => digits base (base * value + d) rest
    | none => (value, c :: rest)

/-- A number; a zero in front makes it octal, `0x` hexadecimal. -/
def numeral : List Char → Nat × List Char
  | '0' :: x :: c :: rest =>
    if (x = 'x' || x = 'X') && (hexValue? c).isSome then digits 16 0 (c :: rest)
    else digits 8 0 (x :: c :: rest)
  | '0' :: rest => digits 8 0 rest
  | s => digits 10 0 s

/-- The operators, the longest first. -/
def operators : List String :=
  ["<<=", ">>=", "&&", "||", "==", "!=", "<=", ">=", "<<", ">>", "+=", "-=", "*=", "/=", "%=",
    "&=", "|=", "^=", "+", "-", "*", "/", "%", "<", ">", "&", "|", "^", "~", "!", "?", ":", "=",
    "(", ")"]

/-- The parts of an expression. A character without a meaning stands for itself. -/
def lexemes : (fuel : Nat) → List Char → List Lexeme
  | 0, _ | _, [] => []
  | fuel + 1, c :: rest =>
    if c = ' ' || c = '\t' || c = '\n' then lexemes fuel rest
    else if c.isDigit then
      let (n, rest) := numeral (c :: rest)
      .number n :: lexemes fuel rest
    else if isNameStart c then
      let name := c :: rest.takeWhile isNameRest
      .name (String.ofList name) :: lexemes fuel ((c :: rest).drop name.length)
    else
      match operators.find? fun o => o.toList.isPrefixOf (c :: rest) with
      | some o => .operator o :: lexemes fuel ((c :: rest).drop o.length)
      | none => .operator (String.singleton c) :: lexemes fuel rest

/-- The operators between two operands, the loosest first. -/
def levels : List (List String) :=
  [["||"], ["&&"], ["|"], ["^"], ["&"], ["==", "!="], ["<", "<=", ">", ">="], ["<<", ">>"],
    ["+", "-"], ["*", "/", "%"]]

def assignments : List String :=
  ["=", "+=", "-=", "*=", "/=", "%=", "<<=", ">>=", "&=", "|=", "^="]

mutual

def parseUnary : Nat → List Lexeme → Except ArithmeticError (Arithmetic × List Lexeme)
  | fuel + 1, .operator "(" :: rest => do
    match ← parseAssignment fuel rest with
    | (e, .operator ")" :: rest) => return (e, rest)
    | _ => .error .noParenthesis
  | fuel + 1, .operator o :: rest =>
    if ["+", "-", "!", "~"].contains o then
      (parseUnary fuel rest).map fun (e, rest) => (.unary o e, rest)
    else .error .noPrimary
  | _ + 1, .number n :: rest => .ok (.number n, rest)
  | _ + 1, .name s :: rest => .ok (.name s, rest)
  | _, _ => .error .noPrimary

def parseBinary : Nat → List (List String) → List Lexeme →
    Except ArithmeticError (Arithmetic × List Lexeme)
  | 0, _, _ => .error .noPrimary
  | fuel + 1, [], lexemes => parseUnary fuel lexemes
  | fuel + 1, operators :: tighter, lexemes => do
    let (first, rest) ← parseBinary fuel tighter lexemes
    parseMore fuel operators tighter first rest

/-- Goes on after an operand. Operators of one level bind to the left. -/
def parseMore : Nat → List String → List (List String) → Arithmetic → List Lexeme →
    Except ArithmeticError (Arithmetic × List Lexeme)
  | fuel + 1, operators, tighter, first, .operator o :: rest =>
    if operators.contains o then do
      let (second, rest) ← parseBinary fuel tighter rest
      parseMore fuel operators tighter (.binary o first second) rest
    else .ok (first, .operator o :: rest)
  | _, _, _, first, rest => .ok (first, rest)

def parseAssignment : Nat → List Lexeme → Except ArithmeticError (Arithmetic × List Lexeme)
  | 0, _ => .error .noPrimary
  | fuel + 1, lexemes =>
    match lexemes with
    | .name s :: .operator o :: rest =>
      if assignments.contains o then
        (parseAssignment fuel rest).map fun (e, rest) => (.assign s (o.dropEnd 1).toString e, rest)
      else parseConditional fuel lexemes
    | lexemes => parseConditional fuel lexemes

def parseConditional : Nat → List Lexeme → Except ArithmeticError (Arithmetic × List Lexeme)
  | 0, _ => .error .noPrimary
  | fuel + 1, lexemes => do
    match ← parseBinary fuel levels lexemes with
    | (test, .operator "?" :: rest) =>
      match ← parseAssignment fuel rest with
      | (yes, .operator ":" :: rest) =>
        let (no, rest) ← parseConditional fuel rest
        return (.conditional test yes no, rest)
      | _ => .error .noColon
    | parsed => return parsed

end

def parse (s : String) : Except ArithmeticError Arithmetic :=
  let lexemes := lexemes s.length s.toList
  match parseAssignment (16 * lexemes.length + 16) lexemes with
  | .error e => .error e
  | .ok (e, []) => .ok e
  | .ok _ => .error .noEnd

/-! ## Values -/

abbrev Bindings := Dictionary String String

/-- A number in 64 bits. -/
def wrap (n : Int) : Int := n.bmod UInt64.size

/-- The number in a text; too large a number counts as the largest. -/
def numberOf? (s : String) : Option Int :=
  let trimmed := s.trimAscii.toString.toList
  let (negative, rest) := match trimmed with
    | '-' :: rest => (true, rest)
    | '+' :: rest => (false, rest)
    | rest => (false, rest)
  match rest with
  | [] => if trimmed.isEmpty then some 0 else none
  | c :: _ =>
    if !c.isDigit then none
    else
      let (n, rest) := numeral rest
      let most : Nat := UInt64.size / 2
      if !rest.isEmpty then none
      else if negative then some (-(min n most : Nat)) else some (min n (most - 1) : Nat)

def truth (b : Bool) : Int := if b then 1 else 0

def apply (operator : String) (a b : Int) : Except ArithmeticError Int :=
  let bits (f : UInt64 → UInt64 → UInt64) : Int :=
    wrap (f (Int64.ofInt a).toUInt64 (Int64.ofInt b).toUInt64).toNat
  match operator with
  | "+" => .ok (wrap (a + b))
  | "-" => .ok (wrap (a - b))
  | "*" => .ok (wrap (a * b))
  | "/" => if b = 0 then .error .divisionByZero else .ok (wrap (a.tdiv b))
  | "%" => if b = 0 then .error .divisionByZero else .ok (a.tmod b)
  | "<" => .ok (truth (a < b))
  | "<=" => .ok (truth (a ≤ b))
  | ">" => .ok (truth (a > b))
  | ">=" => .ok (truth (a ≥ b))
  | "==" => .ok (truth (a == b))
  | "!=" => .ok (truth (a != b))
  | "&" => .ok (bits (· &&& ·))
  | "|" => .ok (bits (· ||| ·))
  | "^" => .ok (bits (· ^^^ ·))
  | "<<" => .ok (bits (· <<< ·))
  | ">>" => .ok (Int64.ofInt a >>> Int64.ofInt b).toInt
  | _ => .ok b

/-- The value of an expression, and the variables after it. -/
def evaluate (bindings : Bindings) : Arithmetic → Except ArithmeticError (Int × Bindings)
  | .number n => .ok (min n (UInt64.size / 2 - 1 : Nat), bindings)
  | .name s =>
    let text := (bindings.get? s).getD ""
    match numberOf? text with
    | some n => .ok (n, bindings)
    | none => .error (.illegalNumber text)
  | .unary operator operand => do
    let (n, bindings) ← evaluate bindings operand
    let value := match operator with
      | "-" => wrap (-n)
      | "!" => truth (n == 0)
      | "~" => -n - 1
      | _ => n
    return (value, bindings)
  | .binary operator left right => do
    let (a, bindings) ← evaluate bindings left
    if operator = "&&" && a = 0 then return (0, bindings)
    else if operator = "||" && a ≠ 0 then return (1, bindings)
    else
      let (b, bindings) ← evaluate bindings right
      if operator = "&&" || operator = "||" then return (truth (b != 0), bindings)
      else return (← apply operator a b, bindings)
  | .conditional test yes no => do
    let (n, bindings) ← evaluate bindings test
    if n ≠ 0 then evaluate bindings yes else evaluate bindings no
  | .assign target operator value => do
    let (b, bindings) ← evaluate bindings value
    let held := (bindings.get? target).getD ""
    let a ← if operator = "" then .ok 0 else
      match numberOf? held with
      | some a => .ok a
      | none => .error (.illegalNumber held)
    let n ← apply operator a b
    return (n, bindings.insert target (toString n))

end Arithmetic

/-- What a shell says about an expression that has no value. -/
def ArithmeticError.text (expression : String) : ArithmeticError → String
  | .illegalNumber s => s!"Illegal number: {s}"
  | e =>
    let what := match e with
      | .noPrimary => "expecting primary"
      | .noEnd => "expecting EOF"
      | .noParenthesis => "expecting ')'"
      | .noColon => "expecting ':'"
      | _ => "division by zero"
    s!"arithmetic expression: {what}: \"{expression}\""

end GoldenCapture.Shell
