import GoldenCapture.Shell.Effect

/-!
# Shell conditions

What `test` and `[` find out: about texts, numbers and paths, joined by `!`, `-a`, `-o` and
parentheses.
-/

namespace GoldenCapture.Shell

/-- A whole number with a sign or without, and blanks around it. -/
def integer? (s : String) : Option Int :=
  let bounded (n : Int) : Option Int :=
    if -(UInt64.size / 2 : Nat) ≤ n ∧ n < (UInt64.size / 2 : Nat) then some n else none
  match s.trimAscii.toString.toList with
  | '-' :: rest => (String.ofList rest).toNat?.bind fun n => bounded (-n)
  | '+' :: rest => (String.ofList rest).toNat?.bind fun n => bounded n
  | rest => (String.ofList rest).toNat?.bind fun n => bounded n

def unaryOperators : List String :=
  ["-b", "-c", "-d", "-e", "-f", "-g", "-h", "-k", "-L", "-n", "-p", "-r", "-s", "-S", "-t", "-u",
    "-w", "-x", "-z"]

def binaryOperators : List String :=
  ["=", "!=", "<", ">", "-eq", "-ne", "-lt", "-le", "-gt", "-ge", "-nt", "-ot", "-ef"]

def unary (files : FileTree) (operator operand : String) : Bool :=
  match operator with
  | "-d" => files.isFolderPath operand
  | "-f" => (files.text? operand).isSome
  | "-e" | "-r" | "-w" => files.exists? operand
  | "-x" => files.isFolderPath operand
  | "-s" => (files.text? operand).any (· != "") || files.isFolderPath operand
  | "-n" => operand != ""
  | "-z" => operand == ""
  | _ => false

/-- A comparison of two operands; an error names an operand that is no number. -/
def binary (files : FileTree) (left operator right : String) : Except String Bool :=
  let numbers (holds : Int → Int → Bool) : Except String Bool :=
    match integer? left, integer? right with
    | none, _ => .error s!"Illegal number: {left}"
    | _, none => .error s!"Illegal number: {right}"
    | some a, some b => .ok (holds a b)
  match operator with
  | "=" => .ok (left == right)
  | "!=" => .ok (left != right)
  | "<" => .ok (decide (left < right))
  | ">" => .ok (decide (right < left))
  | "-eq" => numbers (· == ·)
  | "-ne" => numbers (· != ·)
  | "-lt" => numbers fun a b => decide (a < b)
  | "-le" => numbers fun a b => decide (a ≤ b)
  | "-gt" => numbers fun a b => decide (a > b)
  | "-ge" => numbers fun a b => decide (a ≥ b)
  | "-nt" => .ok (files.exists? left && !files.exists? right)
  | "-ot" => .ok (!files.exists? left && files.exists? right)
  | _ => .ok (files.exists? left && left == right)

/-- What has been found out so far: the result, the last operand, and what is left. -/
structure Finding where
  holds : Bool
  last : String := ""
  rest : List String

/-- Whether a word stands for itself although it looks like an operator. -/
def isOperand (operator : String) : List String → Bool
  | [] => true
  | next :: rest =>
    (unaryOperators.contains operator && !rest.isEmpty && binaryOperators.contains next) ||
      (operator == "(" && binaryOperators.contains next)

mutual

def primary (files : FileTree) : Nat → List String → Except String Finding
  | 0, rest => .ok { holds := false, rest }
  | _, [] => .ok { holds := false, rest := [] }
  | fuel + 1, first :: rest =>
    if first = "(" && !isOperand first rest then do
      let inner ← disjunction files fuel rest
      match inner.rest with
      | ")" :: rest => return { inner with last := ")", rest }
      | _ => .error "closing paren expected"
    else if unaryOperators.contains first && !isOperand first rest then
      match rest with
      | operand :: rest => .ok { holds := unary files first operand, last := operand, rest }
      | [] => .error s!"{first}: argument expected"
    else
      match rest with
      | operator :: right =>
        if binaryOperators.contains operator then
          match right with
          | [] => .error s!"{operator}: argument expected"
          | operand :: rest =>
            (binary files first operator operand).map fun holds => { holds, last := operand, rest }
        else .ok { holds := first != "", last := first, rest }
      | [] => .ok { holds := first != "", last := first, rest }

def negated (files : FileTree) : Nat → List String → Except String Finding
  | 0, rest => .ok { holds := false, rest }
  | fuel + 1, "!" :: next :: rest =>
    if binaryOperators.contains next && !rest.isEmpty then
      primary files fuel ("!" :: next :: rest)
    else
      (negated files fuel (next :: rest)).map fun f => { f with holds := !f.holds }
  | fuel + 1, rest => primary files fuel rest

def conjunction (files : FileTree) : Nat → List String → Except String Finding
  | 0, rest => .ok { holds := false, rest }
  | fuel + 1, words => do
    let first ← negated files fuel words
    match first.rest with
    | "-a" :: rest =>
      let second ← conjunction files fuel rest
      return { second with holds := first.holds && second.holds }
    | _ => return first

def disjunction (files : FileTree) : Nat → List String → Except String Finding
  | 0, rest => .ok { holds := false, rest }
  | fuel + 1, words => do
    let first ← conjunction files fuel words
    match first.rest with
    | "-o" :: rest =>
      let second ← disjunction files fuel rest
      return { second with holds := first.holds || second.holds }
    | _ => return first

end

/-- Whether a condition holds; an error is a message. -/
def condition (files : FileTree) (words : List String) : Except String Bool :=
  match words with
  | [] => .ok false
  | [one] => .ok (one != "")
  | words => do
    let found ← disjunction files (4 * words.length + 4) words
    if found.rest.isEmpty then return found.holds
    else .error s!"{found.last}: unexpected operator"

def test (files : FileTree) (name : String) (arguments : List String) : Effect :=
  match condition files arguments with
  | .ok b => { status := if b then 0 else 1, files }
  | .error message => complaint files 2 (shellMessage s!"{name}: {message}")

end GoldenCapture.Shell
