import GoldenCapture.Regex.Pattern
import GoldenCapture.Regex.Program
import GoldenCapture.Shell.FileUtility

/-!
# Shell utilities on text

Utilities that choose, count, order and change the lines of their input.
-/

namespace GoldenCapture.Shell

def newline : UInt8 := UInt8.ofNat 10

/-- The lines of some bytes, without their ends. -/
def linesOf : Bytes → List Bytes
  | [] => []
  | b :: rest =>
    if b = newline then [] :: linesOf rest
    else
      match linesOf rest with
      | [] => [[b]]
      | line :: lines => (b :: line) :: lines

def ofLines (lines : List Bytes) : Bytes := lines.flatMap (· ++ [newline])

/-- The texts that the operands name, one after another, or the input. -/
def sources (files : FileTree) (input : Bytes) (operands : List String)
    (message : String → FileFault → String) : Effect :=
  if operands.isEmpty then { output := input, files, drains := true }
  else
    each files operands fun files operand =>
      if operand == "-" then .ok (input, files)
      else
        match files.read operand with
        | .ok text => .ok (bytesOf text, files)
        | .error fault => .error (message operand fault)

/-! ## Starts and ends -/

/-- How much to show, in lines or in bytes. -/
structure Portion where
  bytes : Bool := false
  amount : String := "10"

/-- The portion that the options ask for, and the operands. -/
def portion (p : Portion) : List String → Portion × List String
  | "-n" :: amount :: rest => portion { amount } rest
  | "-c" :: amount :: rest => portion { bytes := true, amount } rest
  | a :: rest =>
    if a.startsWith "-n" then portion { amount := (a.drop 2).toString } rest
    else if a.startsWith "-c" then portion { bytes := true, amount := (a.drop 2).toString } rest
    else if isOption a then portion { amount := (a.drop 1).toString } rest
    else
      let (p, operands) := portion p rest
      (p, a :: operands)
  | [] => (p, [])

/-- The lines of some bytes, each with an end, or the bytes one by one. -/
def Portion.parts (p : Portion) (bytes : Bytes) : List Bytes :=
  if p.bytes then bytes.map fun b => [b] else (linesOf bytes).map (· ++ [newline])

def cannotOpen (name : String) (operand : String) (fault : FileFault) : String :=
  s!"{name}: cannot open '{operand}' for reading: {faultText fault}"

/-- The first lines; a negative amount leaves the last ones out. -/
def head (files : FileTree) (input : Bytes) (arguments : List String) : Effect :=
  let (p, operands) := portion {} arguments
  let e := sources files input operands (cannotOpen "head")
  let parts := p.parts e.output
  let kept := match p.amount.toList with
    | '-' :: rest => parts.take (parts.length - (String.ofList rest).toNat?.getD 0)
    | _ => parts.take (p.amount.toNat?.getD 0)
  { e with output := kept.flatten.take e.output.length }

/-- The last lines; an amount with a plus sign tells which line is the first. -/
def tail (files : FileTree) (input : Bytes) (arguments : List String) : Effect :=
  let (p, operands) := portion {} arguments
  let e := sources files input operands (cannotOpen "tail")
  let parts := p.parts e.output
  let kept := match p.amount.toList with
    | '+' :: rest => parts.drop ((String.ofList rest).toNat?.getD 0 - 1)
    | _ => parts.drop (parts.length - p.amount.toNat?.getD 0)
  let lacksEnd := !p.bytes && e.output.getLast? ≠ some newline
  { e with output := if lacksEnd then kept.flatten.dropLast else kept.flatten }

/-! ## Counts and order -/

def wordCount (bytes : Bytes) : Nat :=
  let isSpace (b : UInt8) : Bool := b = UInt8.ofNat 32 || (9 ≤ b.toNat && b.toNat ≤ 13)
  (bytes.foldl (fun (count, before) b =>
    (if before && !isSpace b then count + 1 else count, isSpace b)) (0, true)).1

def count (files : FileTree) (input : Bytes) (arguments : List String) : Effect :=
  let (letters, operands) := options arguments
  let e := sources files input operands fun operand fault =>
    s!"wc: {operand}: {faultText fault}"
  let all := letters.isEmpty
  let numbers :=
    (if all || letters.contains 'l' then [e.output.count newline] else []) ++
    (if all || letters.contains 'w' then [wordCount e.output] else []) ++
    (if all || letters.contains 'c' || letters.contains 'm' then [e.output.length] else [])
  let width := if operands.isEmpty then (if numbers.length > 1 then 7 else 1)
    else (toString e.output.length).length
  let shown := numbers.map fun n =>
    let digits := toString n
    "".pushn ' ' (width - digits.length) ++ digits
  let names := operands.map (" " ++ ·)
  if e.status ≠ 0 then { e with output := [] }
  else { e with output := bytesOf (" ".intercalate shown ++ String.join names ++ "\n") }

def bytesLE : Bytes → Bytes → Bool
  | [], _ => true
  | _ :: _, [] => false
  | a :: r, b :: s => a < b || (a == b && bytesLE r s)

/-- The number that a line starts with. -/
def leadingNumber (line : Bytes) : Int :=
  match (Utf8.lossy line).trimAscii.toString.toList with
  | '-' :: rest => -((String.ofList (rest.takeWhile Char.isDigit)).toNat?.getD 0 : Nat)
  | rest => ((String.ofList (rest.takeWhile Char.isDigit)).toNat?.getD 0 : Nat)

def sort (files : FileTree) (input : Bytes) (arguments : List String) : Effect :=
  let (letters, operands) := options arguments
  let e := sources files input operands fun operand fault =>
    s!"sort: cannot read: {operand}: {faultText fault}"
  let before (a b : Bytes) : Bool :=
    if letters.contains 'n' then
      leadingNumber a < leadingNumber b || (leadingNumber a == leadingNumber b && bytesLE a b)
    else bytesLE a b
  let sorted := (linesOf e.output).mergeSort before
  let once := if letters.contains 'u' then sorted.eraseReps else sorted
  { e with
    status := 2 * e.status
    output := if e.status ≠ 0 then [] else
      ofLines (if letters.contains 'r' then once.reverse else once) }

/-- Puts equal neighbours together, with how many there are. -/
def runs : List Bytes → List (Nat × Bytes)
  | [] => []
  | line :: rest =>
    match runs rest with
    | (n, next) :: others =>
      if next = line then (n + 1, line) :: others else (1, line) :: (n, next) :: others
    | [] => [(1, line)]

def unique (files : FileTree) (input : Bytes) (arguments : List String) : Effect :=
  let (letters, operands) := options arguments
  let e := sources files input operands fun operand fault =>
    s!"uniq: {operand}: {faultText fault}"
  let shown := (runs (linesOf e.output)).map fun (n, line) =>
    if letters.contains 'c' then
      let digits := toString n
      bytesOf ("".pushn ' ' (7 - digits.length) ++ digits ++ " ") ++ line
    else line
  { e with output := ofLines shown }

/-! ## Characters -/

/-- The characters of a written set: ranges, classes and escapes. -/
def characterSet : (fuel : Nat) → List Char → List Char
  | 0, _ | _, [] => []
  | fuel + 1, '[' :: ':' :: rest =>
    let name := String.ofList (rest.takeWhile (· ≠ ':'))
    let chosen (p : Char → Bool) : List Char := ((List.range 128).map Char.ofNat).filter p
    let members := match name with
      | "lower" => chosen Char.isLower
      | "upper" => chosen Char.isUpper
      | "digit" => chosen Char.isDigit
      | "alpha" => chosen Char.isAlpha
      | "alnum" => chosen Char.isAlphanum
      | "space" => "\t\n\x0b\x0c\r ".toList
      | "blank" => "\t ".toList
      | _ => []
    members ++ characterSet fuel (rest.drop (name.length + 2))
  | fuel + 1, '\\' :: c :: rest =>
    let d := match c with
      | 'n' => '\n'
      | 't' => '\t'
      | 'r' => '\r'
      | c => c
    d :: characterSet fuel rest
  | fuel + 1, a :: '-' :: b :: rest =>
    ((List.range (b.toNat + 1 - a.toNat)).map fun n => Char.ofNat (a.toNat + n)) ++
      characterSet fuel rest
  | fuel + 1, c :: rest => c :: characterSet fuel rest

def setOf (s : String) : List UInt8 :=
  bytesOf (String.ofList (characterSet s.length s.toList))

/-- Leaves one of several equal neighbours in a set. -/
def squeeze (set : List UInt8) : Bytes → Bytes
  | a :: b :: rest =>
    if a = b && set.contains a then squeeze set (b :: rest) else a :: squeeze set (b :: rest)
  | rest => rest

/-- Puts characters in the place of others, takes them out, or squeezes runs of them. -/
def mapCharacters (files : FileTree) (input : Bytes) (arguments : List String) : Effect :=
  let (letters, operands) := options arguments
  let result (bytes : Bytes) : Effect := { output := bytes, files, drains := true }
  match operands.map setOf with
  | [] => lacking files "tr" "missing operand"
  | [set] =>
    if letters.contains 'd' then result (input.filter fun b => !set.contains b)
    else if letters.contains 's' then result (squeeze set input)
    else
      let first := operands.headD ""
      lacking files "tr"
        (s!"missing operand after '{first}'\n" ++ "Two strings must be given when translating.")
  | set :: images :: _ =>
    let changed := input.map fun b =>
      match set.reverse.idxOf? b with
      | some i => (images[set.length - 1 - i]?).getD (images.getLast?.getD b)
      | none => b
    result (if letters.contains 's' then squeeze images changed else changed)

/-! ## Search -/

/-- The lines in which a pattern is found. -/
def search (files : FileTree) (input : Bytes) (arguments : List String) : Effect :=
  let (letters, operands) := options arguments
  match operands with
  | [] =>
    complaint files 2
      ("Usage: grep [OPTION]... PATTERNS [FILE]...\n" ++
        "Try 'grep --help' for more information.")
  | pattern :: operands =>
    let e := sources files input operands fun operand fault =>
      s!"grep: {operand}: {faultText fault}"
    let found (line : String) : Bool :=
      if letters.contains 'F' then (line.splitOn pattern).length > 1
      else
        let written := if letters.contains 'i' then s!"(?i){pattern}" else pattern
        ((Regex.ofPattern? written).map fun r => r.isMatch line).getD false
    let lines := (linesOf e.output).filter fun line =>
      found (Utf8.lossy line) != letters.contains 'v'
    let shown := if letters.contains 'q' then []
      else if letters.contains 'c' then bytesOf s!"{lines.length}\n"
      else ofLines lines
    { e with
      status := if e.status ≠ 0 then 2 else if lines.isEmpty then 1 else 0
      output := shown }

/-! ## Sources -/

/-- The numbers from one to another. -/
def sequence (files : FileTree) (arguments : List String) : Effect :=
  let counting (first step last : Int) : Effect :=
    let steps := if step = 0 then 0 else ((last - first).fdiv step + 1).toNat
    let numbers := (List.range steps).map fun (i : Nat) => toString (first + step * i) ++ "\n"
    { output := bytesOf (String.join numbers), files }
  match arguments.mapM String.toInt? with
  | some [last] => counting 1 1 last
  | some [first, last] => counting first 1 last
  | some [first, step, last] => counting first step last
  | some [] => lacking files "seq" "missing operand"
  | some (_ :: _ :: _ :: extra :: _) => lacking files "seq" s!"extra operand '{extra}'"
  | none =>
    let bad := (arguments.find? fun a => a.toInt?.isNone).getD ""
    lacking files "seq" s!"invalid floating point argument: '{bad}'"

/-- Passes the input on and writes it to files too. -/
def tee (files : FileTree) (input : Bytes) (arguments : List String) : Effect :=
  let (letters, operands) := options arguments
  let e := each files operands fun files operand =>
    let kept := if letters.contains 'a' then (files.text? operand).getD "" else ""
    match files.write operand (kept ++ Utf8.lossy input) with
    | .ok files => .ok ([], files)
    | .error fault => .error s!"tee: {operand}: {faultText fault}"
  { e with output := input, drains := true }

end GoldenCapture.Shell
