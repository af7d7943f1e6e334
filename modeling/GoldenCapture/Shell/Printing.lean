import GoldenCapture.Shell.Arithmetic
import GoldenCapture.Shell.Effect

/-!
# Printing from a shell

What `echo` and `printf` write: escapes, and formats that are used as often as there are arguments.
-/

namespace GoldenCapture.Shell

/-! ## Escapes -/

def octal? (c : Char) : Option Nat :=
  if '0' ≤ c ∧ c ≤ '7' then some (c.toNat - '0'.toNat) else none

/-- The value of up to `most` octal digits, and the rest. -/
def octalValue : (most value : Nat) → List Char → Nat × List Char
  | most + 1, value, c :: rest =>
    match octal? c with
    | some d => octalValue most (8 * value + d) rest
    | none => (value, c :: rest)
  | _, value, rest => (value, rest)

/-- The byte of an escape of one letter. -/
def letterEscape? (c : Char) : Option Nat :=
  match c with
  | 'a' => some 7
  | 'b' => some 8
  | 'e' => some 27
  | 'f' => some 12
  | 'n' => some 10
  | 'r' => some 13
  | 't' => some 9
  | 'v' => some 11
  | '\\' => some 92
  | _ => none

/-- The bytes after a backslash, and the rest. In an argument an octal escape may start with a
zero that does not count. -/
def escape (argument : Bool) : List Char → Bytes × List Char
  | [] => (bytesOf "\\", [])
  | c :: rest =>
    match letterEscape? c with
    | some byte => ([UInt8.ofNat byte], rest)
    | none =>
      if (octal? c).isSome then
        let (value, rest) := octalValue 3 0 (if argument && c = '0' then rest else c :: rest)
        ([UInt8.ofNat value], rest)
      else if !argument && c = '"' then (bytesOf "\"", rest)
      else (bytesOf (String.ofList ['\\', c]), rest)

/-- The bytes of an argument with escapes, and whether `\c` ends all writing. -/
def unescape : (fuel : Nat) → List Char → Bytes × Bool
  | 0, _ | _, [] => ([], false)
  | _ + 1, '\\' :: 'c' :: _ => ([], true)
  | fuel + 1, '\\' :: rest =>
    let (bytes, rest) := escape true rest
    let (later, stopped) := unescape fuel rest
    (bytes ++ later, stopped)
  | fuel + 1, c :: rest =>
    let (later, stopped) := unescape fuel rest
    (bytesOf (String.singleton c) ++ later, stopped)

def echo (files : FileTree) (arguments : List String) : Effect :=
  let (ending, arguments) := match arguments with
    | "-n" :: rest => ("", rest)
    | arguments => ("\n", arguments)
  let text := " ".intercalate arguments
  let (bytes, stopped) := unescape text.length text.toList
  { output := if stopped then bytes else bytes ++ bytesOf ending, files }

/-! ## Formats -/

/-- How wide a conversion is, and how exact. -/
inductive Measure where
  | none
  | fixed (n : Nat)
  | argument
deriving Repr, DecidableEq

structure Conversion where
  flags : List Char
  width : Measure
  precision : Measure
  letter : Char
deriving Repr

inductive FormatPart where
  | bytes (b : Bytes)
  | conversion (c : Conversion)
  /-- A conversion that is none, with the text of the message about it. -/
  | invalid (message : String)
deriving Repr

def measure : List Char → Measure × List Char
  | '*' :: rest => (.argument, rest)
  | s =>
    match s.takeWhile Char.isDigit with
    | [] => (.none, s)
    | digits => (.fixed ((String.ofList digits).toNat?.getD 0), s.drop digits.length)

/-- The letters of conversions. -/
def conversionLetters : List Char := "sbcdiuoxX".toList

/-- The conversion after a percent sign, and the rest. -/
def conversion (s : List Char) : FormatPart × List Char :=
  let flags := s.takeWhile fun c => "#-+ 0".contains c
  let (width, rest) := measure (s.drop flags.length)
  let (precision, rest) := match rest with
    | '.' :: rest =>
      match measure rest with
      | (.none, rest) => (Measure.fixed 0, rest)
      | measured => measured
    | rest => (.none, rest)
  match rest with
  | [] => (.invalid "missing format character", [])
  | letter :: rest =>
    if conversionLetters.contains letter then
      (.conversion { flags, width, precision, letter }, rest)
    else
      let taken := s.take (s.length - rest.length)
      (.invalid s!"%{String.ofList taken}: invalid directive", [])

def formatParts : (fuel : Nat) → List Char → List FormatPart
  | 0, _ | _, [] => []
  | fuel + 1, '%' :: '%' :: rest => .bytes (bytesOf "%") :: formatParts fuel rest
  | fuel + 1, '%' :: rest =>
    let (part, rest) := conversion rest
    part :: formatParts fuel rest
  | fuel + 1, '\\' :: rest =>
    let (bytes, rest) := escape false rest
    .bytes bytes :: formatParts fuel rest
  | fuel + 1, c :: rest => .bytes (bytesOf (String.singleton c)) :: formatParts fuel rest

/-! ## Writing a format -/

/-- What has been written, and the arguments that are left. -/
structure Printing where
  arguments : List String
  output : Bytes := []
  errors : String := ""
  status : Nat := 0
  stopped : Bool := false

namespace Printing

def put (p : Printing) (bytes : Bytes) : Printing := { p with output := p.output ++ bytes }

def complain (p : Printing) (status : Nat) (message : String) : Printing :=
  { p with status, errors := p.errors ++ shellMessage s!"printf: {message}\n" }

/-- The next argument, empty if there is none. -/
def next (p : Printing) : String × Printing :=
  (p.arguments.headD "", { p with arguments := p.arguments.tail })

/-- The number that an argument stands for. After a quote it is the code of a character. -/
def number (p : Printing) (s : String) : Int × Printing :=
  match s.toList with
  | [] => (0, p)
  | '\'' :: rest | '"' :: rest => ((rest.head?.map fun c => (c.toNat : Int)).getD 0, p)
  | cs =>
    match Arithmetic.numberOf? s with
    | some n => (n, p)
    | none =>
      let digits := cs.takeWhile Char.isDigit
      if digits.isEmpty then (0, p.complain 1 s!"{s}: expected numeric value")
      else
        ((Arithmetic.numberOf? (String.ofList digits)).getD 0,
          p.complain 1 s!"{s}: not completely converted")

/-- The value of a width or a precision. -/
def measured (p : Printing) : Measure → Option Int × Printing
  | .none => (none, p)
  | .fixed n => (some n, p)
  | .argument =>
    let (s, p) := p.next
    let (n, p) := p.number s
    (some n, p)

/-- Fills a text up to a width; a negative width puts it to the left. -/
def pad (left : Bool) (width : Option Int) (bytes : Bytes) : Bytes :=
  let wanted := width.getD 0
  let blanks := List.replicate (wanted.natAbs - bytes.length) (UInt8.ofNat 32)
  if left || wanted < 0 then bytes ++ blanks else blanks ++ bytes

/-- The sign, or other start, and the digits of a number. -/
def digitsOf (c : Conversion) (n : Int) : String × String :=
  let unsigned := n.emod UInt64.size
  let inBase (base : Nat) : String := String.ofList (Nat.toDigits base unsigned.toNat)
  let alternate (start : String) : String := if c.flags.contains '#' && n ≠ 0 then start else ""
  match c.letter with
  | 'u' => ("", toString unsigned)
  | 'o' => (alternate "0", inBase 8)
  | 'x' => (alternate "0x", inBase 16)
  | 'X' => (alternate "0X", (inBase 16).toUpper)
  | _ =>
    let sign := if n < 0 then "-" else if c.flags.contains '+' then "+"
      else if c.flags.contains ' ' then " " else ""
    (sign, toString n.natAbs)

/-- The text of a number in a conversion. -/
def numberText (c : Conversion) (width precision : Option Int) (n : Int) : String :=
  let (start, digits) := digitsOf c n
  let zeros (wanted : Nat) : String := "".pushn '0' (wanted - digits.length)
  match precision with
  | some wanted => start ++ zeros wanted.toNat ++ digits
  | none =>
    if c.flags.contains '0' && !c.flags.contains '-' then
      start ++ zeros ((width.getD 0).toNat - start.length) ++ digits
    else start ++ digits

def convert (p : Printing) (c : Conversion) : Printing :=
  let (width, p) := p.measured c.width
  let (precision, p) := p.measured c.precision
  let (s, p) := p.next
  let fill (bytes : Bytes) : Bytes := pad (c.flags.contains '-') width bytes
  let cut (bytes : Bytes) : Bytes :=
    match precision with
    | some n => bytes.take n.toNat
    | none => bytes
  match c.letter with
  | 's' => p.put (fill (cut (bytesOf s)))
  | 'b' =>
    let (bytes, stopped) := unescape s.length s.toList
    { p.put (fill (cut bytes)) with stopped }
  | 'c' => p.put (fill [(bytesOf s).headD 0])
  | _ =>
    let (n, p) := p.number s
    p.put (fill (bytesOf (numberText c width precision n)))

/-- Writes a format once. -/
def once (parts : List FormatPart) (p : Printing) : Printing :=
  parts.foldl (fun p part =>
    if p.stopped then p
    else
      match part with
      | .bytes b => p.put b
      | .conversion c => p.convert c
      | .invalid message => { p.complain 2 message with stopped := true }) p

/-- Writes a format as often as there are arguments for it. -/
def all (parts : List FormatPart) : (fuel : Nat) → Printing → Printing
  | 0, p => p
  | fuel + 1, p =>
    let after := p.once parts
    if after.stopped || after.arguments.isEmpty ||
      after.arguments.length == p.arguments.length then after
    else all parts fuel after

end Printing

def printf (files : FileTree) (arguments : List String) : Effect :=
  match arguments with
  | [] => complaint files 2 (shellMessage "printf: usage: printf format [arg ...]")
  | "--" :: [] => complaint files 2 (shellMessage "printf: usage: printf format [arg ...]")
  | first :: rest =>
    let (format, arguments) := if first = "--" then (rest.headD "", rest.tail) else (first, rest)
    if first ≠ "--" && isOption first then
      complaint files 2 (shellMessage s!"printf: Illegal option {first.take 2}")
    else
      let parts := formatParts format.length format.toList
      let p := Printing.all parts (arguments.length + 1) { arguments }
      { status := p.status, output := p.output, errors := p.errors, files }

end GoldenCapture.Shell
