import GoldenCapture.Text.Blank
import GoldenCapture.Time.Timestamp

/-!
# Timestamps as text

Writes timestamps as date, time and offset, and reads them back. Reading is lenient: blanks may
stand between the parts, a space may part date and time, and `UTC` may name the offset.
-/

namespace GoldenCapture.Timestamp

/-! ## Writing -/

def padded (width n : Nat) : String :=
  let digits := Nat.toDigits 10 n
  String.ofList (List.replicate (width - digits.length) '0' ++ digits)

/-- Four digits, or a sign and at least four of them. -/
def yearText (year : Int) : String :=
  if 0 ≤ year ∧ year ≤ 9999 then padded 4 year.toNat
  else (if year < 0 then "-" else "+") ++ padded 4 year.natAbs

/-- The fraction in three, six or nine digits, whichever is shortest; nothing for none. -/
def fractionText (nanos : Nat) : String :=
  if nanos = 0 then ""
  else if nanos % 1000000 = 0 then "." ++ padded 3 (nanos / 1000000)
  else if nanos % 1000 = 0 then "." ++ padded 6 (nanos / 1000)
  else "." ++ padded 9 nanos

/-- The timestamp in UTC, followed by `offset`. -/
def textWith (offset : String) (t : Timestamp) : String :=
  let d := t.date
  let s := t.secondOfDay.toNat
  let second := s % 60 + if t.leap then 1 else 0
  yearText d.year ++ "-" ++ padded 2 d.month ++ "-" ++ padded 2 d.day ++ "T" ++
    padded 2 (s / 3600) ++ ":" ++ padded 2 (s / 60 % 60) ++ ":" ++ padded 2 second ++
    fractionText t.fraction ++ offset

def text (t : Timestamp) : String := t.textWith "Z"

/-! ## Reading -/

def isDigit (c : Char) : Bool := '0' ≤ c && c ≤ '9'

def digitsValue (cs : List Char) : Nat :=
  cs.foldl (fun n c => 10 * n + (c.toNat - '0'.toNat)) 0

/-- A number of one digit up to `most`, after blanks. -/
def number? (most : Nat) (input : List Char) : Option (Nat × List Char) :=
  let input := Text.skipBlanks input
  let digits := (input.take most).takeWhile isDigit
  if digits.isEmpty then none else some (digitsValue digits, input.drop digits.length)

/-- A year: up to four digits, or a sign and any number of them. -/
def year? (input : List Char) : Option (Int × List Char) :=
  let signed (negative : Bool) (rest : List Char) : Option (Int × List Char) :=
    let digits := rest.takeWhile isDigit
    if digits.isEmpty then none
    else
      let n : Int := digitsValue digits
      some (if negative then -n else n, rest.drop digits.length)
  match Text.skipBlanks input with
  | '-' :: rest => signed true rest
  | '+' :: rest => signed false rest
  | input => (number? 4 input).map fun (n, rest) => (n, rest)

/-- A mark, after blanks. -/
def mark? (c : Char) (input : List Char) : Option (List Char) :=
  match Text.skipBlanks input with
  | d :: rest => if c = d then some rest else none
  | [] => none

/-- A fraction in nanoseconds, if there is one; digits past the ninth are dropped. -/
def fraction? : List Char → Option (Nat × List Char)
  | '.' :: rest =>
    let digits := (rest.take 9).takeWhile isDigit
    if digits.isEmpty then none
    else
      some (digitsValue digits * Nat.pow 10 (9 - digits.length),
        (rest.drop digits.length).dropWhile isDigit)
  | input => some (0, input)

/-- An offset from UTC in seconds, and what follows. -/
def offset? (input : List Char) : Option (Int × List Char) :=
  let hours (sign : Int) : List Char → Option (Int × List Char)
    | a :: b :: rest =>
      if isDigit a && isDigit b then
        match rest.dropWhile fun c => c = ':' || Text.isBlank c with
        | c :: d :: rest =>
          if '0' ≤ c && c ≤ '5' && isDigit d then
            some (sign * (digitsValue [a, b] * 3600 + digitsValue [c, d] * 60), rest)
          else none
        | _ => none
      else none
    | _ => none
  match input with
  | 'Z' :: rest | 'z' :: rest => some (0, rest)
  | '+' :: rest => hours 1 rest
  | '-' :: rest | '−' :: rest => hours (-1) rest
  | u :: t :: c :: rest =>
    if [u, t, c].map Char.toUpper = ['U', 'T', 'C'] then some (0, rest) else none
  | _ => none

def date? (input : List Char) : Option (Date × List Char) := do
  let (year, input) ← year? input
  let (month, input) ← number? 2 (← mark? '-' input)
  let (day, input) ← number? 2 (← mark? '-' input)
  let d : Date := ⟨year, month, day⟩
  guard (d.exists && -262143 ≤ year && year ≤ 262142)
  return (d, input)

/-- The nanoseconds of a time of day, and whether it stands in a leap second. -/
def time? (input : List Char) : Option (Int × Bool × List Char) := do
  let (hour, input) ← number? 2 input
  let (minute, input) ← number? 2 (← mark? ':' input)
  let (second, input) ← number? 2 (← mark? ':' input)
  guard (hour ≤ 23 && minute ≤ 59 && second ≤ 60)
  let (fraction, input) ← fraction? input
  let seconds : Int := hour * 3600 + minute * 60 + min second 59
  return (seconds * nanosPerSecond + fraction, second == 60, input)

/-- The timestamp that a text stands for. -/
def parse? (s : String) : Option Timestamp := do
  let (d, input) ← date? s.toList
  let input ← match input with
    | 't' :: rest | 'T' :: rest | ' ' :: rest => some rest
    | _ => none
  let (time, leap, input) ← time? input
  let (offset, input) ← offset? (Text.skipBlanks input)
  guard (Text.skipBlanks input).isEmpty
  guard (-secondsPerDay < offset && offset < secondsPerDay)
  return ⟨(d.toDays * secondsPerDay - offset) * nanosPerSecond + time, leap⟩

end GoldenCapture.Timestamp
