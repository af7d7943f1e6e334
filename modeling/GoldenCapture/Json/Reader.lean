import GoldenCapture.Json
import GoldenCapture.Text.Utf8

/-!
# Reading JSON

Reads a text strictly: no comments, no trailing commas, no raw control characters, nothing but
blanks after the value. The text is a list of characters with `none` for bytes that are no
character; inside a string these spoil only the string.
-/

namespace GoldenCapture.Json

/-- Characters to read; `none` stands for bytes that are no character. -/
abbrev Input := List (Option Char)

namespace Reader

def isBlank (c : Option Char) : Bool :=
  c = some ' ' || c = some '\n' || c = some '\t' || c = some '\r'

def skipBlanks (input : Input) : Input := input.dropWhile isBlank

/-- What follows a fixed word. -/
def literal? (word : List Char) (input : Input) : Option Input :=
  if (word.map some).isPrefixOf input then some (input.drop word.length) else none

/-! ## Numbers -/

def digit? : Option Char → Option Nat
  | some c => if c.isDigit then some (c.toNat - 48) else none
  | none => none

/-- The digits at the front and what follows. -/
def digits : Input → List Nat × Input
  | [] => ([], [])
  | c :: rest =>
    match digit? c with
    | some d => let (ds, after) := digits rest; (d :: ds, after)
    | none => ([], c :: rest)

/-- A written number: digits before and after the point, sign and digits of the exponent. -/
structure Numeral where
  negative : Bool
  whole : List Nat
  fraction : Option (List Nat)
  exponent : Option (Bool × List Nat)

/-- The exponent part, if there is one. -/
def exponent? : Input → Option (Option (Bool × List Nat) × Input)
  | some c :: rest =>
    if c = 'e' || c = 'E' then
      let (negative, rest) := match rest with
        | some '+' :: after => (false, after)
        | some '-' :: after => (true, after)
        | _ => (false, rest)
      match digits rest with
      | ([], _) => none
      | (ds, after) => some (some (negative, ds), after)
    else some (none, some c :: rest)
  | input => some (none, input)

/-- A numeral: no zero before another digit, at least one digit after a point. -/
def numeral? (input : Input) : Option (Numeral × Input) := do
  let (negative, input) := match input with
    | some '-' :: rest => (true, rest)
    | _ => (false, input)
  let (whole, input) := digits input
  guard (!whole.isEmpty && (whole.head? != some 0 || whole.length == 1))
  let (fraction, input) ← match input with
    | some '.' :: rest =>
      match digits rest with
      | ([], _) => none
      | (ds, after) => some (some ds, after)
    | _ => some (none, input)
  let (exponent, input) ← exponent? input
  return (⟨negative, whole, fraction, exponent⟩, input)

/-- Whether ten times `n` plus `digit` needs more than 64 bits. -/
def overflows (n digit : Nat) : Bool := UInt64.size ≤ n * 10 + digit

/-- The digits before the point as a significand of 64 bits and the places cut off. -/
def wholePart : Nat → List Nat → Nat × Int
  | n, [] => (n, 0)
  | n, d :: rest =>
    if overflows n d then (n, ((d :: rest).length : Int)) else wholePart (n * 10 + d) rest

/-- Adds the digits after the point, as far as they fit. -/
def fractionPart (n : Nat) (places : Int) : List Nat → Nat × Int
  | [] => (n, places)
  | d :: rest =>
    if overflows n d then (n, places) else fractionPart (n * 10 + d) (places - 1) rest

/-- A significand scaled by a power of ten, in one or more rounded steps of at most `10 ^ 308`.
`none` when the result is too large. -/
def scaled? : Nat → Double → Int → Option Double
  | 0, x, _ => some x
  | steps + 1, x, exponent =>
    if exponent.natAbs ≤ 308 then
      let power := Double.ofDecimal false 1 exponent.natAbs
      if 0 ≤ exponent then
        let product := x.mul power
        if product.isInfinite then none else some product
      else some (x.div power)
    else if x.isZero then some x
    else if 0 ≤ exponent then none
    else scaled? steps (x.div (Double.ofDecimal false 1 308)) (exponent + (308 : Int))

def exponentLimit : Nat := 2147483647

/-- The double of a numeral that is not a plain integer in range. -/
def real? (numeral : Numeral) : Option Double :=
  let (n, places) := wholePart 0 numeral.whole
  let (n, places) := fractionPart n places (numeral.fraction.getD [])
  let (negative, ds) := numeral.exponent.getD (false, [])
  let e : Nat := ds.foldl (fun e d => e * 10 + d) 0
  let power : Int := if negative then -(e : Int) else (e : Int)
  let magnitude :=
    if exponentLimit < e then if n ≠ 0 ∧ !negative then none else some Double.zero
    else scaled? 4 (Double.ofNat n) (places + power)
  magnitude.map fun x => if numeral.negative then x.neg else x

/-- The value of a numeral. Minus zero is a double, as is an integer outside 64 bits. -/
def ofNumeral (numeral : Numeral) : Json :=
  let n : Nat := numeral.whole.foldl (fun n d => n * 10 + d) 0
  if numeral.fraction.isNone && numeral.exponent.isNone &&
      (if numeral.negative then n ≠ 0 ∧ n ≤ Nat.pow 2 63 else n < UInt64.size) then
    .integer (if numeral.negative then -(n : Int) else n)
  else
    match real? numeral with
    | some x => .real x
    | none => .unreadable

/-! ## Strings -/

def hexDigit? (c : Char) : Option Nat :=
  if c.isDigit then some (c.toNat - 48)
  else if 'a' ≤ c ∧ c ≤ 'f' then some (c.toNat - 87)
  else if 'A' ≤ c ∧ c ≤ 'F' then some (c.toNat - 55)
  else none

/-- Four hexadecimal digits. -/
def hex4? : Input → Option (Nat × Input)
  | some a :: some b :: some c :: some d :: rest => do
    let a ← hexDigit? a
    let b ← hexDigit? b
    let c ← hexDigit? c
    let d ← hexDigit? d
    return (((a * 16 + b) * 16 + c) * 16 + d, rest)
  | _ => none

/-- One piece of a string: a code unit in hexadecimal, a character, or bytes that are none. -/
inductive Piece where
  | unit (n : Nat)
  | char (c : Char)
  | gap

/-- The character that a one-letter escape stands for. -/
def simpleEscape? (c : Char) : Option Char :=
  if c = '"' || c = '\\' || c = '/' then some c
  else if c = 'b' then some (Char.ofNat 8)
  else if c = 'f' then some (Char.ofNat 12)
  else if c = 'n' then some '\n'
  else if c = 'r' then some '\r'
  else if c = 't' then some '\t'
  else none

/-- The pieces up to the closing quote, and what follows it. -/
def pieces? : Nat → Input → Option (List Piece × Input)
  | 0, _ => none
  | fuel + 1, input =>
    match input with
    | [] => none
    | none :: rest => do
      let (ps, after) ← pieces? fuel rest
      return (.gap :: ps, after)
    | some c :: rest =>
      if c = '"' then some ([], rest)
      else if c = '\\' then
        match rest with
        | some 'u' :: rest => do
          let (n, rest) ← hex4? rest
          let (ps, after) ← pieces? fuel rest
          return (.unit n :: ps, after)
        | some e :: rest => do
          let c ← simpleEscape? e
          let (ps, after) ← pieces? fuel rest
          return (.char c :: ps, after)
        | _ => none
      else if c.toNat < 32 then none
      else do
        let (ps, after) ← pieces? fuel rest
        return (.char c :: ps, after)

/-- The characters of the pieces; code units outside the basic plane come in pairs. -/
def chars? : List Piece → Option (List Char)
  | [] => some []
  | .gap :: _ => none
  | .char c :: rest => (chars? rest).map (c :: ·)
  | .unit n :: rest =>
    if 0xD800 ≤ n ∧ n < 0xDC00 then
      match rest with
      | .unit m :: rest =>
        if 0xDC00 ≤ m ∧ m < 0xE000 then
          (chars? rest).map (Char.ofNat (0x10000 + (n - 0xD800) * 1024 + (m - 0xDC00)) :: ·)
        else none
      | _ => none
    else if 0xDC00 ≤ n ∧ n < 0xE000 then none
    else (chars? rest).map (Char.ofNat n :: ·)

/-- The text after an opening quote, `none` inside when it is no text. -/
def string? (input : Input) : Option (Option String × Input) := do
  let (ps, rest) ← pieces? (input.length + 1) input
  return ((chars? ps).map String.ofList, rest)

/-! ## Values -/

/-- An object; one key that is no text makes it unreadable. -/
def ofMembers (members : List (Option String × Json)) : Json :=
  match members.mapM fun member => member.1.map (·, member.2) with
  | some members => .object members
  | none => .unreadable

mutual

/-- A value and what follows it. -/
def value? : Nat → Input → Option (Json × Input)
  | 0, _ => none
  | fuel + 1, input =>
    match skipBlanks input with
    | some c :: rest =>
      if c = '"' then do
        let (s, rest) ← string? rest
        return ((s.map Json.string).getD .unreadable, rest)
      else if c = '[' then
        match skipBlanks rest with
        | some ']' :: rest => some (.array [], rest)
        | rest => do
          let (items, rest) ← items? fuel rest
          return (.array items, rest)
      else if c = '\x7b' then
        match skipBlanks rest with
        | some '\x7d' :: rest => some (.object [], rest)
        | rest => do
          let (members, rest) ← members? fuel rest
          return (ofMembers members, rest)
      else if c = 'n' then (literal? "ull".toList rest).map (.null, ·)
      else if c = 't' then (literal? "rue".toList rest).map (.bool true, ·)
      else if c = 'f' then (literal? "alse".toList rest).map (.bool false, ·)
      else do
        let (numeral, rest) ← numeral? (some c :: rest)
        return (ofNumeral numeral, rest)
    | _ => none

/-- The items of an array up to its end, at least one. -/
def items? : Nat → Input → Option (List Json × Input)
  | 0, _ => none
  | fuel + 1, input => do
    let (item, rest) ← value? fuel input
    match skipBlanks rest with
    | some ']' :: rest => return ([item], rest)
    | some ',' :: rest =>
      let (items, rest) ← items? fuel rest
      return (item :: items, rest)
    | _ => none

/-- The members of an object up to its end, at least one. -/
def members? : Nat → Input → Option (List (Option String × Json) × Input)
  | 0, _ => none
  | fuel + 1, input =>
    match skipBlanks input with
    | some '"' :: rest => do
      let (key, rest) ← string? rest
      match skipBlanks rest with
      | some ':' :: rest =>
        let (value, rest) ← value? fuel rest
        match skipBlanks rest with
        | some '\x7d' :: rest => return ([(key, value)], rest)
        | some ',' :: rest =>
          let (members, rest) ← members? fuel rest
          return ((key, value) :: members, rest)
        | _ => none
      | _ => none
    | _ => none

end

end Reader

/-- The value that the whole input is. -/
def read? (input : Input) : Option Json := do
  let (value, rest) ← Reader.value? (2 * input.length + 2) input
  guard (Reader.skipBlanks rest).isEmpty
  return value

/-- The value of a text. -/
def parse? (text : String) : Option Json := read? (text.toList.map some)

/-- The value of a byte sequence. -/
def parseBytes? (bytes : List UInt8) : Option Json := read? (Utf8.decode bytes)

end GoldenCapture.Json
