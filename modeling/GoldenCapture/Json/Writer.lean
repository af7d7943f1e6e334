import GoldenCapture.Json

/-!
# Writing JSON

Writes a tree on one line without blanks, or over several lines with two blanks for each level.
-/

namespace GoldenCapture.Json

/-- Doubles are written with a point and take an exponent below `10 ^ -5` and from `10 ^ 16`; what
is no finite number is null. -/
def layout : NumberLayout where
  positional := some (-5, 16)
  exponentSign := "+"
  integralTail := ".0"
  nan := "null"
  infinity := "null"
  negativeInfinity := "null"

namespace Writer

def hexByte (n : Nat) : List Char :=
  let ds := Nat.toDigits 16 n
  List.replicate (4 - ds.length) '0' ++ ds

/-- How one character is written between quotes. -/
def encodeChar (c : Char) : List Char :=
  if c = '"' then ['\\', '"']
  else if c = '\\' then ['\\', '\\']
  else if 32 ≤ c.toNat then [c]
  else if c = '\n' then ['\\', 'n']
  else if c = '\r' then ['\\', 'r']
  else if c = '\t' then ['\\', 't']
  else if c.toNat = 8 then ['\\', 'b']
  else if c.toNat = 12 then ['\\', 'f']
  else ['\\', 'u'] ++ hexByte c.toNat

def stringText (s : String) : String :=
  String.ofList ('"' :: (s.toList.flatMap encodeChar ++ ['"']))

end Writer

mutual

/-- The tree on one line. -/
def compact : Json → String
  | null => "null"
  | bool b => if b then "true" else "false"
  | integer n => toString n
  | real d => layout.text d
  | string s => Writer.stringText s
  | array items => "[" ++ ",".intercalate (compactItems items) ++ "]"
  | object members => "\x7b" ++ ",".intercalate (compactMembers members) ++ "\x7d"
  | unreadable => "null"

def compactItems : List Json → List String
  | [] => []
  | item :: rest => compact item :: compactItems rest

def compactMembers : List (String × Json) → List String
  | [] => []
  | (key, value) :: rest =>
    (Writer.stringText key ++ ":" ++ compact value) :: compactMembers rest

end

namespace Writer

/-- A line end and the blanks of a level. -/
def newline (level : Nat) : String := "\n" ++ String.ofList (List.replicate (2 * level) ' ')

/-- Parts between brackets, each on a line of its own. -/
def block (level : Nat) (opening closing : String) (parts : List String) : String :=
  if parts.isEmpty then opening ++ closing
  else opening ++ newline (level + 1) ++ ("," ++ newline (level + 1)).intercalate parts ++
    newline level ++ closing

end Writer

mutual

/-- The tree over several lines, from a line at this level. -/
def prettyAt (level : Nat) : Json → String
  | array items => Writer.block level "[" "]" (prettyItems (level + 1) items)
  | object members => Writer.block level "\x7b" "\x7d" (prettyMembers (level + 1) members)
  | leaf => compact leaf

def prettyItems (level : Nat) : List Json → List String
  | [] => []
  | item :: rest => prettyAt level item :: prettyItems level rest

def prettyMembers (level : Nat) : List (String × Json) → List String
  | [] => []
  | (key, value) :: rest =>
    (Writer.stringText key ++ ": " ++ prettyAt level value) :: prettyMembers level rest

end

/-- The tree over several lines. -/
def pretty (json : Json) : String := prettyAt 0 json

end GoldenCapture.Json
