/-!
# Shell patterns

What a word matches in which `*`, `?` and `[` stand unquoted.
-/

namespace GoldenCapture.Shell

/-- A character of a word, and whether it can only stand for itself. -/
structure Glyph where
  char : Char
  literal : Bool
deriving DecidableEq, Repr

def glyphs (literal : Bool) (s : String) : List Glyph := s.toList.map fun char => { char, literal }

def textOf (field : List Glyph) : String := String.ofList (field.map Glyph.char)

inductive PatternPart where
  | char (c : Char)
  | any
  | many
  | oneOf (negated : Bool) (ranges : List (Char × Char))
deriving Repr, DecidableEq

/-- The ranges that stand in brackets. -/
def ranges : List Char → List (Char × Char)
  | a :: '-' :: b :: rest => (a, b) :: ranges rest
  | a :: rest => (a, a) :: ranges rest
  | [] => []

/-- A set in brackets and what follows it. A closing bracket that comes first is in the set. -/
def bracket? (field : List Glyph) : Option (PatternPart × List Glyph) :=
  let (negated, inside) := match field with
    | g :: rest => if g.char = '!' || g.char = '^' then (true, rest) else (false, field)
    | [] => (false, [])
  let first := inside.take 1
  let more := (inside.drop 1).takeWhile fun g => g.literal || g.char ≠ ']'
  match inside.drop (first.length + more.length) with
  | [] => none
  | _ :: rest => some (.oneOf negated (ranges ((first ++ more).map Glyph.char)), rest)

def patternParts : (fuel : Nat) → List Glyph → List PatternPart
  | 0, _ | _, [] => []
  | fuel + 1, g :: rest =>
    if g.literal then .char g.char :: patternParts fuel rest
    else if g.char = '*' then .many :: patternParts fuel rest
    else if g.char = '?' then .any :: patternParts fuel rest
    else if g.char = '[' then
      match bracket? rest with
      | some (part, rest) => part :: patternParts fuel rest
      | none => .char '[' :: patternParts fuel rest
    else .char g.char :: patternParts fuel rest

def matchesParts : List PatternPart → List Char → Bool
  | [], s => s.isEmpty
  | .many :: parts, [] => matchesParts parts []
  | .many :: parts, c :: rest =>
    matchesParts parts (c :: rest) || matchesParts (.many :: parts) rest
  | _ :: _, [] => false
  | .any :: parts, _ :: rest => matchesParts parts rest
  | .char d :: parts, c :: rest => c == d && matchesParts parts rest
  | .oneOf negated ranges :: parts, c :: rest =>
    (ranges.any fun (a, b) => decide (a ≤ c ∧ c ≤ b)) != negated && matchesParts parts rest
termination_by parts s => parts.length + s.length

/-- Whether a word matches a whole text. -/
def matchesWord (field : List Glyph) (s : List Char) : Bool :=
  matchesParts (patternParts field.length field) s

/-- Whether a word can match another text than its own. -/
def isPattern (field : List Glyph) : Bool :=
  field.any fun g => !g.literal && (g.char = '*' || g.char = '?' || g.char = '[')

/-- A text without the shortest or the longest start that a word matches. -/
def withoutStart (field : List Glyph) (longest : Bool) (s : List Char) : List Char :=
  let lengths := List.range (s.length + 1)
  let tried := if longest then lengths.reverse else lengths
  match tried.find? fun n => matchesWord field (s.take n) with
  | some n => s.drop n
  | none => s

/-- A text without the shortest or the longest end that a word matches. -/
def withoutEnd (field : List Glyph) (longest : Bool) (s : List Char) : List Char :=
  let lengths := List.range (s.length + 1)
  let tried := if longest then lengths else lengths.reverse
  match tried.find? fun n => matchesWord field (s.drop n) with
  | some n => s.take n
  | none => s

end GoldenCapture.Shell
