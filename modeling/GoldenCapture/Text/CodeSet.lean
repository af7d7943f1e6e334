/-!
# Code point sets

A property of characters beyond ASCII, held as ascending ranges of code points. The tables write
a set as numbers in base thirty-six: by turns the gap before a range and the range's length less
one.
-/

namespace GoldenCapture

/-- A set of code points, as ascending ranges with both ends included. -/
structure CodeSet where
  ranges : Array (Nat × Nat)
deriving Inhabited

namespace CodeSet

/-- The value of a digit in base thirty-six. -/
def digitValue (c : Char) : Nat := if c.isDigit then c.toNat - 48 else c.toNat - 87

/-- The numbers of a table, separated by blanks. -/
def numbers (text : String) : List Nat :=
  (text.toList.foldr
    (fun c acc => if c = ' ' then [] :: acc else
      match acc with
      | [] => [[c]]
      | word :: rest => (c :: word) :: rest) [[]]).filterMap fun word =>
        if word.isEmpty then none else some (word.foldl (fun n c => n * 36 + digitValue c) 0)

/-- The ranges that the numbers describe, from `start` on. -/
def unpack (start : Nat) : List Nat → List (Nat × Nat)
  | gap :: length :: rest =>
    (start + gap, start + gap + length) :: unpack (start + gap + length + 1) rest
  | _ => []

def ofGaps (text : String) : CodeSet := ⟨(unpack 0 (numbers text)).toArray⟩

def ofRanges (ranges : List (Nat × Nat)) : CodeSet := ⟨ranges.toArray⟩

/-- Whether one of the ranges from `low` up to but not including `high` holds `code`. -/
def search (ranges : Array (Nat × Nat)) (code low high : Nat) : Bool :=
  if low < high then
    let mid := (low + high) / 2
    match ranges[mid]? with
    | none => false
    | some (first, last) =>
      if code < first then search ranges code low mid
      else if last < code then search ranges code (mid + 1) high
      else true
  else false
termination_by high - low

def containsCode (s : CodeSet) (code : Nat) : Bool := search s.ranges code 0 s.ranges.size

def contains (s : CodeSet) (c : Char) : Bool := s.containsCode c.toNat

end CodeSet

end GoldenCapture

namespace GoldenCapture.CodeSet

/-! ## Set operations -/

/-- Joins ranges, ascending by their first ends, that overlap or touch. -/
def join : List (Nat × Nat) → List (Nat × Nat)
  | [] => []
  | (first, last) :: rest =>
    match join rest with
    | [] => [(first, last)]
    | (f, l) :: more =>
      if f ≤ last + 1 then (first, max last l) :: more else (first, last) :: (f, l) :: more

/-- The set of the given ranges, in any order and overlap. -/
def ofList (ranges : List (Nat × Nat)) : CodeSet :=
  ofRanges (join (ranges.mergeSort fun a b => a.1 ≤ b.1))

def toList (s : CodeSet) : List (Nat × Nat) := s.ranges.toList

def empty : CodeSet := ⟨#[]⟩

/-- The last code point. -/
def last : Nat := 0x10FFFF

def all : CodeSet := ofRanges [(0, last)]

def single (c : Char) : CodeSet := ofRanges [(c.toNat, c.toNat)]

def ofChars (s : String) : CodeSet := ofList (s.toList.map fun c => (c.toNat, c.toNat))

def union (a b : CodeSet) : CodeSet := ofList (a.toList ++ b.toList)

/-- The ranges between ascending ranges, from `start` on. -/
def gapsFrom (start : Nat) : List (Nat × Nat) → List (Nat × Nat)
  | [] => if start ≤ last then [(start, last)] else []
  | (f, l) :: rest =>
    if start < f then (start, f - 1) :: gapsFrom (l + 1) rest else gapsFrom (l + 1) rest

def compl (s : CodeSet) : CodeSet := ofRanges (gapsFrom 0 s.toList)

def inter (a b : CodeSet) : CodeSet := (a.compl.union b.compl).compl

def diff (a b : CodeSet) : CodeSet := a.inter b.compl

def symmDiff (a b : CodeSet) : CodeSet := (a.union b).diff (a.inter b)

def isAscii (s : CodeSet) : Bool := s.ranges.all fun range => range.2 < 128

end GoldenCapture.CodeSet
