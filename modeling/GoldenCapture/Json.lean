import GoldenCapture.Number.Layout

/-!
# JSON documents

The tree of a JSON text. A number too large for a double, a string that is no text and an object
with such a key stand in the tree as `unreadable`: whoever skips that part of the document does
not mind, whoever reads it fails.
-/

namespace GoldenCapture

inductive Json where
  | null
  | bool (b : Bool)
  /-- An integer that 64 bits hold, signed or unsigned. -/
  | integer (n : Int)
  | real (d : Double)
  | string (s : String)
  | array (items : List Json)
  /-- The members in the order of the text, repeated keys included. -/
  | object (members : List (String × Json))
  | unreadable
deriving Inhabited

namespace Json

/-- The members of a record that is written as an object, in the order of `names`: each name at
most once, other names skipped. A record may also be written as an array of its first members. -/
def record? (names : List String) : Json → Option (List (Option Json))
  | object members =>
    names.mapM fun name =>
      match members.filter (fun member => member.1 == name) with
      | [] => some none
      | [member] => some (some member.2)
      | _ => none
  | array items =>
    if items.length ≤ names.length then
      some (items.map some ++ List.replicate (names.length - items.length) none)
    else none
  | _ => none

def string? : Json → Option String
  | string s => some s
  | _ => none

def items? : Json → Option (List Json)
  | array items => some items
  | _ => none

/-- A natural number that 64 bits hold. -/
def uint64? : Json → Option UInt64
  | integer n => if 0 ≤ n ∧ n < UInt64.size then some (UInt64.ofNat n.toNat) else none
  | _ => none

/-- Reads a member that may be missing or null. -/
def optional {α : Type} (read : Json → Option α) : Option Json → Option (Option α)
  | none | some null => some none
  | some json => (read json).map some

/-- Reads a member that has a value when it is missing. -/
def withDefault {α : Type} (value : α) (read : Json → Option α) : Option Json → Option α
  | none => some value
  | some json => read json

/-- A word of an enumeration: a string, or an object with the word as its only key and null. -/
def word? : Json → Option String
  | string s => some s
  | object [(key, null)] => some key
  | _ => none

end Json

end GoldenCapture
