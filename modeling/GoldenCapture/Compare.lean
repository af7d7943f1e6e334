import GoldenCapture.Compare.Mismatch
import GoldenCapture.Normalize

/-!
# Comparison

The first difference between two batches under a rule set. Lists are compared by position or,
where order is ignored, by pairing: equal items first, and then each item that is left with the
one most like it.
-/

namespace GoldenCapture

/-! ## Scalars and attributes -/

/-- Compares what may be absent on either side. -/
def compareOptional {ι α : Type} (place : ι) (same : α → α → Bool) (text : α → String)
    (actual expected : Option α) : Option (Mismatch ι) :=
  match expected, actual with
  | none, none => none
  | some e, some a =>
    if same e a then none else some ⟨place, some (text e), some (text a), .valueDiffers⟩
  | some e, none => some ⟨place, some (text e), none, .missing⟩
  | none, some a => some ⟨place, none, some (text a), .unexpected⟩

/-- Compares what both sides have. -/
def compareScalar {ι α : Type} (place : ι) (same : α → α → Bool) (text : α → String)
    (actual expected : α) : Option (Mismatch ι) :=
  compareOptional place same text (some actual) (some expected)

/-- The keys of two ascending lists, each once and ascending. -/
def mergeKeys : List String → List String → List String
  | [], bs => bs
  | a :: as, bs => Batch.insertName a (mergeKeys as bs)

/-- Compares two attribute maps key by key, over the keys of both. -/
def compareAttributes {ι : Type} (place : String → ι) (actual expected : Attributes) :
    Option (Mismatch ι) :=
  (mergeKeys expected.keys actual.keys).findSome? fun key =>
    compareOptional (place key) Value.same Value.display (actual.get? key) (expected.get? key)

/-! ## Likeness -/

/-- How many fields of `a` are in `b` with the same value. -/
def attributeOverlap (a b : Attributes) : Nat :=
  (a.fields.filter fun field => (b.get? field.1).any (·.same field.2)).length

def ifSo (b : Bool) (n : Nat) : Nat := if b then n else 0

def Resource.likeness (a e : Resource) : Nat :=
  attributeOverlap a.attributes e.attributes * 2 + ifSo (a.scopes.length == e.scopes.length) 1

def Scope.likeness (a e : Scope) : Nat :=
  ifSo (a.name == e.name) 100 + attributeOverlap a.attributes e.attributes

def Entry.likeness (a e : Entry) : Nat :=
  ifSo (a.name == e.name) 100 + ifSo (a.kind == e.kind) 10 +
    attributeOverlap a.attributes e.attributes

def Point.likeness (a e : Point) : Nat :=
  attributeOverlap a.attributes e.attributes * 2 + ifSo (a.value.same e.value) 1

/-! ## Lists -/

section Lists

variable {ι α : Type}

/-- Compares item by item, from index `i` on. -/
def comparePositions (compare : α → α → Option (Mismatch ι)) (i : Nat) :
    List α → List α → Option (Mismatch (InList ι))
  | a :: actual, e :: expected =>
    match compare a e with
    | some m => some (m.within (.inside i))
    | none => comparePositions compare (i + 1) actual expected
  | _, _ => none

/-- Takes the first item that passes out of a list. -/
def takeFirst? (pass : α → Bool) : List α → Option (List α)
  | [] => none
  | x :: rest => if pass x then some rest else (takeFirst? pass rest).map (x :: ·)

/-- Pairs equal items. What is left: the expected items with their index, and the actual ones. -/
def pairEqual (compare : α → α → Option (Mismatch ι)) (i : Nat) (actual : List α) :
    List α → List (Nat × α) × List α
  | [] => ([], actual)
  | e :: expected =>
    match takeFirst? (fun a => (compare a e).isNone) actual with
    | some rest => pairEqual compare (i + 1) rest expected
    | none =>
      let (left, unused) := pairEqual compare (i + 1) actual expected
      ((i, e) :: left, unused)

/-- Takes the item of the highest score out of a list, the first of several. -/
def takeBest? (score : α → Nat) : List α → Option (α × List α)
  | [] => none
  | x :: rest =>
    match takeBest? score rest with
    | none => some (x, rest)
    | some (best, others) =>
      if score x < score best then some (best, x :: others) else some (x, rest)

/-- Compares each expected item that is left with the unused actual item most like it. -/
def compareLeft (compare : α → α → Option (Mismatch ι)) (likeness : α → α → Nat) :
    List (Nat × α) → List α → Option (Mismatch (InList ι))
  | [], _ => none
  | (i, e) :: left, unused =>
    match takeBest? (fun a => likeness a e) unused with
    | none => some ⟨.item i, some "matching item", none, .noCounterpart⟩
    | some (a, unused) =>
      match compare a e with
      | some m => some (m.within (.inside i))
      | none => compareLeft compare likeness left unused

/-- Compares two lists, by position or by pairing. Places carry the index of the expected side. -/
def compareList (unordered : Bool) (compare : α → α → Option (Mismatch ι))
    (likeness : α → α → Nat) (actual expected : List α) : Option (Mismatch (InList ι)) :=
  if actual.length ≠ expected.length then
    some ⟨.length, some s!"{expected.length} items", some s!"{actual.length} items",
      .lengthDiffers⟩
  else if unordered then
    let (left, unused) := pairEqual compare 0 actual expected
    compareLeft compare likeness left unused
  else comparePositions compare 0 actual expected

end Lists

/-! ## Nodes -/

namespace Rules

def comparePoint (a e : Point) : Option (Mismatch PointPlace) :=
  (compareScalar .value Value.same Value.display a.value e.value)
  <|> compareOptional .startTime (· == ·) (fun t => toString t.toNat) a.startTime e.startTime
  <|> compareOptional .time (· == ·) (fun t => toString t.toNat) a.time e.time
  <|> compareAttributes .field a.attributes e.attributes

def compareEntry (rules : Rules) (a e : Entry) : Option (Mismatch EntryPlace) :=
  compareScalar .name (· == ·) id a.name e.name
  <|> compareScalar .kind (· == ·) EntryKind.name a.kind e.kind
  <|> compareOptional .unit (· == ·) id a.unit e.unit
  <|> compareAttributes .field a.attributes e.attributes
  <|> (compareList (rules.ignoresOrder .point) comparePoint Point.likeness a.points e.points).map
    (·.within .points)

def compareScope (rules : Rules) (a e : Scope) : Option (Mismatch ScopePlace) :=
  compareScalar .name (· == ·) id a.name e.name
  <|> compareOptional .version (· == ·) id a.version e.version
  <|> compareAttributes .field a.attributes e.attributes
  <|> (compareList (rules.ignoresOrder .entry) rules.compareEntry Entry.likeness
    a.entries e.entries).map (·.within .entries)

def compareResource (rules : Rules) (a e : Resource) : Option (Mismatch ResourcePlace) :=
  compareAttributes .field a.attributes e.attributes
  <|> (compareList (rules.ignoresOrder .scope) rules.compareScope Scope.likeness
    a.scopes e.scopes).map (·.within .scopes)

/-- The first difference between two batches in normal form. -/
def compareNormal (rules : Rules) (actual expected : Batch) : Option (Mismatch Place) :=
  compareScalar .signal (· == ·) Signal.name actual.signal expected.signal
  <|> (compareList (rules.ignoresOrder .resource) rules.compareResource Resource.likeness
    actual.resources expected.resources).map (·.within .resources)

/-- The first difference between two batches under the rules. -/
def compare (rules : Rules) (actual expected : Batch) : Option (Mismatch Place) :=
  rules.compareNormal (rules.normalize actual) (rules.normalize expected)

end Rules

end GoldenCapture
