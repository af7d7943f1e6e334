import GoldenCapture.Batch

/-!
# Scrubbing

Captures are scrubbed before they are compared or kept: entries that come and go are dropped, and
long series are cut to their first points.
-/

namespace GoldenCapture

structure Scrubber where
  /-- The names of entries that come and go. -/
  flaky : List String := []
  /-- How many points of a series are kept. -/
  maxPoints : Option Nat := none
deriving Inhabited

/-- Takes the entries of these names out of the scopes, one scope after the other, and adds their
number to that of the entries removed before. -/
def Scope.removeEntries (names : List String) (removed : Nat) : List Scope → Nat × List Scope
  | [] => (removed, [])
  | scope :: rest =>
    let entries := scope.entries.filter fun entry => !names.contains entry.name
    let (removed, rest) :=
      removeEntries names (removed + (scope.entries.length - entries.length)) rest
    (removed, { scope with entries } :: rest)

def Resource.removeEntries (names : List String) (removed : Nat) :
    List Resource → Nat × List Resource
  | [] => (removed, [])
  | resource :: rest =>
    let (removed, scopes) := Scope.removeEntries names removed resource.scopes
    let (removed, rest) := removeEntries names removed rest
    (removed, { resource with scopes } :: rest)

/-- How many points stand past the first `most`, and the entry without them. -/
def Entry.reducePoints (entry : Entry) (most : Nat) : Nat × Entry :=
  (entry.points.length - most, { entry with points := entry.points.take most })

namespace Batch

/-- Drops every entry of one of these names, and counts them. Emptied scopes stay. -/
def removeEntries (b : Batch) (names : List String) : Nat × Batch :=
  if names.isEmpty then (0, b)
  else
    let (removed, resources) := Resource.removeEntries names 0 b.resources
    (removed, { b with resources })

def withoutEntries (b : Batch) (names : List String) : Batch := (b.removeEntries names).2

/-- How many entries have one of these names. -/
def countEntries (b : Batch) (names : List String) : Nat := (b.removeEntries names).1

/-- Keeps the first `most` points of each series, and counts those past them. -/
def reducePoints (b : Batch) (most : Nat) : Nat × Batch :=
  (total (b.entries.map fun entry => (entry.reducePoints most).1),
    b.mapEntries fun entry => (entry.reducePoints most).2)

def capPoints (b : Batch) (most : Nat) : Batch := (b.reducePoints most).2

/-- How many points stand past the first `most` of their series. -/
def countSurplus (b : Batch) (most : Nat) : Nat := (b.reducePoints most).1

end Batch

namespace Scrubber

/-- Keeps as many points as the scrubber allows. -/
def cap (s : Scrubber) (b : Batch) : Batch :=
  match s.maxPoints with
  | none => b
  | some most => b.capPoints most

/-- What is left of a capture. -/
def scrub (s : Scrubber) (b : Batch) : Batch := s.cap (b.withoutEntries s.flaky)

end Scrubber

end GoldenCapture
