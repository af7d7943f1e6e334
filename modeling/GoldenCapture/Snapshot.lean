import GoldenCapture.Scrub

/-!
# Snapshots

The form of a capture that is reviewed and kept: scrubbed, the entries of each scope in name
order, and no timestamps.
-/

namespace GoldenCapture

/-- Entries in name order; entries of one name stay in their order. -/
def Scope.sortEntries (s : Scope) : Scope :=
  { s with entries := s.entries.mergeSort fun a b => decide (a.name ≤ b.name) }

def Point.clearTimes (p : Point) : Point := { p with startTime := none, time := none }

def Entry.clearTimes (e : Entry) : Entry := { e with points := e.points.map Point.clearTimes }

/-- The snapshot of a capture. -/
def Scrubber.snapshot (s : Scrubber) (b : Batch) : Batch :=
  ((s.scrub b).mapScopes Scope.sortEntries).mapEntries Entry.clearTimes

end GoldenCapture
