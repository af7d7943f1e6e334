import GoldenCapture.Store

/-!
# Selection

Which of the captured batches is the one to verify: the newest one that carries the marker and,
unless the shape is ignored, has as many resources and records as the reference.
-/

namespace GoldenCapture

/-- An entry by which a batch is recognised. -/
structure Marker where
  name : String
  kind : Option EntryKind := none

/-- Whether a batch carries the marker. -/
def Marker.isIn (m : Marker) (b : Batch) : Bool := b.containsEntry m.name m.kind

structure Selector where
  marker : Marker
  matchShape : Bool := true

namespace Selector

def accepts (s : Selector) (expected candidate : Batch) : Bool :=
  s.marker.isIn candidate &&
    (!s.matchShape ||
      (candidate.resourceCount == expected.resourceCount &&
        candidate.recordCount == expected.recordCount))

/-- The newest batch that is accepted. -/
def select (s : Selector) (expected : Batch) (captured : List Captured) : Option Captured :=
  captured.reverse.find? fun c => s.accepts expected c.batch

end Selector

end GoldenCapture
