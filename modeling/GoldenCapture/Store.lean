import GoldenCapture.Protocol

/-!
# Batch stores

What a sink has captured since the last reset, in the order of arrival.
-/

namespace GoldenCapture

/-- A batch with its place in the store and the protocol that it came by. -/
structure Captured where
  arrival : Nat
  protocol : Protocol
  batch : Batch

structure Store where
  captured : List Captured := []
deriving Inhabited

/-- What a store holds in total. -/
structure StoreStats where
  batches : Nat
  records : Nat
  points : Nat
deriving DecidableEq, Repr

namespace Store

def count (s : Store) : Nat := s.captured.length

def isEmpty (s : Store) : Bool := s.count == 0

/-- Puts a batch at the end; its arrival is the count so far. -/
def append (s : Store) (protocol : Protocol) (batch : Batch) : Store :=
  ⟨s.captured ++ [⟨s.count, protocol, batch⟩]⟩

/-- The batch that arrived last. -/
def latest (s : Store) : Option Captured := s.captured.getLast?

def reset (_ : Store) : Store := {}

def stats (s : Store) : StoreStats where
  batches := s.count
  records := total (s.captured.map fun c => c.batch.recordCount)
  points := total (s.captured.map fun c => c.batch.pointCount)

end Store

end GoldenCapture
