import GoldenCapture.Dictionary
import GoldenCapture.Lease.Call

/-!
# Lease tables

The backend that keeps its records in memory. A call takes effect at once and cannot fail.
-/

namespace GoldenCapture

structure LeaseTable where
  records : Dictionary String LeaseRecord := {}

namespace LeaseTable

def get? (t : LeaseTable) (key : String) : Option LeaseRecord := t.records.get? key

def change (t : LeaseTable) (key : String) : RecordChange → LeaseTable
  | .keep => t
  | .write record => ⟨t.records.insert key record⟩
  | .remove => ⟨t.records.erase key⟩

/-- A change reaches the record of its key and no other. -/
theorem get?_change (t : LeaseTable) (key other : String) (c : RecordChange) :
    (t.change key c).get? other = if other = key then c.apply (t.get? key) else t.get? other := by
  cases c <;> by_cases h : other = key <;> simp [change, get?, RecordChange.apply, h]

/-- Answers a call. -/
def call {α : Type} (t : LeaseTable) (c : LeaseCall α) (now : Timestamp) : α × LeaseTable :=
  let (answer, change) := c.decide (t.get? c.key) now
  (answer, t.change c.key change)

/-- The backend over a table. `clock` says what time of day it is at an instant. -/
def backend (clock : Nat → Timestamp) : LeaseBackend LeaseTable where
  call c now t :=
    let (answer, t) := t.call c (clock now)
    (⟨.ok answer, some 0⟩, t)

end LeaseTable

end GoldenCapture
