import GoldenCapture.Batch.Json
import GoldenCapture.Protocol

/-!
# Payloads

The bytes that a protocol delivers, read as one batch in its JSON form. The batch has to carry
the signal of the protocol.
-/

namespace GoldenCapture

inductive PayloadError where
  | unreadable (protocol : Protocol)
  | wrongSignal (protocol : Protocol) (actual : Signal)
deriving DecidableEq, Repr

def PayloadError.message : PayloadError → String
  | unreadable p => s!"Payload decode failed for {p.name}"
  | wrongSignal p actual =>
    s!"Signal mismatch on {p.name}: expected {p.signal.name}, got {actual.name}"

/-- The batch in a payload. -/
def Protocol.decode (p : Protocol) (payload : List UInt8) : Except PayloadError Batch :=
  match (Json.parseBytes? payload).bind Batch.ofJson? with
  | none => .error (.unreadable p)
  | some batch =>
    if batch.signal = p.signal then .ok batch else .error (.wrongSignal p batch.signal)

/-- What is decoded carries the signal of the protocol. -/
theorem Protocol.signal_of_decode {p : Protocol} {payload : List UInt8} {batch : Batch}
    (h : p.decode payload = .ok batch) : batch.signal = p.signal := by
  unfold Protocol.decode at h
  split at h
  · simp at h
  · split at h
    · simp_all
    · simp at h

end GoldenCapture
