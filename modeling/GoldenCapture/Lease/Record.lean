import GoldenCapture.Json
import GoldenCapture.Time.Duration
import GoldenCapture.Time.Rfc3339

/-!
# Lease records

What a backend keeps about one key, and the two ways in which a record changes hands: a grant to
whoever asks for a free lease, and an extension for whoever holds it.
-/

namespace GoldenCapture

structure LeaseRecord where
  holder : String
  acquiredAt : Timestamp
  renewedAt : Timestamp
  /-- The lifetime in milliseconds, as it is stored. -/
  ttlMillis : UInt64
deriving DecidableEq, Repr

namespace LeaseRecord

/-- A lifetime as it is stored: whole milliseconds in 64 bits. -/
def storedMillis (ttl : Nat) : UInt64 := UInt64.ofNat (Duration.millis ttl)

/-- The lifetime in nanoseconds. The stored milliseconds count as signed. The lowest signed number,
which 2 ^ 63 milliseconds make, is too low for a duration: whoever asks about such a record panics.
Here that record has expired like all others with a negative lifetime. -/
def lifetime (r : LeaseRecord) : Int := r.ttlMillis.toInt64.toInt * 1000000

/-- Whether the lifetime since the last renewal is over. -/
def isExpired (r : LeaseRecord) (now : Timestamp) : Bool :=
  decide (r.lifetime < now.since r.renewedAt)

def isHeldBy (r : LeaseRecord) (holder : String) (now : Timestamp) : Bool :=
  r.holder == holder && !r.isExpired now

/-- The record of a new tenure. -/
def fresh (holder : String) (ttl : Nat) (now : Timestamp) : LeaseRecord :=
  ⟨holder, now, now, storedMillis ttl⟩

def renewed (r : LeaseRecord) (ttl : Nat) (now : Timestamp) : LeaseRecord :=
  { r with renewedAt := now, ttlMillis := storedMillis ttl }

/-- The record to store when `holder` asks for the lease: a renewed one for its holder, a new one
if the lease is free, nothing while another holds it. -/
def grant? (existing : Option LeaseRecord) (holder : String) (ttl : Nat) (now : Timestamp) :
    Option LeaseRecord :=
  match existing with
  | none => some (fresh holder ttl now)
  | some r =>
    if r.isHeldBy holder now then some (r.renewed ttl now)
    else if r.isExpired now then some (fresh holder ttl now)
    else none

/-- The record after a renewal by `holder`, nothing if the lease is not its own any more. -/
def extend? (existing : Option LeaseRecord) (holder : String) (ttl : Nat) (now : Timestamp) :
    Option LeaseRecord :=
  match existing with
  | some r => if r.isHeldBy holder now then some (r.renewed ttl now) else none
  | none => none

/-! ## As JSON -/

def toJson (r : LeaseRecord) : Json := .object [
  ("holder", .string r.holder), ("acquired_at", .string r.acquiredAt.text),
  ("renewed_at", .string r.renewedAt.text), ("ttl_ms", .integer r.ttlMillis.toNat)]

def ofJson? (json : Json) : Option LeaseRecord := do
  let [holder, acquiredAt, renewedAt, ttlMillis] ←
      json.record? ["holder", "acquired_at", "renewed_at", "ttl_ms"]
    | none
  return {
    holder := ← (← holder).string?
    acquiredAt := ← Timestamp.parse? (← (← acquiredAt).string?)
    renewedAt := ← Timestamp.parse? (← (← renewedAt).string?)
    ttlMillis := ← (← ttlMillis).uint64? }

end LeaseRecord

end GoldenCapture
