import GoldenCapture.Lease.Error
import GoldenCapture.Lease.Record

/-!
# Calls to a lease backend

A backend keeps one record per key. A call looks at the record of its key, answers, and may change
that record and no other. Every backend decides in the same way; what differs is where the records
are and what can go wrong on the way.
-/

namespace GoldenCapture

/-- A call, with the type of its answer. -/
inductive LeaseCall : Type → Type where
  | tryAcquire (key holder : String) (ttl : Nat) : LeaseCall Bool
  | renew (key holder : String) (ttl : Nat) : LeaseCall Bool
  | release (key holder : String) : LeaseCall Unit
  | currentHolder (key : String) : LeaseCall (Option LeaseRecord)

/-- What becomes of a record. -/
inductive RecordChange where
  | keep
  | write (record : LeaseRecord)
  | remove
deriving DecidableEq, Repr

/-- The record after a change. -/
def RecordChange.apply : RecordChange → Option LeaseRecord → Option LeaseRecord
  | keep, existing => existing
  | write record, _ => some record
  | remove, _ => none

namespace LeaseCall

variable {α : Type}

def key : LeaseCall α → String
  | tryAcquire key _ _ => key
  | renew key _ _ => key
  | release key _ => key
  | currentHolder key => key

/-- Whether the call can change a record. -/
def changes : LeaseCall α → Bool
  | tryAcquire .. => true
  | renew .. => true
  | release .. => true
  | currentHolder _ => false

/-- A granted record is written; without one the answer is no. -/
def stored : Option LeaseRecord → Bool × RecordChange
  | some record => (true, .write record)
  | none => (false, .keep)

/-- The answer to a call and what becomes of the record of its key. A release removes the record of
its holder even if it has expired. -/
def decide : LeaseCall α → Option LeaseRecord → Timestamp → α × RecordChange
  | tryAcquire _ holder ttl, existing, now => stored (LeaseRecord.grant? existing holder ttl now)
  | renew _ holder ttl, existing, now => stored (LeaseRecord.extend? existing holder ttl now)
  | release _ holder, existing, _ =>
    ((), if existing.any fun r => r.holder == holder then .remove else .keep)
  | currentHolder _, existing, now => (existing.filter fun r => !r.isExpired now, .keep)

/-- Looking up a holder changes nothing. -/
theorem decide_currentHolder (key : String) (existing : Option LeaseRecord) (now : Timestamp) :
    ((currentHolder key).decide existing now).2 = .keep := rfl

end LeaseCall

/-- What comes back from a call: an answer after some nanoseconds, or never. -/
structure LeaseReply (α : Type) where
  answer : Except BackendError α
  delay : Option Nat := some 0

/-- A backend over a world of its own. -/
structure LeaseBackend (σ : Type) where
  call : {α : Type} → LeaseCall α → (now : Nat) → σ → LeaseReply α × σ

end GoldenCapture
