import GoldenCapture.Lease.Call
import GoldenCapture.Time.Duration

/-!
# Scripted backends

A backend that answers as it is told, for trying out what its users do when it is slow, silent or
failing. It keeps no records; it notes every call.
-/

namespace GoldenCapture

/-- What to do on one call. -/
inductive ScriptedAnswer (α : Type) where
  | answer (value : α)
  | fail (message : String)
  /-- Never answer. -/
  | hang
  | delay (span : Nat) (next : ScriptedAnswer α)
deriving Repr

def ScriptedAnswer.reply {α : Type} : ScriptedAnswer α → LeaseReply α
  | answer value => ⟨.ok value, some 0⟩
  | fail message => ⟨.error (.failed message), some 0⟩
  | hang => ⟨.error .storage, none⟩
  | delay span next =>
    let later := next.reply
    { later with delay := later.delay.map (span + ·) }

/-- What to do on the calls of one kind, in turn. The last answer repeats; without any the call
succeeds. -/
structure LeaseScript where
  tryAcquire : List (ScriptedAnswer Bool) := []
  renew : List (ScriptedAnswer Bool) := []
  release : List (ScriptedAnswer Unit) := []
  /-- The name of the holder, or nobody. -/
  currentHolder : List (ScriptedAnswer (Option String)) := []
  /-- The calls so far with their instants, the last one first. -/
  calls : List (Nat × String) := []

namespace LeaseScript

/-- The first of the answers, and those for later calls. -/
def take {α : Type} (usual : α) : List (ScriptedAnswer α) →
    ScriptedAnswer α × List (ScriptedAnswer α)
  | [] => (.answer usual, [])
  | [last] => (last, [last])
  | next :: rest => (next, rest)

def note (s : LeaseScript) (now : Nat) (name : String) : LeaseScript :=
  { s with calls := (now, name) :: s.calls }

/-- A record of which only the holder matters. -/
def recordOf (holder : String) : LeaseRecord := .fresh holder 0 ⟨0, false⟩

def call {α : Type} (c : LeaseCall α) (now : Nat) (s : LeaseScript) :
    LeaseReply α × LeaseScript :=
  match c with
  | .tryAcquire .. =>
    let (answer, rest) := take true s.tryAcquire
    (answer.reply, { s with tryAcquire := rest }.note now "try_acquire")
  | .renew .. =>
    let (answer, rest) := take true s.renew
    (answer.reply, { s with renew := rest }.note now "renew")
  | .release .. =>
    let (answer, rest) := take () s.release
    (answer.reply, { s with release := rest }.note now "release")
  | .currentHolder _ =>
    let (answer, rest) := take none s.currentHolder
    let reply := answer.reply
    (⟨reply.answer.map fun holder => holder.map recordOf, reply.delay⟩,
      { s with currentHolder := rest }.note now "current_holder")

def backend : LeaseBackend LeaseScript where
  call c now s := call c now s

end LeaseScript

end GoldenCapture
