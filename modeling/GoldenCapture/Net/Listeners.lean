import GoldenCapture.Net.Address

/-!
# Listeners

The addresses of a host that somebody listens on. A listener has a number of its own, by which it
is stopped.
-/

namespace GoldenCapture

structure Listener where
  id : Nat
  /-- What it is for. -/
  label : String
  address : SocketAddress
deriving DecidableEq, Repr

structure Listeners where
  /-- Addresses that other programs listen on. -/
  taken : List SocketAddress := []
  /-- Whether the host refuses an address to the listener of a number, for one while the addresses
  of a list are in use. Which addresses get in each other's way is for the host to say. -/
  refuses : Nat → List SocketAddress → SocketAddress → Bool :=
    fun _ inUse address => address.port != 0 && inUse.contains address
  running : List Listener := []
  nextId : Nat := 0

namespace Listeners

/-- The addresses that anybody listens on. -/
def inUse (n : Listeners) : List SocketAddress := n.taken ++ n.running.map Listener.address

/-- Starts a listener, unless the host refuses. -/
def start (n : Listeners) (label : String) (address : SocketAddress) :
    Option (Listener × Listeners) :=
  if n.refuses n.nextId n.inUse address then none
  else
    let listener : Listener := ⟨n.nextId, label, address⟩
    some (listener, { n with running := n.running ++ [listener], nextId := n.nextId + 1 })

def stop (n : Listeners) (id : Nat) : Listeners :=
  { n with running := n.running.filter fun l => l.id != id }

end Listeners

end GoldenCapture
