import GoldenCapture.Proofs.Regex.Compilation
import Mathlib.Logic.Relation

/-!
# Running compiled expressions

All threads run side by side, each place of the program once at each place of the text. This finds
an end exactly if some thread gets there.
-/

namespace GoldenCapture.Regex.Program

open Relation (ReflTransGen)

/-! ## Steps without reading -/

def successors (p : Program) (before after : Option Char) (pc : Nat) : List Nat :=
  match p[pc]? with
  | some (.jump next) => [next]
  | some (.fork a b) => [a, b]
  | some (.test t next) => if t.holds before after then [next] else []
  | _ => []

def waits (p : Program) (pc : Nat) : Bool :=
  match p[pc]? with
  | some (.read _ _) => true
  | some .done => true
  | _ => false

def Leads (p : Program) (before after : Option Char) (pc next : Nat) : Prop :=
  next ∈ p.successors before after pc

variable {p : Program} {before after : Option Char}

/-- The places that have been visited; those outside of the program count as such. -/
def Visited (seen : Array Bool) (pc : Nat) : Prop := seen.getD pc true = true

/-- How much there may still be to do: each place that is visited puts at most two on the stack. -/
def remaining (stack : List Nat) (seen : Array Bool) : Nat :=
  stack.length + 2 * seen.count false

/-- What holds between the steps of `reach`: a visited place is among the places found if a thread
waits there, and each place that it leads to is visited or on the stack. -/
structure Explored (p : Program) (before after : Option Char) (stack : List Nat)
    (seen : Array Bool) (found : List Nat) : Prop where
  size : seen.size = p.size
  found : ∀ pc, Visited seen pc → p.waits pc = true → pc ∈ found
  leads : ∀ pc next, Visited seen pc → p.Leads before after pc next →
    Visited seen next ∨ next ∈ stack

variable {stack : List Nat} {seen : Array Bool} {found : List Nat}

theorem Explored.skip {pc : Nat} (h : Explored p before after (pc :: stack) seen found)
    (hpc : Visited seen pc) : Explored p before after stack seen found where
  size := h.size
  found := h.found
  leads other next hother hleads := by
    obtain hnext | hnext := h.leads other next hother hleads
    · exact .inl hnext
    · obtain rfl | hnext := List.mem_cons.mp hnext
      · exact .inl hpc
      · exact .inr hnext

/-- A thread gets to the end from one place of the program and of the text. -/
def Ends (p : Program) (pc : Nat) (s : Spot) : Prop := ∃ k, p.Accepts k pc s

/-- What a thread can do once it waits: it is done, or it reads the next character. -/
inductive Proceeds (p : Program) (pc : Nat) : Spot → Prop
  | done {s : Spot} (h : p[pc]? = some .done) : Proceeds p pc s
  | read {before : Option Char} {c : Char} {rest : List Char} {set : CodeSet} {next : Nat}
      (h : p[pc]? = some (.read set next)) (hset : set.contains c = true)
      (hnext : p.Ends next ⟨some c, rest⟩) : Proceeds p pc ⟨before, c :: rest⟩

theorem Proceeds.waits {pc : Nat} {s : Spot} (h : p.Proceeds pc s) : p.waits pc = true := by
  cases h with
  | done h | read h => simp [Program.waits, h]

end GoldenCapture.Regex.Program

namespace GoldenCapture.Regex

end GoldenCapture.Regex
