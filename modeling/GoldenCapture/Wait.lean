import GoldenCapture.Failure
import GoldenCapture.Select

/-!
# Waiting

Waiting is looking again and again, at a fixed interval, until there is what is waited for. The
last look is at the limit: the end of the timeout, or the deadline of the run if that comes first.
A world that time passes in is anything with a clock.
-/

namespace GoldenCapture

/-- How long to wait for something, and how often to look. -/
structure WaitPolicy where
  timeout : Nat
  pollInterval : Nat
deriving DecidableEq, Repr

/-- What a look shows. -/
inductive Probe (α : Type) where
  | ready (value : α)
  | pending (observed : Nat)
deriving DecidableEq, Repr

/-- Whether there are enough. -/
def Probe.atLeast (observed wanted : Nat) : Probe Unit :=
  if wanted ≤ observed then .ready () else .pending observed

/-- A world with a clock, which stops at any instant that is asked for. -/
structure Timeline (σ : Type) where
  now : σ → Nat
  sleepUntil : Nat → σ → σ
  now_sleepUntil : ∀ t s, now (sleepUntil t s) = max (now s) t

/-- What is known when a wait gives up. -/
structure Expiry where
  observed : Nat
  waited : Nat
deriving DecidableEq, Repr

def Expiry.failure (e : Expiry) (what : String) : Failure := .timeout what e.observed e.waited

namespace WaitPolicy

/-- The instant of the last look of a wait. -/
def limit (p : WaitPolicy) (deadline : Option Nat) (start : Nat) : Nat :=
  match deadline with
  | none => start + p.timeout
  | some d => min (start + p.timeout) d

/-- The time from a look to the next one. Even a sleep of no length lasts until the clock moves. -/
def pause (p : WaitPolicy) : Nat := max 1 p.pollInterval

theorem pause_pos (p : WaitPolicy) : 0 < p.pause := Nat.le_max_left 1 p.pollInterval

end WaitPolicy

namespace Timeline

variable {σ α : Type}

/-- What a clock that never goes back shows at `s'`, after it has been read at `s`. -/
def nowAfter (t : Timeline σ) (s s' : σ) : Nat := max (t.now s) (t.now s')

theorem le_nowAfter (t : Timeline σ) (s s' : σ) : t.now s ≤ t.nowAfter s s' := Nat.le_max_left ..

/-- Looks now, and again after every pause, up to the limit. -/
def look (t : Timeline σ) (policy : WaitPolicy) (start limit : Nat) (probe : σ → Probe α × σ)
    (s : σ) : Except Expiry α × σ :=
  match probe s with
  | (.ready value, s') => (.ok value, s')
  | (.pending observed, s') =>
    let now := t.nowAfter s s'
    if limit ≤ now then (.error ⟨observed, now - start⟩, s')
    else t.look policy start limit probe (t.sleepUntil (min (now + policy.pause) limit) s')
termination_by limit - t.now s
decreasing_by
  have hclock := t.le_nowAfter s s'
  have hpause := policy.pause_pos
  rw [t.now_sleepUntil]
  omega

/-- Waits until a look shows a value. -/
def waitFor (t : Timeline σ) (policy : WaitPolicy) (deadline : Option Nat)
    (probe : σ → Probe α × σ) (s : σ) : Except Expiry α × σ :=
  let start := t.now s
  t.look policy start (policy.limit deadline start) probe s

/-- Waits until a store holds as many batches as wanted. -/
def waitForBatches (t : Timeline σ) (policy : WaitPolicy) (deadline : Option Nat)
    (store : σ → Store) (wanted : Nat) (s : σ) : Except Failure Unit × σ :=
  let (answer, s) := t.waitFor policy deadline
    (fun s => (Probe.atLeast (store s).count wanted, s)) s
  (answer.mapError fun expiry => expiry.failure s!"{wanted} batches", s)

/-- Waits until a store holds a batch that is accepted, and selects the newest. -/
def waitForSelection (t : Timeline σ) (policy : WaitPolicy) (deadline : Option Nat)
    (store : σ → Store) (selector : Selector) (expected : Batch) (s : σ) :
    Except Failure Captured × σ :=
  let look (s : σ) : Probe Captured × σ :=
    match selector.select expected (store s).captured with
    | some captured => (.ready captured, s)
    | none => (.pending (store s).count, s)
  let (answer, s) := t.waitFor policy deadline look s
  (answer.mapError fun expiry =>
    expiry.failure s!"a batch with marker '{selector.marker.name}'", s)

end Timeline

/-! ## A store that batches reach -/

/-- What happens to a store from outside. -/
inductive StoreChange where
  | append (protocol : Protocol) (batch : Batch)
  | reset

def Store.change (s : Store) : StoreChange → Store
  | .append protocol batch => s.append protocol batch
  | .reset => s.reset

/-- A store and the changes that are to come, each at its instant. -/
structure Feed where
  now : Nat := 0
  store : Store := {}
  coming : List (Nat × StoreChange) := []

namespace Feed

/-- A store with changes to come. Changes of one instant keep their order. -/
def ofChanges (store : Store) (changes : List (Nat × StoreChange)) : Feed where
  store := store
  coming := changes.mergeSort fun a b => a.1 ≤ b.1

/-- Lets time pass. What falls due changes the store. -/
def sleepUntil (t : Nat) (f : Feed) : Feed where
  now := max f.now t
  store := (f.coming.filter fun (due, _) => due ≤ t).foldl (fun s (_, change) => s.change change)
    f.store
  coming := f.coming.filter fun (due, _) => !(due ≤ t)

def timeline : Timeline Feed where
  now := Feed.now
  sleepUntil := sleepUntil
  now_sleepUntil _ _ := rfl

end Feed

/-! ## Looks that are set in advance -/

/-- What each look is to show. The last one repeats. -/
structure Rehearsal (α : Type) where
  now : Nat := 0
  shown : List (Probe α)
  /-- The instants of the looks so far, the last one first. -/
  looks : List Nat := []

namespace Rehearsal

variable {α : Type}

def timeline : Timeline (Rehearsal α) where
  now := Rehearsal.now
  sleepUntil t r := { r with now := max r.now t }
  now_sleepUntil _ _ := rfl

def probe (r : Rehearsal α) : Probe α × Rehearsal α :=
  let r := { r with looks := r.now :: r.looks }
  match r.shown with
  | [] => (.pending 0, r)
  | [outcome] => (outcome, r)
  | outcome :: rest => (outcome, { r with shown := rest })

end Rehearsal

end GoldenCapture
