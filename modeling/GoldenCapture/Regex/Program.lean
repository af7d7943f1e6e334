import GoldenCapture.Regex

/-!
# Matching

An expression is compiled to a small program, and all its threads are run through the text side by
side, in order of preference. Of the matches that start earliest the preferred one is found, in
time linear in the text for each start.
-/

namespace GoldenCapture.Regex

/-! ## Programs -/

inductive Instruction where
  /-- Reads one character of the set. -/
  | read (set : CodeSet) (next : Nat)
  /-- Goes on at both places, the first preferred. -/
  | fork (first second : Nat)
  | test (look : Look) (next : Nat)
  | jump (next : Nat)
  | done

/-- Instructions in order; a place is an index. -/
abbrev Program := Array Instruction

namespace Program

/-- The places a fork goes on at, the way into the body first if the loop is greedy. -/
def branch (greedy : Bool) (body exit : Nat) : Instruction :=
  if greedy then .fork body exit else .fork exit body

/-- Appends `n` copies of what `emit` appends. -/
def copies (emit : Program → Program) : Nat → Program → Program
  | 0, p => p
  | n + 1, p => copies emit n (emit p)

/-- Appends a body that may be left out. -/
def optional (greedy : Bool) (emit : Program → Program) (p : Program) : Program :=
  let start := p.size
  let p := emit (p.push .done)
  p.set! start (branch greedy (start + 1) p.size)

/-- Appends up to `n` bodies, each inside the one before, left at any point. -/
def upTo (greedy : Bool) (emit : Program → Program) : Nat → Program → Program
  | 0, p => p
  | n + 1, p => optional greedy (fun p => upTo greedy emit n (emit p)) p

/-- Appends a body that is run at least once. -/
def atLeastOnce (greedy : Bool) (emit : Program → Program) (p : Program) : Program :=
  let start := p.size
  let p := emit p
  p.push (branch greedy start (p.size + 1))

/-- Appends a body that is run any number of times. -/
def anyTimes (greedy nullable : Bool) (emit : Program → Program) (p : Program) : Program :=
  if nullable then optional greedy (atLeastOnce greedy emit) p
  else
    let start := p.size
    let p := emit (p.push .done)
    let p := p.push (.jump start)
    p.set! start (branch greedy (start + 1) p.size)

end Program

/-- Appends the instructions of an expression; what follows it comes right behind them. -/
def emit : Regex → Program → Program
  | empty, p => p
  | chars set, p => p.push (.read set (p.size + 1))
  | look t, p => p.push (.test t (p.size + 1))
  | cat a b, p => b.emit (a.emit p)
  | alt a b, p =>
    let start := p.size
    let p := a.emit (p.push .done)
    let skip := p.size
    let p := b.emit (p.push .done)
    (p.set! start (.fork (start + 1) (skip + 1))).set! skip (.jump p.size)
  | loop least most greedy body, p =>
    match most with
    | some most =>
      Program.upTo greedy body.emit (most - least) (Program.copies body.emit least p)
    | none =>
      if least = 0 then Program.anyTimes greedy body.nullable body.emit p
      else Program.atLeastOnce greedy body.emit (Program.copies body.emit (least - 1) p)

def compile (r : Regex) : Program := (r.emit #[]).push .done

/-! ## Running -/

namespace Program

/-- The places where threads wait for a character or are done, reached from `stack` without
reading; each place once, in order of preference. -/
def reach (p : Program) (before after : Option Char) :
    Nat → List Nat → Array Bool → List Nat → List Nat
  | 0, _, _, found => found.reverse
  | _, [], _, found => found.reverse
  | fuel + 1, pc :: stack, seen, found =>
    if seen.getD pc true then reach p before after fuel stack seen found
    else
      let seen := seen.set! pc true
      match p[pc]? with
      | none => reach p before after fuel stack seen found
      | some (.jump next) => reach p before after fuel (next :: stack) seen found
      | some (.fork a b) => reach p before after fuel (a :: b :: stack) seen found
      | some (.test t next) =>
        reach p before after fuel
          (if t.holds before after then next :: stack else stack) seen found
      | some _ => reach p before after fuel stack seen (pc :: found)

/-- The threads that wait at one place of the text. -/
def threads (p : Program) (before after : Option Char) (starts : List Nat) : List Nat :=
  reach p before after (2 * p.size + starts.length + 2) starts
    (Array.replicate p.size false) []

/-- The threads preferred to the first one that is done, and whether one is. -/
def untilDone (p : Program) : List Nat → List Nat × Bool
  | [] => ([], false)
  | pc :: rest =>
    match p[pc]? with
    | some .done => ([], true)
    | _ => let (kept, found) := untilDone p rest; (pc :: kept, found)

/-- Where threads go on after reading `c`. -/
def advance (p : Program) (c : Char) (waiting : List Nat) : List Nat :=
  waiting.filterMap fun (pc : Nat) =>
    match p[pc]? with
    | some (.read set next) => if set.contains c then some next else none
    | _ => none

/-- Runs the threads over the text from position `at`; the end of the last match seen. -/
def run (p : Program) (starts : List Nat) (before : Option Char) (place : Nat)
    (best : Option Nat) : List Char → Option Nat
  | [] =>
    if (p.untilDone (p.threads before none starts)).2 then some place else best
  | c :: rest =>
    let (kept, found) := p.untilDone (p.threads before (some c) starts)
    let best := if found then some place else best
    match p.advance c kept with
    | [] => best
    | starts => run p starts (some c) (place + 1) best rest

/-- The first match that starts at or after `place`: its start and end. -/
def find? (p : Program) (before : Option Char) (place : Nat) (text : List Char) :
    Option (Nat × Nat) :=
  match p.run [0] before place none text with
  | some stop => some (place, stop)
  | none =>
    match text with
    | [] => none
    | c :: rest => find? p (some c) (place + 1) rest

end Program

/-! ## Uses -/

/-- Whether some part of the text matches. -/
def isMatch (r : Regex) (text : String) : Bool :=
  (r.compile.find? none 0 text.toList).isSome

/-- The matches of a text that do not overlap, from left to right. A match of nothing right where
the last match ended does not count. -/
def matchesFrom (p : Program) (text : List Char) : Nat → Nat → Option Nat → List (Nat × Nat)
  | 0, _, _ => []
  | fuel + 1, place, lastEnd =>
    let before := if place = 0 then none else text[place - 1]?
    match p.find? before place (text.drop place) with
    | none => []
    | some (start, stop) =>
      if start = stop ∧ some stop = lastEnd then
        if place < text.length then matchesFrom p text fuel (place + 1) lastEnd else []
      else (start, stop) :: matchesFrom p text fuel stop (some stop)

/-- What is left of a text, from position `place` on, without the given stretches. -/
def without (text : List Char) (place : Nat) : List (Nat × Nat) → List Char
  | [] => text.drop place
  | (start, stop) :: rest =>
    (text.drop place).take (start - place) ++ without text stop rest

/-- The text without its matches. -/
def removeAll (r : Regex) (text : String) : String :=
  let cs := text.toList
  String.ofList (without cs 0 (matchesFrom r.compile cs (2 * cs.length + 2) 0 none))

end GoldenCapture.Regex
