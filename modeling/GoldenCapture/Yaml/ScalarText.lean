import GoldenCapture.Yaml.Cursor

/-!
# The text of scalars

Reads a plain, quoted or block scalar from its first character on, and folds its lines. The
cursor stands behind the scalar afterwards.
-/

namespace GoldenCapture.Yaml

/-! ## Folding -/

/-- What stands between two pieces of text: blanks within a line, or line breaks, the first apart
from the others. -/
structure Gap where
  blanks : List Char := []
  first : Option Char := none
  breaks : List Char := []
  /-- Whether a line has ended. -/
  newLine : Bool := false

/-- A gap in folded text: one line feed is a space, further ones stay; other breaks all stay. -/
def Gap.folded (g : Gap) : List Char :=
  if g.newLine then
    match g.first with
    | some '\n' => if g.breaks.isEmpty then [' '] else g.breaks
    | first => first.toList ++ g.breaks
  else g.blanks

/-- Takes blanks and line breaks. A tab at the start of a line before column `indent` is
refused. -/
def gap? (indent : Nat) : Nat → Gap → Cursor → Option (Gap × Cursor)
  | 0, _, _ => none
  | fuel + 1, g, c =>
    match c.break? with
    | some (x, c) =>
      if g.newLine then gap? indent fuel { g with breaks := g.breaks ++ [x] } c
      else gap? indent fuel { g with blanks := [], first := some x, newLine := true } c
    | none =>
      match c.peek with
      | none => some (g, c)
      | some x =>
        if !isBlank x then some (g, c)
        else if !g.newLine then gap? indent fuel { g with blanks := g.blanks ++ [x] } (c.skip 1)
        else if x == '\t' && c.column < indent then none
        else gap? indent fuel g (c.skip 1)

/-! ## Plain scalars -/

def isFlowMark (c : Char) : Bool :=
  c == ',' || c == '[' || c == ']' || c == '\x7b' || c == '\x7d'

/-- The characters of a plain scalar up to a blank, a line break or a mark that ends it. Within a
flow collection a colon may not stand right before a flow mark. -/
def plainRun? (flow : Bool) : List Char → Option (List Char)
  | [] => some []
  | c :: rest =>
    if isBlank c || isBreak c then some []
    else if flow && c == ':' && (rest.head?.any fun d => isFlowMark d || d == '?') then none
    else if c == ':' && endsWord rest then some []
    else if flow && isFlowMark c then some []
    else (plainRun? flow rest).map (c :: ·)

/-- Goes on with a plain scalar behind a gap. Gives the text, and whether a line has ended
behind it. -/
def plainFrom? (flow : Bool) (indent : Nat) :
    Nat → List Char → Gap → Cursor → Option (List Char × Bool × Cursor)
  | 0, _, _, _ => none
  | fuel + 1, text, g, c => do
    if c.atDocumentMarker || c.isAt '#' then return (text, g.newLine, c)
    let run ← plainRun? flow c.rest
    let text := if run.isEmpty then text else text ++ g.folded ++ run
    let newLine := run.isEmpty && g.newLine
    let c := c.skip run.length
    if !(c.peek.any fun x => isBlank x || isBreak x) then return (text, newLine, c)
    let (g, c) ← gap? indent (c.rest.length + 1) {} c
    if !flow && c.column < indent then return (text, g.newLine, c)
    plainFrom? flow indent fuel text g c

/-- A plain scalar whose lines stand at column `indent` or further right. -/
def plain? (flow : Bool) (indent : Nat) (c : Cursor) : Option (List Char × Bool × Cursor) :=
  plainFrom? flow indent (c.rest.length + 1) [] {} c

/-! ## Quoted scalars -/

def hexDigit? (c : Char) : Option Nat :=
  let n := c.toNat
  if 48 ≤ n ∧ n ≤ 57 then some (n - 48)
  else if 97 ≤ n ∧ n ≤ 102 then some (n - 87)
  else if 65 ≤ n ∧ n ≤ 70 then some (n - 55)
  else none

/-- The character of a hexadecimal code. -/
def ofCode? (digits : List Char) : Option Char := do
  let ds ← digits.mapM hexDigit?
  let n := ds.foldl (fun n d => 16 * n + d) 0
  if n.isValidChar then some (Char.ofNat n) else none

/-- The characters that stand behind a backslash for themselves or for another one. -/
def escapes : List (Char × Char) := [
  ('0', '\x00'), ('a', '\x07'), ('b', '\x08'), ('t', '\t'), ('\t', '\t'), ('n', '\n'),
  ('v', '\x0b'), ('f', '\x0c'), ('r', '\r'), ('e', '\x1b'), (' ', ' '), ('"', '"'), ('/', '/'),
  ('\\', '\\'), ('N', '\u0085'), ('_', '\u00a0'), ('L', '\u2028'), ('P', '\u2029')]

/-- How many hexadecimal digits follow a letter behind a backslash. -/
def codeLength? (c : Char) : Option Nat :=
  if c == 'x' then some 2 else if c == 'u' then some 4 else if c == 'U' then some 8 else none

/-- An escape without its backslash: the character, and how many characters it takes. -/
def escape? : List Char → Option (Char × Nat)
  | [] => none
  | c :: rest =>
    match codeLength? c with
    | none => (escapes.lookup c).map fun d => (d, 1)
    | some n =>
      if rest.length < n then none else (ofCode? (rest.take n)).map fun d => (d, n + 1)

/-- Takes what stands before the next blank, line break or closing quote: the text, and whether
an escaped line break ends it. -/
def quotedRun? (single : Bool) : Nat → Cursor → Option (List Char × Bool × Cursor)
  | 0, _ => none
  | fuel + 1, c =>
    let add (x : Char) (n : Nat) : Option (List Char × Bool × Cursor) :=
      (quotedRun? single fuel (c.skip n)).map fun (text, rest) => (x :: text, rest)
    match c.rest with
    | [] => some ([], false, c)
    | x :: rest =>
      if isBlank x || isBreak x then some ([], false, c)
      else if single then
        if x == '\'' then
          if rest.head? == some '\'' then add '\'' 2 else some ([], false, c)
        else add x 1
      else if x == '"' then some ([], false, c)
      else if x == '\\' then
        match (c.skip 1).break? with
        | some (_, c) => some ([], true, c)
        | none =>
          match escape? rest with
          | some (d, n) => add d (n + 1)
          | none => none
      else add x 1

/-- The rest of a quoted scalar and its closing quote. -/
def quotedFrom? (single : Bool) : Nat → List Char → Cursor → Option (List Char × Cursor)
  | 0, _, _ => none
  | fuel + 1, text, c => do
    if c.atDocumentMarker || c.rest.isEmpty then none
    else
      let (run, escaped, c) ← quotedRun? single (c.rest.length + 1) c
      let text := text ++ run
      if c.isAt (if single then '\'' else '"') then return (text, c.skip 1)
      let (g, c) ← gap? 0 (c.rest.length + 1) { newLine := escaped } c
      quotedFrom? single fuel (text ++ g.folded) c

/-- A quoted scalar from its opening quote on. -/
def quoted? (single : Bool) (c : Cursor) : Option (List Char × Cursor) :=
  quotedFrom? single (c.rest.length + 1) [] (c.skip 1)

/-! ## Block scalars -/

/-- What becomes of the line breaks at the end of a block scalar. -/
inductive Chomp where
  | strip
  | clip
  | keep
deriving DecidableEq

/-- The marks behind `|` or `>`, in either order: chomping, and an indentation from 1 to 9. -/
def blockHeader? (c : Cursor) : Option (Chomp × Option Nat × Cursor) :=
  let chomp (c : Cursor) : Chomp × Cursor :=
    if c.isAt '+' then (.keep, c.skip 1) else if c.isAt '-' then (.strip, c.skip 1) else (.clip, c)
  let indent? (c : Cursor) : Option (Option Nat × Cursor) :=
    match c.peek with
    | some d =>
      if d == '0' then none
      else if isDigit d then some (some (d.toNat - 48), c.skip 1)
      else some (none, c)
    | none => some (none, c)
  if c.isAt '+' || c.isAt '-' then do
    let (mode, c) := chomp c
    let (indent, c) ← indent? c
    return (mode, indent, c)
  else do
    match ← indent? c with
    | (none, c) => return (.clip, none, c)
    | (indent, c) =>
      let (mode, c) := chomp c
      return (mode, indent, c)

/-- Takes indentation and empty lines: the line breaks, and the largest column that was reached.
`indent` is the indentation, if it is known. A tab in place of indentation is refused. -/
def blockGap? (indent : Option Nat) : Nat → List Char → Nat → Cursor →
    Option (List Char × Nat × Cursor)
  | 0, _, _, _ => none
  | fuel + 1, breaks, widest, c =>
    let width := match indent with
      | none => (c.rest.takeWhile isSpace).length
      | some n => min (c.rest.takeWhile isSpace).length (n - c.column)
    let c := c.skip width
    let widest := max widest c.column
    if (indent.all (c.column < ·)) && c.isAt '\t' then none
    else
      match c.break? with
      | some (x, c) => blockGap? indent fuel (breaks ++ [x]) widest c
      | none => some (breaks, widest, c)

/-- The lines of a block scalar. `text` has been read, `pending` is the line break behind it and
`breaks` are the empty lines after that. -/
def blockLines? (literal : Bool) (indent : Nat) : Nat → List Char → Option Char → List Char →
    Bool → Cursor → Option (List Char × Option Char × List Char × Cursor)
  | 0, _, _, _, _, _ => none
  | fuel + 1, text, pending, breaks, wasBlank, c =>
    if c.column == indent && !c.rest.isEmpty then
      let blank := c.peek.any isBlank
      let joined :=
        if !literal && pending == some '\n' && !wasBlank && !blank then
          if breaks.isEmpty then [' '] else breaks
        else pending.toList ++ breaks
      let (line, c) := c.span fun x => !isBreak x
      let (next, c) := match c.break? with
        | some (x, c) => (some x, c)
        | none => (none, c)
      match blockGap? (some indent) (c.rest.length + 1) [] 0 c with
      | none => none
      | some (breaks, _, c) =>
        blockLines? literal indent fuel (text ++ joined ++ line) next breaks blank c
    else some (text, pending, breaks, c)

/-- A block scalar from its mark on, in a node that is indented by `parent`. -/
def block? (literal : Bool) (parent : Int) (c : Cursor) : Option (List Char × Cursor) := do
  let (chomp, given, c) ← blockHeader? (c.skip 1)
  let c ← c.finishLine?
  let known : Option Nat := given.map fun n => (if 0 ≤ parent then parent.toNat + n else n)
  let (breaks, widest, c) ← blockGap? known (c.rest.length + 1) [] 0 c
  let indent := known.getD (max (max widest (parent + 1).toNat) 1)
  let (text, last, breaks, c) ←
    blockLines? literal indent (c.rest.length + 1) [] none breaks false c
  return (text ++ (if chomp = .strip then [] else last.toList) ++
    (if chomp = .keep then breaks else []), c)

end GoldenCapture.Yaml
