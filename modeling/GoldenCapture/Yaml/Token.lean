import GoldenCapture.Yaml.Tag

/-!
# Tokens

Cuts a document into tokens. Indentation opens and closes block collections; a colon may turn out
to follow a key that has already been read, whose mark is then put in front of it.
-/

namespace GoldenCapture.Yaml

/-- How a scalar is written, as far as it matters for what it means. -/
inductive ScalarStyle where
  | plain
  | literal
  | other
deriving DecidableEq

inductive Token where
  | directive (d : Directive)
  | documentStart
  | documentEnd
  | blockSequenceStart
  | blockMappingStart
  | blockEnd
  | flowSequenceStart
  | flowSequenceEnd
  | flowMappingStart
  | flowMappingEnd
  | blockEntry
  | flowEntry
  | key
  | value
  | alias (name : String)
  | anchor (name : String)
  | tag (handle suffix : String)
  | scalar (text : String) (style : ScalarStyle)
deriving DecidableEq

/-- Where a key without a question mark may have started. -/
structure PendingKey where
  /-- Whether the line is an error unless it is a key. -/
  required : Bool
  /-- The number of the tokens before it. -/
  number : Nat
  index : Nat
  line : Nat
  column : Nat

structure Scanner where
  cursor : Cursor
  tokens : Array Token := #[]
  /-- The column of the innermost block collection, `-1` outside of any. -/
  indent : Int := -1
  /-- The columns of the block collections around it. -/
  indents : List Int := []
  /-- The pending key of each flow collection, the innermost first, and the one of the block
  context at the end. -/
  keys : List (Option PendingKey) := [none]
  /-- Whether a key may start here. -/
  keyAllowed : Bool := true

namespace Scanner

def inFlow (s : Scanner) : Bool := 1 < s.keys.length

def push (s : Scanner) (t : Token) : Scanner := { s with tokens := s.tokens.push t }

/-- Goes on by `n` characters. -/
def skip (s : Scanner) (n : Nat) : Scanner := { s with cursor := s.cursor.skip n }

def allowKey (s : Scanner) (allowed : Bool) : Scanner := { s with keyAllowed := allowed }

/-! ## Indentation -/

/-- Opens a block collection at a column further right, with its token at place `number`. -/
def indentTo (s : Scanner) (column number : Nat) (t : Token) : Scanner :=
  if s.inFlow || (column : Int) ≤ s.indent then s
  else
    { s with
      tokens := s.tokens.insertIdxIfInBounds number t
      indent := column
      indents := s.indent :: s.indents }

/-- Closes the block collections that are further right than a column. -/
def dedentFrom (column : Int) : Int → List Int → Array Token → Int × List Int × Array Token
  | indent, [], tokens => (indent, [], tokens)
  | indent, outer :: indents, tokens =>
    if column < indent then dedentFrom column outer indents (tokens.push .blockEnd)
    else (indent, outer :: indents, tokens)

def dedentTo (s : Scanner) (column : Int) : Scanner :=
  if s.inFlow then s
  else
    let (indent, indents, tokens) := dedentFrom column s.indent s.indents s.tokens
    { s with indent := indent, indents := indents, tokens := tokens }

/-! ## Keys without a question mark -/

/-- Gives up the pending key of this context. Nothing if it was required. -/
def dropKey? (s : Scanner) : Option Scanner :=
  match s.keys with
  | some key :: keys => if key.required then none else some { s with keys := none :: keys }
  | _ => some s

/-- Notes that a key may start here. -/
def saveKey? (s : Scanner) : Option Scanner :=
  if !s.keyAllowed then some s
  else do
    let s ← s.dropKey?
    let c := s.cursor
    let key : PendingKey :=
      ⟨!s.inFlow && s.indent == (c.column : Int), s.tokens.size, c.index, c.line, c.column⟩
    return { s with keys := some key :: s.keys.tail }

/-- Gives up the keys that stand on an earlier line or too far back. -/
def dropStaleKeys? (s : Scanner) : Option Scanner := do
  let keys ← s.keys.mapM fun
    | none => some none
    | some key =>
      if key.line < s.cursor.line || key.index + 1024 < s.cursor.index then
        if key.required then none else some none
      else some (some key)
  return { s with keys := keys }

/-! ## Single tokens -/

/-- The text of a name behind `&` or `*`. -/
def name? (c : Cursor) : Option (String × Cursor) :=
  let (name, c) := (c.skip 1).span isWord
  if name.isEmpty then none
  else if endsWord c.rest || c.peek.any ("?:,]\x7d%@`".toList.contains ·) then
    some (String.ofList name, c)
  else none

def directive? (s : Scanner) : Option Scanner := do
  let s ← (s.dedentTo (-1)).dropKey?
  let (d, c) ← Yaml.directive? s.cursor
  return { s.push (.directive d) with cursor := c, keyAllowed := false }

def documentMarker? (s : Scanner) (t : Token) : Option Scanner := do
  let s ← (s.dedentTo (-1)).dropKey?
  return ((s.push t).skip 3).allowKey false

def flowStart? (s : Scanner) (t : Token) : Option Scanner := do
  let s ← s.saveKey?
  return (({ s with keys := none :: s.keys }.push t).skip 1).allowKey true

def flowEnd? (s : Scanner) (t : Token) : Option Scanner := do
  let s ← s.dropKey?
  let s := if s.inFlow then { s with keys := s.keys.tail } else s
  return ((s.push t).skip 1).allowKey false

def flowEntry? (s : Scanner) : Option Scanner := do
  let s ← s.dropKey?
  return ((s.push .flowEntry).skip 1).allowKey true

def blockEntry? (s : Scanner) : Option Scanner := do
  guard (s.inFlow || s.keyAllowed)
  let s ← (s.indentTo s.cursor.column s.tokens.size .blockSequenceStart).dropKey?
  return ((s.push .blockEntry).skip 1).allowKey true

def explicitKey? (s : Scanner) : Option Scanner := do
  guard (s.inFlow || s.keyAllowed)
  let s ← (s.indentTo s.cursor.column s.tokens.size .blockMappingStart).dropKey?
  return ((s.push .key).skip 1).allowKey !s.inFlow

/-- A colon: behind a pending key, which now is one, or behind a key with a question mark. -/
def value? (s : Scanner) : Option Scanner :=
  match s.keys with
  | some key :: keys =>
    let s := { s with tokens := s.tokens.insertIdxIfInBounds key.number .key }
    let s := s.indentTo key.column key.number .blockMappingStart
    some ((({ s with keys := none :: keys }.push .value).skip 1).allowKey false)
  | _ =>
    if !s.inFlow && !s.keyAllowed then none
    else
      let s := s.indentTo s.cursor.column s.tokens.size .blockMappingStart
      some (((s.push .value).skip 1).allowKey !s.inFlow)

/-- A token that may start a key and forbids another one behind it. -/
def node? (s : Scanner) (read : Cursor → Option (Token × Cursor)) : Option Scanner := do
  let s ← s.saveKey?
  let (t, c) ← read s.cursor
  return { s.push t with cursor := c, keyAllowed := false }

def blockScalar? (s : Scanner) (literal : Bool) : Option Scanner := do
  let s ← s.dropKey?
  let (text, c) ← block? literal s.indent s.cursor
  let style : ScalarStyle := if literal then .literal else .other
  return { s.push (.scalar (String.ofList text) style) with cursor := c, keyAllowed := true }

def plainScalar? (s : Scanner) : Option Scanner := do
  let s ← s.saveKey?
  let (text, newLine, c) ← plain? s.inFlow (s.indent + 1).toNat s.cursor
  return { s.push (.scalar (String.ofList text) .plain) with cursor := c, keyAllowed := newLine }

/-! ## All tokens -/

/-- Skips blanks, comments and line breaks. Tabs do not count as blanks where a key may start in
the block context. -/
def skipGap : Nat → Scanner → Scanner
  | 0, s => s
  | fuel + 1, s =>
    let c := s.cursor
    let c := if c.index == 0 && c.isAt '\ufeff' then c.skip 1 else c
    let tabs := s.inFlow || !s.keyAllowed
    let c := (c.skipWhile fun x => x == ' ' || (tabs && x == '\t')).skipComment
    match c.break? with
    | some (_, c) => skipGap fuel { s with cursor := c, keyAllowed := s.keyAllowed || !s.inFlow }
    | none => { s with cursor := c }

/-- The characters that start no plain scalar. -/
def indicators : List Char := "-?:,[]\x7b\x7d#&*!|>'\"%@`".toList

/-- Whether a plain scalar starts here. -/
def startsPlain (s : Scanner) (x : Char) (rest : List Char) : Bool :=
  !(isBlank x || isBreak x || indicators.contains x) ||
    (x == '-' && !rest.head?.any isBlank) ||
    (!s.inFlow && (x == '?' || x == ':') && !endsWord rest)

/-- Reads the token that starts with `x`. -/
def token? (s : Scanner) (x : Char) (rest : List Char) : Option Scanner :=
  let spaced := s.inFlow || endsWord rest
  if s.cursor.column == 0 && x == '%' then s.directive?
  else if s.cursor.atMarker '-' then s.documentMarker? .documentStart
  else if s.cursor.atMarker '.' then s.documentMarker? .documentEnd
  else if x == '[' then s.flowStart? .flowSequenceStart
  else if x == '\x7b' then s.flowStart? .flowMappingStart
  else if x == ']' then s.flowEnd? .flowSequenceEnd
  else if x == '\x7d' then s.flowEnd? .flowMappingEnd
  else if x == ',' then s.flowEntry?
  else if x == '-' && endsWord rest then s.blockEntry?
  else if x == '?' && spaced then s.explicitKey?
  else if x == ':' && spaced then s.value?
  else if x == '*' then s.node? fun c => (name? c).map fun (n, c) => (.alias n, c)
  else if x == '&' then s.node? fun c => (name? c).map fun (n, c) => (.anchor n, c)
  else if x == '!' then s.node? fun c => do
    let (handle, suffix, c) ← tag? c
    guard (endsWord c.rest || (s.inFlow && c.isAt ','))
    return (.tag handle suffix, c)
  else if x == '|' && !s.inFlow then s.blockScalar? true
  else if x == '>' && !s.inFlow then s.blockScalar? false
  else if x == '\'' || x == '"' then s.node? fun c =>
    (quoted? (x == '\'') c).map fun (text, c) => (.scalar (String.ofList text) .other, c)
  else if s.startsPlain x rest then s.plainScalar?
  else none

/-- Closes what is still open at the end of the input. -/
def finish? (s : Scanner) : Option (Array Token) := do
  let s ← (s.dedentTo (-1)).dropKey?
  return s.tokens

def run? : Nat → Scanner → Option (Array Token)
  | 0, _ => none
  | fuel + 1, s => do
    let s ← (skipGap (s.cursor.rest.length + 1) s).dropStaleKeys?
    let s := s.dedentTo s.cursor.column
    match s.cursor.rest with
    | [] => s.finish?
    | x :: rest => run? fuel (← s.token? x rest)

end Scanner

/-- The tokens of a document. -/
def tokens? (text : String) : Option (List Token) :=
  let input := text.toList
  if input.all isAllowed then (Scanner.run? (input.length + 1) { cursor := ⟨input, 0, 0, 0⟩ }).map
    Array.toList
  else none

end GoldenCapture.Yaml
