/-!
# Places in a document

What is left to read, with the place of its first character. Lines end at any of the five line
breaks; columns count characters.
-/

namespace GoldenCapture.Yaml

structure Cursor where
  rest : List Char
  index : Nat := 0
  line : Nat := 0
  column : Nat := 0

def isSpace (c : Char) : Bool := c == ' '

def isBlank (c : Char) : Bool := c == ' ' || c == '\t'

def isBreak (c : Char) : Bool :=
  c == '\n' || c == '\r' || c == '\u0085' || c == '\u2028' || c == '\u2029'

/-- A letter, digit, dash or underscore: what names are made of. -/
def isWord (c : Char) : Bool :=
  ('0' ≤ c && c ≤ '9') || ('A' ≤ c && c ≤ 'Z') || ('a' ≤ c && c ≤ 'z') || c == '_' || c == '-'

def isDigit (c : Char) : Bool := '0' ≤ c && c ≤ '9'

/-- Whether a document may hold the character at all. -/
def isAllowed (c : Char) : Bool :=
  let n := c.toNat
  n == 0x09 || n == 0x0A || n == 0x0D || (0x20 ≤ n && n ≤ 0x7E) || n == 0x85 ||
    (0xA0 ≤ n && n ≤ 0xD7FF) || (0xE000 ≤ n && n ≤ 0xFFFD) || 0x10000 ≤ n

/-- Whether a text is over or goes on with a blank or a line break. -/
def endsWord : List Char → Bool
  | [] => true
  | c :: _ => isBlank c || isBreak c

/-- Takes the line break off the start of a text: the character that it counts as, its length, and
the rest. -/
def lineBreak? : List Char → Option (Char × Nat × List Char)
  | '\r' :: '\n' :: rest => some ('\n', 2, rest)
  | c :: rest =>
    if c == '\u2028' || c == '\u2029' then some (c, 1, rest)
    else if isBreak c then some ('\n', 1, rest)
    else none
  | [] => none

namespace Cursor

def peek (c : Cursor) : Option Char := c.rest.head?

/-- Whether the next character is this one. -/
def isAt (c : Cursor) (x : Char) : Bool := c.peek == some x

/-- The characters after the next one. -/
def after (c : Cursor) : List Char := c.rest.tail

/-- Goes on by `n` characters of one line. -/
def skip (c : Cursor) (n : Nat) : Cursor :=
  ⟨c.rest.drop n, c.index + n, c.line, c.column + n⟩

/-- Takes the characters of this line that pass. -/
def span (c : Cursor) (pass : Char → Bool) : List Char × Cursor :=
  let taken := c.rest.takeWhile pass
  (taken, c.skip taken.length)

def skipWhile (c : Cursor) (pass : Char → Bool) : Cursor := (c.span pass).2

/-- Takes a line break. -/
def break? (c : Cursor) : Option (Char × Cursor) :=
  (lineBreak? c.rest).map fun (x, n, rest) => (x, ⟨rest, c.index + n, c.line + 1, 0⟩)

/-- Skips a comment up to the end of the line, if one starts here. -/
def skipComment (c : Cursor) : Cursor :=
  if c.isAt '#' then c.skipWhile fun x => !isBreak x else c

/-- Skips blanks and a comment, and the line break behind them. Nothing if more stands on the
line. -/
def finishLine? (c : Cursor) : Option Cursor :=
  let c := (c.skipWhile isBlank).skipComment
  match c.break? with
  | some (_, c) => some c
  | none => if c.rest.isEmpty then some c else none

/-- Whether a line starts here with the marker of a document's start or end. -/
def atMarker (c : Cursor) (x : Char) : Bool :=
  c.column == 0 && c.rest.take 3 == [x, x, x] && endsWord (c.rest.drop 3)

def atDocumentMarker (c : Cursor) : Bool := c.atMarker '-' || c.atMarker '.'

end Cursor

end GoldenCapture.Yaml
