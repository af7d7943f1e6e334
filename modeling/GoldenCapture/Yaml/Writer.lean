import GoldenCapture.Json
import GoldenCapture.Yaml.Resolve

/-!
# Writing YAML

Writes a tree in block style. A string is written plainly if it reads back as itself; otherwise
it is quoted, and a string of several lines is written as a block of its lines.
-/

namespace GoldenCapture.Yaml

/-! ## What a string needs -/

/-- Whether the character may stand in a document without an escape. Tabs may not. -/
def isPrintable (c : Char) : Bool :=
  let n := c.toNat
  n == 0x0A || (0x20 ≤ n && n ≤ 0x7E) ||
    (0xA0 ≤ n && n != 0xFEFF && n != 0xFFFE && n != 0xFFFF)

/-- Whether a character ends a word, as the end of a text does. -/
def isGap (c : Char) : Bool := isBlank c || isBreak c || c == '\x00'

/-- Whether some two neighbours of a text pass. -/
def anyNeighbours (pass : Char → Char → Bool) : List Char → Bool
  | a :: b :: rest => pass a b || anyNeighbours pass (b :: rest)
  | _ => false

/-- Whether a text has a mark in it that would end or change a plain scalar. -/
def hasInnerMark : Char → List Char → Bool
  | _, [] => false
  | before, c :: rest =>
    (c == ':' && rest.head?.all isGap) || (c == '#' && isGap before) || hasInnerMark c rest

/-- Whether a text starts with a mark that no plain scalar starts with. -/
def hasLeadingMark : List Char → Bool
  | [] => false
  | c :: rest =>
    "#,[]\x7b\x7d&*!|>'\"%@`".toList.contains c ||
      ("?:-".toList.contains c && rest.head?.all isGap) ||
      (c :: rest).take 3 == ['-', '-', '-'] || (c :: rest).take 3 == ['.', '.', '.']

def hasMark : List Char → Bool
  | [] => false
  | c :: rest => hasLeadingMark (c :: rest) || hasInnerMark c rest

def startsOrEnds (pass : Char → Bool) (cs : List Char) : Bool :=
  cs.head?.any pass || cs.getLast?.any pass

/-- Whether only double quotes keep a text as it is: it has a character that is not printable, or
a space before a line break. -/
def needsEscapes (cs : List Char) : Bool :=
  !cs.all isPrintable || anyNeighbours (fun a b => isSpace a && isBreak b) cs

def plainAllowed (cs : List Char) : Bool :=
  !startsOrEnds isSpace cs && !cs.any isBreak && !needsEscapes cs && !hasMark cs

def singleQuotesAllowed (cs : List Char) : Bool :=
  !anyNeighbours (fun a b => isBreak a && isSpace b) cs && !needsEscapes cs

def blockAllowed (cs : List Char) : Bool :=
  !cs.isEmpty && !cs.getLast?.any isSpace && !needsEscapes cs

/-- Whether a plain scalar of this text would mean something else than the text. -/
def readsOtherwise (s : String) : Bool :=
  isZeroPadded s ||
    match Plain.ofText s with
    | .string _ => false
    | _ => true

inductive StringStyle where
  | plain
  | singleQuotes
  | doubleQuotes
  | block
deriving DecidableEq

/-- How a string is written. No block stands in front of a colon. -/
def StringStyle.ofText (beforeColon : Bool) (s : String) : StringStyle :=
  let cs := s.toList
  if beforeColon && cs.any isBreak then .doubleQuotes
  else if cs.contains '\n' then
    if blockAllowed cs && !beforeColon then .block else .doubleQuotes
  else if plainAllowed cs && !readsOtherwise s then .plain
  else if singleQuotesAllowed cs then .singleQuotes
  else .doubleQuotes

/-- Whether a key fits on the line of its value. -/
def isShortKey (s : String) : Bool := !s.toList.any isBreak && s.utf8ByteSize ≤ 128

/-! ## The page -/

/-- What has been written so far. -/
structure Page where
  text : String := ""
  column : Nat := 0
  /-- Whether no space is needed before the next mark. -/
  spaced : Bool := true
  /-- Whether the line holds nothing but indentation and marks of structure. -/
  fresh : Bool := true

namespace Page

def put (p : Page) (c : Char) : Page :=
  { p with text := p.text.push c, column := p.column + 1 }

def lineFeed (p : Page) : Page := { p with text := p.text.push '\n', column := 0 }

/-- Writes a line break of the text. -/
def putBreak (p : Page) (c : Char) : Page :=
  if c == '\n' then p.lineFeed else { p with text := p.text.push c, column := 0 }

/-- Goes to a column of a fresh line. -/
def indent (p : Page) (column : Nat) : Page :=
  let p :=
    if !p.fresh || column < p.column || (p.column == column && !p.spaced) then p.lineFeed else p
  let missing := column - p.column
  { p with
    text := p.text ++ String.ofList (List.replicate missing ' ')
    column := p.column + missing
    spaced := true
    fresh := true }

/-- Writes a mark after a space. -/
def spacedMark (p : Page) (mark : String) : Page :=
  let p := if p.spaced then p else p.put ' '
  { mark.toList.foldl put p with spaced := false, fresh := false }

/-- Writes a mark. -/
def mark (p : Page) (m : String) : Page :=
  { m.toList.foldl put p with spaced := false, fresh := false }

/-- Writes a mark of structure after a space. The line stays fresh. -/
def structureMark (p : Page) (m : String) : Page :=
  { p.spacedMark m with fresh := p.fresh }

/-! ## Strings -/

def plain (p : Page) (s : String) : Page := if s == "" then p.mark s else p.spacedMark s

/-- Quotes are written twice; a line that follows a break is indented. -/
def singleQuoted (p : Page) (column : Nat) (cs : List Char) : Page :=
  let step (state : Page × Bool) (c : Char) : Page × Bool :=
    let (p, broken) := state
    if isSpace c then (p.put c, broken)
    else if isBreak c then
      let p := if !broken && c == '\n' then p.lineFeed else p
      ({ p.putBreak c with fresh := true }, true)
    else
      let p := if broken then p.indent column else p
      let p := if c == '\'' then p.put '\'' else p
      ({ p.put c with fresh := false }, false)
  let (p, broken) := cs.foldl step (p.spacedMark "'", false)
  (if broken then p.indent column else p).mark "'"

def hexDigit (n : Nat) : Char := Char.ofNat (if n < 10 then 48 + n else 55 + n)

/-- The last `width` hexadecimal digits of a number. -/
def hex : Nat → Nat → List Char
  | 0, _ => []
  | width + 1, n => hex width (n / 16) ++ [hexDigit (n % 16)]

/-- The letters that stand behind a backslash for characters. -/
def letters : List (Char × Char) := [
  ('\x00', '0'), ('\x07', 'a'), ('\x08', 'b'), ('\t', 't'), ('\n', 'n'), ('\x0b', 'v'),
  ('\x0c', 'f'), ('\r', 'r'), ('\x1b', 'e'), ('"', '"'), ('\\', '\\'), ('\u0085', 'N'),
  ('\u00a0', '_'), ('\u2028', 'L'), ('\u2029', 'P')]

/-- A character between double quotes. -/
def escaped (c : Char) : List Char :=
  if isPrintable c && !isBreak c && c != '"' && c != '\\' then [c]
  else
    match letters.lookup c with
    | some letter => ['\\', letter]
    | none =>
      let n := c.toNat
      if n ≤ 0xFF then '\\' :: 'x' :: hex 2 n
      else if n ≤ 0xFFFF then '\\' :: 'u' :: hex 4 n
      else '\\' :: 'U' :: hex 8 n

def doubleQuoted (p : Page) (cs : List Char) : Page :=
  ((cs.flatMap escaped).foldl put (p.spacedMark "\"")).mark "\""

/-- What stands behind the bar of a block: its indentation if the text starts with a blank line or
a space, and what becomes of the line breaks at its end. -/
def blockHints (cs : List Char) : String :=
  let indentation := if cs.head?.any fun c => isSpace c || isBreak c then "2" else ""
  let chomping := match cs.reverse with
    | [] => "-"
    | [c] => if isBreak c then "+" else "-"
    | c :: d :: _ => if !isBreak c then "-" else if isBreak d then "+" else ""
  indentation ++ chomping

/-- The lines of a text, each at `column`. -/
def block (p : Page) (column : Nat) (cs : List Char) : Page :=
  let step (state : Page × Bool) (c : Char) : Page × Bool :=
    let (p, broken) := state
    if isBreak c then ({ p.putBreak c with fresh := true }, true)
    else
      let p := if broken then p.indent column else p
      ({ p.put c with fresh := false }, false)
  let p := (p.spacedMark "|").mark (blockHints cs)
  (cs.foldl step ({ p.lineFeed with fresh := true, spaced := true }, true)).1

/-- Writes a string, with the lines of a block at `column`. -/
def string (p : Page) (beforeColon : Bool) (column : Nat) (s : String) : Page :=
  match StringStyle.ofText beforeColon s with
  | .plain => p.plain s
  | .singleQuotes => p.singleQuoted column s.toList
  | .doubleQuotes => p.doubleQuoted s.toList
  | .block => p.block column s.toList

end Page

/-! ## Trees -/

/-- Doubles have a point or an exponent without a plus sign. -/
def numberLayout : NumberLayout where
  positional := some (-5, 16)
  exponentSign := ""
  integralTail := ".0"
  nan := ".nan"
  infinity := ".inf"
  negativeInfinity := "-.inf"

/-- The column of what stands inside a node at `column`; the root stands outside of any. -/
def inner : Option Nat → Nat
  | none => 0
  | some column => column + 2

/-- The column of the lines of a scalar inside a node at `column`. -/
def innerText (column : Option Nat) : Nat := column.getD 0 + 2

mutual

/-- Writes a tree within a node at `column`. `inMapping` tells whether the node is a mapping, whose
sequences are not indented on lines of their own. -/
def write (column : Option Nat) (inMapping : Bool) : Json → Page → Page
  | .null, p | .unreadable, p => p.plain "null"
  | .bool b, p => p.plain (if b then "true" else "false")
  | .integer n, p => p.plain (toString n)
  | .real x, p => p.plain (numberLayout.text x)
  | .string s, p => p.string false (innerText column) s
  | .array [], p => (p.spacedMark "[").mark "]"
  | .array (item :: items), p =>
    let here := if inMapping && !p.fresh then column.getD 0 else inner column
    writeItems here (item :: items) p
  | .object [], p => (p.spacedMark "\x7b").mark "\x7d"
  | .object (member :: members), p => writeMembers (inner column) (member :: members) p

def writeItems (column : Nat) : List Json → Page → Page
  | [], p => p
  | item :: items, p =>
    writeItems column items (write (some column) false item ((p.indent column).structureMark "-"))

def writeMembers (column : Nat) : List (String × Json) → Page → Page
  | [], p => p
  | (key, value) :: members, p =>
    let p := p.indent column
    let p :=
      if isShortKey key then (p.string true (column + 2) key).mark ":"
      else
        (((p.structureMark "?").string false (column + 2) key).indent column).structureMark ":"
    writeMembers column members (write (some column) true value p)

end

/-- The document that holds a tree. -/
def render (tree : Json) : String := ((write none false tree {}).indent 0).text

end GoldenCapture.Yaml
