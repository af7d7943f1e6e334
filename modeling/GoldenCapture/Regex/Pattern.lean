import GoldenCapture.Regex.Folding
import GoldenCapture.Regex.Program
import GoldenCapture.Regex.Property

/-!
# Reading patterns

The written form of regular expressions. Patterns have no back references and no tests of what
lies ahead or behind; a pattern that uses one, or is not well formed, has no expression.
-/

namespace GoldenCapture.Regex.Pattern

/-! ## Flags -/

structure Flags where
  ignoreCase : Bool := false
  multiLine : Bool := false
  dotAll : Bool := false
  swapGreed : Bool := false
  unicode : Bool := true
  crlf : Bool := false
  verbose : Bool := false

/-- Changes the flag that a letter names. -/
def Flags.set? (flags : Flags) (value : Bool) (letter : Char) : Option Flags :=
  if letter = 'i' then some { flags with ignoreCase := value }
  else if letter = 'm' then some { flags with multiLine := value }
  else if letter = 's' then some { flags with dotAll := value }
  else if letter = 'U' then some { flags with swapGreed := value }
  else if letter = 'u' then some { flags with unicode := value }
  else if letter = 'R' then some { flags with crlf := value }
  else if letter = 'x' then some { flags with verbose := value }
  else none

/-- Reads flags up to a colon or a closing parenthesis: no letter twice, at most one minus sign
and something after it. The flags, whether any was named, the mark that ended them, the rest. -/
def flags? (flags : Flags) (value : Bool) (seen : List Char) :
    List Char → Option ((Flags × Bool × Char) × List Char)
  | [] => none
  | c :: rest =>
    if c = ':' ∨ c = ')' then
      if seen.head? = some '-' then none else some ((flags, !seen.isEmpty, c), rest)
    else if seen.contains c then none
    else if c = '-' then flags? flags false ('-' :: seen) rest
    else
      match flags.set? value c with
      | some flags => flags? flags value (c :: seen) rest
      | none => none

/-! ## Blanks and numbers -/

def isBlank (c : Char) : Bool := Script.whiteSpace.contains c

/-- In verbose patterns, drops blanks and comments. -/
def skipFrom (inComment : Bool) : List Char → List Char
  | [] => []
  | c :: rest =>
    if inComment then skipFrom (c != '\n') rest
    else if c = '#' then skipFrom true rest
    else if isBlank c then skipFrom false rest
    else c :: rest

def skip (flags : Flags) (input : List Char) : List Char :=
  if flags.verbose then skipFrom false input else input

def decimal? (input : List Char) : Option (Nat × List Char) :=
  let input := input.dropWhile isBlank
  let digits := input.takeWhile Char.isDigit
  let n := digits.foldl (fun n c => n * 10 + (c.toNat - 48)) 0
  if digits.isEmpty || UInt32.size ≤ n then none
  else some (n, (input.drop digits.length).dropWhile isBlank)

/-- The upper bound after a lower one and a comma, up to the closing brace. -/
def upperBound? (least : Nat) (input : List Char) : Option ((Nat × Option Nat) × List Char) := do
  let (most, rest) ← decimal? input
  guard (least ≤ most)
  match rest with
  | '\x7d' :: rest => return ((least, some most), rest)
  | _ => none

/-- The bounds after an opening brace. -/
def bounds? (flags : Flags) (input : List Char) : Option ((Nat × Option Nat) × List Char) := do
  let (least, input) ← decimal? (skip flags input)
  match input with
  | '\x7d' :: rest => return ((least, some least), rest)
  | ',' :: rest =>
    match skip flags rest with
    | '\x7d' :: rest => return ((least, none), rest)
    | rest => upperBound? least rest
  | _ => none

/-! ## Escapes -/

/-- What an escape or a plain character stands for. -/
inductive Item where
  | char (c : Char)
  | set (s : CodeSet)
  | look (test : Look)

def hexValue? (digits : List Char) : Option Nat :=
  if digits.isEmpty then none
  else digits.foldlM (fun n c =>
    if c.isDigit then some (n * 16 + (c.toNat - 48))
    else if 'a' ≤ c ∧ c ≤ 'f' then some (n * 16 + (c.toNat - 87))
    else if 'A' ≤ c ∧ c ≤ 'F' then some (n * 16 + (c.toNat - 55))
    else none) 0

def char? (n : Nat) : Option Char := if n.isValidChar then some (Char.ofNat n) else none

/-- The text up to a mark, and what follows the mark. -/
def upTo? (mark : Char) (input : List Char) : Option (List Char × List Char) :=
  match input.dropWhile (· != mark) with
  | _ :: rest => some (input.takeWhile (· != mark), rest)
  | [] => none

/-- A code point in exactly `width` hexadecimal digits. -/
def hexDigits? (flags : Flags) (width : Nat) (input : List Char) : Option (Item × List Char) := do
  guard (width ≤ input.length)
  let n ← hexValue? (input.take width)
  guard (flags.unicode || width != 2 || n < 128)
  return (.char (← char? n), input.drop width)

/-- A code point in hexadecimal: in braces, or in exactly `width` digits. -/
def hexEscape? (flags : Flags) (width : Nat) (input : List Char) : Option (Item × List Char) :=
  match skip flags input with
  | '\x7b' :: rest => do
    let (digits, rest) ← upTo? '\x7d' rest
    let c ← char? (← hexValue? (digits.filter fun c => !(flags.verbose && isBlank c)))
    return (.char c, rest)
  | input => hexDigits? flags width input

/-- A class of characters, perhaps negated. Without the Unicode flag a class is of ASCII
characters and cannot be negated. -/
def classItem? (flags : Flags) (negated : Bool) (unicode ascii : CodeSet) : Option Item :=
  if flags.unicode then some (.set (if negated then unicode.compl else unicode))
  else if negated then none
  else some (.set ascii)

def asciiDigits : CodeSet := CodeSet.ofRanges [(48, 57)]
def asciiBlanks : CodeSet := CodeSet.ofRanges [(9, 13), (32, 32)]

/-- The set with all case variants if case is ignored, without the Unicode flag those in ASCII. -/
def folded (flags : Flags) (s : CodeSet) : CodeSet :=
  if !flags.ignoreCase then s
  else if flags.unicode then Folding.close s
  else Folding.closeAscii s

/-- The name of a property: one letter, or any text in braces. -/
def propertyName? (flags : Flags) (input : List Char) : Option (List Char × List Char) :=
  match skip flags input with
  | '\x7b' :: rest => upTo? '\x7d' rest
  | c :: rest => if c = '\\' then none else some ([c], rest)
  | [] => none

/-- A property escape after its letter. -/
def propertyEscape? (flags : Flags) (negated : Bool) (input : List Char) :
    Option (Item × List Char) := do
  guard flags.unicode
  let (text, rest) ← propertyName? flags input
  let set := folded flags (← Property.ofText? text)
  return (.set (if negated then set.compl else set), rest)

def wordSet (flags : Flags) : CodeSet := if flags.unicode then wordChars else asciiWordChars

def isBoundaryChar (c : Char) : Bool := c.isAlpha || c = '-'

def boundaryOf? (word : CodeSet) (name : String) : Option Look :=
  if name = "start" then some (.wordStart word)
  else if name = "end" then some (.wordEnd word)
  else if name = "start-half" then some (.wordStartHalf word)
  else if name = "end-half" then some (.wordEndHalf word)
  else none

/-- What `\b` stands for: a boundary, or one named in braces. -/
def boundary? (flags : Flags) (input : List Char) : Option (Item × List Char) :=
  let word := wordSet flags
  let plain := some (Item.look (.wordBoundary word false), input)
  match input with
  | '\x7b' :: rest =>
    let text := skip flags rest
    if text.head?.any isBoundaryChar then
      match text.dropWhile isBoundaryChar with
      | '\x7d' :: after =>
        (boundaryOf? word (String.ofList (text.takeWhile isBoundaryChar))).map (.look ·, after)
      | _ => none
    else plain
  | _ => plain

/-- Whether a backslash may stand before a character that means nothing special. -/
def isEscapable (c : Char) : Bool := c.toNat < 128 && !c.isAlphanum && c != '<' && c != '>'

/-- What follows a backslash. -/
def escape? (flags : Flags) : List Char → Option (Item × List Char)
  | [] => none
  | c :: rest =>
    let item (i : Item) : Option (Item × List Char) := some (i, rest)
    let perl (negated : Bool) (unicode ascii : CodeSet) : Option (Item × List Char) :=
      (classItem? flags negated unicode ascii).map (·, rest)
    if isEscapable c then item (.char c)
    else if c = 'x' then hexEscape? flags 2 rest
    else if c = 'u' then hexEscape? flags 4 rest
    else if c = 'U' then hexEscape? flags 8 rest
    else if c = 'p' then propertyEscape? flags false rest
    else if c = 'P' then propertyEscape? flags true rest
    else if c = 'd' ∨ c = 'D' then perl (c = 'D') Category.decimalNumber asciiDigits
    else if c = 's' ∨ c = 'S' then perl (c = 'S') Script.whiteSpace asciiBlanks
    else if c = 'w' ∨ c = 'W' then perl (c = 'W') wordChars asciiWordChars
    else if c = 'a' then item (.char (Char.ofNat 7))
    else if c = 'f' then item (.char (Char.ofNat 12))
    else if c = 't' then item (.char '\t')
    else if c = 'n' then item (.char '\n')
    else if c = 'r' then item (.char '\r')
    else if c = 'v' then item (.char (Char.ofNat 11))
    else if c = 'A' then item (.look .textStart)
    else if c = 'z' then item (.look .textEnd)
    else if c = 'b' then boundary? flags rest
    else if c = 'B' then item (.look (.wordBoundary (wordSet flags) true))
    else if c = '<' then item (.look (.wordStart (wordSet flags)))
    else if c = '>' then item (.look (.wordEnd (wordSet flags)))
    else none

/-! ## Bracketed classes -/

/-- The classes named between `[:` and `:]`. -/
def asciiClasses : List (String × CodeSet) := [
  ("alnum", CodeSet.ofRanges [(48, 57), (65, 90), (97, 122)]),
  ("alpha", CodeSet.ofRanges [(65, 90), (97, 122)]),
  ("ascii", CodeSet.ofRanges [(0, 127)]),
  ("blank", CodeSet.ofRanges [(9, 9), (32, 32)]),
  ("cntrl", CodeSet.ofRanges [(0, 31), (127, 127)]),
  ("digit", asciiDigits),
  ("graph", CodeSet.ofRanges [(33, 126)]),
  ("lower", CodeSet.ofRanges [(97, 122)]),
  ("print", CodeSet.ofRanges [(32, 126)]),
  ("punct", CodeSet.ofRanges [(33, 47), (58, 64), (91, 96), (123, 126)]),
  ("space", asciiBlanks),
  ("upper", CodeSet.ofRanges [(65, 90)]),
  ("word", asciiWordChars),
  ("xdigit", CodeSet.ofRanges [(48, 57), (65, 70), (97, 102)])]

/-- The set without the Unicode flag: it must be of ASCII characters. -/
def checked? (flags : Flags) (s : CodeSet) : Option CodeSet :=
  if flags.unicode || s.isAscii then some s else none

/-- The class of a name, up to a colon and a closing bracket. -/
def className? (flags : Flags) (negated : Bool) (input : List Char) :
    Option (CodeSet × List Char) := do
  let (name, rest) ← upTo? ':' input
  match rest with
  | ']' :: rest =>
    let set := folded flags (← asciiClasses.lookup (String.ofList name))
    return (← checked? flags (if negated then set.compl else set), rest)
  | _ => none

/-- A named class after an opening bracket, and what follows its closing bracket. -/
def namedClass? (flags : Flags) (input : List Char) : Option (CodeSet × List Char) :=
  match input with
  | ':' :: rest =>
    match rest with
    | '^' :: rest => className? flags true rest
    | _ => className? flags false rest
  | _ => none

/-- The characters that a single one stands for. -/
def charSet (flags : Flags) (c : Char) : CodeSet := folded flags (CodeSet.single c)

/-- One item of a class. -/
def classChar? (flags : Flags) : List Char → Option (Item × List Char)
  | '\\' :: rest =>
    match escape? flags rest with
    | some (.look _, _) => none
    | found => found
  | c :: rest => some (.char c, rest)
  | [] => none

def itemSet? (flags : Flags) : Item → Option CodeSet
  | .char c => checked? flags (charSet flags c)
  | .set s => some s
  | .look _ => none

/-- A range of characters after its dash. -/
def rangeFrom? (flags : Flags) (first : Item) (input : List Char) : Option (CodeSet × List Char) :=
  match first, classChar? flags input with
  | .char a, some (.char b, rest) =>
    if a ≤ b then
      (checked? flags (folded flags (CodeSet.ofRanges [(a.toNat, b.toNat)]))).map (·, rest)
    else none
  | _, _ => none

/-- A member of a class from behind its first item: the item alone, or a range that it starts. -/
def member? (flags : Flags) (first : Item) (input : List Char) : Option (CodeSet × List Char) :=
  match input with
  | [] => none
  | '-' :: after =>
    match skip flags after with
    | ']' :: _ => (itemSet? flags first).map (·, input)
    | '-' :: _ => (itemSet? flags first).map (·, input)
    | after => rangeFrom? flags first after
  | _ => (itemSet? flags first).map (·, input)

/-- A character, a range of characters or an escape that stands for a class. -/
def classRange? (flags : Flags) (input : List Char) : Option (CodeSet × List Char) := do
  let (first, rest) ← classChar? flags input
  member? flags first (skip flags rest)

inductive SetOperator where
  | inter
  | diff
  | symmDiff

/-- An operator between two sets. -/
def operator? : List Char → Option (SetOperator × List Char)
  | '&' :: '&' :: rest => some (.inter, rest)
  | '-' :: '-' :: rest => some (.diff, rest)
  | '~' :: '~' :: rest => some (.symmDiff, rest)
  | _ => none

/-- The set so far, with what stands before the last operator. -/
def combine (left : Option (SetOperator × CodeSet)) (s : CodeSet) : CodeSet :=
  match left with
  | none => s
  | some (.inter, l) => l.inter s
  | some (.diff, l) => l.diff s
  | some (.symmDiff, l) => l.symmDiff s

/-- Dashes at the start of a class are plain characters. -/
def leadingDashes (flags : Flags) : Nat → List Char → Bool × List Char
  | 0, input => (false, input)
  | fuel + 1, input =>
    match skip flags input with
    | '-' :: rest => (true, (leadingDashes flags fuel rest).2)
    | rest => (false, rest)

/-- The set that a class starts with: plain dashes, or a plain bracket. -/
def classStart (flags : Flags) (negated : Bool) (input : List Char) :
    (Bool × CodeSet) × List Char :=
  match leadingDashes flags input.length input with
  | (true, rest) => ((negated, charSet flags '-'), rest)
  | (false, ']' :: rest) => ((negated, charSet flags ']'), rest)
  | (false, rest) => ((negated, CodeSet.empty), rest)

/-- What a class begins with: a sign that it is negated, and the set it starts with. -/
def classHead (flags : Flags) (input : List Char) : (Bool × CodeSet) × List Char :=
  match skip flags input with
  | '^' :: rest => classStart flags true rest
  | rest => classStart flags false rest

mutual

/-- A class after its opening bracket. -/
def class? (flags : Flags) : Nat → List Char → Option (CodeSet × List Char)
  | 0, _ => none
  | fuel + 1, input => do
    let ((negated, start), input) := classHead flags input
    let (s, rest) ← members? flags fuel none start input
    let s ← checked? flags s
    if negated then
      guard flags.unicode
      return (s.compl, rest)
    else return (s, rest)

/-- The members of a class up to its closing bracket. -/
def members? (flags : Flags) :
    Nat → Option (SetOperator × CodeSet) → CodeSet → List Char → Option (CodeSet × List Char)
  | 0, _, _, _ => none
  | fuel + 1, left, s, input =>
    match skip flags input with
    | [] => none
    | ']' :: rest => some (combine left s, rest)
    | '[' :: rest => do
      let (t, rest) ← namedClass? flags rest <|> class? flags fuel rest
      members? flags fuel left (s.union t) rest
    | input =>
      match operator? input with
      | some (op, rest) => members? flags fuel (some (op, combine left s)) CodeSet.empty rest
      | none => do
        let (t, rest) ← classRange? flags input
        members? flags fuel left (s.union t) rest

end

/-! ## Expressions -/

/-- Whether a mark behind a repetition turns its greed around. -/
def lazyMark (flags : Flags) (input : List Char) : Bool × List Char :=
  match skip flags input with
  | '?' :: rest => (true, rest)
  | rest => (false, rest)

def isRepetition (c : Char) : Bool := c = '?' || c = '*' || c = '+' || c = '\x7b'

/-- How often a sign of repetition repeats. -/
def times? (flags : Flags) (sign : Char) (rest : List Char) :
    Option ((Nat × Option Nat) × List Char) :=
  if sign = '?' then some ((0, some 1), rest)
  else if sign = '*' then some ((0, none), rest)
  else if sign = '+' then some ((1, none), rest)
  else bounds? flags rest

/-- What has been read of a group: its finished alternatives and the current one, last part first.
A part that only sets flags cannot be repeated. -/
structure Progress where
  flags : Flags
  names : List String
  alternatives : List Regex
  parts : List (Option Regex)

namespace Progress

def start (flags : Flags) (names : List String) : Progress := ⟨flags, names, [], []⟩

def push (p : Progress) (r : Regex) : Progress := { p with parts := some r :: p.parts }

def sequence (p : Progress) : Regex := catList (p.parts.reverse.filterMap id)

def nextAlternative (p : Progress) : Progress :=
  { p with alternatives := p.sequence :: p.alternatives, parts := [] }

def result (p : Progress) : Regex := altList (p.sequence :: p.alternatives).reverse

/-- Repeats the last part. -/
def repeatLast? (p : Progress) (least : Nat) (most : Option Nat) (rest : List Char) :
    Option (Progress × List Char) :=
  match p.parts with
  | some r :: parts =>
    let (lazy, rest) := lazyMark p.flags rest
    some ({ p with parts := some (.loop least most (lazy == p.flags.swapGreed) r) :: parts }, rest)
  | _ => none

/-- Repeats the last part as a sign says. -/
def repeat? (p : Progress) (sign : Char) (rest : List Char) : Option (Progress × List Char) := do
  let ((least, most), rest) ← times? p.flags sign rest
  p.repeatLast? least most rest

end Progress

/-- The expression of a plain character, class or test. -/
def ofItem? (flags : Flags) : Item → Option Regex
  | .char c => some (.chars (charSet flags c))
  | .set s => (checked? flags s).map .chars
  | .look t => some (.look t)

def dot? (flags : Flags) : Option Regex :=
  if !flags.unicode then none
  else if flags.dotAll then some (.chars CodeSet.all)
  else if flags.crlf then some (.chars (CodeSet.ofChars "\r\n").compl)
  else some (.chars (CodeSet.single '\n').compl)

def isNameStart (c : Char) : Bool := c = '_' || Script.alphabetic.contains c

def isNameChar (c : Char) : Bool :=
  c = '_' || c = '.' || c = '[' || c = ']' || Script.alphabetic.contains c ||
    Category.decimalNumber.contains c || Category.letterNumber.contains c ||
    Category.otherNumber.contains c

/-- The name of a group, up to its closing angle bracket; no name twice. -/
def groupName? (names : List String) (input : List Char) : Option (String × List Char) := do
  let (name, rest) ← upTo? '>' input
  guard (name.head?.any isNameStart && name.all isNameChar)
  guard (!names.contains (String.ofList name))
  return (String.ofList name, rest)

/-- A part that is no group, from its first character on. -/
def atom? (flags : Flags) (c : Char) (rest : List Char) : Option (Regex × List Char) :=
  if c = '[' then (class? flags (2 * rest.length + 2) rest).map fun (s, rest) => (.chars s, rest)
  else if c = '.' then (dot? flags).map (·, rest)
  else if c = '^' then
    some (.look (if flags.multiLine then .lineStart flags.crlf else .textStart), rest)
  else if c = '$' then
    some (.look (if flags.multiLine then .lineEnd flags.crlf else .textEnd), rest)
  else if c = '\\' then do
    let (item, rest) ← escape? flags rest
    return (← ofItem? flags item, rest)
  else (ofItem? flags (.char c)).map (·, rest)

/-- How a group starts. -/
inductive Opening where
  /-- Flags for the rest of the group around it. -/
  | directive (flags : Flags)
  | group (flags : Flags) (names : List String)

def namedGroup? (flags : Flags) (names : List String) (input : List Char) :
    Option (Opening × List Char) := do
  let (name, rest) ← groupName? names input
  return (.group flags (name :: names), rest)

def flagGroup? (flags : Flags) (names : List String) (input : List Char) :
    Option (Opening × List Char) := do
  let ((inner, named, mark), rest) ← flags? flags true [] input
  if mark = ')' then
    guard named
    return (.directive inner, rest)
  else return (.group inner names, rest)

/-- What follows an opening parenthesis and a question mark. -/
def specialGroup? (flags : Flags) (names : List String) (input : List Char) :
    Option (Opening × List Char) :=
  match input with
  | '=' :: _ => none
  | '!' :: _ => none
  | '<' :: '=' :: _ => none
  | '<' :: '!' :: _ => none
  | '<' :: rest => namedGroup? flags names rest
  | 'P' :: '<' :: rest => namedGroup? flags names rest
  | rest => flagGroup? flags names rest

/-- What follows an opening parenthesis. -/
def opening? (flags : Flags) (names : List String) (input : List Char) :
    Option (Opening × List Char) :=
  match skip flags input with
  | '?' :: rest => specialGroup? flags names rest
  | rest => some (.group flags names, rest)

/-- The group around another one that was read up to its closing parenthesis. -/
def Progress.closeGroup? (p : Progress) : Progress × List Char → Option (Progress × List Char)
  | (inner, ')' :: rest) => some ({ p.push inner.result with names := inner.names }, rest)
  | _ => none

/-- Reads the parts of a group up to its closing parenthesis or the end. -/
def parts? : Nat → Progress → List Char → Option (Progress × List Char)
  | 0, _, _ => none
  | fuel + 1, p, input =>
    match skip p.flags input with
    | [] => some (p, [])
    | c :: rest =>
      if c = ')' then some (p, c :: rest)
      else if c = '|' then parts? fuel p.nextAlternative rest
      else if c = '(' then do
        let (opening, rest) ← opening? p.flags p.names rest
        match opening with
        | .directive flags => parts? fuel { p with flags := flags, parts := none :: p.parts } rest
        | .group flags names =>
          let (p, rest) ← p.closeGroup? (← parts? fuel (.start flags names) rest)
          parts? fuel p rest
      else if isRepetition c then do
        let (p, rest) ← p.repeat? c rest
        parts? fuel p rest
      else do
        let (r, rest) ← atom? p.flags c rest
        parts? fuel (p.push r) rest

end Pattern

/-- The expression of a pattern, if it is well formed. -/
def ofPattern? (pattern : String) : Option Regex :=
  let input := pattern.toList
  match Pattern.parts? (input.length + 1) (.start {} []) input with
  | some (p, []) => some p.result
  | _ => none

end GoldenCapture.Regex
