import GoldenCapture.Dictionary
import GoldenCapture.Regex.Property
import GoldenCapture.Text.Blank

/-!
# Variables from files

A file may set variables, one a line, as in `NAME=value`. A value may be quoted, and `$NAME` stands
for the value of another variable. What is set already stays. The first line that cannot be read
ends the reading; the lines before it count.
-/

namespace GoldenCapture.CommandLine

/-- The value of each variable that is set. -/
abbrev Variables := String → Option String

/-! ## Values -/

/-- Where the reader of a value stands. -/
inductive ValueMode where
  | text
  /-- Between single quotes. -/
  | single
  /-- After a backslash. -/
  | escape
  /-- In a name after a dollar sign. -/
  | bare (name : List Char)
  /-- In a name between braces. -/
  | braced (name : List Char)
  /-- After the end of the value. -/
  | ended
  | comment
deriving DecidableEq, Repr

/-- A value that is being read. What is read is kept from its end. -/
structure ValueReading where
  mode : ValueMode := .text
  /-- Whether this is between double quotes. -/
  quoted : Bool := false
  value : List Char := []

def letters : CodeSet := (Property.named? "alphabetic").getD .empty

def numbers : CodeSet := (Property.category? "n").getD .empty

/-- A character of a name after a dollar sign. -/
def isNamePart (c : Char) : Bool := letters.contains c || numbers.contains c

namespace ValueReading

def put (r : ValueReading) (c : Char) : ValueReading :=
  { r with mode := .text, value := c :: r.value }

/-- Puts the value of a variable in, which may be empty. -/
def substitute (set : Variables) (name : List Char) (r : ValueReading) : ValueReading :=
  let found := (set (String.ofList name)).getD ""
  { r with mode := .text, value := found.toList.reverse ++ r.value }

/-- Reads a character outside names, escapes and single quotes. -/
def readText (r : ValueReading) (c : Char) : ValueReading :=
  if c = '$' then { r with mode := .bare [] }
  else if c = '\\' then { r with mode := .escape }
  else if c = '"' then { r with quoted := !r.quoted }
  else if r.quoted then r.put c
  else if c = '\'' then { r with mode := .single }
  else if c = ' ' || c = '\t' then { r with mode := .ended }
  else r.put c

/-- Reads the character after a backslash. -/
def readEscape (r : ValueReading) (c : Char) : Option ValueReading :=
  if c = 'n' then some (r.put '\n')
  else if c = '\\' || c = '\'' || c = '"' || c = '$' || c = ' ' then some (r.put c)
  else none

/-- Reads a character of a name, or the first one after it. That one stands for itself, whatever
it is. -/
def readBare (set : Variables) (name : List Char) (r : ValueReading) (c : Char) : ValueReading :=
  if isNamePart c then { r with mode := .bare (name ++ [c]) }
  else if c = '\x7b' && name.isEmpty then { r with mode := .braced [] }
  else
    let r := r.substitute set name
    if c = '$' then { r with mode := .bare [] } else r.put c

def read (set : Variables) (r : ValueReading) (c : Char) : Option ValueReading :=
  match r.mode with
  | .text => some (r.readText c)
  | .single => some (if c = '\'' then { r with mode := .text }
      else { r with value := c :: r.value })
  | .escape => r.readEscape c
  | .bare name => some (r.readBare set name c)
  | .braced name =>
    some (if c = '\x7d' then r.substitute set name
      else { r with mode := .braced (name ++ [c]) })
  | .ended =>
    if c = ' ' || c = '\t' then some r
    else if c = '#' then some { r with mode := .comment }
    else none
  | .comment => some r

/-- The value at the end of a line. Quotes and braces have to be closed. -/
def finish (set : Variables) (r : ValueReading) : Option String :=
  match r.mode with
  | .single | .braced _ => none
  | mode =>
    if r.quoted then none
    else
      let r := match mode with
        | .bare name => r.substitute set name
        | _ => r
      some (String.ofList r.value.reverse)

end ValueReading

/-- The value that a text stands for. -/
def value? (set : Variables) (text : List Char) : Option String :=
  (text.foldlM (fun r c => ValueReading.read set r c) ({} : ValueReading)).bind fun r =>
    r.finish set

/-! ## Lines -/

/-- The name at the start of a line, and what follows. -/
def splitName? (line : List Char) : Option (String × List Char) :=
  match line with
  | c :: _ =>
    if c.isAlpha || c = '_' then
      let name := line.takeWhile fun c => c.isAlphanum || c = '_' || c = '.'
      some (String.ofList name, Text.skipBlanks (line.drop name.length))
    else none
  | [] => none

/-- The name that a line sets, and the text of its value. The word `export` may come first. -/
def assignment? (line : List Char) : Option (String × List Char) :=
  match splitName? line with
  | none => none
  | some (name, '=' :: rest) => some (name, Text.skipBlanks rest)
  | some ("export", rest) =>
    match splitName? rest with
    | some (name, '=' :: rest) => some (name, Text.skipBlanks rest)
    | _ => none
  | some _ => none

/-- What a line says. -/
inductive LineMeaning where
  | nothing
  | sets (name value : String)
  | unreadable
deriving DecidableEq, Repr

def LineMeaning.ofLine (set : Variables) (line : String) : LineMeaning :=
  match (Text.trim line).toList with
  | [] | '#' :: _ => .nothing
  | cs =>
    match assignment? cs with
    | none => .unreadable
    | some (name, []) | some (name, '#' :: _) => .sets name ""
    | some (name, text) =>
      match value? set text with
      | none => .unreadable
      | some value => .sets name value

/-- Sets a variable unless it is set. -/
def setOnce (set : Variables) (name value : String) : Variables := fun other =>
  match set other with
  | some known => some known
  | none => if other = name then some value else none

/-- The variables after reading lines. -/
def readLines (set : Variables) : List String → Variables
  | [] => set
  | line :: rest =>
    match LineMeaning.ofLine set line with
    | .nothing => readLines set rest
    | .sets name value => readLines (setOnce set name value) rest
    | .unreadable => set

/-- The variables after reading a file. -/
def readVariables (set : Variables) (text : String) : Variables :=
  readLines set (text.splitOn "\n")

end GoldenCapture.CommandLine
