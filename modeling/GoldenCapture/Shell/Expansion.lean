import GoldenCapture.Shell.Arithmetic
import GoldenCapture.Shell.Machine
import GoldenCapture.Shell.Pattern

/-!
# Shell expansion

What words stand for when a command runs. What stands unquoted falls apart at blanks and may name
files by a pattern.
-/

namespace GoldenCapture.Shell

/-- Fields in the making: those that are finished, the last first, and the one that is not. -/
structure Fields where
  machine : Machine
  finished : List (List Glyph) := []
  current : Option (List Glyph) := none

namespace Fields

def add (f : Fields) (glyphs : List Glyph) : Fields :=
  { f with current := some (f.current.getD [] ++ glyphs) }

def close (f : Fields) : Fields :=
  { f with finished := f.current.toList ++ f.finished, current := none }

/-- Adds a text that falls apart at blanks. -/
def addSplit (f : Fields) (s : String) : Fields :=
  s.foldl (fun f c =>
    if c = ' ' || c = '\t' || c = '\n' then f.close else f.add [{ char := c, literal := false }]) f

/-- Adds a text that may have to fall apart. -/
def addValue (f : Fields) (splitting quoted : Bool) (s : String) : Fields :=
  if splitting && !quoted then f.addSplit s else f.add (glyphs quoted s)

/-- Adds several texts, each as a field of its own. -/
def addEach (f : Fields) : List String → Fields
  | [] => f
  | [s] => f.add (glyphs true s)
  | s :: rest => addEach (f.add (glyphs true s)).close rest

def all (f : Fields) : List (List Glyph) := f.close.finished.reverse

end Fields

namespace Machine

/-- The value of a variable, of an argument or of a special parameter. -/
def parameter? (m : Machine) (name : String) : Option String :=
  match name with
  | "?" => some (toString m.status)
  | "$" => some "$$"
  | "#" => some (toString m.arguments.length)
  | "0" => some "sh"
  | "-" | "!" => some ""
  | "@" | "*" =>
    if m.arguments.isEmpty then none else some (" ".intercalate m.arguments)
  | name =>
    match name.toNat? with
    | some n => m.arguments[n - 1]?
    | none => m.bindings.get? name

/-- A text without the line ends at its end. -/
def withoutLineEnds (s : String) : String :=
  String.ofList ((s.toList.reverse.dropWhile (· = '\n')).reverse)

/-- What the pieces of a word stand for. `output` gives what a command line writes. -/
def fields (output : Machine → String → Machine × String) (splitting : Bool) :
    (fuel : Nat) → Fields → Word → Fields
  | 0, f, _ | _, f, [] => f
  | fuel + 1, f, piece :: rest =>
    let m := f.machine
    let whole (m : Machine) (word : Word) : Machine × List Glyph :=
      let inner := fields output false fuel { machine := m } word
      (inner.machine, inner.all.flatten)
    let more (f : Fields) : Fields := fields output splitting fuel f rest
    if m.leaving.isSome then f
    else
      match piece with
      | .text s quoted => more (f.addValue splitting quoted s)
      | .parameter "@" .value true => more (f.addEach m.arguments)
      | .parameter name use quoted =>
        let value := m.parameter? name
        let given (evenEmpty : Bool) : Bool :=
          value.isSome && !(evenEmpty && value == some "")
        let add (s : String) : Fields := more (f.addValue splitting quoted s)
        let instead (word : String) : Fields :=
          more (fields output splitting fuel f (operand quoted word))
        match use with
        | .value =>
          if value.isNone && m.wary && !(name == "@" || name == "*") then
            { f with machine := m.quit s!"{name}: parameter not set" }
          else add (value.getD "")
        | .length => add (toString (value.getD "").utf8ByteSize)
        | .orElse word evenEmpty => if given evenEmpty then add (value.getD "") else instead word
        | .ifSet word evenEmpty => if given evenEmpty then instead word else add ""
        | .orAssign word evenEmpty =>
          if given evenEmpty then add (value.getD "")
          else
            let (m, field) := whole m (operand quoted word)
            let s := textOf field
            more ({ f with machine := { m with bindings := m.bindings.insert name s } }.addValue
              splitting quoted s)
        | .orFail word evenEmpty =>
          if given evenEmpty then add (value.getD "")
          else
            let (m, field) := whole m (operand quoted word)
            let message := if word.isEmpty then
              (if evenEmpty then "parameter not set or null" else "parameter not set")
              else textOf field
            { f with machine := m.quit s!"{name}: {message}" }
        | .without pattern atEnd longest =>
          let (m, field) := whole m (operand false pattern)
          let s := (value.getD "").toList
          let cut := if atEnd then withoutEnd field longest s else withoutStart field longest s
          more ({ f with machine := m }.addValue splitting quoted (String.ofList cut))
      | .output line quoted =>
        let (m, s) := output m line
        more ({ f with machine := m }.addValue splitting quoted (withoutLineEnds s))
      | .arithmetic expression quoted =>
        let (m, field) := whole m (operand true expression)
        let text := textOf field
        let result := do
          let e ← Arithmetic.parse text
          e.evaluate m.bindings
        match result with
        | .error e => { f with machine := m.quit (e.text text) }
        | .ok (n, bindings) =>
          more ({ f with machine := { m with bindings } }.addValue splitting quoted (toString n))

/-! ## Paths -/

/-- The paths that match a pattern, part by part. -/
def matchingPaths (files : FileTree) (start : String) : List (List Glyph) → List String
  | [] => if files.exists? start then [start] else []
  | part :: rest =>
    let separator := if rest.isEmpty then "" else "/"
    if isPattern part then
      let visible (name : String) : Bool :=
        !name.startsWith "." || part.head?.any fun g => g.char = '.'
      let names := (files.names (if start.isEmpty then "." else start)).filter fun name =>
        visible name && matchesWord part name.toList
      names.flatMap fun name => matchingPaths files (start ++ name ++ separator) rest
    else matchingPaths files (start ++ textOf part ++ separator) rest

/-- The texts that a field stands for: the paths that it matches, or itself. -/
def paths (m : Machine) (field : List Glyph) : List String :=
  if isPattern field then
    match matchingPaths m.files "" (field.splitOnP fun g => g.char = '/') with
    | [] => [textOf field]
    | found => found
  else [textOf field]

/-! ## Words -/

/-- How deep words may be nested. -/
def nesting : Nat := 10000

/-- The texts that words stand for. -/
def expand (output : Machine → String → Machine × String) (m : Machine) (words : List Word) :
    Machine × List String :=
  words.foldl (fun (m, texts) word =>
    let f := fields output true nesting { machine := m } word
    (f.machine, texts ++ f.all.flatMap f.machine.paths)) (m, [])

/-- The pattern that a word stands for as a whole. -/
def pattern (output : Machine → String → Machine × String) (m : Machine) (word : Word) :
    Machine × List Glyph :=
  let f := fields output false nesting { machine := m } word
  (f.machine, f.all.flatten)

/-- The text that a word stands for as a whole. -/
def text (output : Machine → String → Machine × String) (m : Machine) (word : Word) :
    Machine × String :=
  let (m, field) := m.pattern output word
  (m, textOf field)

end Machine

end GoldenCapture.Shell
