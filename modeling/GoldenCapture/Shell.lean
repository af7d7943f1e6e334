import GoldenCapture.Failure
import GoldenCapture.Shell.Expansion
import GoldenCapture.Shell.Utility
import GoldenCapture.Text.Blank

/-!
# Shell

Runs the command lines of a scenario against a file tree. A command line succeeds if its status is
zero; else it fails with the status and what it wrote about it. A line that has not ended after a
great many rounds is given up.
-/

namespace GoldenCapture

namespace Shell

def LexError.text : LexError → String
  | .unterminatedQuote => "Syntax error: Unterminated quoted string"
  | .missingBrace => "Syntax error: Missing '\x7d'"
  | .missingParentheses => "Syntax error: Missing '))'"
  | .missingParenthesis => "Syntax error: end of file unexpected (expecting \")\")"
  | .missingBackquote => "Syntax error: EOF in backquote substitution"
  | .badSubstitution => "Bad substitution"

def SyntaxError.text : SyntaxError → String
  | .lexical e => e.text
  | .unexpected found none => s!"Syntax error: {found} unexpected"
  | .unexpected found (some expected) =>
    s!"Syntax error: {found} unexpected (expecting {expected})"
  | .badLoopName => "Syntax error: Bad for loop variable"

/-- The commands that are part of the shell. A wrong redirection of one of them ends it. -/
def specialNames : List String :=
  [":", ".", "break", "continue", "eval", "exec", "exit", "export", "readonly", "return", "set",
    "shift", "times", "trap", "unset"]

/-- The name and the value in a text that sets a variable. -/
def setting? (s : String) : Option (String × String) :=
  let name := s.toList.takeWhile (· ≠ '=')
  match s.toList.drop name.length with
  | _ :: value => if isName name then some (String.ofList name, String.ofList value) else none
  | [] => none

/-- The name of a variable and the rest, if a word sets one. -/
def assignment? (word : Word) : Option (String × Word) :=
  match word with
  | .text s false :: rest =>
    (setting? s).map fun (name, value) =>
      (name, if value.isEmpty then rest else .text value false :: rest)
  | _ => none

/-- The words that set variables before a command, and the words after them. -/
def splitAssignments : List Word → List (String × Word) × List Word
  | [] => ([], [])
  | word :: rest =>
    match assignment? word with
    | none => ([], word :: rest)
    | some a =>
      let (assignments, words) := splitAssignments rest
      (a :: assignments, words)

/-- The branches of a selection, each with its patterns. -/
def branches : Command → List (List Word × Command)
  | .select _ patterns body rest => (patterns, body) :: branches rest
  | _ => []

namespace Machine

def assign (m : Machine) (name value : String) : Machine :=
  { m with bindings := m.bindings.insert name value }

/-! ## Commands of the shell itself -/

/-- The status that an argument asks for. -/
def leave (m : Machine) (name : String) (how : Leaving) : List String → Machine
  | [] => { m with leaving := some how }
  | code :: _ =>
    match code.toNat? with
    | some n => { m with status := n % 256, leaving := some how }
    | none => m.quit s!"{name}: Illegal number: {code}"

/-- How many loops an argument means. -/
def loopCount : List String → Nat
  | [] => 1
  | n :: _ => n.toNat?.getD 1

/-- Sends a signal. The only process that there is, is the shell itself. -/
def kill (m : Machine) (arguments : List String) : Machine :=
  let (name, targets) := match arguments with
    | "-s" :: name :: rest => (name, rest)
    | first :: rest =>
      if isOption first then ((first.drop 1).toString, rest) else ("TERM", first :: rest)
    | [] => ("TERM", [])
  let targets := if targets.head? = some "--" then targets.tail else targets
  match Signal.named? name, targets with
  | _, [] =>
    m.complain 2
      ("kill: Usage: kill [-s sigspec | -signum | -sigspec] [pid | job]... or\n" ++
        "kill -l [exitstatus]")
  | some signal, target :: _ =>
    if target = "$$" then { m with leaving := some (.signal signal) }
    else if target.toInt?.isNone then m.complain 2 s!"kill: Illegal number: {target}"
    else ({ m with status := 1 }).send m.channels.errors
      (bytesOf (shellMessage "kill: No such process\n\n"))
  | none, _ =>
    if harmlessSignals.contains name then { m with status := 0 }
    else if arguments.head? = some "-s" then
      m.complain 2 s!"kill: invalid signal number or name: {name}"
    else m.complain 2 s!"kill: Illegal option -{name.take 1}"

/-- Sets options, arguments or nothing. -/
def set (m : Machine) : List String → Machine
  | [] => { m with status := 0 }
  | "--" :: rest => { m with arguments := rest, status := 0 }
  | a :: rest =>
    if a.startsWith "-" || a.startsWith "+" then
      let on := a.startsWith "-"
      let letters := (a.drop 1).toString.toList
      match letters.find? fun c => !"aCefhnuvx".toList.contains c with
      | some bad => m.quit s!"set: Illegal option {a.take 1}{bad}"
      | none =>
        let m := if letters.contains 'e' then { m with strict := on } else m
        set (if letters.contains 'u' then { m with wary := on } else m) rest
    else { m with arguments := a :: rest, status := 0 }

/-- Sets variables and shows them to other programs. -/
def exportVariables (m : Machine) (arguments : List String) : Machine :=
  arguments.foldl (fun m a =>
    match setting? a with
    | some (name, value) => { m.assign name value with exported := name :: m.exported }
    | none => { m with exported := a :: m.exported }) { m with status := 0 }

/-- Puts the parts of a line into variables; the last one takes all that is left. -/
def readInto (m : Machine) (line : List Glyph) : List String → Machine
  | [] => m
  | name :: names =>
    let isSpace (g : Glyph) : Bool := !g.literal && (g.char = ' ' || g.char = '\t')
    let line := line.dropWhile isSpace
    if names.isEmpty then
      m.assign name (textOf (line.reverse.dropWhile isSpace).reverse)
    else
      let part := line.takeWhile fun g => !isSpace g
      readInto (m.assign name (textOf part)) (line.drop part.length) names

/-- The characters of a line. A backslash takes the next one as it is. -/
def lineGlyphs (raw : Bool) : List Char → List Glyph
  | '\\' :: c :: rest =>
    if raw then { char := '\\', literal := true } :: lineGlyphs raw (c :: rest)
    else { char := c, literal := true } :: lineGlyphs raw rest
  | c :: rest => { char := c, literal := false } :: lineGlyphs raw rest
  | [] => []

/-- Reads a line of the input. -/
def read (m : Machine) (arguments : List String) : Machine :=
  let raw := arguments.head? = some "-r"
  let names := if raw then arguments.tail else arguments
  match names.find? fun name => !isName name.toList with
  | some bad => m.complain 2 s!"read: {bad}: bad variable name"
  | none =>
    if names.isEmpty then m.complain 2 "read: arg count"
    else
      let line := m.input.takeWhile (· ≠ newline)
      let ended := decide (line.length < m.input.length)
      let glyphs := lineGlyphs raw (Utf8.lossy line).toList
      let m := m.readInto glyphs names
      { m with input := m.input.drop (line.length + 1), status := if ended then 0 else 1 }

/-- The commands that act on the shell. -/
def special? (m : Machine) (name : String) (arguments : List String) : Option Machine :=
  match name with
  | "exit" => some (m.leave name .exit arguments)
  | "return" => some (m.leave name .function arguments)
  | "break" => some { m with leaving := some (.loops (loopCount arguments)), status := 0 }
  | "continue" => some { m with leaving := some (.round (loopCount arguments)), status := 0 }
  | "kill" => some (m.kill arguments)
  | "set" => some (m.set arguments)
  | "shift" =>
    let n := loopCount arguments
    some (if n ≤ m.arguments.length then { m with arguments := m.arguments.drop n, status := 0 }
      else m.quit "shift: can't shift that many")
  | "export" | "readonly" => some (m.exportVariables arguments)
  | "unset" =>
    some { m with
      bindings := arguments.foldl (fun b name => b.erase name) m.bindings
      functions := arguments.foldl (fun f name => f.erase name) m.functions
      status := 0 }
  | "read" => some (m.read arguments)
  | "trap" =>
    match arguments with
    | [line, event] =>
      if event = "EXIT" || event = "0" then
        some { m with farewell := if line = "-" then none else some line, status := 0 }
      else some { m with status := 0 }
    | _ => some { m with status := 0 }
  | _ => none

/-- Runs a utility, or says that there is none. -/
def utility (m : Machine) (name : String) (arguments : List String) : Machine :=
  match utility? m.files m.input name arguments with
  | some e =>
    let m := { m with
      files := e.files
      status := e.status
      input := if e.drains then [] else m.input }
    (m.send m.channels.output e.output).send m.channels.errors (bytesOf e.errors)
  | none =>
    if name.isEmpty then m.complain 127 ": Permission denied"
    else if name.contains '/' && m.files.exists? name then
      m.complain 126 s!"{name}: Permission denied"
    else m.complain 127 s!"{name}: not found"

/-! ## Running -/

/-- Whether a command has been left. -/
def isLeft (m : Machine) : Bool := m.leaving.isSome

/-- Ends the shell after a failure, if it is strict and nobody tests for it. -/
def check (tested : Bool) (m : Machine) : Machine :=
  if m.strict && !tested && m.status ≠ 0 && !m.isLeft then { m with leaving := some .exit } else m

/-- What the end of a round means for its loop: whether to go on. -/
def afterRound (m : Machine) : Machine × Bool :=
  match m.leaving with
  | some (.loops n) =>
    ({ m with leaving := if n ≤ 1 then none else some (.loops (n - 1)) }, false)
  | some (.round n) =>
    if n ≤ 1 then ({ m with leaving := none }, true)
    else ({ m with leaving := some (.round (n - 1)) }, false)
  | some _ => (m, false)
  | none => (m, true)

/-- The end of a function. -/
def returned (before after : Machine) : Machine :=
  { after with
    arguments := before.arguments
    leaving := if after.leaving = some .function then none else after.leaving }

/-- A shell of its own for a command line. It sees the variables that are shown to it. -/
def child (m : Machine) (arguments : List String) : Machine :=
  { files := m.files
    input := m.input
    bindings := ⟨m.bindings.entries.filter fun (name, _) => m.exported.contains name⟩
    exported := m.exported
    arguments
    channels := m.channels
    buffers := m.buffers
    nextBuffer := m.nextBuffer }

/-- What is left of a shell of its own once it has ended. A signal leaves a status and a remark. -/
def afterSignal (m : Machine) : Machine :=
  match m.leaving with
  | some (.signal s) =>
    { m.send m.channels.errors (bytesOf (s.remark ++ "\n")) with
      status := 128 + s.number, leaving := none }
  | some .exhausted => m
  | _ => { m with leaving := none }

/-- Runs the words of a simple command. `line` runs a command line, `body` a function. -/
def call (line : String → Machine → Machine) (body : Command → Machine → Machine) :
    (words : List String) → Machine → Machine
  | [], m => m
  | name :: rest, m =>
    match m.functions.get? name with
    | some definition => returned m (body definition { m with arguments := rest })
    | none =>
      match utilityName name with
      | "eval" => line (" ".intercalate rest) m
      | "command" =>
        match rest with
        | "-v" :: wanted :: _ =>
          if (utility? m.files [] wanted []).isSome || specialNames.contains wanted then
            ({ m with status := 0 }).send m.channels.output (bytesOf (wanted ++ "\n"))
          else { m with status := 127 }
        | rest => { call line body rest { m with functions := {} } with functions := m.functions }
      | "exec" =>
        if rest.isEmpty then { m with status := 0 }
        else { call line body rest m with leaving := some .exit }
      | "env" =>
        match rest with
        | [] => { m with status := 0 }
        | first :: later =>
          if first.contains '=' then call line body ("env" :: later) (m.exportVariables [first])
          else call line body (first :: later) m
      | "sh" | "dash" =>
        match rest with
        | "-c" :: text :: arguments =>
          let after := line text (m.child arguments.tail)
          m.isolate fun _ => after.afterSignal
        | _ => m
      | "." =>
        match rest with
        | path :: _ =>
          match m.files.read path with
          | .ok text => line text m
          | .error _ => m.quit s!".: cannot open {path}: No such file"
        | [] => m
      | _ =>
        match m.special? name rest with
        | some m => m
        | none => m.utility name rest
termination_by words => words.length

/-- Runs a command that has some fuel left. `tested` tells whether its failure is tested for. -/
def run : (fuel : Nat) → (tested : Bool) → Command → Machine → Machine
  | 0, _, _, m => { m with status := 2, leaving := some .exhausted }
  | fuel + 1, tested, command, m =>
    let line (tested : Bool) (s : String) (m : Machine) : Machine :=
      match parse s with
      | .error e => m.quit e.text
      | .ok command => run fuel tested command m
    let output (m : Machine) (s : String) : Machine × String :=
      let (m, bytes) := m.capture fun m => m.isolate (line false s)
      ({ m with substituted := some m.status }, Utf8.lossy bytes)
    match command with
    | .nothing => m
    | .simple words redirects =>
      let (assignments, words) := splitAssignments words
      let (n, fields) := ({ m with substituted := none }).expand output words
      if n.isLeft then n
      else
        match n.redirect (text output) redirects with
        | .error n =>
          check tested (if fields.head?.any specialNames.contains then
            { n with leaving := some .exit } else n)
        | .ok n =>
          let n := assignments.foldl (fun n (name, word) =>
            let (n, value) := n.text output word
            n.assign name value) n
          if n.isLeft then n
          else if fields.isEmpty then
            check tested { n with
              status := n.substituted.getD 0, channels := m.channels, input := m.input }
          else
            let shown := assignments.map Prod.fst
            let after := call (line tested) (run fuel tested) fields
              { n with exported := shown ++ n.exported }
            let bindings := shown.foldl (fun b name =>
              match m.bindings.get? name with
              | some value => b.insert name value
              | none => b.erase name) after.bindings
            let after := { after with
              bindings, exported := after.exported.filter fun name => !shown.contains name }
            check tested (if fields = ["exec"] then after
              else { after with
                channels := m.channels
                input := if redirects.any fun r => r.kind = .read then m.input
                  else after.input })
    | .redirected body redirects =>
      match m.redirect (text output) redirects with
      | .error m => check tested m
      | .ok n =>
        let after := run fuel tested body n
        { after with
          channels := m.channels
          input := if redirects.any fun r => r.kind = .read then m.input else after.input }
    | .isolated body => check tested (m.isolate (run fuel tested body))
    | .background body =>
      { m.isolate (fun m => run fuel true body { m with input := [] }) with
        status := 0, leaving := none, input := m.input }
    | .sequence first second =>
      let m := run fuel tested first m
      if m.isLeft then m else run fuel tested second m
    | .both first second =>
      let m := run fuel true first m
      if m.isLeft || m.status ≠ 0 then m else run fuel tested second m
    | .either first second =>
      let m := run fuel true first m
      if m.isLeft || m.status = 0 then m else run fuel tested second m
    | .pipe first second =>
      let (n, bytes) := m.capture fun m => m.isolate (run fuel true first)
      if n.isLeft then n
      else
        let after := ({ n with input := bytes }).isolate (run fuel tested second)
        check tested { after with input := n.input }
    | .negation body =>
      let m := run fuel true body m
      if m.isLeft then m else { m with status := if m.status = 0 then 1 else 0 }
    | .choice test yes no =>
      let m := run fuel true test m
      if m.isLeft then m
      else if m.status = 0 then run fuel tested yes m
      else run fuel tested no { m with status := 0 }
    | .repeated wanted test body =>
      let (tried, goesOn) := (run fuel true test m).afterRound
      if !goesOn then tried
      else if (tried.status = 0) ≠ wanted then { tried with status := 0 }
      else
        let (m, goesOn) := (run fuel tested body tried).afterRound
        if goesOn then run fuel tested (.repeated wanted test body) m else m
    | .forEach name words body =>
      let (m, values) := match words with
        | none => (m, m.arguments)
        | some words => m.expand output words
      (values.foldl (fun (m, goesOn) value =>
        if goesOn then (run fuel tested body (m.assign name value)).afterRound else (m, false))
        ({ m with status := 0 }, !m.isLeft)).1
    | .select word _ _ _ =>
      let (m, s) := m.text output word
      let (m, chosen) := (branches command).foldl (fun (m, chosen) (patterns, body) =>
        if chosen.isSome then (m, chosen)
        else
          let (m, found) := patterns.foldl (fun (m, found) p =>
            let (m, field) := m.pattern output p
            (m, found || matchesWord field s.toList)) (m, false)
          (m, if found then some body else none)) (m, none)
      if m.isLeft then m else run fuel tested (chosen.getD .nothing) { m with status := 0 }
    | .define name body => { m with functions := m.functions.insert name body, status := 0 }

end Machine

/-- How many rounds a command line may take. -/
def rounds : Nat := 100000

/-- Runs a command line without any input. -/
def execute (line : String) (files : FileTree) : Machine :=
  let start (m : Machine) (line : String) : Machine :=
    match parse line with
    | .error e => m.complain 2 e.text
    | .ok command => m.run rounds false command
  let m := start { files } line
  match m.leaving, m.farewell with
  | some (.signal _), _ | _, none => m
  | _, some line => { start { m with leaving := none, farewell := none } line with
      status := m.status }

/-- How a command line ended, if it failed. -/
def Machine.verdict? (m : Machine) : Option String :=
  match m.leaving with
  | some (.signal s) => some s!"signal: {s.number} (SIG{s.name})"
  | _ => if m.status = 0 then none else some s!"exit status: {m.status}"

/-- Runs a command line and gives what it wrote. -/
def runLine (line : String) (files : FileTree) : Except Failure String × FileTree :=
  let m := execute line files
  match m.verdict? with
  | none => (.ok (Utf8.lossy (m.buffer 0)), m.files)
  | some verdict =>
    let errors := Text.trim (Utf8.lossy (m.buffer 1))
    (.error (.command line s!"{verdict}: {errors}"), m.files)

end Shell

end GoldenCapture
