import GoldenCapture.Dictionary
import GoldenCapture.Shell.Command
import GoldenCapture.Shell.Effect

/-!
# The state of a shell

Files, variables, where outputs go, and how a command line is left before its end.
-/

namespace GoldenCapture.Shell

/-- Where bytes go. -/
inductive Outlet where
  /-- A place in memory. The first two are the outputs of the whole command line. -/
  | buffer (id : Nat)
  | file (path : String)
  | nowhere
deriving DecidableEq, Repr

/-- Where the outputs of a command go. -/
structure Channels where
  output : Outlet := .buffer 0
  errors : Outlet := .buffer 1
  others : Dictionary Nat Outlet := {}

namespace Channels

def outlet? (c : Channels) (fd : Nat) : Option Outlet :=
  match fd with
  | 1 => some c.output
  | 2 => some c.errors
  | fd => c.others.get? fd

def set (c : Channels) (fd : Nat) (o : Outlet) : Channels :=
  match fd with
  | 1 => { c with output := o }
  | 2 => { c with errors := o }
  | fd => { c with others := c.others.insert fd o }

end Channels

/-- A signal that ends a shell: its number, its name, and what is said of a process that it ends. -/
structure Signal where
  number : Nat
  name : String
  remark : String
deriving DecidableEq, Repr

def Signal.all : List Signal := [
  ⟨1, "HUP", "Hangup"⟩, ⟨2, "INT", ""⟩, ⟨3, "QUIT", "Quit"⟩, ⟨4, "ILL", "Illegal instruction"⟩,
  ⟨5, "TRAP", "Trace/breakpoint trap"⟩, ⟨6, "ABRT", "Aborted"⟩, ⟨7, "BUS", "Bus error"⟩,
  ⟨8, "FPE", "Floating point exception"⟩, ⟨9, "KILL", "Killed"⟩,
  ⟨10, "USR1", "User defined signal 1"⟩, ⟨11, "SEGV", "Segmentation fault"⟩,
  ⟨12, "USR2", "User defined signal 2"⟩, ⟨13, "PIPE", "Broken pipe"⟩, ⟨14, "ALRM", "Alarm clock"⟩,
  ⟨15, "TERM", "Terminated"⟩, ⟨16, "STKFLT", "Stack fault"⟩,
  ⟨24, "XCPU", "CPU time limit exceeded"⟩, ⟨25, "XFSZ", "File size limit exceeded"⟩,
  ⟨26, "VTALRM", "Virtual timer expired"⟩, ⟨27, "PROF", "Profiling timer expired"⟩,
  ⟨30, "PWR", "Power failure"⟩, ⟨31, "SYS", "Bad system call"⟩]

/-- The signal with a name or a number. -/
def Signal.named? (s : String) : Option Signal :=
  Signal.all.find? fun signal =>
    signal.name == s.map Char.toUpper || toString signal.number == s

/-- Signals that a shell takes no notice of. -/
def harmlessSignals : List String := ["0", "CHLD", "17", "CONT", "18", "URG", "23", "WINCH", "28"]

/-- How a command is left before its end. -/
inductive Leaving where
  | exit
  | signal (s : Signal)
  | function
  | loops (count : Nat)
  /-- The next round of an enclosing loop. -/
  | round (count : Nat)
  /-- No rounds are left. -/
  | exhausted
deriving DecidableEq, Repr

structure Machine where
  files : FileTree
  input : Bytes := []
  bindings : Dictionary String String := {}
  /-- The variables that other programs see. -/
  exported : List String := []
  functions : Dictionary String Command := {}
  arguments : List String := []
  status : Nat := 0
  leaving : Option Leaving := none
  /-- How the last command ended that a word was made from. -/
  substituted : Option Nat := none
  /-- A failure that nobody tests ends the shell. -/
  strict : Bool := false
  /-- A variable that is not set ends the shell. -/
  wary : Bool := false
  /-- What runs at the end. -/
  farewell : Option String := none
  channels : Channels := {}
  buffers : Dictionary Nat Bytes := {}
  nextBuffer : Nat := 2

namespace Machine

/-! ## Writing -/

def buffer (m : Machine) (id : Nat) : Bytes := (m.buffers.get? id).getD []

def send (m : Machine) (outlet : Outlet) (bytes : Bytes) : Machine :=
  match outlet with
  | .buffer id => { m with buffers := m.buffers.insert id (m.buffer id ++ bytes) }
  | .nowhere => m
  | .file path =>
    let text := (m.files.text? path).getD "" ++ Utf8.lossy bytes
    match m.files.write path text with
    | .ok files => { m with files }
    | .error _ => m

/-- Complains and goes on. -/
def complain (m : Machine) (status : Nat) (message : String) : Machine :=
  ({ m with status }).send m.channels.errors (bytesOf (shellMessage message ++ "\n"))

/-- Complains and ends. -/
def quit (m : Machine) (message : String) : Machine :=
  { m.complain 2 message with leaving := some .exit }

/-! ## Parts of a shell -/

/-- What a command writes, apart from all other output. -/
def capture (m : Machine) (body : Machine → Machine) : Machine × Bytes :=
  let id := m.nextBuffer
  let after := body { m with
    channels := { m.channels with output := .buffer id }
    nextBuffer := id + 1 }
  ({ after with
    channels := m.channels
    nextBuffer := id
    buffers := after.buffers.erase id }, after.buffer id)

/-- A command on a copy of the shell: only files, input and outputs are shared with it. -/
def isolate (m : Machine) (body : Machine → Machine) : Machine :=
  let after := body m
  { m with
    files := after.files
    input := after.input
    buffers := after.buffers
    status := after.status
    leaving := after.leaving.filter fun l =>
      match l with
      | .signal _ | .exhausted => true
      | _ => false }

/-! ## Redirection -/

/-- Opens what the redirections name, in order. `text` gives the text of a word. -/
def redirect (text : Machine → Word → Machine × String) (m : Machine) :
    List Redirect → Except Machine Machine
  | [] => .ok m
  | r :: rest =>
    let (m, path) := text m r.target
    let opened (o : Outlet) (m : Machine) : Machine :=
      { m with channels := m.channels.set r.fd o }
    if m.leaving.isSome then .error m
    else
      match r.kind with
      | .duplicate =>
        if path = "-" then redirect text (opened .nowhere m) rest
        else
          match path.toNat? with
          | none => .error (m.complain 2 "Syntax error: Bad fd number")
          | some 0 => redirect text m rest
          | some fd =>
            match m.channels.outlet? fd with
            | some o => redirect text (opened o m) rest
            | none => .error (m.complain 2 s!"{fd}: Bad file descriptor")
      | .read =>
        if path = "/dev/null" then redirect text { m with input := [] } rest
        else
          match m.files.read path with
          | .ok text' => redirect text { m with input := bytesOf text' } rest
          | .error _ => .error (m.complain 2 s!"cannot open {path}: No such file")
      | .write | .append =>
        let kept := if r.kind = .append then (m.files.text? path).getD "" else ""
        if path = "/dev/null" then redirect text (opened .nowhere m) rest
        else
          match m.files.write path kept with
          | .ok files => redirect text (opened (.file path) { m with files }) rest
          | .error .missing =>
            .error (m.complain 2 s!"cannot create {path}: Directory nonexistent")
          | .error .blocked => .error (m.complain 2 s!"cannot create {path}: Is a directory")

end Machine

end GoldenCapture.Shell
