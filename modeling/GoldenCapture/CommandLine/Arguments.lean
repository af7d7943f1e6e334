/-!
# Arguments

Reads the arguments of a program by rules for its options. An option is written `--name`, a value
follows as the next argument or after `=`. Arguments are read from the left; the first mistake or
the first call for help decides.
-/

namespace GoldenCapture.CommandLine

/-- What an option does to what is known so far. -/
inductive OptionEffect (α : Type) where
  | flag (set : α → α)
  /-- Takes a value and may refuse it. -/
  | value (set : String → α → Option α)

structure OptionRule (α : Type) where
  name : String
  effect : OptionEffect α
  /-- Whether it may be given several times. -/
  repeats : Bool := false

/-- Why arguments stand for no request. -/
inductive Refusal where
  | help
  | misuse
deriving DecidableEq, Repr

/-- An argument by its looks. -/
inductive Argument where
  | long (name : String) (value : Option String)
  /-- Letters after a single dash. -/
  | short (letters : List Char)
  /-- Two dashes alone: no options after this. -/
  | last
  | plain (text : String)
deriving Repr

/-- A single dash alone is a plain argument. -/
def Argument.ofText (s : String) : Argument :=
  match s.toList with
  | ['-', '-'] => .last
  | '-' :: '-' :: rest =>
    let name := rest.takeWhile (· ≠ '=')
    .long (String.ofList name)
      (match rest.drop name.length with
      | [] => none
      | _ :: value => some (String.ofList value))
  | '-' :: c :: rest => .short (c :: rest)
  | _ => .plain s

variable {α : Type}

/-- What is known so far, and the options that were given. -/
structure Reading (α : Type) where
  known : α
  given : List String := []

namespace Reading

/-- Notes that an option was given. -/
def give (r : Reading α) (rule : OptionRule α) (known : α) : Except Refusal (Reading α) :=
  if !rule.repeats && r.given.contains rule.name then .error .misuse
  else .ok ⟨known, rule.name :: r.given⟩

/-- Sets an option to a value. -/
def setValue (r : Reading α) (rule : OptionRule α) (set : String → α → Option α)
    (value : String) : Except Refusal (Reading α) :=
  match set value r.known with
  | none => .error .misuse
  | some known => r.give rule known

/-- Reads on. -/
def read (rules : List (OptionRule α)) (r : Reading α) :
    List Argument → Except Refusal (Reading α)
  | [] => .ok r
  | .last :: rest => if rest.isEmpty then .ok r else .error .misuse
  | .plain _ :: _ => .error .misuse
  | .short letters :: _ => .error (if letters.head? = some 'h' then .help else .misuse)
  | .long name attached :: rest =>
    match rules.find? fun rule => rule.name == name with
    | none => .error (if name = "help" ∧ attached = none then .help else .misuse)
    | some rule =>
      match rule.effect, attached, rest with
      | .flag _, some _, _ => .error .misuse
      | .flag set, none, rest => do read rules (← r.give rule (set r.known)) rest
      | .value set, some value, rest => do read rules (← r.setValue rule set value) rest
      | .value set, none, .plain value :: rest => do read rules (← r.setValue rule set value) rest
      | .value _, none, _ => .error .misuse

end Reading

/-- What the arguments make known. -/
def readArguments (rules : List (OptionRule α)) (start : α) (argv : List String) :
    Except Refusal α :=
  (Reading.read rules ⟨start, []⟩ (argv.map Argument.ofText)).map Reading.known

end GoldenCapture.CommandLine
