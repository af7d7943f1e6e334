import GoldenCapture.Shell.Token

/-!
# Shell commands

The structure of a command line: simple commands with redirections, joined by pipes, `&&`, `||`,
`;` and `&`, grouped by brackets, chosen and repeated.
-/

namespace GoldenCapture.Shell

inductive RedirectKind where
  | write
  | append
  | read
  | duplicate
deriving Repr, DecidableEq

structure Redirect where
  fd : Nat
  kind : RedirectKind
  target : Word
deriving Repr

inductive Command where
  | nothing
  | simple (words : List Word) (redirects : List Redirect)
  | redirected (body : Command) (redirects : List Redirect)
  /-- A command on a copy of the shell. -/
  | isolated (body : Command)
  | background (body : Command)
  | sequence (first second : Command)
  | both (first second : Command)
  | either (first second : Command)
  | pipe (first second : Command)
  | negation (body : Command)
  | choice (test yes no : Command)
  | repeated (wanted : Bool) (test body : Command)
  /-- A command for each of some words, or for each argument. -/
  | forEach (name : String) (words : Option (List Word)) (body : Command)
  /-- The body if one of the patterns matches the word, else the rest. -/
  | select (word : Word) (patterns : List Word) (body rest : Command)
  | define (name : String) (body : Command)
deriving Repr

/-- What the reader did not expect, and what it did. -/
inductive SyntaxError where
  | lexical (error : LexError)
  | unexpected (found : String) (expected : Option String)
  | badLoopName
deriving Repr

/-- A word without any quotes or values, such as a reserved one. -/
def bareWord? : Token → Option String
  | .word [.text s false] => some s
  | _ => none

/-- The reserved words that end a list of commands. -/
def closingWords : List String :=
  ["then", "elif", "else", "fi", "do", "done", "esac", "\x7d"]

def unexpected {α : Type} (expected : Option String) : List Token → Except SyntaxError α
  | [] => .error (.unexpected "end of file" expected)
  | token :: _ =>
    match token with
    | .mark _ "\n" => .error (.unexpected "newline" expected)
    | .mark _ s => .error (.unexpected s!"\"{s}\"" expected)
    | token =>
      match (bareWord? token).filter closingWords.contains with
      | some s => .error (.unexpected s!"\"{s}\"" expected)
      | none => .error (.unexpected "word" expected)

/-- Whether a token ends a list of commands. -/
def closes (token : Token) : Bool :=
  match token with
  | .mark _ s => s == ")" || s == ";;"
  | token => (bareWord? token).any closingWords.contains

def skipNewlines : List Token → List Token
  | .mark _ "\n" :: rest => skipNewlines rest
  | tokens => tokens

/-- Goes past a reserved word or an operator. -/
def demand (s : String) (tokens : List Token) : Except SyntaxError (List Token) :=
  match tokens with
  | token :: rest =>
    if token = .mark none s || bareWord? token = some s then .ok rest
    else unexpected (some s!"\"{s}\"") tokens
  | [] => unexpected (some s!"\"{s}\"") []

def redirectKind? (s : String) : Option (RedirectKind × Nat) :=
  if s = ">" || s = ">|" then some (.write, 1)
  else if s = ">>" then some (.append, 1)
  else if s = "<" then some (.read, 0)
  else if s = ">&" then some (.duplicate, 1)
  else if s = "<&" then some (.duplicate, 0)
  else none

/-- Words and redirections in any order. -/
def simpleParts : List Token → Except SyntaxError (List Word × List Redirect × List Token)
  | .word w :: rest => do
    let (words, redirects, rest) ← simpleParts rest
    return (w :: words, redirects, rest)
  | .mark fd s :: tokens =>
    match redirectKind? s, tokens with
    | none, tokens => .ok ([], [], .mark fd s :: tokens)
    | some (kind, usual), .word target :: rest => do
      let (words, redirects, rest) ← simpleParts rest
      return (words, ⟨fd.getD usual, kind, target⟩ :: redirects, rest)
    | some _, tokens => unexpected none tokens
  | [] => .ok ([], [], [])

/-- The redirections after a command that is not simple. -/
def redirectedBy (body : Command) (tokens : List Token) :
    Except SyntaxError (Command × List Token) := do
  match ← simpleParts tokens with
  | ([], [], rest) => return (body, rest)
  | ([], redirects, rest) => return (.redirected body redirects, rest)
  | _ => unexpected none tokens

/-- The words of a loop, if it names some. -/
def loopWords (tokens : List Token) : Except SyntaxError (Option (List Word) × List Token) :=
  match skipNewlines tokens with
  | token :: rest =>
    if bareWord? token = some "in" then do
      let (words, redirects, rest) ← simpleParts rest
      if !redirects.isEmpty then unexpected none rest
      else
        match rest with
        | .mark none ";" :: rest | .mark none "\n" :: rest =>
          return (some words, skipNewlines rest)
        | rest => unexpected none rest
    else if token = .mark none ";" then .ok (none, skipNewlines rest)
    else .ok (none, token :: rest)
  | [] => .ok (none, [])

/-- The patterns of a branch, up to the parenthesis after them. -/
def branchPatterns : List Token → Except SyntaxError (List Word × List Token)
  | .word w :: .mark none "|" :: rest => do
    let (words, rest) ← branchPatterns rest
    return (w :: words, rest)
  | .word w :: .mark none ")" :: rest => .ok ([w], rest)
  | .word _ :: rest => unexpected (some "\")\"") rest
  | tokens => unexpected (some "\")\"") tokens

def endsSelect (tokens : List Token) : Bool := tokens.head?.bind bareWord? == some "esac"

def endsBranch (tokens : List Token) : Bool :=
  tokens.head? == some (.mark none ";;") || endsSelect tokens

mutual

def parseCommand : Nat → List Token → Except SyntaxError (Command × List Token)
  | 0, tokens => unexpected none tokens
  | fuel + 1, .mark none "(" :: rest => do
    let (body, rest) ← parseList fuel rest
    redirectedBy (.isolated body) (← demand ")" rest)
  | fuel + 1, token :: rest => do
    match bareWord? token with
    | some "\x7b" =>
      let (body, rest) ← parseList fuel rest
      redirectedBy body (← demand "\x7d" rest)
    | some "if" =>
      let (body, rest) ← parseBranches fuel rest
      redirectedBy body rest
    | some "while" => parseLoop fuel true rest
    | some "until" => parseLoop fuel false rest
    | some "for" =>
      match rest with
      | token :: rest =>
        match (bareWord? token).filter fun s => isName s.toList with
        | none => .error .badLoopName
        | some name =>
          let (words, rest) ← loopWords rest
          let (body, rest) ← parseList fuel (← demand "do" rest)
          redirectedBy (.forEach name words body) (← demand "done" rest)
      | [] => .error .badLoopName
    | some "case" =>
      match rest with
      | .word w :: rest =>
        let (body, rest) ← parseSelect fuel w (skipNewlines (← demand "in" (skipNewlines rest)))
        redirectedBy body rest
      | rest => unexpected none rest
    | name =>
      if closes token then unexpected none (token :: rest)
      else
        match name, rest with
        | some name, .mark none "(" :: rest =>
          let (body, rest) ← parseCommand fuel (skipNewlines (← demand ")" rest))
          return (.define name body, rest)
        | _, _ =>
          let (words, redirects, rest) ← simpleParts (token :: rest)
          if words.isEmpty && redirects.isEmpty then unexpected none rest
          else return (.simple words redirects, rest)
  | _ + 1, [] => unexpected none []

/-- What follows `if` or `elif`. -/
def parseBranches : Nat → List Token → Except SyntaxError (Command × List Token)
  | 0, tokens => unexpected none tokens
  | fuel + 1, tokens => do
    let (test, rest) ← parseList fuel tokens
    let (yes, rest) ← parseList fuel (← demand "then" rest)
    match rest.head?.bind bareWord? with
    | some "elif" =>
      let (no, rest) ← parseBranches fuel rest.tail
      return (.choice test yes no, rest)
    | some "else" =>
      let (no, rest) ← parseList fuel rest.tail
      return (.choice test yes no, ← demand "fi" rest)
    | _ => return (.choice test yes .nothing, ← demand "fi" rest)

def parseLoop : Nat → Bool → List Token → Except SyntaxError (Command × List Token)
  | 0, _, tokens => unexpected none tokens
  | fuel + 1, wanted, tokens => do
    let (test, rest) ← parseList fuel tokens
    let (body, rest) ← parseList fuel (← demand "do" rest)
    redirectedBy (.repeated wanted test body) (← demand "done" rest)

/-- The branches of a selection up to its end. -/
def parseSelect : Nat → Word → List Token → Except SyntaxError (Command × List Token)
  | 0, _, tokens => unexpected none tokens
  | fuel + 1, word, tokens => do
    match tokens with
    | token :: rest =>
      if endsSelect tokens then return (.nothing, rest)
      else
        let start := if token = .mark none "(" then rest else tokens
        let (patterns, rest) ← branchPatterns start
        let rest := skipNewlines rest
        let (body, rest) ←
          if endsBranch rest then Except.ok (Command.nothing, rest) else parseList fuel rest
        let rest ← if endsSelect rest then .ok rest else demand ";;" rest
        let (others, rest) ← parseSelect fuel word (skipNewlines rest)
        return (.select word patterns body others, rest)
    | [] => unexpected (some "\")\"") []

def parsePipeline : Nat → List Token → Except SyntaxError (Command × List Token)
  | 0, tokens => unexpected none tokens
  | fuel + 1, tokens =>
    match tokens with
    | token :: rest =>
      if bareWord? token = some "!" then
        (parsePipes fuel rest).map fun (c, rest) => (.negation c, rest)
      else parsePipes fuel tokens
    | [] => unexpected none []

def parsePipes : Nat → List Token → Except SyntaxError (Command × List Token)
  | 0, tokens => unexpected none tokens
  | fuel + 1, tokens => do
    match ← parseCommand fuel tokens with
    | (first, .mark none "|" :: rest) =>
      let (second, rest) ← parsePipes fuel (skipNewlines rest)
      return (.pipe first second, rest)
    | parsed => return parsed

/-- Goes on after a pipeline. Both connectives bind to the left. -/
def parseAndOr : Nat → Command → List Token → Except SyntaxError (Command × List Token)
  | fuel + 1, first, .mark none "&&" :: rest => do
    let (second, rest) ← parsePipeline fuel (skipNewlines rest)
    parseAndOr fuel (.both first second) rest
  | fuel + 1, first, .mark none "||" :: rest => do
    let (second, rest) ← parsePipeline fuel (skipNewlines rest)
    parseAndOr fuel (.either first second) rest
  | _, first, tokens => .ok (first, tokens)

/-- Commands up to what closes them. -/
def parseList : Nat → List Token → Except SyntaxError (Command × List Token)
  | 0, tokens => unexpected none tokens
  | _ + 1, [] => .ok (.nothing, [])
  | fuel + 1, tokens => do
    let (head, rest) ← parsePipeline fuel (skipNewlines tokens)
    let (first, rest) ← parseAndOr fuel head rest
    let go (first : Command) (rest : List Token) :
        Except SyntaxError (Command × List Token) :=
      match skipNewlines rest with
      | [] => .ok (first, [])
      | token :: rest =>
        if closes token then .ok (first, token :: rest)
        else (parseList fuel (token :: rest)).map fun (second, rest) =>
          (.sequence first second, rest)
    match rest with
    | .mark none ";" :: rest | .mark none "\n" :: rest => go first rest
    | .mark none "&" :: rest => go (.background first) rest
    | rest => return (first, rest)

end

/-- The command that a line stands for. -/
def parse (line : String) : Except SyntaxError Command :=
  match tokens line with
  | .error e => .error (.lexical e)
  | .ok tokens =>
    match skipNewlines tokens with
    | [] => .ok .nothing
    | tokens => do
      let (command, rest) ← parseList (8 * tokens.length + 8) tokens
      if rest.isEmpty then return command else unexpected none rest

end GoldenCapture.Shell
