/-!
# Shell words

Cuts a command line into words and operators. A word is a list of pieces. What a piece stands for
is found out when the command runs, so the text inside brackets is kept as it is written.
-/

namespace GoldenCapture.Shell

/-- What a parameter stands for. Some uses take a word, which may count for an empty value too. -/
inductive ParameterUse where
  | value
  | length
  | orElse (word : String) (evenEmpty : Bool)
  | orAssign (word : String) (evenEmpty : Bool)
  | orFail (word : String) (evenEmpty : Bool)
  | ifSet (word : String) (evenEmpty : Bool)
  /-- The value without what a pattern matches at its start or its end. -/
  | without (pattern : String) (atEnd longest : Bool)
deriving Repr, DecidableEq

inductive Piece where
  | text (s : String) (quoted : Bool)
  | parameter (name : String) (use : ParameterUse) (quoted : Bool)
  /-- What a command line writes. -/
  | output (line : String) (quoted : Bool)
  | arithmetic (expression : String) (quoted : Bool)
deriving Repr, DecidableEq

abbrev Word := List Piece

inductive Token where
  | word (pieces : Word)
  /-- An operator. A number right before a redirection belongs to it. -/
  | mark (fd : Option Nat) (s : String)
deriving Repr, DecidableEq

/-- What a line cannot be read as. -/
inductive LexError where
  | unterminatedQuote
  | missingBrace
  | missingParentheses
  | missingParenthesis
  | missingBackquote
  | badSubstitution
deriving Repr, DecidableEq

/-! ## Characters -/

def isNameStart (c : Char) : Bool := c.isAlpha || c = '_'

def isNameRest (c : Char) : Bool := c.isAlphanum || c = '_'

def isName (cs : List Char) : Bool :=
  match cs with
  | [] => false
  | c :: rest => isNameStart c && rest.all isNameRest

def isSpecial (c : Char) : Bool := "?$#!@*-".contains c || c.isDigit

def backquote : Char := Char.ofNat 96

/-- The operators, the longest first. -/
def operators : List String :=
  ["&&", "||", ";;", ">>", ">&", "<&", ">|", ";", "&", "|", "(", ")", "<", ">", "\n"]

def operator? (input : List Char) : Option String :=
  operators.find? fun o => o.toList.isPrefixOf input

/-! ## Brackets -/

/-- The text up to the bracket that closes it, and the rest. A bracket in quotes does not count.
`quote` is the quote that is open. -/
def enclosed (opening closing : Char) :
    (depth : Nat) → (quote : Option Char) → List Char → Option (List Char × List Char)
  | _, _, [] | _, _, ['\\'] => none
  | depth, some '\'', c :: rest =>
    let quote := if c = '\'' then none else some '\''
    (enclosed opening closing depth quote rest).map fun (text, rest) => (c :: text, rest)
  | depth, quote, '\\' :: c :: rest =>
    (enclosed opening closing depth quote rest).map fun (text, rest) => ('\\' :: c :: text, rest)
  | depth, some q, c :: rest =>
    (enclosed opening closing depth (if c = q then none else some q) rest).map
      fun (text, rest) => (c :: text, rest)
  | depth, none, c :: rest =>
    if c = closing && depth = 0 then some ([], rest)
    else
      let depth := if c = closing then depth - 1 else if c = opening then depth + 1 else depth
      let quote := if c = '\'' || c = '"' then some c else none
      (enclosed opening closing depth quote rest).map fun (text, rest) => (c :: text, rest)

/-- The text up to a backquote, without the backslashes that protect something in it. -/
def backquoted : List Char → Option (List Char × List Char)
  | [] => none
  | '\\' :: c :: rest =>
    let kept := if c = backquote || c = '\\' || c = '$' then [c] else ['\\', c]
    (backquoted rest).map fun (text, rest) => (kept ++ text, rest)
  | c :: rest =>
    if c = backquote then some ([], rest)
    else (backquoted rest).map fun (text, rest) => (c :: text, rest)

/-! ## Parameters -/

/-- The use that is written after the name of a parameter. -/
def use? (s : List Char) : Option ParameterUse :=
  match s with
  | [] => some .value
  | ':' :: '-' :: word => some (.orElse (String.ofList word) true)
  | ':' :: '=' :: word => some (.orAssign (String.ofList word) true)
  | ':' :: '?' :: word => some (.orFail (String.ofList word) true)
  | ':' :: '+' :: word => some (.ifSet (String.ofList word) true)
  | '-' :: word => some (.orElse (String.ofList word) false)
  | '=' :: word => some (.orAssign (String.ofList word) false)
  | '?' :: word => some (.orFail (String.ofList word) false)
  | '+' :: word => some (.ifSet (String.ofList word) false)
  | '#' :: '#' :: word => some (.without (String.ofList word) false true)
  | '%' :: '%' :: word => some (.without (String.ofList word) true true)
  | '#' :: word => some (.without (String.ofList word) false false)
  | '%' :: word => some (.without (String.ofList word) true false)
  | _ => none

/-- The piece that stands in braces. -/
def braced (quoted : Bool) (s : List Char) : Except LexError Piece :=
  let name := match s with
    | c :: rest =>
      if isNameStart c then c :: rest.takeWhile isNameRest
      else if c.isDigit then c :: rest.takeWhile Char.isDigit
      else if isSpecial c then [c]
      else []
    | [] => []
  match s, name with
  | '#' :: rest, _ =>
    if isName rest then .ok (.parameter (String.ofList rest) .length quoted)
    else if rest.isEmpty then .ok (.parameter "#" .value quoted)
    else .error .badSubstitution
  | _, [] => .error .badSubstitution
  | s, name =>
    match use? (s.drop name.length) with
    | some use => .ok (.parameter (String.ofList name) use quoted)
    | none => .error .badSubstitution

/-- The piece after a dollar sign, and the rest. A dollar sign may also stand for itself. -/
def dollar (quoted : Bool) : List Char → Except LexError (Piece × List Char)
  | '{' :: rest =>
    match enclosed '{' '}' 0 none rest with
    | none => .error .missingBrace
    | some (inside, rest) => (braced quoted inside).map fun piece => (piece, rest)
  | '(' :: '(' :: rest =>
    match enclosed '(' ')' 0 none rest with
    | some (inside, ')' :: rest) => .ok (.arithmetic (String.ofList inside) quoted, rest)
    | _ => .error .missingParentheses
  | '(' :: rest =>
    match enclosed '(' ')' 0 none rest with
    | none => .error .missingParenthesis
    | some (inside, rest) => .ok (.output (String.ofList inside) quoted, rest)
  | c :: rest =>
    if isNameStart c then
      let name := c :: rest.takeWhile isNameRest
      .ok (.parameter (String.ofList name) .value quoted, (c :: rest).drop name.length)
    else if isSpecial c then .ok (.parameter (String.singleton c) .value quoted, rest)
    else .ok (.text "$" quoted, c :: rest)
  | [] => .ok (.text "$" quoted, [])

/-! ## Words -/

/-- Adds a piece to a word that is kept from its end; texts grow together. -/
def push (word : Word) (piece : Piece) : Word :=
  match word, piece with
  | .text a q :: rest, .text b r =>
    if q = r then .text (a ++ b) q :: rest else .text b r :: word
  | word, piece => piece :: word

/-- What the reader cuts: a command line, or a word that stands alone and may hold blanks. -/
inductive Extent where
  | line
  | operand
deriving DecidableEq

/-- Reads on. `word` is the word so far, from its end, if there is one. -/
def lex (extent : Extent) :
    (fuel : Nat) → (quoted : Bool) → Option Word → List Char → Except LexError (List Token)
  | 0, _, _, _ => .ok []
  | _ + 1, true, word, [] =>
    if extent = .line then .error .unterminatedQuote
    else .ok ((word.map fun w => Token.word w.reverse).toList)
  | _ + 1, false, word, [] => .ok ((word.map fun w => Token.word w.reverse).toList)
  | fuel + 1, quoted, word, c :: rest =>
    let more (piece : Piece) (rest : List Char) : Except LexError (List Token) :=
      lex extent fuel quoted (some (push (word.getD []) piece)) rest
    let close (later : Except LexError (List Token)) : Except LexError (List Token) :=
      later.map fun tokens => (word.map fun w => Token.word w.reverse).toList ++ tokens
    if c = '$' then
      match dollar quoted rest with
      | .error e => .error e
      | .ok (piece, rest) => more piece rest
    else if c = backquote then
      match backquoted rest with
      | none => .error .missingBackquote
      | some (line, rest) => more (.output (String.ofList line) quoted) rest
    else if c = '"' then
      match quoted, rest with
      | true, rest => lex extent fuel false word rest
      | false, '"' :: rest => more (.text "" true) rest
      | false, rest => lex extent fuel true (some (word.getD [])) rest
    else if c = '\\' then
      match rest with
      | [] => more (.text "\\" true) []
      | '\n' :: rest => lex extent fuel quoted word rest
      | d :: rest =>
        if quoted && !(d = '"' || d = '\\' || d = '$' || d = backquote) then
          more (.text (String.ofList ['\\', d]) true) rest
        else more (.text (String.singleton d) true) rest
    else if quoted then more (.text (String.singleton c) true) rest
    else if c = '\'' then
      let inside := rest.takeWhile (· ≠ '\'')
      match rest.drop inside.length with
      | [] => .error .unterminatedQuote
      | _ :: rest => more (.text (String.ofList inside) true) rest
    else if extent = .operand then more (.text (String.singleton c) false) rest
    else if c = ' ' || c = '\t' then close (lex extent fuel false none rest)
    else if c = '#' && word.isNone then lex extent fuel false none (rest.dropWhile (· ≠ '\n'))
    else
      match operator? (c :: rest) with
      | none => more (.text (String.singleton c) false) rest
      | some o =>
        let after := lex extent fuel false none ((c :: rest).drop o.length)
        let fd := match word with
          | some [.text digits false] =>
            if o.startsWith ">" || o.startsWith "<" then digits.toNat? else none
          | _ => none
        if fd.isSome then after.map (Token.mark fd o :: ·)
        else close (after.map (Token.mark none o :: ·))

/-- The words and operators of a command line. -/
def tokens (line : String) : Except LexError (List Token) :=
  lex .line (line.length + 1) false none line.toList

/-- The word that an operand of a parameter stands for. -/
def operand (quoted : Bool) (s : String) : Word :=
  match lex .operand (s.length + 1) quoted none s.toList with
  | .ok [.word w] => w
  | _ => []

end GoldenCapture.Shell
