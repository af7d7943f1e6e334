import GoldenCapture.Text.Utf8
import GoldenCapture.Yaml.ScalarText

/-!
# Tags and directives

Reads tags, and the two directives that a document may start with.
-/

namespace GoldenCapture.Yaml

/-! ## Tag text -/

/-- How many bytes a character takes that starts with this byte. -/
def leadWidth (byte : Nat) : Nat :=
  if byte < 0x80 then 1
  else if 0xC0 ≤ byte ∧ byte < 0xE0 then 2
  else if 0xE0 ≤ byte ∧ byte < 0xF0 then 3
  else if 0xF0 ≤ byte ∧ byte < 0xF8 then 4
  else 0

/-- A byte that is written as a percent sign and two hexadecimal digits. -/
def escapedByte? : List Char → Option (Nat × List Char)
  | '%' :: a :: b :: rest => do return (16 * (← hexDigit? a) + (← hexDigit? b), rest)
  | _ => none

/-- Further bytes of a character. -/
def escapedTail? : Nat → List Char → Option (List Nat × List Char)
  | 0, input => some ([], input)
  | n + 1, input => do
    let (byte, input) ← escapedByte? input
    guard (0x80 ≤ byte && byte < 0xC0)
    let (bytes, input) ← escapedTail? n input
    return (byte :: bytes, input)

/-- A character in escaped bytes, and how many bytes it has. -/
def escapedChar? (input : List Char) : Option (List Char × Nat) := do
  let (lead, input) ← escapedByte? input
  let width := leadWidth lead
  guard (width != 0)
  let (bytes, _) ← escapedTail? (width - 1) input
  return ((Utf8.lossy ((lead :: bytes).map UInt8.ofNat)).toList, width)

/-- Whether a tag may hold the character. A tag in angle brackets may also hold flow marks. -/
def isTagChar (verbatim : Bool) (c : Char) : Bool :=
  isWord c || ";/?:@&=+$.%!~*'()".toList.contains c || (verbatim && ",[]".toList.contains c)

/-- The characters of a tag. -/
def tagText? (verbatim : Bool) : Nat → Cursor → Option (List Char × Cursor)
  | 0, _ => none
  | fuel + 1, c =>
    match c.peek with
    | none => some ([], c)
    | some x =>
      if !isTagChar verbatim x then some ([], c)
      else if x == '%' then
        match escapedChar? c.rest with
        | none => none
        | some (text, width) =>
          (tagText? verbatim fuel (c.skip (3 * width))).map fun (rest, c) => (text ++ rest, c)
      else (tagText? verbatim fuel (c.skip 1)).map fun (rest, c) => (x :: rest, c)

/-- A tag text that is not empty. -/
def someTagText? (verbatim : Bool) (c : Cursor) : Option (List Char × Cursor) := do
  let (text, c) ← tagText? verbatim (c.rest.length + 1) c
  guard !text.isEmpty
  return (text, c)

/-- An exclamation mark, letters, and perhaps another exclamation mark. -/
def tagHandle? (c : Cursor) : Option (List Char × Cursor) :=
  if !c.isAt '!' then none
  else
    let (letters, c) := (c.skip 1).span isWord
    if c.isAt '!' then some ('!' :: letters ++ ['!'], c.skip 1) else some ('!' :: letters, c)

/-- A tag, as a handle and what follows it. The handle is empty for a tag that is complete. -/
def tag? (c : Cursor) : Option (String × String × Cursor) := do
  let (handle, suffix, c) ←
    if c.after.head? == some '<' then do
      let (text, c) ← someTagText? true (c.skip 2)
      guard (c.isAt '>')
      pure ([], text, c.skip 1)
    else do
      let (handle, c) ← tagHandle? c
      if 1 < handle.length && handle.getLast? == some '!' then
        let (text, c) ← someTagText? false c
        pure (handle, text, c)
      else
        let (text, c) ← tagText? false (c.rest.length + 1) c
        match handle.tail ++ text with
        | [] => pure ([], ['!'], c)
        | suffix => pure (['!'], suffix, c)
  return (String.ofList handle, String.ofList suffix, c)

/-! ## Directives -/

inductive Directive where
  | version (major minor : Nat)
  | tag (handle replacement : String)
deriving DecidableEq

/-- A number of one to nine digits. -/
def versionNumber? (c : Cursor) : Option (Nat × Cursor) :=
  let (digits, c) := c.span isDigit
  if digits.isEmpty || 9 < digits.length then none
  else some (digits.foldl (fun n d => 10 * n + (d.toNat - 48)) 0, c)

/-- A directive from its percent sign to the end of its line. -/
def directive? (c : Cursor) : Option (Directive × Cursor) := do
  let (name, c) := (c.skip 1).span isWord
  guard (!name.isEmpty && endsWord c.rest)
  let (directive, c) ←
    if name == "YAML".toList then do
      let (major, c) ← versionNumber? (c.skipWhile isBlank)
      guard (c.isAt '.')
      let (minor, c) ← versionNumber? (c.skip 1)
      pure (Directive.version major minor, c)
    else if name == "TAG".toList then do
      let (handle, c) ← tagHandle? (c.skipWhile isBlank)
      guard (handle.length == 1 || handle.getLast? == some '!')
      guard (c.peek.any isBlank)
      let (text, c) ← someTagText? true (c.skipWhile isBlank)
      guard (endsWord c.rest)
      pure (Directive.tag (String.ofList handle) (String.ofList text), c)
    else none
  return (directive, ← c.finishLine?)

end GoldenCapture.Yaml
