import GoldenCapture.Text.Unprintable

/-!
# Quoted text

A text between double quotes, as reports show it. A backslash marks what would not read as
itself: quotes, backslashes, line ends, tabs, and every character that does not show.
-/

namespace GoldenCapture.Quoted

/-- A code point in hexadecimal between braces. -/
def codeEscape (c : Char) : List Char :=
  "\\u\x7b".toList ++ Nat.toDigits 16 c.toNat ++ ['\x7d']

/-- Whether a character shows as itself. -/
def isPlain (c : Char) : Bool :=
  if c.toNat < 128 then 32 ≤ c.toNat ∧ c.toNat < 127 else !unprintable.contains c

/-- How one character is written between the quotes. -/
def encodeChar (c : Char) : List Char :=
  if c = '"' then ['\\', '"']
  else if c = '\\' then ['\\', '\\']
  else if c = '\n' then ['\\', 'n']
  else if c = '\r' then ['\\', 'r']
  else if c = '\t' then ['\\', 't']
  else if c.toNat = 0 then ['\\', '0']
  else if isPlain c then [c]
  else codeEscape c

end GoldenCapture.Quoted

namespace GoldenCapture

/-- A text between double quotes with escapes. -/
def quoted (s : String) : String :=
  String.ofList ('"' :: (s.toList.flatMap Quoted.encodeChar ++ ['"']))

end GoldenCapture
