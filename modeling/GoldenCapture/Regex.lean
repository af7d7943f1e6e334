import GoldenCapture.Text.CodeSet
import GoldenCapture.Regex.Category
import GoldenCapture.Regex.Script

/-!
# Regular expressions

What a pattern means once it has been read: sets of characters, tests of the place between two
characters, sequences, alternatives in order of preference, and repetition.
-/

namespace GoldenCapture

/-- Characters that make up words. -/
def wordChars : CodeSet :=
  [Category.nonspacingMark, Category.spacingMark, Category.enclosingMark,
    Category.decimalNumber, Category.connectorPunctuation, Script.joinControl].foldl
      CodeSet.union Script.alphabetic

def asciiWordChars : CodeSet := CodeSet.ofRanges [(48, 57), (65, 90), (95, 95), (97, 122)]

/-- A test of the place between two characters. -/
inductive Look where
  | textStart
  | textEnd
  /-- Start of the text or after a line end; with `crlf`, after a carriage return too. -/
  | lineStart (crlf : Bool)
  | lineEnd (crlf : Bool)
  /-- Between a word character and another one, or not. -/
  | wordBoundary (word : CodeSet) (negated : Bool)
  | wordStart (word : CodeSet)
  | wordEnd (word : CodeSet)
  | wordStartHalf (word : CodeSet)
  | wordEndHalf (word : CodeSet)

/-- Whether a test holds between the characters `before` and `after`. -/
def Look.holds (before after : Option Char) : Look → Bool
  | textStart => before.isNone
  | textEnd => after.isNone
  | lineStart crlf =>
    match before with
    | none => true
    | some c => c == '\n' || (crlf && c == '\r' && after != some '\n')
  | lineEnd crlf =>
    match after with
    | none => true
    | some c => if crlf then c == '\r' || (c == '\n' && before != some '\r') else c == '\n'
  | wordBoundary word negated =>
    (before.any word.contains != after.any word.contains) != negated
  | wordStart word => !before.any word.contains && after.any word.contains
  | wordEnd word => before.any word.contains && !after.any word.contains
  | wordStartHalf word => !before.any word.contains
  | wordEndHalf word => !after.any word.contains

inductive Regex where
  | empty
  | chars (set : CodeSet)
  | look (test : Look)
  | cat (first second : Regex)
  /-- The first alternative is preferred. -/
  | alt (first second : Regex)
  /-- At least `least` times, at most `most` times if there is a limit. -/
  | loop (least : Nat) (most : Option Nat) (greedy : Bool) (body : Regex)
deriving Inhabited

namespace Regex

def catList : List Regex → Regex
  | [] => empty
  | [r] => r
  | r :: rest => cat r (catList rest)

def altList : List Regex → Regex
  | [] => empty
  | [r] => r
  | r :: rest => alt r (altList rest)

/-- Whether the expression can match nothing at all, tests of the place left aside. -/
def nullable : Regex → Bool
  | empty => true
  | chars _ => false
  | look _ => true
  | cat a b => a.nullable && b.nullable
  | alt a b => a.nullable || b.nullable
  | loop least _ _ body => least == 0 || body.nullable

end Regex

end GoldenCapture
