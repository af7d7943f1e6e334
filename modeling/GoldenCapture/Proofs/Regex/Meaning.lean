import GoldenCapture.Regex

/-!
# What expressions match

Which stretches of a text an expression matches, said without a program that looks for them.
-/

namespace GoldenCapture.Regex

/-- A place in a text: the character before it and all that follows. -/
structure Spot where
  before : Option Char
  after : List Char

namespace Spot

end Spot

/-! ## Repetition -/

/-- `n` stretches, each from where the last one ended. -/
def Repeats (spans : Spot → Spot → Prop) : Nat → Spot → Spot → Prop
  | 0, s, t => s = t
  | n + 1, s, t => ∃ m, spans s m ∧ Repeats spans n m t

variable {spans : Spot → Spot → Prop} {s t : Spot}

theorem repeats_one : Repeats spans 1 s t ↔ spans s t := by
  simp [Repeats]

/-- Whether an expression matches the text between two places. A limit below the least number of
rounds does not take any of these away. -/
def Spans : Regex → Spot → Spot → Prop
  | empty, s, t => s = t
  | chars set, s, t => ∃ c rest, s.after = c :: rest ∧ set.contains c = true ∧ t = ⟨some c, rest⟩
  | look test, s, t => s = t ∧ test.holds s.before s.after.head? = true
  | cat a b, s, t => ∃ m, a.Spans s m ∧ b.Spans m t
  | alt a b, s, t => a.Spans s t ∨ b.Spans s t
  | loop least most _ body, s, t =>
    ∃ n, least ≤ n ∧ (∀ limit ∈ most, n ≤ max least limit) ∧ Repeats body.Spans n s t

/-- Whether an expression matches a text from its start to its end. -/
def Matches (r : Regex) (text : String) : Prop :=
  ∃ last, r.Spans ⟨none, text.toList⟩ ⟨last, []⟩

end GoldenCapture.Regex
