import GoldenCapture.Regex.Pattern

/-!
# The engine

An engine takes a pattern only within limits of its own: how deep its parts are nested, and how
large a program it makes. Where these are depends on the engine and not on what patterns mean.
-/

namespace GoldenCapture.Regex

/-- An engine, by the patterns that keep within its limits. -/
structure Engine where
  admits : String → Bool := fun _ => true

/-- The expression of a pattern that is well formed and within the limits. -/
def Engine.compile? (engine : Engine) (pattern : String) : Option Regex :=
  (ofPattern? pattern).filter fun _ => engine.admits pattern

end GoldenCapture.Regex
