import GoldenCapture.Regex.Engine
import GoldenCapture.Rule

/-!
# Stripping matches

The transform that takes every match of a pattern out of a value.
-/

namespace GoldenCapture.Transform

/-- Takes every match out. Nothing for a pattern that the engine does not take. -/
def strip? (pattern : String) (engine : Regex.Engine := {}) : Option Transform :=
  (engine.compile? pattern).map fun r => ⟨"strip(" ++ pattern ++ ")", r.removeAll⟩

end GoldenCapture.Transform
