/-!
# Durations

Spans of time, and readings of a clock that never goes back, are natural numbers of nanoseconds.
Here are their units and the text that reports show for them.
-/

namespace GoldenCapture

namespace Duration

def ofMillis (n : Nat) : Nat := n * 1000000
def ofSeconds (n : Nat) : Nat := n * 1000000000

/-- Whole milliseconds; what is left is cut off. -/
def millis (d : Nat) : Nat := d / 1000000

/-- `whole` units and `part` of `10 ^ places` parts of one, without zeros at the end. -/
def fractionText (whole part places : Nat) : String :=
  let digits := Nat.toDigits 10 part
  let padded := List.replicate (places - digits.length) '0' ++ digits
  let kept := (padded.reverse.dropWhile (· = '0')).reverse
  toString whole ++ if kept.isEmpty then "" else "." ++ String.ofList kept

/-- The duration in the largest unit, from seconds to nanoseconds, of which it holds one. -/
def text (d : Nat) : String :=
  if 1000000000 ≤ d then fractionText (d / 1000000000) (d % 1000000000) 9 ++ "s"
  else if 1000000 ≤ d then fractionText (d / 1000000) (d % 1000000) 6 ++ "ms"
  else if 1000 ≤ d then fractionText (d / 1000) (d % 1000) 3 ++ "µs"
  else toString d ++ "ns"

end Duration

end GoldenCapture
