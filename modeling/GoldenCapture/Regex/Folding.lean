import GoldenCapture.Text.LowerCase

/-!
# Case folding

Which characters count as one letter when case is ignored: those with the same small letter, and
the variants of a letter that the standard folds into it. Folding may be kept to ASCII.
-/

namespace GoldenCapture.Folding

/-- Variants of a letter that have no case of their own, with the small letter they fold to. -/
def variants : List (Nat × Nat) := [
  (0xB5, 0x3BC), (0x17F, 0x73), (0x345, 0x3B9), (0x3C2, 0x3C3), (0x3D0, 0x3B2), (0x3D1, 0x3B8),
  (0x3D5, 0x3C6), (0x3D6, 0x3C0), (0x3F0, 0x3BA), (0x3F1, 0x3C1), (0x3F5, 0x3B5),
  (0x1C80, 0x432), (0x1C81, 0x434), (0x1C82, 0x43E), (0x1C83, 0x441), (0x1C84, 0x442),
  (0x1C85, 0x442), (0x1C86, 0x44A), (0x1C87, 0x463), (0x1C88, 0xA64B), (0x1E9B, 0x1E61),
  (0x1FBE, 0x3B9), (0x1FD3, 0x390), (0x1FE3, 0x3B0), (0xFB05, 0xFB06)]

/-- Every capital letter of ASCII, with its small letter. -/
def asciiPairs : List (Nat × Nat) := (List.range 26).map fun i => (65 + i, 97 + i)

/-- Every character that folds to another one, with that one. -/
def pairs : List (Nat × Nat) :=
  asciiPairs ++ variants ++
  LowerCase.runs.flatMap fun (first, last, stride, distance) =>
    (List.range ((last - first) / stride + 1)).map fun i =>
      let c := first + i * stride
      (c, ((c : Int) + distance).toNat)

/-- The set with every character that folds like one of its members, by such pairs. -/
def closeBy (pairs : List (Nat × Nat)) (s : CodeSet) : CodeSet :=
  let targets := pairs.filterMap fun (c, t) => if s.containsCode c then some (t, t) else none
  let s := s.union (CodeSet.ofList targets)
  s.union (CodeSet.ofList (pairs.filterMap fun (c, t) =>
    if s.containsCode t then some (c, c) else none))

def close (s : CodeSet) : CodeSet := closeBy pairs s

def closeAscii (s : CodeSet) : CodeSet := closeBy asciiPairs s

end GoldenCapture.Folding
