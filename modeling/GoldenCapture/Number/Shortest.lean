import GoldenCapture.Number.Double

/-!
# Shortest decimals

The decimal with the fewest digits that reads back to a given double, and of those the nearest.
-/

namespace GoldenCapture

/-- The number `digits * 10 ^ exponent`. -/
structure Decimal where
  digits : Nat
  exponent : Int
deriving DecidableEq, Inhabited

namespace Decimal

/-- Drops the zeros at the end of the digits. -/
def trim : Nat → Decimal → Decimal
  | 0, d => d
  | fuel + 1, d =>
    if d.digits ≠ 0 ∧ d.digits % 10 = 0 then trim fuel ⟨d.digits / 10, d.exponent + 1⟩ else d

/-- The digits, first to last. -/
def text (d : Decimal) : List Char := Nat.toDigits 10 d.digits

/-- Where the point stands: the number is `0.d₁d₂… * 10 ^ pointPlace`. -/
def pointPlace (d : Decimal) : Int := d.exponent + d.text.length

/-- Whether the decimal reads back to the absolute value of `x`. -/
def readsBack (x : Double) (d : Decimal) : Bool :=
  (Double.ofDecimal false d.digits d.exponent).magnitude == x.magnitude

end Decimal

namespace Double

/-- The absolute value of a finite double as a fraction. -/
def ratio (x : Double) : Nat × Nat :=
  (x.significand * Nat.pow 2 x.scale.toNat, Nat.pow 2 (-x.scale).toNat)

/-- The least `k` with `num / den < 10 ^ k`, found from an estimate that is at most one short. -/
def decimalPlace (num den : Nat) : Int :=
  let bits : Int := (num.log2 : Int) - (den.log2 : Int)
  let estimate : Int := (bits - 1) * 30103 / 100000
  let below (k : Int) : Bool := num * Nat.pow 10 (-k).toNat < den * Nat.pow 10 k.toNat
  if below estimate then estimate
  else if below (estimate + 1) then estimate + 1
  else if below (estimate + 2) then estimate + 2
  else estimate + 3

/-- The two neighbours of `num / den` on the grid of multiples of `10 ^ grid`, the nearer first. -/
def neighbours (num den : Nat) (grid : Int) : List Decimal :=
  let n := num * Nat.pow 10 (-grid).toNat
  let d := den * Nat.pow 10 grid.toNat
  let low := n / d
  if 2 * (n % d) < d ∨ (2 * (n % d) = d ∧ low % 2 = 0) then [⟨low, grid⟩, ⟨low + 1, grid⟩]
  else [⟨low + 1, grid⟩, ⟨low, grid⟩]

/-- The exact decimal value of a finite double. -/
def exactDecimal (x : Double) : Decimal :=
  ⟨x.significand * Nat.pow 2 x.scale.toNat * Nat.pow 5 (-x.scale).toNat, -((-x.scale).toNat : Int)⟩

/-- The shortest decimal that reads back to the absolute value of a finite double: of one, two,
… seventeen digits the first grid with a hit wins. -/
def shortest (x : Double) : Decimal :=
  let (num, den) := x.ratio
  let place := decimalPlace num den
  let candidates := (List.range 17).flatMap fun (n : Nat) =>
    neighbours num den (place - (n + 1 : Nat))
  let found := (candidates.find? (Decimal.readsBack x)).getD x.exactDecimal
  found.trim 400

end Double

end GoldenCapture
