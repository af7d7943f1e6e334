/-!
# Doubles

A binary64 number, kept as its 64 bits. Everything a capture does with doubles (telling them
apart, rounding a fraction, scaling by a power of ten) is exact arithmetic on naturals.
-/

namespace GoldenCapture

/-- A binary64 number: sign bit, eleven exponent bits, fifty-two fraction bits. -/
structure Double where
  bits : UInt64
deriving DecidableEq, Inhabited

namespace Double

/-! ## Fields -/

def isNegative (x : Double) : Bool := Nat.pow 2 63 ≤ x.bits.toNat

/-- The bits without the sign. -/
def magnitude (x : Double) : Nat := x.bits.toNat % Nat.pow 2 63

def exponentField (x : Double) : Nat := x.magnitude / Nat.pow 2 52

def fractionField (x : Double) : Nat := x.magnitude % Nat.pow 2 52

/-- The magnitude of the infinities; a larger one is a NaN. -/
def infinityMagnitude : Nat := 2047 * Nat.pow 2 52

def isNaN (x : Double) : Bool := infinityMagnitude < x.magnitude

def isInfinite (x : Double) : Bool := x.magnitude == infinityMagnitude

def isFinite (x : Double) : Bool := x.magnitude < infinityMagnitude

def isZero (x : Double) : Bool := x.magnitude == 0

/-- A finite double has the absolute value `significand * 2 ^ scale`. -/
def significand (x : Double) : Nat :=
  if x.exponentField = 0 then x.fractionField else Nat.pow 2 52 + x.fractionField

def scale (x : Double) : Int :=
  if x.exponentField = 0 then -1074 else (x.exponentField : Int) - 1075

/-- The double with the given sign and magnitude bits. -/
def ofMagnitude (negative : Bool) (magnitude : Nat) : Double :=
  ⟨UInt64.ofNat (magnitude % Nat.pow 2 63 + if negative then Nat.pow 2 63 else 0)⟩

def zero : Double := ofMagnitude false 0
def infinity : Double := ofMagnitude false infinityMagnitude
def nan : Double := ofMagnitude false (infinityMagnitude + Nat.pow 2 51)

def neg (x : Double) : Double := ofMagnitude (!x.isNegative) x.magnitude

/-! ## Sameness -/

/-- Numeric equality with every NaN equal to every NaN, and so a capture to its own copy. -/
def same (x y : Double) : Bool :=
  (x.isNaN && y.isNaN) || (x.isZero && y.isZero) || x.bits == y.bits

/-! ## Rounding -/

/-- A quotient rounded to the nearest natural, a half to the even one. -/
def roundQuotient (num den : Nat) : Nat :=
  let q := num / den
  let r := num % den
  if 2 * r < den then q
  else if den < 2 * r then q + 1
  else if q % 2 = 0 then q else q + 1

/-- The place of the last significand bit of the double nearest to `num / den`. -/
def lastPlace (num den : Nat) : Int :=
  let estimate : Int := (num.log2 : Int) - (den.log2 : Int) - 52
  let top : Int := 52 + estimate
  let reaches : Bool := den * Nat.pow 2 top.toNat ≤ num * Nat.pow 2 (-top).toNat
  max (if reaches then estimate else estimate - 1) (-1074)

/-- The double nearest to `num / den`, ties to the even significand, overflow to infinity. -/
def ofRatio (negative : Bool) (num den : Nat) : Double :=
  if num = 0 then ofMagnitude negative 0
  else
    let place := lastPlace num den
    let m := roundQuotient (num * Nat.pow 2 (-place).toNat) (den * Nat.pow 2 place.toNat)
    ofMagnitude negative (min ((place + 1074).toNat * Nat.pow 2 52 + m) infinityMagnitude)

/-- The double nearest to `num / den * 2 ^ scale`. -/
def ofScaledRatio (negative : Bool) (num den : Nat) (scale : Int) : Double :=
  ofRatio negative (num * Nat.pow 2 scale.toNat) (den * Nat.pow 2 (-scale).toNat)

def ofNat (n : Nat) : Double := ofRatio false n 1

/-- The double nearest to `digits * 10 ^ exponent`. Exponents far outside the range are settled
by size alone, so that no huge power is formed. -/
def ofDecimal (negative : Bool) (digits : Nat) (exponent : Int) : Double :=
  if digits = 0 ∨ exponent + digits.log2 + 1 < -400 then ofMagnitude negative 0
  else if 400 < exponent then ofMagnitude negative infinityMagnitude
  else ofRatio negative (digits * Nat.pow 10 exponent.toNat) (Nat.pow 10 (-exponent).toNat)

/-! ## Arithmetic on finite doubles -/

/-- The rounded product of two finite doubles. -/
def mul (x y : Double) : Double :=
  ofScaledRatio (x.isNegative != y.isNegative) (x.significand * y.significand) 1
    (x.scale + y.scale)

/-- The rounded quotient of two finite doubles, the divisor not zero. -/
def div (x y : Double) : Double :=
  ofScaledRatio (x.isNegative != y.isNegative) x.significand y.significand (x.scale - y.scale)

end Double

end GoldenCapture
