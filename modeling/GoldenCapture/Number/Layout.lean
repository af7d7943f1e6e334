import GoldenCapture.Number.Shortest

/-!
# Number layouts

How the digits of a double are laid out as text. Each output format is one record of decisions.
-/

namespace GoldenCapture

/-- The decisions of one output format. -/
structure NumberLayout where
  /-- Point places written without an exponent: more than `positionalAbove`, at most
  `positionalUpTo`; `none` writes every number without one. -/
  positional : Option (Int × Int)
  /-- What follows the `e` of a positive exponent. -/
  exponentSign : String
  /-- What follows an integral number. -/
  integralTail : String
  nan : String
  infinity : String
  negativeInfinity : String

namespace NumberLayout

def zeros (n : Int) : String := String.ofList (List.replicate n.toNat '0')

/-- The digits with the point at `place` and no exponent. -/
def positionalText (layout : NumberLayout) (digits : List Char) (place : Int) : String :=
  if place ≤ 0 then "0." ++ zeros (-place) ++ String.ofList digits
  else if (digits.length : Int) ≤ place then
    String.ofList digits ++ zeros (place - digits.length) ++ layout.integralTail
  else String.ofList (digits.take place.toNat) ++ "." ++ String.ofList (digits.drop place.toNat)

/-- The first digit, a point, the rest, and the exponent. -/
def exponentText (layout : NumberLayout) (digits : List Char) (place : Int) : String :=
  let fraction := digits.drop 1
  let mantissa := String.ofList (digits.take 1) ++
    if fraction.isEmpty then "" else "." ++ String.ofList fraction
  let exponent := place - 1
  mantissa ++ "e" ++ (if exponent < 0 then "" else layout.exponentSign) ++ toString exponent

/-- The text of a double. -/
def text (layout : NumberLayout) (x : Double) : String :=
  if x.isNaN then layout.nan
  else if x.isInfinite then
    if x.isNegative then layout.negativeInfinity else layout.infinity
  else
    let sign := if x.isNegative then "-" else ""
    if x.isZero then sign ++ "0" ++ layout.integralTail
    else
      let d := x.shortest
      let digits := d.text
      let place := d.pointPlace
      match layout.positional with
      | none => sign ++ positionalText layout digits place
      | some (above, upTo) =>
        if above < place ∧ place ≤ upTo then sign ++ positionalText layout digits place
        else sign ++ exponentText layout digits place

end NumberLayout

end GoldenCapture
