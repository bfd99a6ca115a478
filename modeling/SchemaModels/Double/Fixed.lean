import SchemaModels.Double.Shortest

/-!
Decimals of a given precision: with a number of places, with an exponent, or in the shorter of the
two forms. A number is rounded to its nearest decimal of that precision, a tie to the even one.
-/

namespace SchemaModels.Double

/-- Digits with the last `places` of them after the point. `point` keeps a point that no digit
follows. -/
def placePoint (point : Bool) (places n : Nat) : List Char :=
  let ds := Nat.toDigits 10 n
  let ds := List.replicate (places + 1 - ds.length) '0' ++ ds
  let whole := ds.take (ds.length - places)
  if places = 0 ∧ ¬ point then whole else whole ++ '.' :: ds.drop (ds.length - places)

/-- `num / den` with the given number of places. -/
def fixed (point : Bool) (places num den : Nat) : List Char :=
  placePoint point places (roundQuotient (num * Nat.pow 10 places) den)

/-- `num / den` as a number of `places + 1` digits and the exponent of the first one. -/
def rounded (places num den : Nat) : Nat × Int :=
  if num = 0 then (0, 0)
  else
    let e := decimalPoint num den - 1
    let shift : Int := places - e
    let (n, d) :=
      if 0 ≤ shift then (num * Nat.pow 10 shift.toNat, den)
      else (num, den * Nat.pow 10 (-shift).toNat)
    let k := roundQuotient n d
    if k = Nat.pow 10 (places + 1) then (Nat.pow 10 places, e + 1) else (k, e)

/-- The exponent, with a sign and two digits at least. -/
def exponentText (e : Int) : List Char :=
  let magnitude := Nat.toDigits 10 e.natAbs
  'e' :: (if e < 0 then '-' else '+') ::
    (if magnitude.length < 2 then '0' :: magnitude else magnitude)

/-- `num / den` with one digit in front of the point, the given number behind it, and an
exponent. -/
def scientific (point : Bool) (places num den : Nat) : List Char :=
  let (k, e) := rounded places num den
  placePoint point places k ++ exponentText e

/-- Without the zeros that end the places, and without a point that nothing follows. -/
def dropPlaces (cs : List Char) : List Char :=
  if cs.contains '.' then
    match dropZeros cs with
    | ds => if ds.getLast? = some '.' then ds.dropLast else ds
  else cs

/-- `num / den` with the given number of digits, positional where the exponent lies from `-4` up to
that number. `point` keeps the zeros that end the places. -/
def general (point : Bool) (digits num den : Nat) : List Char :=
  let digits := max digits 1
  let (k, e) := rounded (digits - 1) num den
  let tidy := if point then id else dropPlaces
  if -4 ≤ e ∧ e < digits then tidy (fixed point (digits - 1 - e).toNat num den)
  else tidy (placePoint point (digits - 1) k) ++ exponentText e

end SchemaModels.Double
