import SchemaModels.Double

/-!
The shortest decimal that reads back as a given floating-point number, and its layout.
-/

namespace SchemaModels.Double

/-- The exponent `p` with `10 ^ (p - 1) ≤ num / den < 10 ^ p`, for a quotient above
`10 ^ (-400)`. -/
def decimalPoint (num den : Nat) : Int :=
  (decimalLength (num * Nat.pow 10 400 / den) : Int) - 400

/-- Of the two decimals of `digits` digits around `num / den`, the nearest one that reads back as
`x`; `p` is the decimal point of the quotient. -/
def onGrid? (x : Double) (num den : Nat) (p : Int) (digits : Nat) : Option Nat :=
  let e : Int := p - digits
  let (n, d) :=
    if 0 ≤ e then (num, den * Nat.pow 10 e.toNat) else (num * Nat.pow 10 (-e).toNat, den)
  let low := n / d
  let readsBack := fun k => ofDecimal false k e == x
  let nearest := roundQuotient n d
  if readsBack nearest then some nearest
  else if readsBack low then some low
  else if readsBack (low + 1) then some (low + 1)
  else none

/-- Without trailing zeros. -/
def dropZeros (ds : List Char) : List Char :=
  (ds.reverse.dropWhile (· == '0')).reverse

/-- The digits and the decimal point of the shortest decimal that reads back as a number above
zero: the fewest digits, and of those the nearest. Seventeen digits always suffice. -/
def shortest (x : Double) (num den : Nat) : List Char × Int :=
  let p := decimalPoint num den
  match (List.range 17).findSome? fun k => (onGrid? x num den p (k + 1)).map (·, k + 1) with
  | some (n, k) => (dropZeros (Nat.toDigits 10 n), p + decimalLength n - k)
  | none => (['0'], 1)

/-- Decimal text: positional while the point lies within sixteen digits and at most three zeros
follow it, otherwise with an exponent of at least two digits; a whole number keeps `.0`. -/
def layout (ds : List Char) (p : Int) : List Char :=
  if -4 < p ∧ p ≤ 16 then
    if p ≤ 0 then '0' :: '.' :: List.replicate (-p).toNat '0' ++ ds
    else if ds.length ≤ p.toNat then
      ds ++ List.replicate (p.toNat - ds.length) '0' ++ ['.', '0']
    else ds.take p.toNat ++ '.' :: ds.drop p.toNat
  else
    let e := p - 1
    let magnitude := Nat.toDigits 10 e.natAbs
    ds.take 1 ++ (if ds.length ≤ 1 then [] else '.' :: ds.drop 1) ++
      'e' :: (if e < 0 then '-' else '+') ::
      (if magnitude.length < 2 then '0' :: magnitude else magnitude)

/-- The text of a floating-point number. -/
def text : Double → String
  | .nan => "nan"
  | .infinite negative => if negative then "-inf" else "inf"
  | .finite negative m e =>
    let sign := if negative then ['-'] else []
    if m = 0 then String.ofList (sign ++ ['0', '.', '0'])
    else
      let f := scaled m 1 (-e)
      let (ds, p) := shortest (.finite false m e) f.1 f.2
      String.ofList (sign ++ layout ds p)

end SchemaModels.Double
