/-!
Binary floating-point numbers of 64 bits as exact values: `mantissa * 2 ^ exponent`. A decimal or
a quotient is rounded to the nearest one, a tie to the even mantissa.
-/

namespace SchemaModels

/-- A floating-point number of 64 bits. A finite one is `mantissa * 2 ^ exponent`; those that
`ofRatio` makes have a mantissa below `2 ^ 53` and an exponent from `-1074` to `971`, and the
mantissa is at least `2 ^ 52` unless the exponent is `-1074`. -/
inductive Double where
  | nan
  | infinite (negative : Bool)
  | finite (negative : Bool) (mantissa : Nat) (exponent : Int)
  deriving DecidableEq, Inhabited

namespace Double

/-- The zero of the given sign. -/
def zero (negative : Bool) : Double := .finite negative 0 (-1074)

/-- `num / den` rounded to the nearest natural number, a tie to the even one. -/
def roundQuotient (num den : Nat) : Nat :=
  let q := num / den
  let r := num % den
  if 2 * r < den then q else if den < 2 * r then q + 1 else if q % 2 = 0 then q else q + 1

/-- `num / den * 2 ^ (-e)` as a fraction of natural numbers. -/
def scaled (num den : Nat) (e : Int) : Nat × Nat :=
  if 0 ≤ e then (num, den * Nat.pow 2 e.toNat) else (num * Nat.pow 2 (-e).toNat, den)

/-- The floating-point number nearest to `num / den`. -/
def ofRatio (negative : Bool) (num den : Nat) : Double :=
  if num = 0 then zero negative
  else
    let e₀ : Int := max (Nat.log2 num - Nat.log2 den - 52) (-1074)
    let f₀ := scaled num den e₀
    let e := if f₀.1 / f₀.2 < Nat.pow 2 52 ∧ -1074 < e₀ then e₀ - 1 else e₀
    let f := scaled num den e
    let m := roundQuotient f.1 f.2
    let (m, e) := if m = Nat.pow 2 53 then (Nat.pow 2 52, e + 1) else (m, e)
    if 971 < e then .infinite negative else .finite negative m e

/-- The number of decimal digits. -/
def decimalLength (n : Nat) : Nat :=
  (Nat.toDigits 10 n).length

/-- The floating-point number nearest to `digits * 10 ^ exponent`. Far outside the range of the
format the answer is known without computing the power. -/
def ofDecimal (negative : Bool) (digits : Nat) (exponent : Int) : Double :=
  if digits = 0 then zero negative
  else
    let magnitude := exponent + decimalLength digits
    if 310 < magnitude then .infinite negative
    else if magnitude < -330 then zero negative
    else if 0 ≤ exponent then ofRatio negative (digits * Nat.pow 10 exponent.toNat) 1
    else ofRatio negative digits (Nat.pow 10 (-exponent).toNat)

/-- The floating-point number nearest to an integer. -/
def ofInt (n : Int) : Double :=
  if n = 0 then zero false else ofRatio (n < 0) n.natAbs 1

/-- The number is a zero of either sign. -/
def isZero : Double → Bool
  | .finite _ m _ => m == 0
  | _ => false

/-- The value as `signed numerator / denominator`, for a finite number. -/
def ratio? : Double → Option (Int × Nat)
  | .finite negative m e =>
    let f := scaled m 1 (-e)
    some (if negative then -f.1 else f.1, f.2)
  | _ => none

/-- The integer part of a finite number. -/
def truncate? (x : Double) : Option Int :=
  x.ratio?.map fun (n, d) => n.tdiv d

/-- The order of an integer and a floating-point number by value; nothing compares with `nan`. -/
def compareInt? (n : Int) (x : Double) : Option Ordering :=
  match x with
  | .nan => none
  | .infinite negative => some (if negative then .gt else .lt)
  | .finite .. => x.ratio?.map fun (num, den) => compare (n * den) num

/-- The floating-point number nearest to a fraction. -/
def ofFraction (num : Int) (den : Nat) : Double :=
  if num = 0 then zero false else ofRatio (num < 0) num.natAbs den

/-- The opposite number. -/
def negate : Double → Double
  | .nan => .nan
  | .infinite negative => .infinite (!negative)
  | .finite negative m e => .finite (!negative) m e

/-- The sum, rounded. -/
def add (x y : Double) : Double :=
  match x, y with
  | .infinite a, .infinite b => if a = b then x else .nan
  | .infinite _, .finite .. => x
  | .finite .., .infinite _ => y
  | .nan, _ | _, .nan => .nan
  | x, y =>
    match x.ratio?, y.ratio? with
    | some (a, b), some (c, d) => ofFraction (a * d + c * b) (b * d)
    | _, _ => .nan

/-- A multiple above zero, rounded. -/
def scale (n : Nat) (x : Double) : Double :=
  match x.ratio? with
  | some (a, b) => ofFraction (a * n) b
  | none => x

/-- Whether two numbers have one value: zeros of both signs do, `nan` differs from itself. -/
def sameValue (x y : Double) : Bool :=
  match x.ratio?, y.ratio? with
  | some (a, b), some (c, d) => a * d == c * b
  | none, none => x != .nan && x == y
  | _, _ => false

/-- The number is above zero. -/
def isPositive (x : Double) : Bool :=
  compareInt? 0 x == some .lt

end Double

end SchemaModels
