import SchemaModels.Double
import SchemaModels.Text.Digit

/-!
Floating-point numbers from their text: decimals with or without a point and an exponent, and the
words for infinity and for what is no number, each with a sign or without.
-/

namespace SchemaModels.Double

/-- The number of a row of digits. -/
def digitsValue (ds : List Char) : Nat :=
  Text.numeral 10 (ds.map fun d => d.toNat - 48)

/-- The exponent that ends a number. -/
def exponent? (cs : List Char) : Option Int :=
  match cs with
  | [] => some 0
  | e :: cs =>
    if e = 'e' ∨ e = 'E' then
      let (negative, ds) :=
        match cs with
        | '-' :: ds => (true, ds)
        | '+' :: ds => (false, ds)
        | ds => (false, ds)
      if ds.isEmpty ∨ !ds.all Text.isAsciiDigit then none
      else some (if negative then -(digitsValue ds : Int) else digitsValue ds)
    else none

/-- The number of a decimal without a sign. -/
def decimal? (negative : Bool) (cs : List Char) : Option Double :=
  let whole := cs.takeWhile Text.isAsciiDigit
  let cs := cs.dropWhile Text.isAsciiDigit
  let (places, cs) :=
    match cs with
    | '.' :: rest => (rest.takeWhile Text.isAsciiDigit, rest.dropWhile Text.isAsciiDigit)
    | _ => ([], cs)
  if whole.isEmpty && places.isEmpty then none
  else (exponent? cs).map fun e =>
    ofDecimal negative (digitsValue (whole ++ places)) (e - places.length)

/-- The number of a text. -/
def ofText? (cs : List Char) : Option Double :=
  let (negative, cs) :=
    match cs with
    | '-' :: rest => (true, rest)
    | '+' :: rest => (false, rest)
    | _ => (false, cs)
  let word := String.ofList (cs.map Char.toLower)
  if word = "inf" ∨ word = "infinity" then some (.infinite negative)
  else if word = "nan" then some .nan
  else decimal? negative cs

end SchemaModels.Double
