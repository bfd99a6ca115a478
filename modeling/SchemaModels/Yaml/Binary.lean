/-!
Bytes written in sixty-four characters: each character stands for six bits. Other characters count
for nothing, and the signs that fill up the last group end the text.
-/

namespace SchemaModels.Yaml.Binary

/-- The six bits of a character. -/
def bits? (c : Char) : Option Nat :=
  if 'A' ≤ c && c ≤ 'Z' then some (c.toNat - 65)
  else if 'a' ≤ c && c ≤ 'z' then some (c.toNat - 71)
  else if '0' ≤ c && c ≤ '9' then some (c.toNat + 4)
  else if c == '+' then some 62
  else if c == '/' then some 63
  else none

/-- The characters of a text up to the signs that fill up its last group. `place` is the place
within the group, and `signs` how many of those signs have come since the last character. Nothing if
the last group is too short. -/
def groups? (place signs : Nat) : List Char → Option (List Nat)
  | [] => if place = 0 then some [] else none
  | c :: cs =>
    if c = '=' then
      if 2 ≤ place then
        if 4 ≤ place + signs + 1 then some [] else groups? place (signs + 1) cs
      else groups? place signs cs
    else match bits? c with
      | none => groups? place signs cs
      | some b => (groups? ((place + 1) % 4) 0 cs).map (b :: ·)

/-- The bytes of groups of six bits. -/
def bytes : List Nat → List UInt8
  | a :: b :: c :: d :: rest =>
    (a * 4 + b / 16).toUInt8 :: (b % 16 * 16 + c / 4).toUInt8 :: (c % 4 * 64 + d).toUInt8 ::
      bytes rest
  | [a, b, c] => [(a * 4 + b / 16).toUInt8, (b % 16 * 16 + c / 4).toUInt8]
  | [a, b] => [(a * 4 + b / 16).toUInt8]
  | _ => []

/-- The bytes of a text. -/
def ofText? (cs : List Char) : Option (List UInt8) :=
  (groups? 0 0 cs).map bytes

end SchemaModels.Yaml.Binary
