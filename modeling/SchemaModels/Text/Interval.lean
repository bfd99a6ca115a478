/-!
Sets and maps of characters given by code point: closed intervals, intervals of every second
character, and intervals whose characters lie at one distance from their image.
-/

namespace SchemaModels.Text

/-- A row of characters has a property if each of them has it; the row is gone through, not the
characters that there are. -/
instance (priority := high) decidableOnRow {p : Char → Prop} [DecidablePred p] (cs : List Char) :
    Decidable (∀ c ∈ cs, p c) :=
  List.decidableBAll p cs

/-- The characters from the first code point to the second, both included. -/
abbrev Interval := Nat × Nat

/-- Whether some interval of the table holds the character. -/
def covers (table : List Interval) (c : Char) : Bool :=
  table.any fun i => i.1 ≤ c.toNat && c.toNat ≤ i.2

/-- The characters `first`, `first + step`, … up to `last`. -/
structure Stride where
  first : Nat
  last : Nat
  step : Nat

def Stride.contains (s : Stride) (n : Nat) : Bool :=
  s.first ≤ n && n ≤ s.last && (n - s.first) % s.step == 0

/-- Whether some stride of the table holds the character. -/
def strides (table : List Stride) (c : Char) : Bool :=
  table.any (·.contains c.toNat)

/-- The characters of a stride, each mapped to the one `distance` code points further on. -/
structure Shift where
  first : Nat
  last : Nat
  step : Nat
  distance : Int

/-- The image of a character under the first shift that holds it. -/
def shiftOf? (table : List Shift) (c : Char) : Option Char :=
  (table.find? fun s => (Stride.mk s.first s.last s.step).contains c.toNat).map fun s =>
    Char.ofNat ((c.toNat : Int) + s.distance).toNat

/-- The entry of a character in a table of consecutive images, each listed under the first
character of its run. -/
def runImage? {α : Type} (table : List (Nat × List α)) (c : Char) : Option α :=
  (table.find? fun r => r.1 ≤ c.toNat && c.toNat < r.1 + r.2.length).bind fun r =>
    r.2[c.toNat - r.1]?

end SchemaModels.Text
