import SchemaModels.Text.Printable.Table

/-!
Which characters a string literal shows as they are.
-/

namespace SchemaModels.Text

/-- The character is shown as it is; among the ASCII characters these are the space and all
visible ones. -/
def isPrintable (c : Char) : Bool :=
  if c.toNat < 0x7F then 0x20 ≤ c.toNat else !covers unprintableIntervals c

end SchemaModels.Text
