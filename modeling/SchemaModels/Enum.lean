import SchemaModels.Log
import SchemaModels.Naming.Checked

/-!
Enums of select fields: one variant for each value that the field allows, under an identifier made
from the value. Values that become one identifier are refused, never merged.
-/

namespace SchemaModels

/-- A variant of an enum: its identifier and the value it stands for. -/
structure Variant where
  identifier : String
  value : String
  deriving DecidableEq, Inhabited

/-- The enum of a select field. -/
structure EnumSpec where
  name : String
  field : Json
  variants : List Variant
  deriving Inhabited

namespace EnumSpec

/-- The variant that stands for a value. -/
def variant? (e : EnumSpec) (value : Json) : Option Variant :=
  e.variants.find? fun v => (Json.text v.value).same value

/-- The variant that stands for a value, which must be one of the enum's. -/
def ofValue (e : EnumSpec) (value : Json) : Outcome Variant :=
  match e.variant? value with
  | some v => .ok v
  | none => .error (.problem (.invalidValue e.name value))

/-- Adds the variants of further values to those that are there. -/
def extend (name : String) (field : Json) : (seen : List Variant) → List String →
    Outcome (List Variant)
  | seen, [] => .ok seen
  | seen, value :: rest =>
    let identifier := Naming.variantName value
    match seen.find? (·.identifier == identifier) with
    | some v => .error (.problem (.duplicateVariant name identifier field v.value value))
    | none => extend name field (seen ++ [⟨identifier, value⟩]) rest

/-- The enum of a select field, with its variants in the order of the values. -/
def ofField (f : Field) : Outcome EnumSpec := do
  let name ← Outcome.ofFault (Naming.enumTypeNameOf f.name)
  let variants ← extend name f.name [] f.selectValues
  .ok { name, field := f.name, variants }

/-- The enum of a select field, with a note on its size. -/
def resolve (f : Field) : Logged EnumSpec := do
  let e ← Logged.ofOutcome (ofField f)
  Logged.note .debug s!"Synthesized enum {e.name} with {e.variants.length} variants"
  pure e

/-- The enums of a collection's select fields, in declaration order. -/
def ofCollection (c : Collection) : Logged (List EnumSpec) :=
  (c.fields.filter (·.kind = .select)).mapM resolve

end EnumSpec

end SchemaModels
