import SchemaModels.Module.Render

/-!
The module that every package has for geographic points. It depends on no collection.
-/

namespace SchemaModels.ModelModule

/-- The class of geographic points. -/
def geoPointClass : ClassSpec where
  name := "GeoPointData"
  docstring := "Geographic point of a PocketBase geoPoint field."
  members :=
    [{ identifier := "longitude", rawName := "lon", hint := "float", nullable := false,
       meaning? := some .double },
     { identifier := "latitude", rawName := "lat", hint := "float", nullable := false,
       meaning? := some .double }]

/-- The module of geographic points. -/
def geoPoint : Except Fault ModelModule := do
  let imports ← headImports geoPointClass [] none
  .ok { name := FixedModule.geoPoint.name
        docstring := "Geographic point model for PocketBase geoPoint fields.\n\n" ++ notice ++ "\n"
        imports
        enums := []
        dataClass := geoPointClass }

end SchemaModels.ModelModule
