import SchemaModels.Proofs.Server.Collections

/-!
# Two layouts of a collection

Older servers keep the options of a field in an object of their own, and the fields under another
key. `Field.Moved raw raw'` and `Collection.Moved raw raw'` say that the second value is the first
one in the older layout, by what is under the keys that are read: where the keys stand, and what
other entries there are, is left open. `nested` is one way to move the options.

An option is found in either layout (`Field.option_moved`), so a field and a collection are read
alike in both, with what is logged, accepted and refused (`Field.ofJson_moved`,
`Collection.ofJson_moved`).
-/

namespace SchemaModels

open Json (under)

/-- The entries whose keys pass a test. -/
theorem Json.lookup_filter {α : Type} (p : String → Bool) (key : String)
    (entries : List (String × α)) : (entries.filter fun e => p e.1).lookup key =
      if p key then entries.lookup key else none := by
  induction entries with
  | nil => simp
  | cons e entries ih =>
    obtain ⟨k, v⟩ := e
    rw [List.filter_cons]
    by_cases hkey : key = k
    · subst hkey
      cases hp : p key with
      | true => simp
      | false => simpa [hp] using ih
    · have hne : (key == k) = false := beq_eq_false_iff_ne.mpr hkey
      cases hp : p k with
      | true => simpa [List.lookup_cons, hne] using ih
      | false => simpa [List.lookup_cons, hne] using ih

variable {raw raw' collection name rawType : Json} {entries entries' : List (String × Json)}
  {key : String}

/-- What is beside an entry that takes the place of those under some keys. -/
theorem Json.lookup_replaced {keys : List String} {new : String} {v : Json}
    (hkey : (key == new) = false) :
    (entries.filter (fun e => !keys.contains e.1) ++ [(new, v)]).lookup key =
      if keys.contains key then none else entries.lookup key := by
  rw [List.lookup_append, Json.lookup_filter fun k => !keys.contains k]
  cases keys.contains key <;> simp [List.lookup_cons, hkey]

/-- The entry that takes their place. -/
theorem Json.lookup_replacement {keys : List String} {new : String} {v : Json}
    (hnew : keys.contains new = true ∨ entries.lookup new = none) :
    (entries.filter (fun e => !keys.contains e.1) ++ [(new, v)]).lookup new = some v := by
  rw [List.lookup_append, Json.lookup_filter fun k => !keys.contains k]
  rcases hnew with hnew | hnew
  · rw [hnew]
    simp
  · simp [hnew]

/-! ## Fields -/

namespace Field

/-- The entries of a field that are read apart from its options. -/
def plainKeys : List String := ["name", "type", "required"]

/-- The options of a field that are read. -/
def optionKeys : List String := ["values", "maxSelect", "collectionId"]

/-- A field whose options are beside its other entries. -/
def IsFlat : Json → Prop
  | .object entries => entries.lookup "options" = none
  | _ => True

/-- **The second value is the first one, a flat field, with its options moved**: they are in an
object under `options`, and nowhere else. A value that is no object is left as it is. -/
inductive Moved : Json → Json → Prop
  | object {entries entries' : List (String × Json)} (options : List (String × Json))
      (flat : entries.lookup "options" = none)
      (plain : ∀ key ∈ plainKeys, entries'.lookup key = entries.lookup key)
      (gone : ∀ key ∈ optionKeys, entries'.lookup key = none)
      (nested : entries'.lookup "options" = some (.object options))
      (moved : ∀ key ∈ optionKeys, options.lookup key = entries.lookup key) :
      Moved (.object entries) (.object entries')
  | other {raw : Json} (h : ∀ entries, raw ≠ .object entries) : Moved raw raw

/-- A field with its options moved. -/
def nested : Json → Json
  | .object entries => .object (entries.filter (fun e => !optionKeys.contains e.1) ++
      [("options", .object (entries.filter fun e => optionKeys.contains e.1))])
  | raw => raw

theorem moved_nested (h : IsFlat raw) : Moved raw (nested raw) := by
  cases raw with
  | object entries =>
    have hflat : entries.lookup "options" = none := h
    refine .object (entries.filter fun e => optionKeys.contains e.1) hflat ?plain ?gone ?nested
      ?moved
    case plain =>
      intro key hkey
      have hplain : ∀ k ∈ plainKeys, optionKeys.contains k = false ∧ (k == "options") = false := by
        decide
      obtain ⟨hoption, hne⟩ := hplain key hkey
      rw [Json.lookup_replaced hne, hoption]
      rfl
    case gone =>
      intro key hkey
      have hoptions : ∀ k ∈ optionKeys,
          optionKeys.contains k = true ∧ (k == "options") = false := by
        decide
      obtain ⟨hoption, hne⟩ := hoptions key hkey
      rw [Json.lookup_replaced hne, hoption]
      rfl
    case nested => exact Json.lookup_replacement (.inr hflat)
    case moved =>
      intro key hkey
      rw [Json.lookup_filter optionKeys.contains, if_pos (List.contains_iff_mem.mpr hkey)]
  | _ => exact .other fun entries => by simp

/-- **An option is found in either layout.** -/
theorem option_moved (h : Moved raw raw') (key : String) (hkey : key ∈ optionKeys) :
    option raw' key = option raw key := by
  cases h with
  | other => rfl
  | @object entries entries' options flat plain gone nested hmoved =>
    have hraw : option (.object entries) key = .ok (under key entries) := by
      unfold option
      rw [Json.lookup_object]
      unfold under
      cases hlookup : entries.lookup key with
      | some v => rfl
      | none =>
        show (under "options" entries |>.orElse (.object [])).entry key = _
        rw [under, flat]
        rfl
    have hnested : option (.object entries') key =
        (Json.orElse (.object options) (.object [])).entry
        key := by
      unfold option
      rw [Json.lookup_object, gone key hkey]
      show (under "options" entries' |>.orElse (.object [])).entry key = _
      rw [under, nested]
      rfl
    -- An object without options counts as absent, and the one in its place has no entries either.
    have hblank : Json.orElse (.object options) (.object []) = .object options := by
      cases options <;> rfl
    rw [hraw, hnested, hblank, Json.entry_object, under, under, hmoved key hkey]

theorem entry_moved (h : Moved raw raw') (key : String) (hkey : key ∈ plainKeys) :
    raw'.entry key = raw.entry key := by
  cases h with
  | other => rfl
  | object options flat plain gone nested hmoved =>
    rw [Json.entry_object, Json.entry_object, under, under, plain key hkey]

theorem readExtra_moved (h : Moved raw raw') (kind : FieldKind) :
    readExtra raw' collection name rawType kind = readExtra raw collection name rawType kind := by
  cases kind with
  | select =>
    unfold readExtra readValues
    rw [option_moved h "values" (by decide)]
  | relation =>
    unfold readExtra readRelation
    rw [option_moved h "maxSelect" (by decide),
      option_moved h "collectionId" (by decide)]
  | _ => rfl

/-- **A field is read alike in both layouts.** -/
theorem ofJson_moved (h : Moved raw raw') : ofJson raw' collection = ofJson raw collection := by
  unfold ofJson
  rw [entry_moved h "name" (by decide), entry_moved h "type" (by decide),
    entry_moved h "required" (by decide)]
  simp only [readExtra_moved h]

end Field

/-! ## Collections -/

namespace Collection

/-- The entries of a collection that are read apart from its fields. -/
def plainKeys : List String := ["id", "name", "type", "system"]

/-- **A collection in the newer layout**: a list of flat fields under the newer key. -/
def IsFlat (raw : Json) : Prop :=
  ∃ entries fields, raw = .object entries ∧ entries.lookup "fields" = some (.list fields) ∧
    ∀ f ∈ fields, Field.IsFlat f

/-- **The second value is the first one, in the newer layout, rewritten to the older**: the fields
are under the older key, each with its options moved, and there is nothing under the newer key. -/
inductive Moved : Json → Json → Prop
  | intro {entries entries' : List (String × Json)} {fields : List Json} (fields' : List Json)
      (flat : entries.lookup "fields" = some (.list fields))
      (plain : ∀ key ∈ plainKeys, entries'.lookup key = entries.lookup key)
      (gone : entries'.lookup "fields" = none)
      (nested : entries'.lookup "schema" = some (.list fields'))
      (moved : List.Forall₂ Field.Moved fields fields') :
      Moved (.object entries) (.object entries')

/-- The fields in a value, with their options moved. -/
def nestedFields : Json → Json
  | .list fields => .list (fields.map Field.nested)
  | v => v

/-- The keys that fields can be under. -/
def fieldKeys : List String := ["fields", "schema"]

/-- A collection with the options of its fields moved, and its fields under the older key. -/
def nested : Json → Json
  | .object entries => .object (entries.filter (fun e => !fieldKeys.contains e.1) ++
      [("schema", nestedFields (under "fields" entries))])
  | raw => raw

theorem moved_nested (h : IsFlat raw) : Moved raw (nested raw) := by
  obtain ⟨entries, fields, rfl, hfields, hflat⟩ := h
  refine .intro (fields.map Field.nested) hfields ?plain ?gone ?nested ?moved
  case plain =>
    intro key hkey
    have hplain : ∀ k ∈ plainKeys, fieldKeys.contains k = false ∧ (k == "schema") = false := by
      decide
    obtain ⟨hfield, hne⟩ := hplain key hkey
    rw [Json.lookup_replaced hne, hfield]
    rfl
  case gone => exact Json.lookup_replaced rfl
  case nested =>
    refine (Json.lookup_replacement (.inl rfl)).trans ?_
    rw [under, hfields]
    rfl
  case moved =>
    rw [List.forall₂_map_right_iff]
    exact List.forall₂_same.mpr fun f hf => Field.moved_nested (hflat f hf)

/-- The fields that are found are those of the newer layout, each with its options moved. -/
theorem exists_rawFields_moved (h : Moved raw raw') : ∃ fields fields',
    rawFields raw = .ok fields ∧ rawFields raw' = .ok fields' ∧
      List.Forall₂ Field.Moved fields fields' := by
  cases h with
  | @intro entries entries' fields fields' flat plain gone nested hmoved =>
    refine ⟨fields, fields', ?_, ?_, hmoved⟩
    · rw [rawFields_object, fieldsValue, under, flat]
      rfl
    · rw [rawFields_object, fieldsValue, under, gone, under, nested]
      -- A list of no fields counts as absent, and so does the one in its place.
      cases fields' <;> rfl

theorem mapM_moved {fields fields' : List Json} (h : List.Forall₂ Field.Moved fields fields') :
    fields'.mapM (Field.ofJson · collection) = fields.mapM (Field.ofJson · collection) := by
  induction h with
  | nil => rfl
  | cons hfield _ ih => rw [List.mapM_cons, List.mapM_cons, Field.ofJson_moved hfield, ih]

theorem lookup_moved (h : Moved raw raw') (key : String) (hkey : key ∈ plainKeys) :
    raw'.entry? key = raw.entry? key := by
  cases h with
  | intro fields' flat plain gone nested hmoved =>
    rw [Json.lookup_object, Json.lookup_object, plain key hkey]

/-- **A collection is read alike in both layouts.** -/
theorem ofJson_moved (h : Moved raw raw') : ofJson raw' = ofJson raw := by
  obtain ⟨fields, fields', hfields, hfields', hmoved⟩ := exists_rawFields_moved h
  unfold ofJson Json.entry
  rw [lookup_moved h "name" (by decide), lookup_moved h "id" (by decide),
    lookup_moved h "type" (by decide), lookup_moved h "system" (by decide),
    hfields, hfields']
  simp only [Logged.ofChecked_ok, pure_bind, mapM_moved hmoved]

/-- **Both layouts ingest alike.** A collection in the newer layout can be rewritten to the older
one, and however that is done, the same is read from it: an equal collection or the same failure,
with the same log. -/
theorem layouts_alike (h : IsFlat raw) :
    Moved raw (nested raw) ∧ ∀ raw', Moved raw raw' → ofJson raw' = ofJson raw :=
  ⟨moved_nested h, fun _ hmoved => ofJson_moved hmoved⟩

/-- A select field whose values are given, and a relation field whose number of records is null. -/
def posts : Json := .object [("name", .text "posts"), ("fields", .list [
  .object [("values", .list [.text "draft", .text "public"]), ("name", .text "status"),
    ("type", .text "select")],
  .object [("name", .text "author"), ("type", .text "relation"), ("maxSelect", .null),
    ("collectionId", .text "users"), ("required", .bool true)]])]

/-- The same fields in the older layout. -/
def nestedPosts : Json := .object [("name", .text "posts"), ("schema", .list [
  .object [("name", .text "status"), ("type", .text "select"),
    ("options", .object [("values", .list [.text "draft", .text "public"])])],
  .object [("name", .text "author"), ("type", .text "relation"), ("required", .bool true),
    ("options", .object [("maxSelect", .null), ("collectionId", .text "users")])]])]

theorem layouts_alike_posts : IsFlat posts ∧ ofJson nestedPosts = ofJson posts := by
  have hflat : IsFlat posts := ⟨_, _, rfl, rfl, List.forall_mem_cons.mpr
    ⟨rfl, List.forall_mem_cons.mpr ⟨rfl, List.forall_mem_nil _⟩⟩⟩
  have hnested : nested posts = nestedPosts := rfl
  obtain ⟨hmoved, halike⟩ := layouts_alike hflat
  rw [hnested] at hmoved
  exact ⟨hflat, halike nestedPosts hmoved⟩

end Collection

end SchemaModels
