import SchemaModels.Proofs.Module.Scope
import SchemaModels.Proofs.Naming.Composed

/-!
# Names and the identifiers they make

An identifier of the generated source is its name composed, but names are compared as they are when
an enum or a module is built, and written as they are into `__all__` and the validators of a class.
`Identified` says that this makes no difference: no two variants of an enum and no two members of a
class are one identifier, and every name in a text is that of the identifier it stands for.

Nothing guarantees it. Building keeps names apart, so `identified_iff` leaves what names that differ
can do: compose to one text, or to another one. None of this happens in a `Smooth` module, all of
whose names are put together without anything to compose (`Smooth.identified`).
-/

namespace SchemaModels

open Naming (Seamless memberName variantName enumTypeName nameParts enumParts classStem)
open Text (compat Composed)

/-- Names that differ are different identifiers. -/
def Naming.Apart (names : List String) : Prop :=
  ∀ a ∈ names, ∀ b ∈ names, compat a = compat b → a = b

namespace Naming

instance (names : List String) : Decidable (Apart names) :=
  inferInstanceAs (Decidable (∀ a ∈ names, ∀ b ∈ names, _))

theorem compat_eq_iff {s : String} : compat s = s ↔ Composed s.toList := by
  rw [← String.toList_inj, compat, String.toList_ofList]
  rfl

theorem nodup_compat_iff {names : List String} (h : names.Nodup) :
    (names.map compat).Nodup ↔ Apart names :=
  List.nodup_map_iff_inj_on h

theorem apart_of_compat {names : List String} (h : ∀ n ∈ names, compat n = n) : Apart names :=
  fun a ha b hb hab => by rwa [h a ha, h b hb] at hab

end Naming

open Naming (Apart)

/-! ## Enums -/

namespace EnumSpec

/-- The names of the variants. -/
def variantNames (e : EnumSpec) : List String := e.variants.map (·.identifier)

/-- **When the variants of an enum are identifiers of their own.** -/
theorem identified_iff {f : Field} {e : EnumSpec} (h : ofField f = .ok e) :
    (e.variantNames.map compat).Nodup ↔ Apart e.variantNames :=
  Naming.nodup_compat_iff (variants_of_ofField h).2

end EnumSpec

/-- The names of the members. -/
def ClassSpec.memberNames (k : ClassSpec) : List String := k.members.map (·.identifier)

theorem ClassSpec.mem_memberNames_of_blank {k : ClassSpec} {n : String}
    (h : n ∈ k.blankMembers) : n ∈ k.memberNames := by
  obtain ⟨i, hi, rfl⟩ := List.mem_map.mp h
  exact List.mem_map_of_mem (List.mem_filter.mp hi).1

namespace ModelModule

/-- The classes of records: the companion class, and the module's own. -/
def classes (m : ModelModule) : List ClassSpec := m.expandClass?.toList ++ [m.dataClass]

/-- **Names are identifiers**: the enums and classes of the module have no two variants or members
of one identifier, and the texts with names of classes and members have the identifiers. -/
structure Identified (m : ModelModule) : Prop where
  variants : ∀ e ∈ m.enums, (e.variantNames.map compat).Nodup
  members : ∀ k ∈ m.classes, (k.memberNames.map compat).Nodup
  exports : ∀ n ∈ m.exports, compat n = n
  validated : ∀ k ∈ m.classes, ∀ n ∈ k.blankMembers, compat n = n

/-- The names of the module do not become each other, and those in texts do not become others. -/
structure Unmerged (m : ModelModule) : Prop where
  variants : ∀ e ∈ m.enums, Apart e.variantNames
  members : ∀ k ∈ m.classes, Apart k.memberNames
  exports : ∀ n ∈ m.exports, compat n = n
  validated : ∀ k ∈ m.classes, ∀ n ∈ k.blankMembers, compat n = n

theorem unmerged_iff {m : ModelModule} : m.Unmerged ↔ (∀ e ∈ m.enums, Apart e.variantNames) ∧
    (∀ k ∈ m.classes, Apart k.memberNames) ∧ (∀ n ∈ m.exports, compat n = n) ∧
      ∀ k ∈ m.classes, ∀ n ∈ k.blankMembers, compat n = n :=
  ⟨fun ⟨hv, hm, he, hb⟩ => ⟨hv, hm, he, hb⟩, fun ⟨hv, hm, he, hb⟩ => ⟨hv, hm, he, hb⟩⟩

instance (m : ModelModule) : Decidable m.Unmerged := decidable_of_iff' _ unmerged_iff

/-- The names of the module are put together without anything to compose, each from what it was made
of. -/
structure Smooth (m : ModelModule) : Prop where
  enums : ∀ e ∈ m.enums, ∀ raw, e.field = .text raw → Seamless [] (enumParts raw)
  variants : ∀ e ∈ m.enums, ∀ v ∈ e.variants, Seamless [] (nameParts "v" v.value)
  members : ∀ k ∈ m.classes, ∀ i ∈ k.members, Seamless [] (nameParts "f" i.rawName)
  classes : ∀ name, m.dataClass.collectionName? = some name → Composed (classStem name).toList

variable {c : Collection} {resolver? : Option Resolver} {name : String} {fieldMembers : List Member}
  {m : ModelModule} {warnings : List String}

/-! ## What building guarantees -/

theorem mem_classes_iff {k : ClassSpec} :
    k ∈ m.classes ↔ m.expandClass? = some k ∨ k = m.dataClass := by
  rw [classes, List.mem_append, Option.mem_toList, List.mem_singleton]

/-- The members of every class have different names. -/
theorem nodup_memberNames (h : BuiltFrom c resolver? name fieldMembers m warnings) {k : ClassSpec}
    (hk : k ∈ m.classes) : k.memberNames.Nodup := by
  rcases mem_classes_iff.mp hk with hk | rfl
  · rw [h.expand_class, Option.map_eq_some_iff] at hk
    obtain ⟨e, he, rfl⟩ := hk
    have hnodup := (h.expand_fields he).2.1
    rw [ClassSpec.memberNames, expandClass, List.map_map]
    exact hnodup
  · rw [ClassSpec.memberNames, h.data_class]
    exact h.members_distinct

theorem identified_iff (h : BuiltFrom c resolver? name fieldMembers m warnings) :
    m.Identified ↔ m.Unmerged := by
  have hvariants : ∀ e ∈ m.enums, (e.variantNames.map compat).Nodup ↔ Apart e.variantNames := by
    intro e he
    obtain ⟨f, -, -, hfield⟩ := EnumSpec.field_of_ofCollection h.enums he
    exact EnumSpec.identified_iff hfield
  have hmembers : ∀ k ∈ m.classes, (k.memberNames.map compat).Nodup ↔ Apart k.memberNames :=
    fun k hk => Naming.nodup_compat_iff (nodup_memberNames h hk)
  constructor
  · rintro ⟨hv, hm, hexports, hvalidated⟩
    exact ⟨fun e he => (hvariants e he).mp (hv e he), fun k hk => (hmembers k hk).mp (hm k hk),
      hexports, hvalidated⟩
  · rintro ⟨hv, hm, hexports, hvalidated⟩
    exact ⟨fun e he => (hvariants e he).mpr (hv e he), fun k hk => (hmembers k hk).mpr (hm k hk),
      hexports, hvalidated⟩

/-! ## Smooth modules -/

/-- Every member has the name that the server's name for it gives. -/
theorem identifier_of_member (h : BuiltFrom c resolver? name fieldMembers m warnings)
    {k : ClassSpec} (hk : k ∈ m.classes) {i : Member} (hi : i ∈ k.members) :
    i.identifier = memberName i.rawName := by
  rcases mem_classes_iff.mp hk with hk | rfl
  · rw [h.expand_class, Option.map_eq_some_iff] at hk
    obtain ⟨e, he, rfl⟩ := hk
    obtain ⟨f, hf, rfl⟩ := List.mem_map.mp hi
    obtain ⟨r, mapping, raw, target, -, -, hmade⟩ := (h.expand_fields he).2.2 f hf
    change f.identifier = memberName f.rawName
    rw [hmade.identifier, hmade.rawName]
  · rcases h.mem_members_iff.mp hi with hi | ⟨e, -, rfl⟩
    · obtain ⟨f, -, hmade⟩ := exists_left_of_forall₂ (Logged.outcome_mapM_eq_ok_iff.mp h.fields) hi
      obtain ⟨raw, t, -, -, heq⟩ := Member.ofField_eq_ok_iff.mp hmade
      rw [heq]
    · change "expand" = memberName "expand"
      decide

theorem compat_of_member (h : BuiltFrom c resolver? name fieldMembers m warnings) (hm : m.Smooth)
    {k : ClassSpec} (hk : k ∈ m.classes) {n : String} (hn : n ∈ k.memberNames) : compat n = n := by
  obtain ⟨i, hi, rfl⟩ := List.mem_map.mp hn
  rw [identifier_of_member h hk hi, Naming.compat_eq_iff]
  exact (Naming.memberName_composed_iff _).mpr (hm.members k hk i hi)

theorem compat_of_variant (h : BuiltFrom c resolver? name fieldMembers m warnings) (hm : m.Smooth)
    {e : EnumSpec} (he : e ∈ m.enums) {n : String} (hn : n ∈ e.variantNames) : compat n = n := by
  obtain ⟨v, hv, rfl⟩ := List.mem_map.mp hn
  rw [EnumSpec.variant_of_ofCollection h.enums he hv, Naming.compat_eq_iff]
  exact (Naming.variantName_composed_iff _).mpr (hm.variants e he v hv)

theorem compat_of_export (h : BuiltFrom c resolver? name fieldMembers m warnings) (hm : m.Smooth)
    {n : String} (hn : n ∈ m.exports) : compat n = n := by
  have hstem : compat (classStem name) = classStem name :=
    Naming.compat_eq_iff.mpr (hm.classes name (by rw [h.data_class]))
  rcases (mem_exports_iff h).mp hn with ⟨e, he, rfl⟩ | ⟨e, he, rfl⟩ | rfl
  · obtain ⟨f, -, -, hfield⟩ := EnumSpec.field_of_ofCollection h.enums he
    obtain ⟨raw, hraw, hname⟩ := EnumSpec.ofField_eq_ok hfield
    rw [hname, Naming.compat_eq_iff]
    refine (Naming.enumTypeName_composed_iff raw).mpr (hm.enums e he raw ?_)
    rw [EnumSpec.field_of_ofField hfield, hraw]
  · rw [(h.expand_fields he).1, compat_typeName (Or.inr rfl), hstem, Naming.typeName_eq]
  · rw [h.data_class, compat_typeName (Or.inl rfl), hstem, Naming.typeName_eq]

/-- **A smooth module** has identifiers for names. -/
theorem Smooth.identified (hm : m.Smooth) (h : BuiltFrom c resolver? name fieldMembers m warnings) :
    m.Identified := by
  refine (identified_iff h).mpr
    ⟨fun e he => ?_, fun k hk => ?_, fun n hn => ?_, fun k hk n hn => ?_⟩
  · exact Naming.apart_of_compat fun n hn => compat_of_variant h hm he hn
  · exact Naming.apart_of_compat fun n hn => compat_of_member h hm hk hn
  · exact compat_of_export h hm hn
  · exact compat_of_member h hm hk (ClassSpec.mem_memberNames_of_blank hn)

/-- **Names are not always identifiers.** The pieces of a text are composed, but the names made of
it are only if they are seamless. The variants of an enum and the names of a module are identifiers
just if those that differ do not merge, and in a smooth module none do. -/
theorem names_identified_iff (s : String) (f : Field) (c : Collection)
    (resolver? : Option Resolver) :
    (∀ q ∈ Naming.pieces (Naming.identifierText s).toList, Composed q) ∧
    (Composed (memberName s).toList ↔ Seamless [] (nameParts "f" s)) ∧
    (Composed (variantName s).toList ↔ Seamless [] (nameParts "v" s)) ∧
    (Composed (enumTypeName s).toList ↔ Seamless [] (enumParts s)) ∧
    (∀ e, EnumSpec.ofField f = .ok e →
      ((e.variantNames.map compat).Nodup ↔ Apart e.variantNames)) ∧
    ∀ m warnings, (build c resolver?).outcome = .ok (m, warnings) →
      (m.Identified ↔ m.Unmerged) ∧ (m.Smooth → m.Identified) := by
  refine ⟨fun q hq => Naming.composed_of_mem_pieces hq, Naming.memberName_composed_iff s,
    Naming.variantName_composed_iff s, Naming.enumTypeName_composed_iff s,
    fun e h => EnumSpec.identified_iff h, fun m warnings h => ?_⟩
  obtain ⟨name, fieldMembers, hbuilt⟩ := build_eq_ok_iff.mp h
  exact ⟨identified_iff hbuilt, fun hm => hm.identified hbuilt⟩

theorem names_identified_posts : ∃ m warnings,
    (build posts none).outcome = .ok (m, warnings) ∧ m.Identified := by
  have hbuilt : ((build posts none).outcome.toOption.map fun built => decide built.1.Unmerged) =
      some true := by
    decide +kernel
  obtain ⟨⟨m, warnings⟩, h, hunmerged⟩ := toOption_map_eq_some_iff.mp hbuilt
  obtain ⟨-, -, -, -, -, hbuild⟩ :=
    names_identified_iff "first" { name := .text "first", kind := .select } posts none
  exact ⟨m, warnings, h, (hbuild m warnings h).1.mpr (of_decide_eq_true hunmerged)⟩

/-- A collection with a letter that has an accent, and the accent apart from the letter. -/
def accents : Collection where
  id := "c1"
  name := .text "posts"
  fields :=
    [{ name := .text "\u00e1", kind := .text, required := true },
     { name := .text "a_\u0301", kind := .text, required := true }]

/-- The accent meets the letter when the underscore goes, and two members become one identifier. -/
theorem not_identified_accents : ¬ Composed (memberName "a_\u0301").toList ∧ ∃ m warnings,
    (build accents none).outcome = .ok (m, warnings) ∧ ¬ m.Identified := by
  have hbuilt : (memberName "a_\u0301" = "a\u0301" ∧ compat "a\u0301" = "\u00e1" ∧
      compat "\u00e1" = "\u00e1") ∧
      ((build accents none).outcome.toOption.map fun built => built.1.dataClass.memberNames) =
        some ["\u00e1", "a\u0301"] := by
    decide +kernel
  obtain ⟨⟨hname, hmark, hletter⟩, hmembers⟩ := hbuilt
  constructor
  · rw [hname, ← Naming.compat_eq_iff, hmark]
    decide
  · obtain ⟨⟨m, warnings⟩, h, hnames⟩ := toOption_map_eq_some_iff.mp hmembers
    refine ⟨m, warnings, h, fun hidentified => ?_⟩
    have hnodup := hidentified.members m.dataClass (mem_classes_iff.mpr (Or.inr rfl))
    rw [hnames, List.map_cons, List.map_singleton, hmark, hletter] at hnodup
    exact absurd hnodup (by simp)

end ModelModule

end SchemaModels
