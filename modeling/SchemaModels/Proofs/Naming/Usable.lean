import SchemaModels.Proofs.Naming.Identifier

/-!
# Names that collections can go by

`Usable` says that the class names and the module name of a collection are identifiers. Unlike the
names of members and enums they are made without replacing characters and without a lead for digits,
so this is up to the name of the collection. For names of ASCII letters, digits and underscores it
depends on one character: `usable_iff` says that the first one that is no underscore must be no
digit. If it is one, the class name is not even an expression (`parse_of_ledByDigit`).
-/

namespace SchemaModels.Naming

open Text (IsLetter IsWordly)
open Source.Hint (Plain)

/-- **The names made of a collection's name are identifiers**, and no keywords: those of its classes
and that of its module. -/
structure Usable (collection : String) : Prop where
  data : Plain (typeName collection dataSuffix)
  expand : Plain (typeName collection expandSuffix)
  module : Plain (moduleName collection)

/-- The first character that is no underscore is a digit. -/
def isLedByDigit (s : String) : Bool := (s.toList.find? (· != '_')).any Char.isDigit

/-! ## The leading character -/

theorem isDigit_of_small {c : Char} (h : IsSmall c) : c.isDigit = false := by
  have hlow : 97 ≤ c.toNat := h.1
  simp [Char.isDigit, UInt32.le_iff_toNat_le]
  omega

/-- Small letters at the end of a text do not lead it to a digit. -/
theorem isLedByDigit_append {s ending : String} (h : ∀ c ∈ ending.toList, IsSmall c) :
    isLedByDigit (s ++ ending) = isLedByDigit s := by
  unfold isLedByDigit
  rw [String.toList_append, List.find?_append]
  cases s.toList.find? (· != '_') with
  | some c => rfl
  | none =>
    cases hfind : ending.toList.find? (· != '_') with
    | none => rfl
    | some c => exact isDigit_of_small (h c (List.mem_of_find?_eq_some hfind))

/-- A text without digits is led by none. -/
theorem isLedByDigit_eq_false {s : String} (h : ∀ c ∈ s.toList, c.isDigit = false) :
    isLedByDigit s = false := by
  unfold isLedByDigit
  cases hfind : s.toList.find? (· != '_') with
  | none => rfl
  | some c => exact h c (List.mem_of_find?_eq_some hfind)

/-- A digit in front leads. -/
theorem isLedByDigit_of_head {s : String} {c : Char} (hs : s.toList.head? = some c)
    (hc : c.isDigit = true) : isLedByDigit s = true := by
  have hne : (c != '_') = true := by
    rw [bne_iff_ne]
    rintro rfl
    exact absurd hc (by decide)
  unfold isLedByDigit
  cases hlist : s.toList with
  | nil =>
    rw [hlist] at hs
    cases hs
  | cons d ds =>
    rw [hlist, List.head?_cons, Option.some.injEq] at hs
    rw [hs, List.find?_cons, hne]
    exact hc

theorem toUpper_lead {c : Char} (h : IsWordly c) :
    (c.toUpper != '_') = (c != '_') ∧ c.toUpper.isDigit = c.isDigit :=
  Text.forall_ascii (Text.lt_of_wordly h) (by decide)

theorem isLedByDigit_capitalized {s : String} (h : ∀ c ∈ s.toList, IsWordly c) :
    isLedByDigit (capitalized s) = isLedByDigit s := by
  unfold capitalized
  split
  · rename_i hspelling
    have hnone : ∀ t ∈ dateTimeSpellings, isLedByDigit dateTimeToken = isLedByDigit t := by decide
    exact hnone s (List.contains_iff_mem.mp hspelling)
  · cases hs : s.toList with
    | nil => rfl
    | cons c cs =>
      have hc := h c (hs ▸ List.mem_cons_self)
      obtain ⟨hlead, hdigit⟩ := toUpper_lead hc
      unfold isLedByDigit Text.upperChar
      simp only [if_pos (Text.lt_of_wordly hc), String.toList_ofList, hs, List.singleton_append,
        List.find?_cons, hlead]
      split
      · exact hdigit
      · rfl

/-! ## The singular -/

theorem append_of_withoutEnd? {ending s stem : String} (h : withoutEnd? ending s = some stem) :
    s = stem ++ ending := by
  unfold withoutEnd? at h
  split at h
  · rename_i hsuffix
    cases h
    obtain ⟨front, hfront⟩ := List.isSuffixOf_iff_suffix.mp hsuffix
    rw [← String.toList_inj, String.toList_append, String.toList_ofList, ← hfront]
    congr 1
    rw [← String.length_toList, ← String.length_toList, ← hfront, List.length_append,
      Nat.add_sub_cancel, List.take_left]
  · cases h

/-- The endings that are shortened end alike. -/
theorem withoutEnd?_es {s : String} (h : (esEndings.any fun e => (withoutEnd? e s).isSome) = true) :
    withoutEnd? "es" s = some (String.ofList (s.toList.take (s.length - 2))) := by
  obtain ⟨e, he, hsome⟩ := List.any_eq_true.mp h
  obtain ⟨stem, hstem⟩ := Option.isSome_iff_exists.mp hsome
  have hes : ∀ e ∈ esEndings, "es".toList <:+ e.toList := by decide
  have hsuffix : "es".toList <:+ s.toList := by
    rw [append_of_withoutEnd? hstem, String.toList_append]
    exact List.suffix_append_of_suffix (hes e he)
  unfold withoutEnd?
  rw [if_pos (List.isSuffixOf_iff_suffix.mpr hsuffix)]
  rfl

theorem toLower_wordly {c : Char} (h : IsWordly c) : IsWordly c.toLower ∧
    c.toLower.isDigit = c.isDigit ∧ (c.isDigit = true → c.toLower = c) := by
  have hall : IsWordly c → IsWordly c.toLower ∧ c.toLower.isDigit = c.isDigit ∧
      (c.isDigit = true → c.toLower = c) :=
    Text.forall_ascii (Text.lt_of_wordly h) (by decide)
  exact hall h

/-- No irregular word is led by a digit, and neither is a word that is one but for the case of its
letters. -/
theorem isLedByDigit_irregular {s t : String} (h : ∀ c ∈ s.toList, IsWordly c)
    (ht : irregulars.lookup (Text.lower s) = some t) : isLedByDigit t = isLedByDigit s := by
  obtain ⟨before, after, hsplit, -⟩ := List.lookup_eq_some_iff.mp ht
  have hmem : (Text.lower s, t) ∈ irregulars := by
    rw [hsplit]
    exact List.mem_append_right before List.mem_cons_self
  have hlower := Text.lower_ascii fun c hc => Text.lt_of_wordly (h c hc)
  have hdigits : ∀ e ∈ irregulars, ∀ c ∈ e.1.toList, c.isDigit = false := by decide
  rw [isLedByDigit_eq_false fun c hc => isDigit_of_small (irregulars_small _ hmem c hc),
    isLedByDigit_eq_false fun c hc => ?_]
  cases hdigit : c.isDigit with
  | false => rfl
  | true =>
    have hkept : c.toLower = c := (toLower_wordly (h c hc)).2.2 hdigit
    have hkey := hdigits _ hmem c (by
      rw [hlower, ← hkept]
      exact List.mem_map_of_mem hc)
    rw [hdigit] at hkey
    cases hkey

/-- **The singular is led as the word is**: only endings change, and irregular words have no
digits. -/
theorem isLedByDigit_singular {s : String} (h : ∀ c ∈ s.toList, IsWordly c) :
    isLedByDigit (singular s) = isLedByDigit s := by
  unfold singular
  split
  · rename_i t hirregular
    exact isLedByDigit_irregular h hirregular
  · split
    · rename_i stem _ hs
      rw [append_of_withoutEnd? hs, isLedByDigit_append (by decide),
        isLedByDigit_append (by decide)]
    · rename_i stem _ hs
      rw [append_of_withoutEnd? hs, isLedByDigit_append (by decide),
        isLedByDigit_append (by decide)]
    · split
      · rename_i hes
        have hend := append_of_withoutEnd? (withoutEnd?_es hes)
        have hsmall : ∀ c ∈ "es".toList, IsSmall c := by decide
        rw [← isLedByDigit_append hsmall, ← hend]
      · split
        · cases hs : withoutEnd? "s" s with
          | none => rfl
          | some stem =>
            rw [append_of_withoutEnd? hs, isLedByDigit_append (by decide)]
            rfl
        · rfl

/-! ## Class names -/

/-- A class name has a digit in front just if the name of the collection is led by one. -/
theorem head_classStem {collection : String} (h : ∀ c ∈ collection.toList, IsWordly c) :
    (classStem collection).toList.head?.any Char.isDigit = isLedByDigit collection := by
  unfold classStem
  rw [head_identifier_eq, ← isLedByDigit_singular h,
    ← isLedByDigit_capitalized (singular_wordly h)]
  rfl

theorem letter_of_wordly {c : Char} (h : IsWordly c) (hdigit : c.isDigit = false) : IsLetter c := by
  refine h.resolve_right fun hrange => ?_
  simp [Char.isDigit, UInt32.le_iff_toNat_le] at hdigit
  omega

/-- **A class name that a digit comes to stand in front of is no expression.** -/
theorem parse_of_ledByDigit {collection : String} (h : ∀ c ∈ collection.toList, IsWordly c)
    (hled : isLedByDigit collection = true) :
    Source.Hint.parse (typeName collection dataSuffix) = .error .badExpression := by
  rw [← head_classStem h] at hled
  obtain ⟨c, hc, hdigit⟩ := (Option.any_eq_true _ _).mp hled
  refine Source.Hint.parse_digit (typeName_wordly h (Or.inl rfl)) ?_ hdigit ?_
  · rw [typeName_eq, String.toList_append, List.head?_append, hc]
    rfl
  · rw [typeName_eq, String.toList_append]
    exact List.suffix_append_of_suffix (by decide)

theorem typeName_plain_of_not_led {collection suffix : String}
    (h : ∀ c ∈ collection.toList, IsWordly c) (hled : isLedByDigit collection = false)
    (hsuffix : suffix = dataSuffix ∨ suffix = expandSuffix) :
    Plain (typeName collection suffix) := by
  refine typeName_plain h (fun c hc => ?_) hsuffix
  rw [← head_classStem h, hc] at hled
  exact letter_of_wordly (classStem_wordly h c (List.mem_of_mem_head? hc)) hled

/-! ## Module names -/

theorem head_separate (cs : List Char) : (separate cs).head? = cs.head? := by
  cases cs with
  | nil => rfl
  | cons a cs =>
    cases cs with
    | nil => rfl
    | cons b rest =>
      rw [separate]
      split <;> rfl

theorem moduleName_plain {collection : String} (h : ∀ c ∈ collection.toList, IsWordly c)
    (hled : isLedByDigit collection = false) : Plain (moduleName collection) := by
  have hsingular := singular_wordly h
  have hseparate : ∀ c ∈ separate (singular collection).toList, IsWordly c := fun c hc =>
    (mem_separate hc).elim (hsingular c) fun he => he ▸ by decide
  have hsnake : (snakeCase (singular collection)).toList =
      (separate (singular collection).toList).map Char.toLower := by
    unfold snakeCase
    rw [Text.lower_ascii, String.toList_ofList]
    rw [String.toList_ofList]
    exact fun c hc => Text.lt_of_wordly (hseparate c hc)
  have hall : ∀ c ∈ (snakeCase (singular collection)).toList, IsWordly c := by
    rw [hsnake]
    exact List.forall_mem_map.mpr fun c hc => (toLower_wordly (hseparate c hc)).1
  unfold moduleName
  cases hhead : (snakeCase (singular collection)).toList.head? with
  | none =>
    have hnil : snakeCase (singular collection) = "" := by
      rw [List.head?_eq_none_iff] at hhead
      rw [← String.ofList_toList (s := snakeCase (singular collection)), hhead]
    rw [hnil]
    exact ⟨by decide, by decide⟩
  | some d =>
    refine plain_append (fun c hc => Text.part_of_wordly (hall c hc)) hhead
      (Text.start_of_letter ?_) (by decide) (by decide)
    refine letter_of_wordly (hall d (List.mem_of_mem_head? hhead)) ?_
    rw [hsnake, List.head?_map, head_separate] at hhead
    obtain ⟨c, hc, rfl⟩ := Option.map_eq_some_iff.mp hhead
    rw [(toLower_wordly (hsingular c (List.mem_of_mem_head? hc))).2.1]
    cases hdigit : c.isDigit with
    | false => rfl
    | true =>
      rw [← isLedByDigit_singular h, isLedByDigit_of_head hc hdigit] at hled
      cases hled

/-! ## Usable names -/

/-- **Which names of ASCII letters, digits and underscores are usable**: those that no digit
leads. -/
theorem usable_iff {collection : String} (h : ∀ c ∈ collection.toList, IsWordly c) :
    Usable collection ↔ isLedByDigit collection = false := by
  constructor
  · intro husable
    cases hled : isLedByDigit collection with
    | false => rfl
    | true =>
      have hparse := Source.Hint.parse_plain husable.data
      rw [parse_of_ledByDigit h hled] at hparse
      cases hparse
  · intro hled
    exact ⟨typeName_plain_of_not_led h hled (Or.inl rfl),
      typeName_plain_of_not_led h hled (Or.inr rfl), moduleName_plain h hled⟩

end SchemaModels.Naming
