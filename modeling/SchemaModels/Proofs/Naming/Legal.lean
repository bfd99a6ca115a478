import SchemaModels.Proofs.Naming.Composed

/-!
# Names of members, variants and enums are legal

A name is made in steps, and a later one could undo what an earlier one has seen to. `Word` is what
all of them keep: an identifier without underscores. The text of a name is one before it is told
from the reserved names (`word_nameStem`), so the only underscore in a `Legal` name is the one that
a reserved name gets at its end (`legal_memberName`, `legal_variantName`). The class name of an enum
is a word as well, and no name that a module binds itself (`enumTypeName_word`,
`enumTypeName_not_mem_moduleNames`).
-/

namespace SchemaModels.Naming

open Text (isIdentifier isIdentifierPart isIdentifierStart)
open Source.Hint (Plain)

/-! ## Words -/

/-- **A word**: an identifier without underscores. -/
structure Word (s : String) : Prop where
  identifier : isIdentifier s.toList = true
  free : '_' ∉ s.toList

variable {s : String} {c : Char}

theorem word_of_start (hhead : s.toList.head? = some c) (hc : isIdentifierStart c = true)
    (hall : ∀ d ∈ s.toList, isIdentifierPart d = true ∧ d ≠ '_') : Word s :=
  ⟨isIdentifier_of_start hhead hc fun d hd => (hall d hd).1, fun hmem => (hall _ hmem).2 rfl⟩

theorem Word.append {t : String} (hs : Word s)
    (ht : ∀ d ∈ t.toList, isIdentifierPart d = true ∧ d ≠ '_') : Word (s ++ t) := by
  refine ⟨?_, fun hmem => ?_⟩
  · rw [String.toList_append]
    exact isIdentifier_append hs.identifier fun d hd => (ht d hd).1
  · rw [String.toList_append, List.mem_append] at hmem
    exact hmem.elim hs.free fun h => (ht _ h).2 rfl

/-- A joined text has characters of identifiers, and no underscore. -/
theorem joined_characters (s : String) : ∀ c ∈ (identifier (identifierText s)).toList,
    isIdentifierPart c = true ∧ c ≠ '_' := fun c hc =>
  ⟨all_identifier kept_part (identifierText_part s) c hc,
    fun heq => underscore_not_mem_identifier _ (heq ▸ hc)⟩

/-! ## Members and variants -/

/-- The name for a text, before it is told from the reserved ones. -/
def nameStem (fallback lead s : String) : String :=
  let name := identifier (identifierText s)
  if name.isEmpty then fallback else if beginsIdentifier name then name else lead ++ name

variable {fallback lead : String}

theorem safeIdentifier_eq_nameStem (hfallback : fallback ∉ reserved) (s : String) :
    safeIdentifier fallback lead s =
      if nameStem fallback lead s ∈ reserved then nameStem fallback lead s ++ "_"
      else nameStem fallback lead s := by
  unfold safeIdentifier nameStem
  simp only
  generalize identifier (identifierText s) = name
  by_cases hempty : name.isEmpty = true
  · rw [if_pos hempty, if_pos hempty, if_neg hfallback]
  · rw [if_neg hempty, if_neg hempty]
    simp only [List.contains_iff_mem]

/-- **Every text gives a word** before it is told from the reserved names. -/
theorem word_nameStem (hfallback : Word fallback) (hlead : Word lead) (s : String) :
    Word (nameStem fallback lead s) := by
  have hjoined := joined_characters s
  unfold nameStem
  simp only
  generalize identifier (identifierText s) = name at hjoined ⊢
  by_cases hempty : name.isEmpty = true
  · rw [if_pos hempty]
    exact hfallback
  · rw [if_neg hempty]
    by_cases hbegins : beginsIdentifier name = true
    · obtain ⟨d, hd, hstart⟩ := beginsIdentifier_iff.mp hbegins
      rw [if_pos hbegins]
      exact word_of_start hd hstart hjoined
    · rw [if_neg hbegins]
      exact hlead.append hjoined

/-- **A legal name**: an identifier that is neither a keyword nor otherwise reserved, and whose only
underscore is the one at the end that tells it from a reserved word. -/
structure Legal (name : String) : Prop where
  plain : Plain name
  unreserved : name ∉ reserved
  stem : ∃ w, '_' ∉ w.toList ∧ name = if w ∈ reserved then w ++ "_" else w

theorem keywords_subset : keywords ⊆ reserved :=
  List.subset_append_of_subset_left _ (List.subset_append_left keywords moduleNames)

/-- A word that gets an underscore if it is reserved is legal. -/
theorem Word.legal {w : String} (h : Word w) : Legal (if w ∈ reserved then w ++ "_" else w) := by
  have hunreserved : (if w ∈ reserved then w ++ "_" else w) ∉ reserved := by
    split
    · exact append_not_mem_reserved w
    · assumption
  refine ⟨⟨?_, fun hmem => hunreserved (keywords_subset hmem)⟩, hunreserved, w, h.free, rfl⟩
  split
  · rw [String.toList_append]
    exact isIdentifier_append h.identifier (by decide)
  · exact h.identifier

/-- The name for a text is legal if that for no text is a word, and so is the lead. -/
theorem legal_safeIdentifier (hfallback : Word fallback) (hunreserved : fallback ∉ reserved)
    (hlead : Word lead) (s : String) : Legal (safeIdentifier fallback lead s) := by
  rw [safeIdentifier_eq_nameStem hunreserved]
  exact (word_nameStem hfallback hlead s).legal

/-- **The member name of a field is legal**, whatever the field is called. -/
theorem legal_memberName (field : String) : Legal (memberName field) :=
  legal_safeIdentifier ⟨by decide, by decide⟩ (by decide) ⟨by decide, by decide⟩ field

/-- **The name of a variant is legal**, whatever its value is. -/
theorem legal_variantName (value : String) : Legal (variantName value) :=
  legal_safeIdentifier ⟨by decide, by decide⟩ (by decide) ⟨by decide, by decide⟩ value

/-! ## Enums -/

/-- **The class name of an enum is a word**, whatever its field is called. -/
theorem enumTypeName_word (field : String) : Word (enumTypeName field) := by
  refine ⟨(enumTypeName_plain field).identifier, fun hmem => ?_⟩
  obtain ⟨name, c, heq, -⟩ := enumTypeName_eq field
  rw [heq, String.toList_append, List.mem_append] at hmem
  rcases hmem with hmem | hmem
  · have hfree : ∀ c ∈ (identifier name).toList, c ≠ '_' := fun c hc hc' =>
      underscore_not_mem_identifier name (hc' ▸ hc)
    exact all_capitalized kept_free hfree '_' hmem rfl
  · exact absurd hmem (by decide)

theorem eq_enum_of_suffix : ∀ w ∈ moduleNames, "Enum".toList <:+ w.toList → w = "Enum" := by
  decide

/-- **The class name of an enum is no name that a module binds itself**: it says more than that it
is an enum. -/
theorem enumTypeName_not_mem_moduleNames (field : String) : enumTypeName field ∉ moduleNames := by
  intro hmem
  obtain ⟨name, c, heq, -, hhead, hc, hstart⟩ := enumTypeName_eq field
  obtain ⟨d, hd, -⟩ := head_capitalized (head_identifier hhead hc) hstart
  have hsuffix : "Enum".toList <:+ (enumTypeName field).toList := by
    rw [heq, String.toList_append]
    exact List.suffix_append _ _
  have henum := eq_enum_of_suffix _ hmem hsuffix
  rw [heq] at henum
  have hempty := congrArg (fun s => s.toList.length) henum
  simp only [String.toList_append, List.length_append] at hempty
  rw [List.length_eq_zero_iff.mp (Nat.add_eq_right.mp hempty)] at hd
  cases hd

end SchemaModels.Naming
