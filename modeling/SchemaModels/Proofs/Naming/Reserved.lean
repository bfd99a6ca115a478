import SchemaModels.Proofs.Naming.Identifier
import SchemaModels.Proofs.Text.Stable

/-!
# Members and variants have names of their own

The identifier of a member or of a variant is not reserved, and no other spelling of a reserved
name: `Own` says both, and `own_memberName` and `own_variantName` give it for any text. What is not
on the list of reserved names is not kept away.
-/

namespace SchemaModels.Naming

open Text (IsAscii Stable compat)

/-! ## Stable names -/

theorem kept_stable : Kept Stable :=
  ⟨fun _ hc _ hd => Text.stable_of_mem_upperChar hc hd,
    fun c hc => Text.stable_of_ascii ((by decide : IsAscii dateTimeToken.toList) c hc)⟩

theorem identifierText_stable (s : String) : ∀ c ∈ (identifierText s).toList, Stable c := by
  intro c hc
  unfold identifierText at hc
  rw [String.toList_ofList, List.mem_map] at hc
  obtain ⟨d, hd, rfl⟩ := hc
  split
  · exact Text.stable_of_mem_compatChars hd
  · exact Text.stable_of_ascii (by decide)

theorem stable_append {s t : String} (hs : ∀ c ∈ s.toList, Stable c)
    (ht : ∀ c ∈ t.toList, Stable c) : ∀ c ∈ (s ++ t).toList, Stable c := by
  intro c hc
  rw [String.toList_append, List.mem_append] at hc
  exact hc.elim (hs c) (ht c)

theorem stable_of_isAscii {s : String} (hs : IsAscii s.toList) : ∀ c ∈ s.toList, Stable c :=
  fun c hc => Text.stable_of_ascii (hs c hc)

/-! ## Reserved names -/

theorem reserved_ascii : ∀ w ∈ reserved, IsAscii w.toList := by
  decide

theorem reserved_getLast : ∀ w ∈ reserved, w.toList.getLast? ≠ some '_' := by
  decide

/-- A reserved name gets an underscore at its end, and is not reserved then. -/
theorem append_not_mem_reserved (name : String) : name ++ "_" ∉ reserved := by
  intro hmem
  refine reserved_getLast _ hmem ?_
  rw [String.toList_append]
  exact List.getLast?_concat

variable {fallback lead : String}

/-- What an identifier for a text is made of. -/
theorem safeIdentifier_eq (fallback lead s : String) : safeIdentifier fallback lead s = fallback ∨
    ∃ name, (name = identifier (identifierText s) ∨ name = lead ++ identifier (identifierText s)) ∧
      ((name ∉ reserved ∧ safeIdentifier fallback lead s = name) ∨
        safeIdentifier fallback lead s = name ++ "_") := by
  unfold safeIdentifier
  by_cases hempty : (identifier (identifierText s)).isEmpty = true
  · exact Or.inl (by rw [if_pos hempty])
  · right
    have hname : ∃ name, (if beginsIdentifier (identifier (identifierText s)) then
        identifier (identifierText s) else lead ++ identifier (identifierText s)) = name ∧
        (name = identifier (identifierText s) ∨
          name = lead ++ identifier (identifierText s)) := by
      by_cases hbegins : beginsIdentifier (identifier (identifierText s)) = true
      · exact ⟨_, if_pos hbegins, Or.inl rfl⟩
      · exact ⟨_, if_neg hbegins, Or.inr rfl⟩
    obtain ⟨name, hif, hmade⟩ := hname
    refine ⟨name, hmade, ?_⟩
    simp only
    rw [if_neg hempty, hif]
    by_cases hreserved : reserved.contains name = true
    · exact Or.inr (if_pos hreserved)
    · refine Or.inl ⟨fun hmem => hreserved (List.contains_iff_mem.mpr hmem), ?_⟩
      exact if_neg hreserved

theorem safeIdentifier_not_mem_reserved (hfallback : fallback ∉ reserved) (s : String) :
    safeIdentifier fallback lead s ∉ reserved := by
  rcases safeIdentifier_eq fallback lead s with heq | ⟨name, -, ⟨hfree, heq⟩ | heq⟩
  · rw [heq]
    exact hfallback
  · rw [heq]
    exact hfree
  · rw [heq]
    exact append_not_mem_reserved name

theorem safeIdentifier_stable (hfallback : IsAscii fallback.toList) (hlead : IsAscii lead.toList)
    (s : String) : ∀ c ∈ (safeIdentifier fallback lead s).toList, Stable c := by
  have hjoined := all_identifier kept_stable (identifierText_stable s)
  have hunderscore : IsAscii "_".toList := by decide
  rcases safeIdentifier_eq fallback lead s with heq | ⟨name, hname, hcases⟩
  · rw [heq]
    exact stable_of_isAscii hfallback
  · have hstable : ∀ c ∈ name.toList, Stable c := by
      rcases hname with rfl | rfl
      · exact hjoined
      · exact stable_append (stable_of_isAscii hlead) hjoined
    rcases hcases with ⟨-, heq⟩ | heq
    · rw [heq]
      exact hstable
    · rw [heq]
      exact stable_append hstable (stable_of_isAscii hunderscore)

/-- **An identifier of its own**: it is not reserved, and composes to an ASCII text only if it is
that text. -/
structure Own (i : String) : Prop where
  free : i ∉ reserved
  exact : ∀ w, IsAscii w.toList → compat i = w → i = w

/-- No identifier of its own composes to a reserved name. -/
theorem Own.compat_not_mem_reserved {i : String} (h : Own i) : compat i ∉ reserved := by
  intro hmem
  have heq := h.exact _ (reserved_ascii _ hmem) rfl
  exact h.free (heq ▸ hmem)

theorem Own.compat_eq_iff {i w : String} (h : Own i) (hw : IsAscii w.toList) :
    compat i = w ↔ i = w := by
  refine ⟨h.exact w hw, ?_⟩
  rintro rfl
  exact Text.compat_ascii hw

theorem own_memberName (field : String) : Own (memberName field) := by
  refine ⟨safeIdentifier_not_mem_reserved (by decide) field, fun w hw => ?_⟩
  exact Text.eq_of_compat (safeIdentifier_stable (by decide) (by decide) field) hw

theorem own_variantName (value : String) : Own (variantName value) := by
  refine ⟨safeIdentifier_not_mem_reserved (by decide) value, fun w hw => ?_⟩
  exact Text.eq_of_compat (safeIdentifier_stable (by decide) (by decide) value) hw

/-- The member for related records has an identifier of its own. -/
theorem own_expand : Own "expand" := by
  refine ⟨by decide, fun w hw => ?_⟩
  exact Text.eq_of_compat (stable_of_isAscii (by decide)) hw

end SchemaModels.Naming
