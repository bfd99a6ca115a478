import Mathlib.Tactic.Tauto
import SchemaModels.Naming
import SchemaModels.Proofs.Text.Case

/-!
# The characters of names

Where the characters of a made name come from. The singular of a word keeps characters of the word
and adds small letters (`mem_singular`); a module name has a slash only if the name of its
collection has one (`slash_mem_of_mem_moduleName`).
-/

namespace SchemaModels.Naming

/-- A small ASCII letter. -/
def IsSmall (c : Char) : Prop := 'a' ≤ c ∧ c ≤ 'z'

instance (c : Char) : Decidable (IsSmall c) := inferInstanceAs (Decidable (_ ∧ _))

/-! ## The singular -/

theorem irregulars_small : ∀ e ∈ irregulars, ∀ c ∈ e.2.toList, IsSmall c := by
  decide

theorem mem_of_withoutEnd? {ending word stem : String} (h : withoutEnd? ending word = some stem)
    {c : Char} (hc : c ∈ stem.toList) : c ∈ word.toList := by
  unfold withoutEnd? at h
  split at h
  · cases h
    rw [String.toList_ofList] at hc
    exact List.mem_of_mem_take hc
  · cases h

theorem mem_of_lookup {l : List (String × String)} {k v : String} (h : l.lookup k = some v) :
    ∃ e ∈ l, e.2 = v := by
  induction l with
  | nil => cases h
  | cons e l ih =>
    rw [List.lookup_cons] at h
    split at h
    · exact ⟨e, List.mem_cons_self, Option.some.inj h⟩
    · obtain ⟨e', he', hv⟩ := ih h
      exact ⟨e', List.mem_cons_of_mem e he', hv⟩

/-- A character of the singular is one of the word, or a small letter. -/
theorem mem_singular {word : String} {c : Char} (h : c ∈ (singular word).toList) :
    c ∈ word.toList ∨ IsSmall c := by
  unfold singular at h
  split at h
  · rename_i s hs
    obtain ⟨e, he, rfl⟩ := mem_of_lookup hs
    exact Or.inr (irregulars_small e he c h)
  · split at h
    · rename_i stem _ hs
      rw [String.toList_append, List.mem_append] at h
      rcases h with h | h
      · exact Or.inl (mem_of_withoutEnd? hs h)
      · right
        revert c
        decide
    · rename_i stem _ hs
      rw [String.toList_append, List.mem_append] at h
      rcases h with h | h
      · exact Or.inl (mem_of_withoutEnd? hs h)
      · right
        revert c
        decide
    · left
      split at h
      · rw [String.toList_ofList] at h
        exact List.mem_of_mem_take h
      · split at h
        · cases hs : withoutEnd? "s" word with
          | none =>
            rw [hs] at h
            exact h
          | some stem =>
            rw [hs] at h
            exact mem_of_withoutEnd? hs h
        · exact h

/-! ## Module names -/

theorem mem_separate {c : Char} : ∀ {cs : List Char}, c ∈ separate cs → c ∈ cs ∨ c = '_'
  | [], h => by simp [separate] at h
  | [a], h => Or.inl (by simpa [separate] using h)
  | a :: b :: rest, h => by
    unfold separate at h
    have ih := @mem_separate c (b :: rest)
    split at h <;> simp only [List.mem_cons] at h ih ⊢ <;> tauto

/-- **A slash in a module name** is one of the collection's name. -/
theorem slash_mem_of_mem_moduleName {collection : String}
    (h : '/' ∈ (moduleName collection).toList) : '/' ∈ collection.toList := by
  unfold moduleName at h
  rw [String.toList_append, List.mem_append] at h
  rcases h with h | h
  · have hsnake := Text.mem_of_mem_lower h (by decide)
    rw [String.toList_ofList] at hsnake
    rcases mem_separate hsnake with hs | hs
    · rcases mem_singular hs with hs | hs
      · exact hs
      · exact absurd hs (by decide)
    · exact absurd hs (by decide)
  · exact absurd h (by decide)

theorem moduleName_ne_empty (collection : String) : moduleName collection ≠ "" := by
  intro hempty
  have hlength := congrArg String.length hempty
  unfold moduleName at hlength
  rw [String.length_append] at hlength
  have hsuffix : "_data".length = 5 := rfl
  have hzero : "".length = 0 := rfl
  omega

end SchemaModels.Naming
