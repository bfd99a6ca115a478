import SchemaModels.Proofs.Naming.Letters
import SchemaModels.Proofs.Text.Lower

/-!
# Names in snake case are in lower case

A text in snake case is in lower case, so it has no capitals to separate: snake case is idempotent
(`snakeCase_snakeCase`). A module name is a text in snake case with a suffix that is in lower case
too, so it is its own lower-case form (`lower_moduleName`), and that goes for the name of its file
(`lower_fileName`).
-/

namespace SchemaModels.Naming

open Text (Settled)

variable {c : Char}

theorem isCapital_of_settled (h : Settled c) : isCapital c = false := by
  rw [Bool.eq_false_iff]
  intro hcapital
  have hascii : c.toNat < 0x80 := by
    simp only [isCapital, Bool.and_eq_true, decide_eq_true_eq] at hcapital
    exact Nat.lt_of_le_of_lt (Char.le_def.mp hcapital.2) (by decide)
  have hlower : isCapital c = true → c.toLower ≠ c := Text.forall_ascii hascii (by decide)
  have hchar := h.char
  rw [Text.lowerChar, if_pos hascii, List.singleton_inj] at hchar
  exact hlower hcapital hchar

theorem settled_of_mem_snakeCase {s : String} (h : c ∈ (snakeCase s).toList) : Settled c :=
  Text.settled_of_mem_lower h

/-- **Snake case is idempotent.** -/
theorem snakeCase_snakeCase (s : String) : snakeCase (snakeCase s) = snakeCase s := by
  have hseparate : separate (snakeCase s).toList = (snakeCase s).toList :=
    separate_of_no_capital fun c hc => isCapital_of_settled (settled_of_mem_snakeCase hc)
  have hlower : Text.lower (snakeCase s) = snakeCase s := Text.lower_lower _
  rw [snakeCase, hseparate, String.ofList_toList, hlower]

/-- The name of the file that a collection's module is in. -/
def fileName (collection : String) : String := moduleName collection ++ ".py"

theorem settled_of_mem_fileName {s : String} (h : c ∈ (fileName s).toList) : Settled c := by
  have hsuffixes : ∀ c ∈ "_data".toList ++ ".py".toList, c.toNat < 0x80 ∧ c.toLower = c := by decide
  rw [fileName, moduleName, String.toList_append, String.toList_append, List.append_assoc,
    List.mem_append] at h
  rcases h with h | h
  · exact settled_of_mem_snakeCase h
  · exact Text.settled_of_ascii (hsuffixes c h).1 (hsuffixes c h).2

/-- **A module name is its own lower-case form.** -/
theorem lower_moduleName (s : String) : Text.lower (moduleName s) = moduleName s := by
  refine Text.lower_of_settled fun c hc => settled_of_mem_fileName (s := s) ?_
  rw [fileName, String.toList_append]
  exact List.mem_append_left _ hc

theorem lower_fileName (s : String) : Text.lower (fileName s) = fileName s :=
  Text.lower_of_settled fun _ => settled_of_mem_fileName

end SchemaModels.Naming
