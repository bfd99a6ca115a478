import Mathlib.Data.List.DropRight
import SchemaModels.Text.Blank

/-!
# Trimmed texts

A text is `Trimmed` if no blank is at either end. Trimming makes every text so, and changes no other
(`trimmed_trim`, `trim_eq_self_iff`).
-/

namespace SchemaModels.Text

variable {cs : List Char} {p : Char → Bool} {c : Char}

/-! ## Dropping at one end -/

theorem head?_dropWhile (h : (cs.dropWhile p).head? = some c) : p c = false := by
  simpa [h] using List.head?_dropWhile_not p cs

theorem getLast?_rdropWhile (h : (cs.rdropWhile p).getLast? = some c) : p c = false := by
  rw [List.rdropWhile, List.getLast?_reverse] at h
  exact head?_dropWhile h

/-- What begins with a character that is kept begins so before its end is dropped. -/
theorem head?_of_rdropWhile (h : (cs.rdropWhile p).head? = some c) : cs.head? = some c := by
  obtain ⟨dropped, hsplit⟩ := List.rdropWhile_prefix p cs
  rw [← hsplit, List.head?_append, h]
  rfl

theorem dropWhile_of_front (h : ∀ c, cs.head? = some c → p c = false) : cs.dropWhile p = cs := by
  cases cs with
  | nil => rfl
  | cons c cs => rw [List.dropWhile_cons_of_neg (by simp [h c rfl])]

theorem rdropWhile_of_back (h : ∀ c, cs.getLast? = some c → p c = false) : cs.rdropWhile p = cs :=
  List.rdropWhile_eq_self_iff.mpr fun hne => by
    simp [h _ (List.getLast?_eq_getLast_of_ne_nil hne)]

/-- All of an end that is to be dropped goes, up to a character that is not. -/
theorem rdropWhile_append_of_back {kept dropped : List Char}
    (hkept : ∀ c, kept.getLast? = some c → p c = false) (hdropped : ∀ c ∈ dropped, p c = true) :
    (kept ++ dropped).rdropWhile p = kept := by
  rw [List.rdropWhile, List.reverse_append,
    List.dropWhile_append_of_pos (by simpa using hdropped)]
  exact rdropWhile_of_back hkept

/-! ## Trimming -/

/-- No blank is at either end. -/
structure Trimmed (cs : List Char) : Prop where
  front : ∀ c, cs.head? = some c → isBlank c = false
  back : ∀ c, cs.getLast? = some c → isBlank c = false

theorem toList_trim (s : String) :
    (trim s).toList = (s.toList.dropWhile isBlank).rdropWhile isBlank := by
  unfold trim
  rw [String.toList_ofList]
  rfl

theorem trim_sublist (s : String) : (trim s).toList.Sublist s.toList := by
  rw [toList_trim]
  exact (List.rdropWhile_prefix _ _).sublist.trans (List.dropWhile_sublist _)

theorem trimmed_trim (s : String) : Trimmed (trim s).toList := by
  rw [toList_trim]
  exact ⟨fun c hc => head?_dropWhile (head?_of_rdropWhile hc), fun c hc => getLast?_rdropWhile hc⟩

/-- **A trimmed text is one that trimming does not change.** -/
theorem trim_eq_self_iff {s : String} : trim s = s ↔ Trimmed s.toList := by
  constructor
  · intro h
    rw [← h]
    exact trimmed_trim s
  · intro h
    rw [← String.toList_inj, toList_trim, dropWhile_of_front h.front, rdropWhile_of_back h.back]

end SchemaModels.Text
