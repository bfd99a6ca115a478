import SchemaModels.Files.Path

/-!
# Path texts of one name

A text without slashes that is neither empty nor a single dot is one name, so that `below` goes down
by that name (`below_of_slash_not_mem`). Paths side by side have different texts
(`text_snoc_injective`), and the text of a path that was read off a text stands for that path
(`below_text`).
-/

namespace SchemaModels.Files.Path

theorem split_of_not_mem {separator : Char} {cs : List Char} (h : separator ∉ cs) :
    split separator cs = [cs] := by
  induction cs with
  | nil => rfl
  | cons c cs ih =>
    rw [List.mem_cons, not_or] at h
    rw [split, if_neg (Ne.symm h.1), ih h.2]

theorem names_of_slash_not_mem {s : String} (h : '/' ∉ s.toList) (hempty : s ≠ "")
    (hdot : s ≠ ".") :
    names s = [s] := by
  unfold names
  rw [split_of_not_mem h]
  simp [hempty, hdot]

theorem below_of_slash_not_mem {s : String} (directory : Path) (h : '/' ∉ s.toList)
    (hempty : s ≠ "") (hdot : s ≠ ".") : below directory s = directory ++ [s] := by
  have habs : isAbsolute s = false := by
    unfold isAbsolute
    cases hs : s.toList with
    | nil => rfl
    | cons c cs =>
      have hc : c ≠ '/' := by
        rintro rfl
        exact h (by rw [hs]; exact List.mem_cons_self)
      simpa using hc
  unfold below
  rw [habs, names_of_slash_not_mem h hempty hdot]
  rfl

/-- A text without separators goes on the last piece. -/
theorem split_append {separator : Char} {ds : List Char} (h : separator ∉ ds) (cs : List Char) :
    ∃ front last, split separator (cs ++ ds) = front ++ [last ++ ds] := by
  induction cs with
  | nil => exact ⟨[], [], split_of_not_mem h⟩
  | cons c cs ih =>
    obtain ⟨front, last, hsplit⟩ := ih
    rw [List.cons_append, split, hsplit]
    split
    · exact ⟨[] :: front, last, rfl⟩
    · cases front with
      | nil => exact ⟨[], c :: last, rfl⟩
      | cons p front => exact ⟨(c :: p) :: front, last, rfl⟩

/-- A path text leads to a name with the ending of the text. -/
theorem below_append (directory : Path) (s : String) {ending : String} (h : '/' ∉ ending.toList)
    (hlength : 1 < ending.length) : ∃ front stem, below directory (s ++ ending) =
      front ++ [stem ++ ending] := by
  obtain ⟨front, last, hsplit⟩ := split_append h s.toList
  have hlast : String.ofList (last ++ ending.toList) = String.ofList last ++ ending := by
    rw [String.ofList_append, String.ofList_toList]
  have hkept : [String.ofList last ++ ending].filter (fun n => n != "" && n != ".") =
      [String.ofList last ++ ending] := by
    have hlong : 1 < (String.ofList last ++ ending).length := by
      rw [String.length_append]
      omega
    generalize String.ofList last ++ ending = t at hlong
    have hempty : t ≠ "" := by
      rintro rfl
      exact absurd hlong (by decide)
    have hdot : t ≠ "." := by
      rintro rfl
      exact absurd hlong (by decide)
    simp [hempty, hdot]
  unfold below names
  rw [String.toList_append, hsplit, List.map_append, List.filter_append, List.map_singleton, hlast,
    hkept]
  exact ⟨_, String.ofList last, (List.append_assoc _ _ _).symm⟩

/-- Paths that differ in their last names have different texts. -/
theorem text_snoc_injective {directory : Path} {m n : String}
    (h : text (directory ++ [m]) = text (directory ++ [n])) : m = n := by
  unfold text at h
  rw [String.append_right_inj] at h
  cases directory with
  | nil => simpa using h
  | cons d ds =>
    rw [String.intercalate_append_of_ne_nil (by simp) (by simp),
      String.intercalate_append_of_ne_nil (by simp) (by simp), String.append_right_inj] at h
    simpa using h

/-! ## Texts of paths -/

/-- The names in a path can stand in a path text. -/
def IsClean (p : Path) : Prop := ∀ n ∈ p, '/' ∉ n.toList ∧ n ≠ "" ∧ n ≠ "."

theorem not_mem_of_mem_split {separator : Char} {cs piece : List Char}
    (h : piece ∈ split separator cs) : separator ∉ piece := by
  induction cs generalizing piece with
  | nil =>
    rw [split, List.mem_singleton] at h
    rw [h]
    exact List.not_mem_nil
  | cons c cs ih =>
    rw [split] at h
    split at h
    · rcases List.mem_cons.mp h with rfl | h
      · exact List.not_mem_nil
      · exact ih h
    · rename_i hc
      split at h
      · rw [List.mem_singleton.mp h, List.mem_singleton]
        exact Ne.symm hc
      · rename_i first others hsplit
        rw [hsplit] at ih
        rcases List.mem_cons.mp h with rfl | h
        · rw [List.mem_cons, not_or]
          exact ⟨Ne.symm hc, ih List.mem_cons_self⟩
        · exact ih (List.mem_cons_of_mem first h)

theorem isClean_names (s : String) : IsClean (names s) := by
  intro n hn
  unfold names at hn
  obtain ⟨hn, hkept⟩ := List.mem_filter.mp hn
  obtain ⟨piece, hpiece, rfl⟩ := List.mem_map.mp hn
  rw [String.toList_ofList]
  simp only [Bool.and_eq_true, bne_iff_ne] at hkept
  exact ⟨not_mem_of_mem_split hpiece, hkept.1, hkept.2⟩

theorem isClean_below {directory : Path} (h : IsClean directory) (s : String) :
    IsClean (below directory s) := by
  unfold below
  refine List.forall_mem_append.mpr ⟨?_, isClean_names s⟩
  split
  · exact fun n hn => absurd hn List.not_mem_nil
  · exact h

/-- A piece without separators is added to the first one. -/
theorem split_append_left {separator : Char} {cs ds : List Char} {pieces : List (List Char)}
    (h : separator ∉ cs) (hds : split separator ds = [] :: pieces) :
    split separator (cs ++ ds) = cs :: pieces := by
  induction cs with
  | nil => exact hds
  | cons c cs ih =>
    rw [List.mem_cons, not_or] at h
    rw [List.cons_append, split, if_neg (Ne.symm h.1), ih h.2]

/-- **The text of a path** is cut into its names. -/
theorem split_names {p : Path} (h : ∀ n ∈ p, '/' ∉ n.toList) :
    split '/' (p.flatMap fun n => '/' :: n.toList) = [] :: p.map String.toList := by
  induction p with
  | nil => rfl
  | cons n p ih =>
    obtain ⟨hn, hp⟩ := List.forall_mem_cons.mp h
    rw [List.flatMap_cons, List.cons_append, split, if_pos rfl, split_append_left hn (ih hp)]
    rfl

theorem toList_text {p : Path} (h : p ≠ []) :
    (text p).toList = p.flatMap fun n => '/' :: n.toList := by
  unfold text
  rw [String.toList_append]
  induction p with
  | nil => exact absurd rfl h
  | cons m p ih =>
    cases p with
    | nil => simp
    | cons n p =>
      rw [String.intercalate_cons_cons, String.toList_append, String.toList_append,
        List.append_assoc, ih (by simp)]
      rfl

/-- **A path whose names can stand in a text** is what its text stands for. -/
theorem below_text {p : Path} (h : IsClean p) (directory : Path) :
    below directory (text p) = p := by
  have habs : isAbsolute (text p) = true := by
    unfold isAbsolute text
    rw [String.toList_append]
    rfl
  have hkept : p.filter (fun n => n != "" && n != ".") = p :=
    List.filter_eq_self.mpr fun n hn => by simp [h n hn]
  unfold below
  rw [habs, if_pos rfl, List.nil_append]
  cases p with
  | nil => decide
  | cons n p =>
    unfold names
    rw [toList_text (by simp), split_names fun m hm => (h m hm).1, List.map_cons,
      List.map_map]
    have hnames : (String.ofList ∘ String.toList) = (id : String → String) :=
      funext fun s => String.ofList_toList
    rw [hnames, List.map_id, List.filter_cons_of_neg (by decide)]
    exact hkept

end SchemaModels.Files.Path
