import SchemaModels.Proofs.Naming.Composed
import SchemaModels.Proofs.Naming.Usable

/-!
# Collections with one module name

A module name keeps the letters of a collection's name but not their case, and a class name keeps
them but for the underscores. So two names with one module name need not have one class name. If
neither has capitals they do (`typeName_eq_of_snakeCase`), since a name in snake case is its own
module name. In general they agree in their `letters`: the class names are the same up to the case
of letters (`typeName_alike`), as long as no part of them gives way to the token for "date time".
-/

namespace SchemaModels.Naming

open Text (IsWordly IsAscii)

/-! ## Letters -/

/-- The letters and digits of a text, whatever their case. -/
def letters (cs : List Char) : List Char := (cs.filter (· != '_')).map Char.toLower

theorem letters_append (cs ds : List Char) : letters (cs ++ ds) = letters cs ++ letters ds := by
  unfold letters
  rw [List.filter_append, List.map_append]

theorem letters_cons (c : Char) (cs : List Char) : letters (c :: cs) = letters [c] ++ letters cs :=
  letters_append [c] cs

theorem letters_underscore (cs : List Char) : letters ('_' :: cs) = letters cs := rfl

theorem letters_of_free {cs : List Char} (h : '_' ∉ cs) : letters cs = cs.map Char.toLower := by
  unfold letters
  rw [List.filter_eq_self.mpr]
  intro c hc
  rw [bne_iff_ne]
  rintro rfl
  exact h hc

/-- The case of a character makes no difference to its letters. -/
theorem letters_case {c : Char} (h : c.toNat < 128) :
    letters [c.toLower] = letters [c] ∧ letters [c.toUpper] = letters [c] :=
  Text.forall_ascii h (by decide)

theorem letters_map_toLower {cs : List Char} (h : IsAscii cs) :
    letters (cs.map Char.toLower) = letters cs := by
  induction cs with
  | nil => rfl
  | cons c cs ih =>
    obtain ⟨hc, hcs⟩ := List.forall_mem_cons.mp h
    rw [List.map_cons, letters_cons, letters_cons c cs, (letters_case hc).1, ih hcs]

theorem ascii_of_wordly {cs : List Char} (h : ∀ c ∈ cs, IsWordly c) : IsAscii cs :=
  fun c hc => Text.lt_of_wordly (h c hc)

/-! ## Module names -/

theorem letters_separate : ∀ cs : List Char, letters (separate cs) = letters cs
  | [] => rfl
  | [_] => rfl
  | a :: b :: rest => by
    have ih := letters_separate (b :: rest)
    rw [separate, letters_cons a (b :: rest), ← ih]
    split
    · rw [letters_cons, letters_underscore]
    · rw [letters_cons]

theorem separate_ascii {cs : List Char} (h : IsAscii cs) : IsAscii (separate cs) := by
  intro c hc
  rcases mem_separate hc with hc | rfl
  · exact h c hc
  · decide

theorem toList_snakeCase {s : String} (h : IsAscii s.toList) :
    (snakeCase s).toList = (separate s.toList).map Char.toLower := by
  unfold snakeCase
  rw [Text.lower_ascii, String.toList_ofList]
  rw [String.toList_ofList]
  exact separate_ascii h

theorem letters_snakeCase {s : String} (h : IsAscii s.toList) :
    letters (snakeCase s).toList = letters s.toList := by
  rw [toList_snakeCase h, letters_map_toLower (separate_ascii h), letters_separate]

variable {a b : String}

theorem snakeCase_of_moduleName (h : moduleName a = moduleName b) :
    snakeCase (singular a) = snakeCase (singular b) := by
  have htexts := congrArg String.toList h
  unfold moduleName at htexts
  rw [String.toList_append, String.toList_append] at htexts
  exact String.toList_inj.mp (List.append_cancel_right htexts)

/-- **A module name keeps the letters.** -/
theorem letters_of_moduleName (ha : ∀ c ∈ a.toList, IsWordly c) (hb : ∀ c ∈ b.toList, IsWordly c)
    (h : moduleName a = moduleName b) :
    letters (singular a).toList = letters (singular b).toList := by
  rw [← letters_snakeCase (ascii_of_wordly (singular_wordly ha)),
    ← letters_snakeCase (ascii_of_wordly (singular_wordly hb)), snakeCase_of_moduleName h]

/-! ## Class names -/

/-- The letters of a text say "date time" somewhere. -/
def SpellsDateTime (cs : List Char) : Prop := "datetime".toList <:+: letters cs

theorem letters_dateTimeSpellings :
    ∀ s ∈ dateTimeSpellings, letters s.toList = "datetime".toList := by
  decide

theorem letters_capitalized {s : String} (hs : IsAscii s.toList) (h : s ∉ dateTimeSpellings) :
    letters (capitalized s).toList = letters s.toList := by
  rw [toList_capitalized h]
  cases hlist : s.toList with
  | nil => rfl
  | cons c cs =>
    have hc : c.toNat < 128 := hs c (hlist ▸ List.mem_cons_self)
    have hraised : raised (c :: cs) = c.toUpper :: cs := by
      unfold raised Text.upperChar
      simp [hc]
    rw [hraised, letters_cons, (letters_case hc).2, ← letters_cons]

theorem letters_pieces (cs : List Char) : (pieces cs).flatMap letters = letters cs := by
  induction cs with
  | nil => rfl
  | cons c cs ih =>
    rw [pieces]
    by_cases hc : c = '_'
    · rw [if_pos hc, hc, letters_underscore, ← ih]
      rfl
    · obtain ⟨p, ps, hpieces⟩ := List.exists_cons_of_ne_nil (pieces_ne_nil cs)
      rw [hpieces, List.flatMap_cons] at ih
      rw [if_neg hc, hpieces, List.flatMap_cons, letters_cons c p, letters_cons c cs, ← ih,
        List.append_assoc]

/-- The pieces of a text that hold something have its letters. -/
theorem letters_filter_pieces (cs : List Char) :
    ((pieces cs).filter (!·.isEmpty)).flatMap letters = letters cs := by
  rw [← letters_pieces cs]
  induction pieces cs with
  | nil => rfl
  | cons p ps ih =>
    cases p with
    | nil => exact ih
    | cons c cs =>
      rw [List.filter_cons_of_pos (by rfl), List.flatMap_cons, List.flatMap_cons, ih]

/-- Capitalized pieces keep their letters, if none of them is a spelling of "date time". -/
theorem letters_row_capitalized {ps : List (List Char)}
    (h : ∀ p ∈ ps, IsAscii p ∧ String.ofList p ∉ dateTimeSpellings) :
    letters (row (ps.map fun p => capitalized (String.ofList p))) = ps.flatMap letters := by
  induction ps with
  | nil => rfl
  | cons p ps ih =>
    obtain ⟨⟨hascii, hspelling⟩, hps⟩ := List.forall_mem_cons.mp h
    have hp := letters_capitalized (s := String.ofList p) (by rwa [String.toList_ofList]) hspelling
    rw [String.toList_ofList] at hp
    rw [row, List.map_cons, List.flatMap_cons, letters_append, hp, List.flatMap_cons, ← ih hps]
    rfl

/-- A piece of a text that does not spell "date time" is none of its spellings. -/
theorem not_mem_dateTimeSpellings {cs p : List Char} (h : ¬ SpellsDateTime cs)
    (hp : p ∈ pieces cs) :
    String.ofList p ∉ dateTimeSpellings := by
  intro hmem
  have hspelling := letters_dateTimeSpellings _ hmem
  rw [String.toList_ofList] at hspelling
  obtain ⟨before, after, hsplit⟩ := List.append_of_mem hp
  refine h ⟨before.flatMap letters, after.flatMap letters, ?_⟩
  rw [← letters_pieces cs, hsplit, List.flatMap_append, List.flatMap_cons, hspelling,
    List.append_assoc]

/-- **Joining keeps the letters.** -/
theorem letters_identifier {s : String} (hs : IsAscii s.toList) (h : ¬ SpellsDateTime s.toList) :
    letters (identifier s).toList = letters s.toList := by
  have hpieces : ∀ p ∈ (pieces s.toList).filter (!·.isEmpty),
      IsAscii p ∧ String.ofList p ∉ dateTimeSpellings := by
    intro p hp
    have hmem := (List.mem_filter.mp hp).1
    exact ⟨fun c hc => hs c (mem_of_mem_pieces hmem hc).1, not_mem_dateTimeSpellings h hmem⟩
  rw [toList_identifier, ← letters_filter_pieces s.toList]
  unfold joined
  cases hsplit : (pieces s.toList).filter (!·.isEmpty) with
  | nil => rfl
  | cons p ps =>
    rw [hsplit] at hpieces
    have hrest := letters_row_capitalized fun q hq => hpieces q (List.mem_cons_of_mem p hq)
    simp only [row, List.flatMap_cons, letters_append, String.toList_ofList] at hrest ⊢
    rw [hrest]

/-- **A class name keeps the letters**, if they do not spell "date time". -/
theorem letters_classStem (ha : ∀ c ∈ a.toList, IsWordly c)
    (h : ¬ SpellsDateTime (singular a).toList) :
    letters (classStem a).toList = letters (singular a).toList := by
  have hsingular := singular_wordly ha
  have hcapitalized := all_capitalized kept_wordly hsingular
  have hspelling : singular a ∉ dateTimeSpellings := fun hmem =>
    h ⟨[], [], by rw [letters_dateTimeSpellings _ hmem]; rfl⟩
  have hkept := letters_capitalized (ascii_of_wordly hsingular) hspelling
  unfold classStem
  rw [letters_identifier (ascii_of_wordly hcapitalized), hkept]
  unfold SpellsDateTime
  rw [hkept]
  exact h

theorem classStem_free (a : String) : '_' ∉ (classStem a).toList :=
  underscore_not_mem_identifier _

/-- **Class names of one module name** are the same up to the case of letters. -/
theorem typeName_alike (ha : ∀ c ∈ a.toList, IsWordly c) (hb : ∀ c ∈ b.toList, IsWordly c)
    (h : moduleName a = moduleName b) (hspells : ¬ SpellsDateTime (singular a).toList)
    (suffix : String) :
    (typeName a suffix).toList.map Char.toLower = (typeName b suffix).toList.map Char.toLower := by
  have hsame := letters_of_moduleName ha hb h
  have hspells' : ¬ SpellsDateTime (singular b).toList := by
    unfold SpellsDateTime at hspells ⊢
    rwa [← hsame]
  rw [← letters_classStem ha hspells, ← letters_classStem hb hspells',
    letters_of_free (classStem_free a), letters_of_free (classStem_free b)] at hsame
  rw [typeName_eq, typeName_eq, String.toList_append, String.toList_append, List.map_append,
    List.map_append, hsame]

/-! ## Names in snake case -/

/-- The singular of the name is in snake case, so it is what the module is called after. -/
def InSnakeCase (name : String) : Prop := snakeCase (singular name) = singular name

/-- **Names in snake case** have one class name if they have one module name. -/
theorem typeName_eq_of_snakeCase (ha : InSnakeCase a) (hb : InSnakeCase b)
    (h : moduleName a = moduleName b) (suffix : String) :
    typeName a suffix = typeName b suffix := by
  have hsingular : singular a = singular b := by
    rw [← ha, ← hb, snakeCase_of_moduleName h]
  unfold typeName
  rw [hsingular]

theorem separate_of_no_capital : ∀ {cs : List Char}, (∀ c ∈ cs, isCapital c = false) →
    separate cs = cs
  | [], _ => rfl
  | [_], _ => rfl
  | a :: b :: rest, h => by
    obtain ⟨ha, hrest⟩ := List.forall_mem_cons.mp h
    rw [separate, hrest b List.mem_cons_self, Bool.and_false, if_neg Bool.false_ne_true,
      separate_of_no_capital hrest]

end SchemaModels.Naming
