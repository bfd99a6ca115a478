import SchemaModels.Proofs.Naming.Reserved
import SchemaModels.Proofs.Text.Closure

/-!
# When a name is composed

A text is composed before a name is made of it, so each of its pieces is (`composed_of_mem_pieces`).
The name need not be: pieces get a first letter in upper case, which may decompose, and stand next
to each other afterwards, where a mark at the beginning of one composes with the end of another.
These are the only ways: `memberName_composed_iff`, `variantName_composed_iff` and
`enumTypeName_composed_iff` say that a name composes to itself just if it is `Seamless`, put
together from texts that do, with nothing to compose where they meet.
-/

namespace SchemaModels.Naming

open Text (Composed Meet IsAscii compatChars upperChar)

/-! ## Texts in a row -/

/-- The characters of texts one after the other. -/
def row (parts : List String) : List Char := parts.flatMap String.toList

/-- After the given characters, each of the texts is composed, and composing the row of them goes
text by text. -/
inductive Seamless : List Char → List String → Prop
  | nil (before : List Char) : Seamless before []
  | cons {before : List Char} {p : String} {ps : List String} (composed : Composed p.toList)
      (meet : Meet before p.toList) (rest : Seamless (before ++ p.toList) ps) :
      Seamless before (p :: ps)

theorem seamless_cons_iff {before : List Char} {p : String} {ps : List String} :
    Seamless before (p :: ps) ↔
      Composed p.toList ∧ Meet before p.toList ∧ Seamless (before ++ p.toList) ps := by
  constructor
  · rintro ⟨⟩
    exact ⟨‹_›, ‹_›, ‹_›⟩
  · rintro ⟨hp, hmeet, hps⟩
    exact .cons hp hmeet hps

theorem composed_append_row_iff {before : List Char} {parts : List String} :
    Composed (before ++ row parts) ↔ Composed before ∧ Seamless before parts := by
  induction parts generalizing before with
  | nil => simp [row, Seamless.nil]
  | cons p ps ih =>
    have hrow : before ++ row (p :: ps) = before ++ p.toList ++ row ps := by simp [row]
    rw [hrow, ih, Text.composed_append_iff, seamless_cons_iff]
    tauto

theorem composed_row_iff {parts : List String} : Composed (row parts) ↔ Seamless [] parts := by
  have hnil : Composed [] := rfl
  have h := @composed_append_row_iff [] parts
  rwa [List.nil_append, and_iff_right hnil] at h

theorem composed_ascii {cs : List Char} (h : IsAscii cs) : Composed cs := Text.compatChars_ascii h

/-- An ASCII ending is composed with any text before it that is. -/
theorem composed_append_ascii_iff {cs ds : List Char} (hds : IsAscii ds) :
    Composed (cs ++ ds) ↔ Composed cs := by
  rw [Composed, Text.compatChars_append_ascii hds, List.append_left_inj]
  rfl

/-! ## Pieces -/

/-- The pieces of a text some of whose characters have become underscores stand in that text. -/
theorem infix_of_pieces {f : Char → Char} (hf : ∀ c, f c = c ∨ f c = '_') (cs : List Char) :
    ∃ p ps, pieces (cs.map f) = p :: ps ∧ p <+: cs ∧ ∀ q ∈ ps, q <:+: cs := by
  induction cs with
  | nil => exact ⟨[], [], rfl, List.prefix_refl [], by simp⟩
  | cons c cs ih =>
    obtain ⟨p, ps, hpieces, hp, hps⟩ := ih
    rw [List.map_cons, pieces]
    by_cases hc : f c = '_'
    · refine ⟨[], pieces (cs.map f), if_pos hc, List.nil_prefix, fun q hq => ?_⟩
      rw [hpieces] at hq
      rcases List.mem_cons.mp hq with rfl | hq
      · exact hp.isInfix.trans (List.suffix_cons c cs).isInfix
      · exact (hps q hq).trans (List.suffix_cons c cs).isInfix
    · rw [if_neg hc, hpieces]
      refine ⟨f c :: p, ps, rfl, ?_, fun q hq => (hps q hq).trans (List.suffix_cons c cs).isInfix⟩
      rw [(hf c).resolve_right hc]
      exact List.cons_prefix_cons.mpr ⟨rfl, hp⟩

theorem composed_of_infix {cs ds : List Char} (h : cs <:+: ds) (hds : Composed ds) :
    Composed cs := by
  obtain ⟨before, after, rfl⟩ := h
  exact hds.of_append.1.of_append.2

/-- **Every piece of a text is composed**, as long as it is left as it is. -/
theorem composed_of_mem_pieces {s : String} {q : List Char}
    (hq : q ∈ pieces (identifierText s).toList) : Composed q := by
  have hkeep : ∀ c, (if Text.isIdentifierPart c then c else '_') = c ∨
      (if Text.isIdentifierPart c then c else '_') = '_' := fun c => by
    split
    · exact Or.inl rfl
    · exact Or.inr rfl
  obtain ⟨p, ps, hpieces, hp, hps⟩ := infix_of_pieces hkeep (compatChars s.toList)
  rw [identifierText, String.toList_ofList, hpieces] at hq
  refine composed_of_infix ?_ (Text.composed_compatChars s.toList)
  rcases List.mem_cons.mp hq with rfl | hq
  · exact hp.isInfix
  · exact hps q hq

/-! ## Joined texts -/

/-- The texts that an identifier is joined from: the first piece as it is, the others
capitalized. -/
def joined (s : String) : List String :=
  match (pieces s.toList).filter (!·.isEmpty) with
  | [] => []
  | p :: ps => String.ofList p :: ps.map fun q => capitalized (String.ofList q)

theorem toList_foldl_capitalized (ps : List (List Char)) (s : String) :
    (ps.foldl (fun acc q => acc ++ capitalized (String.ofList q)) s).toList =
      s.toList ++ row (ps.map fun q => capitalized (String.ofList q)) := by
  induction ps generalizing s with
  | nil => simp [row]
  | cons p ps ih =>
    rw [List.foldl_cons, ih, String.toList_append]
    simp [row]

theorem toList_identifier (s : String) : (identifier s).toList = row (joined s) := by
  unfold identifier joined
  cases (pieces s.toList).filter (!·.isEmpty) with
  | nil => rfl
  | cons p ps =>
    rw [toList_foldl_capitalized]
    rfl

/-! ## Members and variants -/

/-- The texts that the name for a text is made of. -/
def nameParts (lead s : String) : List String :=
  if beginsIdentifier (identifier (identifierText s)) then joined (identifierText s)
  else lead :: joined (identifierText s)

theorem safeIdentifier_composed_iff {fallback lead : String} (hfallback : IsAscii fallback.toList)
    (hlead : IsAscii lead.toList) (s : String) :
    Composed (safeIdentifier fallback lead s).toList ↔ Seamless [] (nameParts lead s) := by
  rw [← composed_row_iff]
  have hjoined := toList_identifier (identifierText s)
  unfold safeIdentifier nameParts
  simp only
  generalize identifier (identifierText s) = n at hjoined ⊢
  by_cases hempty : n.isEmpty = true
  · have hn : n = "" := String.isEmpty_iff.mp hempty
    subst hn
    have hrow : row (joined (identifierText s)) = [] := hjoined.symm
    have hlead' : row (lead :: joined (identifierText s)) = lead.toList ++ [] := by
      rw [← hrow]
      rfl
    rw [if_pos hempty, if_neg (by decide), hlead', List.append_nil]
    exact iff_of_true (composed_ascii hfallback) (composed_ascii hlead)
  · rw [if_neg hempty]
    have hname : (if beginsIdentifier n then n else lead ++ n).toList =
        row (if beginsIdentifier n then joined (identifierText s)
          else lead :: joined (identifierText s)) := by
      split
      · exact hjoined
      · rw [String.toList_append, hjoined]
        rfl
    rw [← hname]
    generalize (if beginsIdentifier n then n else lead ++ n) = name
    split
    · rw [String.toList_append]
      exact composed_append_ascii_iff (by decide)
    · rfl

/-- **When the name of a member is composed.** -/
theorem memberName_composed_iff (field : String) :
    Composed (memberName field).toList ↔ Seamless [] (nameParts "f" field) :=
  safeIdentifier_composed_iff (by decide) (by decide) field

/-- **When the name of a variant is composed.** -/
theorem variantName_composed_iff (value : String) :
    Composed (variantName value).toList ↔ Seamless [] (nameParts "v" value) :=
  safeIdentifier_composed_iff (by decide) (by decide) value

/-! ## Enums -/

theorem underscore_not_mem_joined {s p : String} (hp : p ∈ joined s) : '_' ∉ p.toList := by
  have hpiece : ∀ q ∈ (pieces s.toList).filter (!·.isEmpty), ∀ c ∈ (String.ofList q).toList,
      c ≠ '_' := by
    intro q hq c hc
    rw [String.toList_ofList] at hc
    exact (mem_of_mem_pieces (List.mem_filter.mp hq).1 hc).2
  intro hmem
  unfold joined at hp
  cases hsplit : (pieces s.toList).filter (!·.isEmpty) with
  | nil =>
    rw [hsplit] at hp
    cases hp
  | cons q qs =>
    rw [hsplit] at hp hpiece
    rcases List.mem_cons.mp hp with rfl | hp
    · exact hpiece q List.mem_cons_self '_' hmem rfl
    · obtain ⟨r, hr, rfl⟩ := List.mem_map.mp hp
      exact all_capitalized kept_free (hpiece r (List.mem_cons_of_mem q hr)) '_' hmem rfl

theorem underscore_not_mem_identifier (s : String) : '_' ∉ (identifier s).toList := by
  rw [toList_identifier, row, List.mem_flatMap]
  rintro ⟨p, hp, hmem⟩
  exact underscore_not_mem_joined hp hmem

theorem pieces_of_free {cs : List Char} (h : '_' ∉ cs) : pieces cs = [cs] := by
  induction cs with
  | nil => rfl
  | cons c cs ih =>
    rw [List.mem_cons, not_or] at h
    rw [pieces, if_neg (Ne.symm h.1), ih h.2]

/-- A text without underscores is its only piece. -/
theorem identifier_of_free {s : String} (h : '_' ∉ s.toList) : identifier s = s := by
  unfold identifier
  rw [pieces_of_free h]
  by_cases hempty : s.toList = []
  · rw [hempty]
    exact (String.toList_eq_nil_iff.mp hempty).symm
  · simp [hempty]

theorem identifier_select {s : String} (h : '_' ∉ s.toList) (hne : s ≠ "") :
    identifier ("select_" ++ s) = "select" ++ capitalized s := by
  have hpieces : pieces ("select_" ++ s).toList = ["select".toList, s.toList] := by
    have hsplit : ("select_" ++ s).toList = "select".toList ++ '_' :: s.toList := by
      rw [String.toList_append]
      rfl
    have hrest : pieces ("select".toList ++ '_' :: s.toList) =
        "select".toList :: pieces s.toList := rfl
    rw [hsplit, hrest, pieces_of_free h]
  have hnil : s.toList ≠ [] := fun hnil => hne (String.toList_eq_nil_iff.mp hnil)
  unfold identifier
  rw [hpieces]
  simp [hnil]

/-- The first character in upper case. -/
def raised (cs : List Char) : List Char := (cs.take 1).flatMap upperChar ++ cs.drop 1

theorem toList_capitalized {s : String} (h : s ∉ dateTimeSpellings) :
    (capitalized s).toList = raised s.toList := by
  unfold capitalized
  rw [if_neg (mt List.contains_iff_mem.mp h)]
  cases hs : s.toList with
  | nil => simp [hs, raised]
  | cons c cs => simp [raised]

/-- With the first of the texts raised. -/
def raisedFirst : List String → List String
  | [] => []
  | p :: ps => String.ofList (raised p.toList) :: ps

theorem row_raisedFirst (s : String) : row (raisedFirst (joined s)) = raised (row (joined s)) := by
  unfold joined
  cases hsplit : (pieces s.toList).filter (!·.isEmpty) with
  | nil => rfl
  | cons q qs =>
    have hq := (List.mem_filter.mp (hsplit ▸ List.mem_cons_self (a := q) (l := qs))).2
    cases q with
    | nil => cases hq
    | cons c cs => simp [raisedFirst, row, raised]

/-- The texts that the class name of an enum is made of, before its suffix. -/
def enumParts (field : String) : List String :=
  if beginsIdentifier (identifier (identifierText field)) then
    raisedFirst (joined (identifierText field))
  else "Select" :: raisedFirst (joined (identifierText field))

theorem dateTimeSpellings_raised : ∀ s ∈ dateTimeSpellings,
    IsAscii (raised s.toList) ∧ IsAscii (capitalized s).toList ∧ beginsIdentifier s = true ∧
      s.toList.head? = some 'd' := by
  decide

/-- What the class name of an enum is before its suffix. -/
theorem enumStem_composed_iff {n : String} (h : '_' ∉ n.toList) (hne : n ≠ "") :
    Composed (capitalized (identifier (if beginsIdentifier n then n else "select_" ++ n))).toList ↔
      Composed (if beginsIdentifier n then raised n.toList
        else "Select".toList ++ raised n.toList) := by
  by_cases hbegins : beginsIdentifier n = true
  · rw [if_pos hbegins, if_pos hbegins, identifier_of_free h]
    by_cases hspelling : n ∈ dateTimeSpellings
    · obtain ⟨hraised, hcapitalized, -⟩ := dateTimeSpellings_raised n hspelling
      exact iff_of_true (composed_ascii hcapitalized) (composed_ascii hraised)
    · rw [toList_capitalized hspelling]
  · have hspelling : n ∉ dateTimeSpellings := fun hmem =>
      hbegins (dateTimeSpellings_raised n hmem).2.2.1
    have hselect : "select" ++ capitalized n ∉ dateTimeSpellings := fun hmem => by
      have hhead := (dateTimeSpellings_raised _ hmem).2.2.2
      rw [String.toList_append] at hhead
      exact absurd hhead (by simp)
    rw [if_neg hbegins, if_neg hbegins, identifier_select h hne, toList_capitalized hselect,
      String.toList_append, toList_capitalized hspelling]
    rfl

/-- **When the class name of an enum is composed.** -/
theorem enumTypeName_composed_iff (field : String) :
    Composed (enumTypeName field).toList ↔ Seamless [] (enumParts field) := by
  rw [← composed_row_iff]
  have hfree := underscore_not_mem_identifier (identifierText field)
  have hjoined := toList_identifier (identifierText field)
  have hraised := row_raisedFirst (identifierText field)
  rw [← hjoined] at hraised
  have hrow : row (enumParts field) = if beginsIdentifier (identifier (identifierText field)) then
      raised (identifier (identifierText field)).toList
      else "Select".toList ++ raised (identifier (identifierText field)).toList := by
    unfold enumParts
    split
    · exact hraised
    · rw [← hraised]
      rfl
  rw [hrow]
  unfold enumTypeName
  simp only
  rw [String.toList_append, composed_append_ascii_iff (by decide)]
  generalize identifier (identifierText field) = n at hfree
  by_cases hempty : n.isEmpty = true
  · rw [String.isEmpty_iff.mp hempty]
    exact iff_of_true (composed_ascii (by decide)) (composed_ascii (by decide))
  · rw [if_neg hempty]
    exact enumStem_composed_iff hfree fun hn => hempty (String.isEmpty_iff.mpr hn)

end SchemaModels.Naming
