import SchemaModels.Proofs.Naming.Characters
import SchemaModels.Proofs.Source.Number

/-!
# Names are identifiers

Joining pieces and capitalizing them keeps any kind of characters that upper case keeps
(`all_identifier`), and the first character stays (`head_identifier`). So the class name of an enum
is an identifier whatever its field is called (`enumTypeName_plain`), and so is the class name of a
collection of ASCII letters, digits and underscores, unless it begins with a digit
(`typeName_plain`); then it cannot be read at all (`typeName_plain_of_parse`).
-/

namespace SchemaModels.Naming

open Text (isIdentifierStart isIdentifierPart isIdentifier IsWordly)
open Source.Hint (Plain)

/-! ## Kinds of characters -/

/-- A kind of characters that upper case keeps, and that writes the token of date time. -/
structure Kept (p : Char → Prop) : Prop where
  upper : ∀ c, p c → ∀ d ∈ Text.upperChar c, p d
  token : ∀ c ∈ dateTimeToken.toList, p c

theorem kept_part : Kept fun c => isIdentifierPart c = true :=
  ⟨fun _ hc _ hd => Text.part_of_mem_upperChar hc hd, by decide⟩

theorem kept_wordly : Kept IsWordly := by
  refine ⟨fun c hc d hd => ?_, by decide⟩
  have hascii := Text.lt_of_wordly hc
  unfold Text.upperChar at hd
  rw [if_pos hascii, List.mem_singleton] at hd
  exact hd ▸ (Text.toUpper_ascii hascii).2 hc

theorem kept_free : Kept (· ≠ '_') :=
  ⟨fun _ hc _ hd heq => hc (Text.eq_underscore_of_mem_upperChar (heq ▸ hd)), by decide⟩

variable {p : Char → Prop}

theorem all_capitalized (hp : Kept p) {s : String} (hs : ∀ c ∈ s.toList, p c) :
    ∀ c ∈ (capitalized s).toList, p c := by
  intro c hc
  unfold capitalized at hc
  split at hc
  · exact hp.token c hc
  · split at hc
    · exact hs c hc
    · rename_i d ds hsplit
      rw [hsplit] at hs
      rw [String.toList_ofList, List.mem_append] at hc
      rcases hc with hc | hc
      · exact hp.upper d (hs d List.mem_cons_self) c hc
      · exact hs c (List.mem_cons_of_mem d hc)

/-! ## Pieces -/

theorem pieces_ne_nil (cs : List Char) : pieces cs ≠ [] := by
  cases cs with
  | nil => simp [pieces]
  | cons c cs =>
    rw [pieces]
    split
    · simp
    · split <;> simp

/-- A piece has characters of the text, and no underscore. -/
theorem mem_of_mem_pieces {cs q : List Char} (hq : q ∈ pieces cs) {c : Char} (hc : c ∈ q) :
    c ∈ cs ∧ c ≠ '_' := by
  induction cs generalizing q with
  | nil =>
    rw [pieces, List.mem_singleton] at hq
    rw [hq] at hc
    cases hc
  | cons d ds ih =>
    rw [pieces] at hq
    split at hq
    · rcases List.mem_cons.mp hq with rfl | hq
      · cases hc
      · exact (ih hq hc).imp_left (List.mem_cons_of_mem d)
    · rename_i hd
      split at hq
      · rw [List.mem_singleton] at hq
        rw [hq, List.mem_singleton] at hc
        rw [hc]
        exact ⟨List.mem_cons_self, hd⟩
      · rename_i r rs hpieces
        rw [hpieces] at ih
        rcases List.mem_cons.mp hq with rfl | hq
        · rcases List.mem_cons.mp hc with rfl | hc
          · exact ⟨List.mem_cons_self, hd⟩
          · exact (ih List.mem_cons_self hc).imp_left (List.mem_cons_of_mem d)
        · exact (ih (List.mem_cons_of_mem r hq) hc).imp_left (List.mem_cons_of_mem d)

theorem all_foldl_capitalized (hp : Kept p) (qs : List (List Char)) (s : String)
    (hqs : ∀ q ∈ qs, ∀ c ∈ q, p c) (hs : ∀ c ∈ s.toList, p c) :
    ∀ c ∈ (qs.foldl (fun acc q => acc ++ capitalized (String.ofList q)) s).toList, p c := by
  induction qs generalizing s with
  | nil => exact hs
  | cons q qs ih =>
    refine ih _ (fun r hr => hqs r (List.mem_cons_of_mem q hr)) fun c hc => ?_
    rw [String.toList_append, List.mem_append] at hc
    rcases hc with hc | hc
    · exact hs c hc
    · refine all_capitalized hp (fun d hd => ?_) c hc
      rw [String.toList_ofList] at hd
      exact hqs q List.mem_cons_self d hd

/-- **Joining keeps kinds of characters.** -/
theorem all_identifier (hp : Kept p) {s : String} (hs : ∀ c ∈ s.toList, p c) :
    ∀ c ∈ (identifier s).toList, p c := by
  have hpieces : ∀ q ∈ (pieces s.toList).filter (!·.isEmpty), ∀ c ∈ q, p c := fun q hq c hc =>
    hs c (mem_of_mem_pieces (List.mem_filter.mp hq).1 hc).1
  unfold identifier
  cases hsplit : (pieces s.toList).filter (!·.isEmpty) with
  | nil => simp
  | cons q qs =>
    rw [hsplit] at hpieces
    refine all_foldl_capitalized hp qs _ (fun r hr => hpieces r (List.mem_cons_of_mem q hr)) ?_
    rw [String.toList_ofList]
    exact hpieces q List.mem_cons_self

/-! ## The first character -/

theorem head_foldl_capitalized (qs : List (List Char)) {s : String} {c : Char}
    (hs : s.toList.head? = some c) :
    (qs.foldl (fun acc q => acc ++ capitalized (String.ofList q)) s).toList.head? = some c := by
  induction qs generalizing s with
  | nil => exact hs
  | cons q qs ih =>
    refine ih ?_
    rw [String.toList_append, List.head?_append, hs]
    rfl

/-- The pieces of a text begin as it does without its leading underscores. -/
theorem head_pieces (cs : List Char) :
    (((pieces cs).filter (!·.isEmpty)).head?.bind List.head?) = cs.find? (· != '_') := by
  induction cs with
  | nil => rfl
  | cons c cs ih =>
    rw [pieces]
    by_cases hc : c = '_'
    · rw [if_pos hc, hc, List.filter_cons_of_neg (by simp), ih]
      rfl
    · obtain ⟨p, ps, hpieces⟩ := List.exists_cons_of_ne_nil (pieces_ne_nil cs)
      rw [if_neg hc, hpieces, List.find?_cons_of_pos (by simpa using hc)]
      rfl

/-- **A joined text begins with the leading character.** -/
theorem head_identifier_eq (s : String) :
    (identifier s).toList.head? = s.toList.find? (· != '_') := by
  rw [← head_pieces]
  unfold identifier
  cases hsplit : (pieces s.toList).filter (!·.isEmpty) with
  | nil => rfl
  | cons p ps =>
    have hp := List.mem_filter.mp (hsplit ▸ List.mem_cons_self (a := p) (l := ps))
    cases p with
    | nil => exact absurd hp.2 (by decide)
    | cons c cs =>
      refine head_foldl_capitalized ps ?_
      rw [String.toList_ofList]
      rfl

/-- A joined text is empty, or begins with a character that is no underscore. -/
theorem head_identifier_ne (s : String) : identifier s = "" ∨
    ∃ c, (identifier s).toList.head? = some c ∧ c ≠ '_' := by
  have hhead := head_identifier_eq s
  cases hfind : s.toList.find? (· != '_') with
  | none =>
    rw [hfind, List.head?_eq_none_iff] at hhead
    exact Or.inl (String.toList_inj.mp hhead)
  | some c =>
    rw [hfind] at hhead
    exact Or.inr ⟨c, hhead, by simpa using List.find?_some hfind⟩

/-- A text that begins with no underscore begins the same way when joined. -/
theorem head_identifier {s : String} {c : Char} (hs : s.toList.head? = some c) (hc : c ≠ '_') :
    (identifier s).toList.head? = some c := by
  rw [head_identifier_eq]
  cases hlist : s.toList with
  | nil =>
    rw [hlist] at hs
    cases hs
  | cons d ds =>
    rw [hlist, List.head?_cons, Option.some.injEq] at hs
    rw [hs, List.find?_cons_of_pos (by simpa using hc)]

/-! ## Class names -/

theorem isIdentifier_of_start {cs : List Char} {c : Char} (hhead : cs.head? = some c)
    (hc : isIdentifierStart c = true) (hall : ∀ d ∈ cs, isIdentifierPart d = true) :
    isIdentifier cs = true := by
  cases cs with
  | nil => cases hhead
  | cons d ds =>
    rw [List.head?_cons, Option.some.injEq] at hhead
    rw [isIdentifier, hhead, hc, Bool.true_and, List.all_eq_true]
    exact fun e he => hall e (List.mem_cons_of_mem d he)

theorem isIdentifier_append {cs ds : List Char} (hcs : isIdentifier cs = true)
    (hds : ∀ d ∈ ds, isIdentifierPart d = true) : isIdentifier (cs ++ ds) = true := by
  cases cs with
  | nil => cases hcs
  | cons c cs =>
    rw [isIdentifier, Bool.and_eq_true, List.all_eq_true] at hcs
    rw [List.cons_append, isIdentifier, Bool.and_eq_true, List.all_append, Bool.and_eq_true,
      List.all_eq_true, List.all_eq_true]
    exact ⟨hcs.1, hcs.2, hds⟩

/-- A name with a suffix that ends no keyword is plain. -/
theorem plain_append {s suffix : String} {c : Char}
    (hall : ∀ c ∈ s.toList, isIdentifierPart c = true) (hhead : s.toList.head? = some c)
    (hc : isIdentifierStart c = true) (hsuffix : ∀ c ∈ suffix.toList, isIdentifierPart c = true)
    (hfree : ∀ k ∈ keywords, ¬ suffix.toList <:+ k.toList) : Plain (s ++ suffix) := by
  constructor
  · rw [String.toList_append]
    exact isIdentifier_append (isIdentifier_of_start hhead hc hall) hsuffix
  · intro hk
    refine hfree _ hk ?_
    rw [String.toList_append]
    exact List.suffix_append _ _

theorem identifierText_part (s : String) :
    ∀ c ∈ (identifierText s).toList, isIdentifierPart c = true := by
  intro c hc
  unfold identifierText at hc
  rw [String.toList_ofList, List.mem_map] at hc
  obtain ⟨d, -, rfl⟩ := hc
  split
  · assumption
  · decide

theorem head_capitalized {s : String} {c : Char} (hs : s.toList.head? = some c)
    (hc : isIdentifierStart c = true) :
    ∃ d, (capitalized s).toList.head? = some d ∧ isIdentifierStart d = true := by
  unfold capitalized
  split
  · exact ⟨'D', by decide, by decide⟩
  · split
    · rename_i hnil
      rw [hnil] at hs
      cases hs
    · rename_i e es hsplit
      rw [hsplit, List.head?_cons, Option.some.injEq] at hs
      subst hs
      obtain ⟨d, ds, hd, hstart⟩ := Text.start_of_upperChar hc
      refine ⟨d, ?_, hstart⟩
      rw [String.toList_ofList, hd]
      rfl

theorem beginsIdentifier_iff {s : String} : beginsIdentifier s = true ↔
    ∃ c, s.toList.head? = some c ∧ isIdentifierStart c = true := by
  unfold beginsIdentifier
  cases s.toList with
  | nil => simp
  | cons c cs => simp

/-- The class name of an enum is made of a text that begins an identifier, and goes on as one. -/
theorem enumTypeName_eq (field : String) : ∃ name c,
    enumTypeName field = capitalized (identifier name) ++ "Enum" ∧
      (∀ d ∈ name.toList, isIdentifierPart d = true) ∧ name.toList.head? = some c ∧ c ≠ '_' ∧
        isIdentifierStart c = true := by
  have hpart := all_identifier kept_part (identifierText_part field)
  obtain ⟨n, hn, hnpart, c, hhead, hc⟩ : ∃ n,
      (if (identifier (identifierText field)).isEmpty then "select"
        else identifier (identifierText field)) = n ∧
      (∀ d ∈ n.toList, isIdentifierPart d = true) ∧ ∃ c, n.toList.head? = some c ∧ c ≠ '_' := by
    rcases head_identifier_ne (identifierText field) with hempty | hhead
    · rw [hempty]
      exact ⟨"select", rfl, by decide, 's', by decide, by decide⟩
    · refine ⟨_, rfl, ?_, ?_⟩
      · split
        · decide
        · exact hpart
      · split
        · exact ⟨'s', by decide, by decide⟩
        · exact hhead
  unfold enumTypeName
  simp only [hn]
  by_cases hbegins : beginsIdentifier n = true
  · rw [if_pos hbegins]
    obtain ⟨d, hd, hstart⟩ := beginsIdentifier_iff.mp hbegins
    rw [hhead, Option.some.injEq] at hd
    exact ⟨n, c, rfl, hnpart, hhead, hc, hd ▸ hstart⟩
  · rw [if_neg hbegins]
    refine ⟨"select_" ++ n, 's', rfl, fun d hd => ?_, ?_, by decide, by decide⟩
    · rw [String.toList_append, List.mem_append] at hd
      rcases hd with hd | hd
      · revert d
        decide
      · exact hnpart d hd
    · rw [String.toList_append, List.head?_append]
      rfl

/-- **The class name of an enum is an identifier**, whatever its field is called. -/
theorem enumTypeName_plain (field : String) : Plain (enumTypeName field) := by
  obtain ⟨name, c, heq, hpart, hhead, hc, hstart⟩ := enumTypeName_eq field
  obtain ⟨d, hd, hdstart⟩ := head_capitalized (head_identifier hhead hc) hstart
  rw [heq]
  exact plain_append (all_capitalized kept_part (all_identifier kept_part hpart)) hd hdstart
    (by decide) (by decide)

/-- What the class names of a collection begin with, before their suffix. -/
def classStem (collection : String) : String := identifier (capitalized (singular collection))

theorem typeName_eq (collection suffix : String) :
    typeName collection suffix = classStem collection ++ suffix := rfl

theorem wordly_of_small {c : Char} (h : IsSmall c) : IsWordly c := by
  have hlow : 'a'.toNat ≤ c.toNat := h.1
  have hhigh : c.toNat ≤ 'z'.toNat := h.2
  exact Or.inl (Or.inr (Or.inl ⟨hlow, hhigh⟩))

theorem singular_wordly {word : String} (h : ∀ c ∈ word.toList, IsWordly c) :
    ∀ c ∈ (singular word).toList, IsWordly c := by
  intro c hc
  rcases mem_singular hc with hc | hc
  · exact h c hc
  · exact wordly_of_small hc

theorem classStem_wordly {collection : String} (h : ∀ c ∈ collection.toList, IsWordly c) :
    ∀ c ∈ (classStem collection).toList, IsWordly c :=
  all_identifier kept_wordly (all_capitalized kept_wordly (singular_wordly h))

/-- The suffixes of class names. -/
theorem suffix_plain {suffix : String} (h : suffix = dataSuffix ∨ suffix = expandSuffix) :
    Plain suffix ∧ (∀ c ∈ suffix.toList, IsWordly c) ∧
      ∀ k ∈ keywords, ¬ suffix.toList <:+ k.toList := by
  rcases h with rfl | rfl
  · exact ⟨⟨by decide, by decide⟩, by decide, by decide⟩
  · exact ⟨⟨by decide, by decide⟩, by decide, by decide⟩

theorem typeName_wordly {collection suffix : String} (h : ∀ c ∈ collection.toList, IsWordly c)
    (hsuffix : suffix = dataSuffix ∨ suffix = expandSuffix) :
    ∀ c ∈ (typeName collection suffix).toList, IsWordly c := by
  intro c hc
  rw [typeName_eq, String.toList_append, List.mem_append] at hc
  rcases hc with hc | hc
  · exact classStem_wordly h c hc
  · exact (suffix_plain hsuffix).2.1 c hc

/-- **The class names of a collection are identifiers**, if its name is made of ASCII letters,
digits and underscores and no digit comes to stand in front. -/
theorem typeName_plain {collection suffix : String} (h : ∀ c ∈ collection.toList, IsWordly c)
    (hhead : ∀ c, (classStem collection).toList.head? = some c → Text.IsLetter c)
    (hsuffix : suffix = dataSuffix ∨ suffix = expandSuffix) :
    Plain (typeName collection suffix) := by
  obtain ⟨hplain, hwordly, hfree⟩ := suffix_plain hsuffix
  rw [typeName_eq]
  cases hs : (classStem collection).toList.head? with
  | none =>
    have hnil : classStem collection = "" := by
      rw [List.head?_eq_none_iff] at hs
      rw [← String.ofList_toList (s := classStem collection), hs]
    rw [hnil, String.empty_append]
    exact hplain
  | some c =>
    exact plain_append (fun d hd => Text.part_of_wordly (classStem_wordly h d hd)) hs
      (Text.start_of_letter (hhead c hs)) (fun d hd => Text.part_of_wordly (hwordly d hd)) hfree

/-- **A class name of data that can be read** has no digit in front, and neither has the other class
name of the collection. -/
theorem typeName_plain_of_parse {collection suffix : String} {e : Source.Expr}
    (h : ∀ c ∈ collection.toList, IsWordly c)
    (hread : Source.Hint.parse (typeName collection dataSuffix) = .ok e)
    (hsuffix : suffix = dataSuffix ∨ suffix = expandSuffix) :
    Plain (typeName collection suffix) := by
  refine typeName_plain h (fun c hc => ?_) hsuffix
  have hstem := classStem_wordly h
  have hmem : c ∈ (classStem collection).toList := List.mem_of_mem_head? hc
  rcases hstem c hmem with hletter | hdigit
  · exact hletter
  · have hisDigit : c.isDigit = true := by
      simpa [Char.isDigit, UInt32.le_iff_toNat_le] using hdigit
    have hhead : (typeName collection dataSuffix).toList.head? = some c := by
      rw [typeName_eq, String.toList_append, List.head?_append, hc]
      rfl
    have hend : ['t', 'a'] <:+ (typeName collection dataSuffix).toList := by
      rw [typeName_eq, String.toList_append]
      exact List.suffix_append_of_suffix (by decide)
    have herror := Source.Hint.parse_digit (typeName_wordly h (Or.inl rfl)) hhead hisDigit hend
    rw [hread] at herror
    cases herror

end SchemaModels.Naming
