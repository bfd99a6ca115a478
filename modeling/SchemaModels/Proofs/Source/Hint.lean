import SchemaModels.Proofs.Text.Identifier
import SchemaModels.Source.Hint

/-!
# Reading the hints that the generator writes

A hint names a class, or wraps one: `X`, `Optional[X]`, `List[X]`, `Optional[List[X]]`. `Plain` says
that a text is a name that is no keyword. `tokensFrom_name` and `tokensFrom_sign` split one word off
a text, and `parse_plain`, `parse_optional` and `parse_optional_list` read such hints as a whole:
the name comes out in its composed form.
-/

namespace SchemaModels.Source.Hint

open Text (isIdentifierStart isIdentifierPart isIdentifier IsLetter IsWordly)

/-- The text is an identifier and no keyword. -/
structure Plain (s : String) : Prop where
  identifier : isIdentifier s.toList = true
  free : s ∉ Naming.keywords

/-! ## Characters -/

theorem isNameCharacter_of_above {c : Char} (h : 0x80 ≤ c.toNat) : isNameCharacter c = true := by
  simp [isNameCharacter, h]

theorem isNameStart_of_above {c : Char} (h : 0x80 ≤ c.toNat) : isNameStart c = true := by
  simp [isNameStart, h]

/-- Whatever stands in an identifier is taken into a name. -/
theorem isNameCharacter_of_part {c : Char} (h : isIdentifierPart c = true) :
    isNameCharacter c = true := by
  rcases Text.ascii_of_part h with hw | habove
  · have hname : IsWordly c → isNameCharacter c = true :=
      Text.forall_ascii (Text.lt_of_wordly hw) (by decide)
    exact hname hw
  · exact isNameCharacter_of_above habove

/-- Whatever begins an identifier begins a name. -/
theorem isNameStart_of_start {c : Char} (h : isIdentifierStart c = true) :
    isNameStart c = true := by
  rcases Text.ascii_of_start h with hl | habove
  · have hstart : IsLetter c → isNameStart c = true :=
      Text.forall_ascii (Text.lt_of_wordly (Or.inl hl)) (by decide)
    exact hstart hl
  · exact isNameStart_of_above habove

/-- What begins a name begins no blank, comment, line end or string. -/
theorem plain_start {c : Char} (h : isNameStart c = true) :
    c ≠ '#' ∧ c ≠ '\n' ∧ c ≠ '\\' ∧ c ≠ '"' ∧ c ≠ '\'' ∧ isGap c = false := by
  refine ⟨?_, ?_, ?_, ?_, ?_, ?_⟩
  · rintro rfl
    exact absurd h (by decide)
  · rintro rfl
    exact absurd h (by decide)
  · rintro rfl
    exact absurd h (by decide)
  · rintro rfl
    exact absurd h (by decide)
  · rintro rfl
    exact absurd h (by decide)
  · rw [← Bool.not_eq_true]
    intro hgap
    simp only [isGap, Bool.or_eq_true, beq_iff_eq] at hgap
    rcases hgap with (rfl | rfl) | rfl
    · exact absurd h (by decide)
    · exact absurd h (by decide)
    · exact absurd h (by decide)

/-- What goes on a name is neither a quote nor a line end. -/
theorem plain_character {c : Char} (h : isNameCharacter c = true) :
    c ≠ '"' ∧ c ≠ '\'' ∧ c ≠ '\r' ∧ c ≠ Char.ofNat 0 := by
  refine ⟨?_, ?_, ?_, ?_⟩
  · rintro rfl
    exact absurd h (by decide)
  · rintro rfl
    exact absurd h (by decide)
  · rintro rfl
    exact absurd h (by decide)
  · rintro rfl
    exact absurd h (by decide)

theorem isNameCharacter_of_isIdentifier {cs : List Char} (h : isIdentifier cs = true) :
    ∀ c ∈ cs, isNameCharacter c = true := by
  cases cs with
  | nil => simp
  | cons d ds =>
    rw [isIdentifier, Bool.and_eq_true, List.all_eq_true] at h
    intro c hc
    refine isNameCharacter_of_part ?_
    rcases List.mem_cons.mp hc with rfl | hc
    · exact Text.isIdentifierPart_of_start h.1
    · exact h.2 c hc

/-! ## Words -/

/-- The text goes on with neither a name nor a string. -/
def Ends (rest : List Char) : Prop :=
  ∀ c, rest.head? = some c → isNameCharacter c = false ∧ c ≠ '"' ∧ c ≠ '\''

theorem ends_nil : Ends [] := by
  intro c h
  cases h

theorem ends_cons {c : Char} {cs : List Char}
    (h : isNameCharacter c = false ∧ c ≠ '"' ∧ c ≠ '\'') : Ends (c :: cs) := by
  intro d hd
  rw [List.head?_cons, Option.some.injEq] at hd
  exact hd ▸ h

theorem takeWhile_name {cs rest : List Char} (hcs : ∀ c ∈ cs, isNameCharacter c = true)
    (hrest : Ends rest) : (cs ++ rest).takeWhile isNameCharacter = cs ∧
      (cs ++ rest).dropWhile isNameCharacter = rest := by
  rw [List.takeWhile_append_of_pos hcs, List.dropWhile_append_of_pos hcs]
  cases rest with
  | nil => simp
  | cons c rest => simp [(hrest c rfl).1]

/-- No quote comes after the first character of a name. -/
theorem no_quote_after {cs rest : List Char} (hcs : ∀ c ∈ cs, isNameCharacter c = true)
    (hrest : Ends rest) : ((cs ++ rest).head?.any fun d => d == '"' || d == '\'') = false := by
  cases cs with
  | nil =>
    cases rest with
    | nil => rfl
    | cons d rest =>
      obtain ⟨-, hd, hd'⟩ := hrest d rfl
      simp [hd, hd']
  | cons d tail =>
    obtain ⟨hd, hd', -⟩ := plain_character (hcs d List.mem_cons_self)
    simp [hd, hd']

/-- A row of name characters is one word, up to where no other follows. -/
theorem word_of_nameToken {c : Char} {tail rest : List Char} {token : Token}
    (hall : ∀ d ∈ c :: tail, isNameCharacter d = true) (hstart : isNameStart c = true)
    (htoken : nameToken (c :: tail) = .ok token) (hrest : Ends rest) :
    word (c :: tail ++ rest) = .ok (token, rest) := by
  obtain ⟨htake, hdrop⟩ := takeWhile_name hall hrest
  obtain ⟨-, -, -, hquote, hquote', -⟩ := plain_start hstart
  have hnext := no_quote_after (fun d hd => hall d (List.mem_cons_of_mem c hd)) hrest
  unfold word
  simp only [List.cons_append] at htake hdrop ⊢
  rw [htake, hdrop, htoken, hnext, hstart]
  simp [hquote, hquote']
  rfl

/-- A name is one word. -/
theorem word_name {cs rest : List Char} (hcs : isIdentifier cs = true)
    (hfree : String.ofList cs ∉ Naming.keywords) (hrest : Ends rest) :
    word (cs ++ rest) = .ok (.name (Text.compat (String.ofList cs)), rest) := by
  have hall := isNameCharacter_of_isIdentifier hcs
  have htoken : nameToken cs = .ok (.name (Text.compat (String.ofList cs))) := by
    unfold nameToken
    simp [hfree, hcs]
  cases cs with
  | nil => cases hcs
  | cons c tail =>
    rw [isIdentifier, Bool.and_eq_true] at hcs
    exact word_of_nameToken hall (isNameStart_of_start hcs.1) htoken hrest

/-- A keyword is one word. -/
theorem word_keyword {cs rest : List Char} (hall : ∀ d ∈ cs, isNameCharacter d = true)
    (hstart : cs.head?.any isNameStart = true) (hkeyword : String.ofList cs ∈ Naming.keywords)
    (hrest : Ends rest) : word (cs ++ rest) = .ok (.keyword (String.ofList cs), rest) := by
  have htoken : nameToken cs = .ok (.keyword (String.ofList cs)) := by
    unfold nameToken
    simp [hkeyword]
  cases cs with
  | nil => cases hstart
  | cons c tail => exact word_of_nameToken hall hstart htoken hrest

/-! ## Splitting -/

variable {stack : List String} {fresh : Bool} {acc : List Token} {fuel : Nat} {rest : List Char}

theorem tokensFrom_name {cs : List Char} (hcs : isIdentifier cs = true)
    (hfree : String.ofList cs ∉ Naming.keywords) (hrest : Ends rest) :
    tokensFrom stack fresh acc (fuel + 1) (cs ++ rest) =
      tokensFrom stack false (.name (Text.compat (String.ofList cs)) :: acc) fuel rest := by
  have hword := word_name hcs hfree hrest
  cases cs with
  | nil => cases hcs
  | cons c tail =>
    have hstart : isNameStart c = true := by
      rw [isIdentifier, Bool.and_eq_true] at hcs
      exact isNameStart_of_start hcs.1
    obtain ⟨hcomment, hline, hslash, -, -, hgap⟩ := plain_start hstart
    rw [List.cons_append] at hword ⊢
    rw [tokensFrom]
    · rw [hgap, hword]
      rfl
    · exact hcomment
    · exact hline
    · exact fun _ h _ => hslash h

/-- No brackets are open, so there is room for more. -/
theorem room_nil : ([] : List String).length < maxBrackets := by decide

theorem room_singleton (close : String) : [close].length < maxBrackets := by
  rw [List.length_singleton]
  decide

theorem track_open (hroom : stack.length < maxBrackets) :
    track stack (.sign "[") = some ("]" :: stack) := if_pos hroom

theorem tokensFrom_open (hroom : stack.length < maxBrackets) :
    tokensFrom stack fresh acc (fuel + 1) ('[' :: rest) =
      tokensFrom ("]" :: stack) false (.sign "[" :: acc) fuel rest := by
  have hgap : isGap '[' = false := rfl
  have hword : word ('[' :: rest) = .ok (.sign "[", rest) := rfl
  rw [tokensFrom]
  · simp [hgap, hword, track_open hroom]
  · decide
  · decide
  · exact fun _ h _ => absurd h (by decide)

theorem tokensFrom_close : tokensFrom ("]" :: stack) fresh acc (fuel + 1) (']' :: rest) =
    tokensFrom stack false (.sign "]" :: acc) fuel rest := rfl

theorem tokensFrom_end : tokensFrom [] false acc (fuel + 1) [] = (.lineEnd :: acc).reverse := rfl

theorem ends_open : Ends ('[' :: rest) := ends_cons (by decide)

theorem ends_close : Ends (']' :: rest) := ends_cons (by decide)

/-! ## Hints -/

theorem unifyLineEnds_eq {cs : List Char} (h : '\r' ∉ cs) : unifyLineEnds cs = cs := by
  induction cs with
  | nil => rfl
  | cons c cs ih =>
    rw [List.mem_cons, not_or] at h
    rw [unifyLineEnds]
    · rw [ih h.2]
    · rintro _ rfl -
      exact h.1 rfl
    · rintro rfl
      exact h.1 rfl

/-- The text has neither a carriage return nor a NUL. -/
structure Clean (s : String) : Prop where
  line : '\r' ∉ s.toList
  nul : Char.ofNat 0 ∉ s.toList

instance (s : String) : Decidable (Clean s) :=
  decidable_of_iff ('\r' ∉ s.toList ∧ Char.ofNat 0 ∉ s.toList)
    ⟨fun h => ⟨h.1, h.2⟩, fun h => ⟨h.1, h.2⟩⟩

theorem Clean.append {s t : String} (hs : Clean s) (ht : Clean t) : Clean (s ++ t) := by
  constructor
  · rw [String.toList_append, List.mem_append]
    exact fun h => h.elim hs.line ht.line
  · rw [String.toList_append, List.mem_append]
    exact fun h => h.elim hs.nul ht.nul

/-- A clean text is read word by word. -/
theorem parse_eq {s : String} (h : Clean s) : parse s = parseTokens (tokens s.toList) := by
  unfold parse
  rw [unifyLineEnds_eq h.line, if_neg]
  simpa using h.nul

theorem Plain.clean {s : String} (h : Plain s) : Clean s := by
  have hall := isNameCharacter_of_isIdentifier h.identifier
  exact ⟨fun hc => (plain_character (hall _ hc)).2.2.1 rfl,
    fun hc => (plain_character (hall _ hc)).2.2.2 rfl⟩

theorem Plain.free_ofList {s : String} (h : Plain s) :
    String.ofList s.toList ∉ Naming.keywords := by
  rw [String.ofList_toList]
  exact h.free

theorem Plain.length_pos {s : String} (h : Plain s) : 0 < s.toList.length := by
  refine List.length_pos_iff.mpr fun hnil => ?_
  have hid := h.identifier
  rw [hnil] at hid
  cases hid

/-- The name of a class is one word. -/
theorem Plain.tokensFrom {s : String} (h : Plain s) (hrest : Ends rest) :
    Hint.tokensFrom stack fresh acc (fuel + 1) (s.toList ++ rest) =
      Hint.tokensFrom stack false (.name (Text.compat s) :: acc) fuel rest := by
  rw [tokensFrom_name h.identifier h.free_ofList hrest, String.ofList_toList]

theorem plain_optional : Plain "Optional" := ⟨by decide, by decide⟩

theorem plain_list : Plain "List" := ⟨by decide, by decide⟩

theorem compat_optional : Text.compat "Optional" = "Optional" := by decide

theorem compat_list : Text.compat "List" = "List" := by decide

variable {x : String}

/-- **The hint of a class** is its name. -/
theorem parse_plain (hx : Plain x) : parse x = .ok (.name (Text.compat x)) := by
  have hpos := hx.length_pos
  obtain ⟨k, hk⟩ : ∃ k, x.toList.length + 1 = k + 2 := ⟨x.toList.length - 1, by omega⟩
  have htokens : tokens x.toList = [.name (Text.compat x), .lineEnd] := by
    have hname := @Plain.tokensFrom [] true [] (k + 1) [] x hx ends_nil
    rw [List.append_nil, tokensFrom_end] at hname
    unfold tokens
    rw [hk, hname]
    rfl
  rw [parse_eq hx.clean, htokens]
  rfl

/-- **The hint of a class that may be missing** names it inside an option. -/
theorem parse_optional (hx : Plain x) : parse ("Optional[" ++ x ++ "]") =
    .ok (.subscript (.name "Optional") (.name (Text.compat x))) := by
  have hsplit : ("Optional[" ++ x ++ "]").toList =
      "Optional".toList ++ '[' :: (x.toList ++ [']']) := by
    rw [String.toList_append, String.toList_append, List.append_assoc]
    rfl
  have hclean : Clean ("Optional[" ++ x ++ "]") :=
    (Clean.append (by decide) hx.clean).append (by decide)
  have hpos := hx.length_pos
  obtain ⟨k, hk⟩ : ∃ k, ("Optional[" ++ x ++ "]").toList.length + 1 = k + 5 := by
    refine ⟨("Optional[" ++ x ++ "]").toList.length - 4, ?_⟩
    have hoptional : "Optional".toList.length = 8 := rfl
    rw [hsplit, List.length_append, List.length_cons, List.length_append, List.length_singleton]
    omega
  have htokens : tokens ("Optional[" ++ x ++ "]").toList =
      [.name "Optional", .sign "[", .name (Text.compat x), .sign "]", .lineEnd] := by
    unfold tokens
    rw [hk, hsplit, plain_optional.tokensFrom ends_open, tokensFrom_open room_nil,
      hx.tokensFrom ends_close, tokensFrom_close, tokensFrom_end, compat_optional]
    rfl
  rw [parse_eq hclean, htokens]
  rfl

/-- **The hint of a list of a class that may be missing.** -/
theorem parse_optional_list (hx : Plain x) : parse ("Optional[" ++ ("List[" ++ x ++ "]") ++ "]") =
    .ok (.subscript (.name "Optional") (.subscript (.name "List") (.name (Text.compat x)))) := by
  have hsplit : ("Optional[" ++ ("List[" ++ x ++ "]") ++ "]").toList =
      "Optional".toList ++ '[' :: ("List".toList ++ '[' :: (x.toList ++ [']', ']'])) := by
    simp only [String.toList_append, List.append_assoc]
    rfl
  have hclean : Clean ("Optional[" ++ ("List[" ++ x ++ "]") ++ "]") :=
    (Clean.append (by decide) ((Clean.append (by decide) hx.clean).append (by decide))).append
      (by decide)
  have hpos := hx.length_pos
  obtain ⟨k, hk⟩ : ∃ k,
      ("Optional[" ++ ("List[" ++ x ++ "]") ++ "]").toList.length + 1 = k + 8 := by
    refine ⟨("Optional[" ++ ("List[" ++ x ++ "]") ++ "]").toList.length - 7, ?_⟩
    have hoptional : "Optional".toList.length = 8 := rfl
    rw [hsplit, List.length_append, List.length_cons, List.length_append, List.length_cons]
    omega
  have htokens : tokens ("Optional[" ++ ("List[" ++ x ++ "]") ++ "]").toList =
      [.name "Optional", .sign "[", .name "List", .sign "[", .name (Text.compat x), .sign "]",
        .sign "]", .lineEnd] := by
    unfold tokens
    rw [hk, hsplit, plain_optional.tokensFrom ends_open, tokensFrom_open room_nil,
      plain_list.tokensFrom ends_open, tokensFrom_open (room_singleton _),
      hx.tokensFrom ends_close, tokensFrom_close, tokensFrom_close, tokensFrom_end,
      compat_optional, compat_list]
    rfl
  rw [parse_eq hclean, htokens]
  rfl

/-! ## The names of hints -/

/-- The text is a hint that refers to these names. -/
def Refers (s : String) (names : List String) : Prop := ∃ e, parse s = .ok e ∧ e.names = names

instance (s : String) (names : List String) : Decidable (Refers s names) :=
  match h : parse s with
  | .ok e => decidable_of_iff (e.names = names) (by simp [Refers, h])
  | .error _ => isFalse (by simp [Refers, h])

theorem Refers.unique {s : String} {names names' : List String} (h : Refers s names)
    (h' : Refers s names') : names = names' := by
  obtain ⟨e, he, rfl⟩ := h
  obtain ⟨e', he', rfl⟩ := h'
  rw [he, Except.ok.injEq] at he'
  rw [he']

theorem refers_plain (hx : Plain x) : Refers x [Text.compat x] := ⟨_, parse_plain hx, rfl⟩

theorem refers_optional (hx : Plain x) :
    Refers ("Optional[" ++ x ++ "]") ["Optional", Text.compat x] := ⟨_, parse_optional hx, rfl⟩

theorem refers_optional_list (hx : Plain x) :
    Refers ("Optional[" ++ ("List[" ++ x ++ "]") ++ "]") ["Optional", "List", Text.compat x] :=
  ⟨_, parse_optional_list hx, rfl⟩

end SchemaModels.Source.Hint
