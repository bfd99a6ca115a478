import SchemaModels.Proofs.Source.Hint
import SchemaModels.Proofs.Source.Written

/-!
# Splitting a text word by word

`Splits p words q` says that splitting a text leads from one place in it to another and finds these
words in between, whatever comes before and however much fuel there is. Places follow each other
(`Splits.trans`), so the words of a text are put together from those of its parts: names, keywords,
signs, blanks, line ends (`splits_name`, `splits_keyword`, `splits_sign`, `splits_gap`,
`splits_lineEnd`) and string literals (`splits_literal`). `tokens_of_splits` has all the words of a
text.
-/

namespace SchemaModels.Source.Hint

/-- Where the splitting of a text stands: the brackets to close, whether the line has no word yet,
and the text that is left. -/
structure Place where
  stack : List String
  fresh : Bool
  text : List Char

/-- **Splitting leads from one place to another** and finds these words on the way. -/
def Splits (p : Place) (words : List Token) (q : Place) : Prop :=
  ∀ acc fuel, p.text.length < fuel → ∃ fuel', q.text.length < fuel' ∧
    tokensFrom p.stack p.fresh acc fuel p.text =
      tokensFrom q.stack q.fresh (words.reverse ++ acc) fuel' q.text

theorem Splits.refl (p : Place) : Splits p [] p := fun _ fuel h => ⟨fuel, h, rfl⟩

theorem Splits.trans {p q r : Place} {ts us : List Token} (h : Splits p ts q)
    (h' : Splits q us r) : Splits p (ts ++ us) r := by
  intro acc fuel hfuel
  obtain ⟨fuel₁, hfuel₁, heq⟩ := h acc fuel hfuel
  obtain ⟨fuel₂, hfuel₂, heq'⟩ := h' (ts.reverse ++ acc) fuel₁ hfuel₁
  refine ⟨fuel₂, hfuel₂, ?_⟩
  rw [heq, heq', List.reverse_append, List.append_assoc]

/-- A round of the splitting, which uses up some of the text. -/
theorem Splits.of_round {p q : Place} {words : List Token} (hlt : q.text.length < p.text.length)
    (h : ∀ acc fuel, tokensFrom p.stack p.fresh acc (fuel + 1) p.text =
      tokensFrom q.stack q.fresh (words.reverse ++ acc) fuel q.text) : Splits p words q := by
  intro acc fuel hfuel
  obtain ⟨k, rfl⟩ : ∃ k, fuel = k + 1 := ⟨fuel - 1, by omega⟩
  exact ⟨k, by omega, h acc k⟩

/-- **The words of a text** that splitting leads through. -/
theorem tokens_of_splits {cs : List Char} {words : List Token}
    (h : Splits ⟨[], true, cs⟩ words ⟨[], true, []⟩) : tokens cs = words := by
  obtain ⟨fuel, hfuel, heq⟩ := h [] (cs.length + 1) (Nat.lt_succ_self _)
  obtain ⟨k, rfl⟩ : ∃ k, fuel = k + 1 := ⟨fuel - 1, by omega⟩
  rw [tokens, heq]
  simp [tokensFrom]

variable {stack stack' : List String} {fresh : Bool} {rest : List Char}

/-! ## One word -/

theorem length_lt_append {cs : List Char} (h : cs ≠ []) (rest : List Char) :
    rest.length < (cs ++ rest).length := by
  have hpos := List.length_pos_iff.mpr h
  rw [List.length_append]
  omega

/-- A word that is split off, with what it does to the brackets. -/
theorem splits_word {c : Char} (cs : List Char) {token : Token}
    (hc : c ≠ '#' ∧ c ≠ '\n' ∧ c ≠ '\\' ∧ isGap c = false)
    (hword : word (c :: cs ++ rest) = .ok (token, rest))
    (htrack : track stack token = some stack') :
    Splits ⟨stack, fresh, c :: cs ++ rest⟩ [token] ⟨stack', false, rest⟩ := by
  obtain ⟨hcomment, hline, hslash, hgap⟩ := hc
  refine .of_round (length_lt_append (List.cons_ne_nil c cs) rest) fun acc fuel => ?_
  rw [List.cons_append] at hword
  simp only [List.cons_append]
  rw [tokensFrom]
  · rw [hgap, hword]
    simp only [htrack]
    rfl
  · exact hcomment
  · exact hline
  · exact fun _ h _ => hslash h

/-- A name is one word, in its composed form. -/
theorem splits_name {s : String} (hs : Plain s) (hrest : Ends rest) :
    Splits ⟨stack, fresh, s.toList ++ rest⟩ [.name (Text.compat s)] ⟨stack, false, rest⟩ := by
  exact .of_round (length_lt_append (List.length_pos_iff.mp hs.length_pos) rest)
    fun acc fuel => hs.tokensFrom hrest

/-- A keyword is one word. -/
theorem splits_keyword {s : String} (hall : ∀ d ∈ s.toList, isNameCharacter d = true)
    (hstart : s.toList.head?.any isNameStart = true) (hkeyword : s ∈ Naming.keywords)
    (hrest : Ends rest) :
    Splits ⟨stack, fresh, s.toList ++ rest⟩ [.keyword s] ⟨stack, false, rest⟩ := by
  have hword := word_keyword hall hstart (by rwa [String.ofList_toList]) hrest
  rw [String.ofList_toList] at hword
  cases hs : s.toList with
  | nil =>
    rw [hs] at hstart
    cases hstart
  | cons c tail =>
    rw [hs] at hstart hword
    obtain ⟨hcomment, hline, hslash, -, -, hgap⟩ := plain_start hstart
    exact splits_word tail ⟨hcomment, hline, hslash, hgap⟩ hword rfl

/-- A sign is one word. -/
theorem splits_sign {c : Char} (hc : c ≠ '#' ∧ c ≠ '\n' ∧ c ≠ '\\' ∧ isGap c = false)
    (hword : word (c :: rest) = .ok (.sign (String.singleton c), rest))
    (htrack : track stack (.sign (String.singleton c)) = some stack') :
    Splits ⟨stack, fresh, c :: rest⟩ [.sign (String.singleton c)] ⟨stack', false, rest⟩ :=
  splits_word [] hc hword htrack

theorem splits_comma : Splits ⟨stack, fresh, ',' :: rest⟩ [.sign ","] ⟨stack, false, rest⟩ :=
  splits_sign (by decide) rfl rfl

theorem splits_open (hroom : stack.length < maxBrackets) :
    Splits ⟨stack, fresh, '[' :: rest⟩ [.sign "["] ⟨"]" :: stack, false, rest⟩ :=
  splits_sign (by decide) rfl (track_open hroom)

theorem splits_close :
    Splits ⟨"]" :: stack, fresh, ']' :: rest⟩ [.sign "]"] ⟨stack, false, rest⟩ :=
  splits_sign (by decide) rfl rfl

/-- A literal is one word where no quote follows. -/
theorem splits_literal (l : Literal) (hrest : Opens rest) :
    Splits ⟨stack, fresh, l.chars ++ rest⟩ [.text l.value] ⟨stack, false, rest⟩ := by
  have hread := l.literal_chars hrest
  obtain ⟨q, cs, hq, hchars⟩ := l.chars_eq_cons
  have hword : word (l.chars ++ rest) = .ok (.text l.value, rest) := by
    rw [← hread, hchars]
    rcases hq with rfl | rfl
    · rfl
    · rfl
  have hplain : q ≠ '#' ∧ q ≠ '\n' ∧ q ≠ '\\' ∧ isGap q = false := by
    rcases hq with rfl | rfl
    · decide
    · decide
  rw [hchars] at hword ⊢
  exact splits_word cs hplain hword rfl

/-! ## Blanks and line ends -/

/-- Blanks between words are passed over. -/
theorem splits_gap {c : Char} (gap : List Char) (hgap : ∀ d ∈ c :: gap, isGap d = true)
    (hrest : ∀ d, rest.head? = some d → isGap d = false) :
    Splits ⟨stack, false, c :: gap ++ rest⟩ [] ⟨stack, false, rest⟩ := by
  obtain ⟨hc, htail⟩ := List.forall_mem_cons.mp hgap
  have hdrop : (gap ++ rest).dropWhile isGap = rest := by
    rw [List.dropWhile_append_of_pos htail]
    cases rest with
    | nil => rfl
    | cons d rest => simp [hrest d rfl]
  have hblank : c ≠ '#' ∧ c ≠ '\n' ∧ c ≠ '\\' := by
    simp only [isGap, Bool.or_eq_true, beq_iff_eq] at hc
    rcases hc with (rfl | rfl) | rfl
    · decide
    · decide
    · decide
  obtain ⟨hcomment, hline, hslash⟩ := hblank
  refine .of_round (length_lt_append (List.cons_ne_nil c gap) rest) fun acc fuel => ?_
  simp only [List.cons_append]
  rw [tokensFrom]
  · simp [hc, hdrop]
  · exact hcomment
  · exact hline
  · exact fun _ h _ => hslash h

/-- A blank between words is passed over. -/
theorem splits_blank (hrest : ∀ d, rest.head? = some d → isGap d = false) :
    Splits ⟨stack, false, ' ' :: rest⟩ [] ⟨stack, false, rest⟩ :=
  splits_gap [] (by decide) hrest

/-- A line that has words ends. -/
theorem splits_lineEnd : Splits ⟨[], false, '\n' :: rest⟩ [.lineEnd] ⟨[], true, rest⟩ :=
  .of_round (Nat.lt_succ_self _) fun _ _ => rfl

/-- An empty line is passed over. -/
theorem splits_emptyLine : Splits ⟨stack, true, '\n' :: rest⟩ [] ⟨stack, true, rest⟩ :=
  .of_round (Nat.lt_succ_self _) fun _ _ => rfl

/-- A line end inside brackets is passed over. -/
theorem splits_break {close : String} :
    Splits ⟨close :: stack, fresh, '\n' :: rest⟩ [] ⟨close :: stack, fresh, rest⟩ := by
  refine .of_round (Nat.lt_succ_self _) fun _ _ => ?_
  simp [tokensFrom]

end SchemaModels.Source.Hint
