import Mathlib.Algebra.Group.Nat.Defs
import SchemaModels.Source.Hint.Token
import SchemaModels.Source.Literal
import SchemaModels.Text.Blank

/-!
# A literal reads back as its text

A character of a literal is written as it is or as an escape (`Spells`). The reader of literals
takes both forms for the character (`literalBody_plain`, `literalBody_escape`), and ends at the
closing quotes and not before, since a quote of that kind is escaped wherever it would close the
literal. So a literal between single quotes, and a docstring, read back as the text they were
written for, and the reader leaves what follows (`literal_quotedChars`, `literal_docstringChars`). A
literal is made of printable characters alone (`printable_quotedChars`), so that it stays on one
line.
-/

namespace SchemaModels.Source

open Hint (digitsValue isHexDigit hexEscape escape literalBody literal)
open Text (isPrintable)

/-! ## Digits -/

/-- Every digit of base sixteen stands for its value. -/
theorem digitsValue_digitChar : ∀ n < 16, isHexDigit (Nat.digitChar n) = true ∧
    digitsValue 16 [Nat.digitChar n] = n ∧ isPrintable (Nat.digitChar n) = true := by
  decide

theorem digitsValue_snoc (base : Nat) (ds : List Char) (d : Char) :
    digitsValue base (ds ++ [d]) = digitsValue base ds * base + digitsValue base [d] := by
  unfold digitsValue Text.numeral
  rw [List.map_append, List.foldl_append]
  simp

theorem length_hexDigits (width n : Nat) : (hexDigits width n).length = width := by
  induction width generalizing n with
  | zero => rfl
  | succ width ih => rw [hexDigits, List.length_append, ih]; rfl

/-- **Digits in base sixteen** denote the number, as far as they reach. -/
theorem digitsValue_hexDigits (width n : Nat) :
    digitsValue 16 (hexDigits width n) = n % 16 ^ width := by
  induction width generalizing n with
  | zero => rw [hexDigits, Nat.pow_zero, Nat.mod_one]; rfl
  | succ width ih =>
    have hdigit := (digitsValue_digitChar (n % 16) (Nat.mod_lt n (by omega))).2.1
    rw [hexDigits, digitsValue_snoc, ih, hdigit, Nat.pow_succ', Nat.mod_mul]
    omega

theorem mem_hexDigits {width n : Nat} {d : Char} (h : d ∈ hexDigits width n) :
    isHexDigit d = true ∧ isPrintable d = true := by
  induction width generalizing n with
  | zero => cases h
  | succ width ih =>
    rw [hexDigits, List.mem_append, List.mem_singleton] at h
    rcases h with h | rfl
    · exact ih h
    · obtain ⟨hhex, -, hprintable⟩ := digitsValue_digitChar (n % 16) (Nat.mod_lt n (by omega))
      exact ⟨hhex, hprintable⟩

/-- Enough digits of a character's code point are read as the character. -/
theorem hexEscape_hexDigits {width : Nat} {c : Char} (h : c.toNat < 16 ^ width) (rest : List Char) :
    hexEscape width (hexDigits width c.toNat ++ rest) = .ok ([c], width + 1) := by
  have hlength := length_hexDigits width c.toNat
  have htake : (hexDigits width c.toNat ++ rest).take width = hexDigits width c.toNat :=
    List.take_left' hlength
  have hall : (hexDigits width c.toNat).all isHexDigit = true :=
    List.all_eq_true.mpr fun d hd => (mem_hexDigits hd).1
  have hvalid : c.toNat < 0x110000 := by
    have := c.valid
    unfold UInt32.isValidChar Nat.isValidChar at this
    unfold Char.toNat
    omega
  unfold hexEscape
  simp only [htake, digitsValue_hexDigits, Nat.mod_eq_of_lt h]
  rw [if_pos ⟨hlength, hall, hvalid⟩, Char.ofNat_toNat]

/-! ## Spelling -/

/-- **How a character is written** in a literal: as it is, if it is one of those that may stand
there, or by printable characters after a backslash that are an escape of it. -/
inductive Spells (bare : Char → Prop) (c : Char) : List Char → Prop
  | plain : bare c → Spells bare c [c]
  | escaped {e : List Char} : (∀ rest, escape (e ++ rest) = .ok ([c], e.length)) →
      (∀ d ∈ e, isPrintable d = true) → Spells bare c ('\\' :: e)

theorem Spells.mono {bare bare' : Char → Prop} {c : Char} {piece : List Char}
    (h : Spells bare c piece) (hbare : bare c → bare' c) : Spells bare' c piece := by
  cases h with
  | plain hc => exact .plain (hbare hc)
  | escaped he hprintable => exact .escaped he hprintable

theorem spells_codeEscape (bare : Char → Prop) (c : Char) : Spells bare c (codeEscape c) := by
  have hdigits : ∀ {width : Nat} {x : Char}, isPrintable x = true →
      ∀ d ∈ x :: hexDigits width c.toNat, isPrintable d = true := by
    intro width x hx d hd
    rcases List.mem_cons.mp hd with rfl | hd
    · exact hx
    · exact (mem_hexDigits hd).2
  unfold codeEscape
  simp only
  split
  · refine .escaped (fun rest => ?_) (hdigits (by decide))
    rw [List.length_cons, length_hexDigits]
    exact hexEscape_hexDigits (by omega) rest
  · split
    · refine .escaped (fun rest => ?_) (hdigits (by decide))
      rw [List.length_cons, length_hexDigits]
      exact hexEscape_hexDigits (by omega) rest
    · refine .escaped (fun rest => ?_) (hdigits (by decide))
      rw [List.length_cons, length_hexDigits]
      refine hexEscape_hexDigits ?_ rest
      have := c.valid
      unfold UInt32.isValidChar Nat.isValidChar at this
      unfold Char.toNat
      omega

/-- Printable characters stay, all others are escaped. -/
theorem spells_escapeUnprintable (c : Char) :
    Spells (isPrintable · = true) c (escapeUnprintable c) := by
  unfold escapeUnprintable
  by_cases hn : c = '\n'
  · subst hn
    exact .escaped (fun _ => rfl) (by decide)
  by_cases hr : c = '\r'
  · subst hr
    exact .escaped (fun _ => rfl) (by decide)
  by_cases ht : c = '\t'
  · subst ht
    exact .escaped (fun _ => rfl) (by decide)
  simp only [beq_iff_eq, hn, hr, ht, if_false]
  split
  · exact .plain ‹_›
  · exact spells_codeEscape _ c

/-! ## Reading -/

variable {close acc rest : List Char} {c q : Char}

theorem literalBody_close : literalBody false close acc (close ++ rest) =
    .ok (String.ofList acc.reverse, rest) := by
  rw [literalBody.eq_def, if_pos (by simp), List.drop_left]

/-- A character that is no backslash stands for itself, where the literal does not end. -/
theorem literalBody_plain (hc : c ≠ '\\') (hline : c = '\n' → close.length ≠ 1)
    (hopen : close.isPrefixOf (c :: rest) = false) :
    literalBody false close acc (c :: rest) = literalBody false close (c :: acc) rest := by
  have hends : ¬ (c == '\n' && close.length == 1) = true := by
    rw [Bool.and_eq_true, beq_iff_eq, beq_iff_eq]
    exact fun h => hline h.1 h.2
  rw [literalBody.eq_def, if_neg (by simp [hopen])]
  split
  · rename_i h
    cases h
  · rename_i h
    exact absurd (List.cons.inj h).1 hc
  · rename_i h
    obtain ⟨rfl, rfl⟩ := List.cons.inj h
    rw [if_neg hends]

/-- An escape stands for its character. -/
theorem literalBody_escape {e : List Char} (hclose : close ≠ []) (hbackslash : '\\' ∉ close)
    (he : escape (e ++ rest) = .ok ([c], e.length)) :
    literalBody false close acc ('\\' :: (e ++ rest)) =
      literalBody false close (c :: acc) rest := by
  have hopen : close.isPrefixOf ('\\' :: (e ++ rest)) = false := by
    cases close with
    | nil => exact absurd rfl hclose
    | cons d ds =>
      have hd : d ≠ '\\' := fun h => hbackslash (h ▸ List.mem_cons_self)
      simp [List.isPrefixOf, hd]
  rw [literalBody.eq_def, if_neg (by simp [hopen])]
  simp only [Bool.false_eq_true, if_false, he]
  simp

/-- **A spelled character is read**, if the literal does not end at it. -/
theorem literalBody_spells {bare : Char → Prop} {piece : List Char} (h : Spells bare c piece)
    (hclose : close ≠ []) (hbackslash : '\\' ∉ close)
    (hbare : bare c → c ≠ '\\' ∧ (c = '\n' → close.length ≠ 1) ∧
      close.isPrefixOf (c :: rest) = false) :
    literalBody false close acc (piece ++ rest) = literalBody false close (c :: acc) rest := by
  cases h with
  | plain hc =>
    obtain ⟨hne, hline, hopen⟩ := hbare hc
    exact literalBody_plain hne hline hopen
  | escaped he _ => exact literalBody_escape hclose hbackslash (he rest)

/-! ## Literals on one line -/

/-- A quote that a literal may stand between. -/
def IsQuote (q : Char) : Prop := q = '\'' ∨ q = '"'

theorem isQuote_quoteFor (cs : List Char) : IsQuote (quoteFor cs) := by
  unfold quoteFor
  split
  · exact Or.inr rfl
  · exact Or.inl rfl

theorem IsQuote.ne_backslash (hq : IsQuote q) : q ≠ '\\' := by
  rcases hq with rfl | rfl
  · decide
  · decide

/-- A quote that closes the literal is escaped. -/
theorem spells_quotedChar (hq : IsQuote q) (c : Char) :
    Spells (fun c => isPrintable c = true ∧ c ≠ q ∧ c ≠ '\\') c (quotedChar q c) := by
  unfold quotedChar
  by_cases hc : c = q ∨ c = '\\'
  · rw [if_pos (by simpa using hc)]
    have hcases : c = '\'' ∨ c = '"' ∨ c = '\\' := by
      rcases hc with rfl | rfl
      · exact hq.elim Or.inl fun h => Or.inr (Or.inl h)
      · exact Or.inr (Or.inr rfl)
    rcases hcases with rfl | rfl | rfl
    · exact .escaped (fun _ => rfl) (by decide)
    · exact .escaped (fun _ => rfl) (by decide)
    · exact .escaped (fun _ => rfl) (by decide)
  · rw [if_neg (by simpa using hc)]
    rw [not_or] at hc
    exact (spells_escapeUnprintable c).mono fun hp => ⟨hp, hc.1, hc.2⟩

theorem isPrefixOf_of_ne {d : Char} {ds cs : List Char} (h : c ≠ d) :
    (d :: ds).isPrefixOf (c :: cs) = false := by
  simp [List.isPrefixOf, Ne.symm h]

/-- **The inside of a literal is read** up to quotes that close it, be it one or three. -/
theorem literalBody_quoted (hq : IsQuote q) (n : Nat) (cs acc rest : List Char) :
    literalBody false (List.replicate (n + 1) q) acc
        (cs.flatMap (quotedChar q) ++ (List.replicate (n + 1) q ++ rest)) =
      .ok (String.ofList (acc.reverse ++ cs), rest) := by
  induction cs generalizing acc with
  | nil =>
    rw [List.flatMap_nil, List.nil_append, literalBody_close, List.append_nil]
  | cons c cs ih =>
    rw [List.flatMap_cons, List.append_assoc,
      literalBody_spells (spells_quotedChar hq c) (by simp)
        (fun h => hq.ne_backslash (List.eq_of_mem_replicate h).symm), ih]
    · simp
    · rintro ⟨hp, hne, hbackslash⟩
      refine ⟨hbackslash, ?_, isPrefixOf_of_ne hne⟩
      rintro rfl
      exact absurd hp (by decide)

/-- No character of a literal begins with a quote that closes it. -/
theorem head_quotedChar (hq : IsQuote q) (c : Char) : (quotedChar q c).head? ≠ some q := by
  have h := spells_quotedChar hq c
  generalize quotedChar q c = piece at h
  cases h with
  | plain hc => simpa using hc.2.1
  | escaped _ _ => simpa using Ne.symm hq.ne_backslash

/-- **A literal reads back as its text**, and leaves what follows. After a literal without
characters no quote may follow, which would be read as the beginning of a docstring. -/
theorem literal_quotedChars {cs : List Char} (h : cs = [] → rest.head? ≠ some '\'') :
    literal false (quotedChars cs ++ rest) = .ok (.text (String.ofList cs), rest) := by
  have hq := isQuote_quoteFor cs
  have hsingle : [quoteFor cs, quoteFor cs].isPrefixOf
      (quotedBody cs ++ ([quoteFor cs] ++ rest)) = false := by
    cases cs with
    | nil =>
      have hrest := h rfl
      cases rest with
      | nil => rfl
      | cons d ds =>
        have hd : d ≠ '\'' := fun he => hrest (by rw [he]; rfl)
        simp [quotedBody, quoteFor, List.isPrefixOf, Ne.symm hd]
    | cons c cs =>
      have hhead := head_quotedChar hq c
      unfold quotedBody
      rw [List.flatMap_cons]
      generalize quoteFor (c :: cs) = q at hhead hq
      have hspells := spells_quotedChar hq c
      generalize quotedChar q c = piece at hhead hspells
      cases hspells with
      | plain _ => exact isPrefixOf_of_ne (by simpa using hhead)
      | escaped _ _ => exact isPrefixOf_of_ne (by simpa using hhead)
  have hread := literalBody_quoted hq 0 cs [] rest
  have hsplit : quotedChars cs ++ rest =
      quoteFor cs :: (quotedBody cs ++ ([quoteFor cs] ++ rest)) := by
    simp [quotedChars]
  rw [hsplit]
  unfold literal
  simp only [hsingle, Bool.false_eq_true, if_false]
  have hdrop : (quoteFor cs :: (quotedBody cs ++ ([quoteFor cs] ++ rest))).drop
      [quoteFor cs].length = quotedBody cs ++ ([quoteFor cs] ++ rest) := rfl
  rw [hdrop]
  unfold quotedBody
  exact (congrArg (Except.map _) hread).trans rfl

theorem Spells.mem {bare : Char → Prop} {piece : List Char} (h : Spells bare c piece)
    {d : Char} (hd : d ∈ piece) : bare d ∨ isPrintable d = true := by
  cases h with
  | plain hc => exact Or.inl (List.mem_singleton.mp hd ▸ hc)
  | escaped _ hprintable =>
    rcases List.mem_cons.mp hd with rfl | hd
    · exact Or.inr (by decide)
    · exact Or.inr (hprintable d hd)

theorem printable_quotedBody {cs : List Char} (hq : IsQuote q) {d : Char}
    (hd : d ∈ cs.flatMap (quotedChar q)) : isPrintable d = true := by
  obtain ⟨c, -, hd⟩ := List.mem_flatMap.mp hd
  exact ((spells_quotedChar hq c).mem hd).elim (·.1) id

theorem IsQuote.printable (hq : IsQuote q) : isPrintable q = true := by
  rcases hq with rfl | rfl
  · decide
  · decide

/-- **A literal has printable characters alone.** -/
theorem printable_quotedChars {cs : List Char} {d : Char} (hd : d ∈ quotedChars cs) :
    isPrintable d = true := by
  have hq := isQuote_quoteFor cs
  unfold quotedChars at hd
  rw [List.mem_append, List.mem_cons, List.mem_singleton] at hd
  rcases hd with (rfl | hd) | rfl
  · exact hq.printable
  · exact printable_quotedBody hq hd
  · exact hq.printable

/-- So it stays on its line. -/
theorem isLineBreak_of_isPrintable {d : Char} (h : isPrintable d = true) :
    Text.isLineBreak d = false := by
  rw [Bool.eq_false_iff]
  intro hbreak
  have hsmall : ∀ n ∈ [0x0A, 0x0B, 0x0C, 0x0D, 0x1C, 0x1D, 0x1E, 0x85, 0x2028, 0x2029],
      isPrintable (Char.ofNat n) = false := by
    decide +kernel
  have hmem : d.toNat ∈ [0x0A, 0x0B, 0x0C, 0x0D, 0x1C, 0x1D, 0x1E, 0x85, 0x2028, 0x2029] := by
    unfold Text.isLineBreak at hbreak
    simp only [Bool.or_eq_true, Bool.and_eq_true, decide_eq_true_eq, beq_iff_eq] at hbreak
    simp only [List.mem_cons, List.not_mem_nil, or_false]
    omega
  have hnot := hsmall _ hmem
  rw [Char.ofNat_toNat, h] at hnot
  cases hnot

/-! ## Docstrings -/

/-- Line feeds, tabs and quotes stay in a docstring. -/
theorem spells_docstringChar (c : Char) :
    Spells (fun c => (c = '\n' ∨ c = '\t' ∨ isPrintable c = true) ∧ c ≠ '\\') c
      (docstringChar c) := by
  unfold docstringChar
  by_cases hblank : c = '\n' ∨ c = '\t'
  · rw [if_pos (by simpa using hblank)]
    refine .plain ⟨hblank.elim Or.inl fun h => Or.inr (Or.inl h), ?_⟩
    rcases hblank with rfl | rfl
    · decide
    · decide
  rw [if_neg (by simpa using hblank)]
  by_cases hc : c = '\\'
  · subst hc
    exact .escaped (fun _ => rfl) (by decide)
  · rw [if_neg (by simpa using hc)]
    exact (spells_escapeUnprintable c).mono fun hp => ⟨Or.inr (Or.inr hp), hc⟩

theorem Spells.ne_nil {bare : Char → Prop} {piece : List Char} (h : Spells bare c piece) :
    piece ≠ [] := by
  cases h with
  | plain _ => simp
  | escaped _ _ => simp

theorem escapeLast_append (a : List Char) {b : List Char} (h : b ≠ []) :
    escapeLast q (a ++ b) = a ++ escapeLast q b := by
  unfold escapeLast
  rw [List.reverse_append]
  cases hb : b.reverse with
  | nil => exact absurd (List.reverse_eq_nil_iff.mp hb) h
  | cons c front =>
    simp only [List.cons_append]
    split
    · simp
    · rfl

/-- A quote that the last quote is escaped for does not begin three in a row. -/
theorem isPrefixOf_escapeLast {body : List Char} (hq : IsQuote q) (hne : body ≠ [])
    (h : hasTriple q (q :: body) = false) (rest : List Char) :
    (triple q).isPrefixOf (q :: (escapeLast q body ++ rest)) = false := by
  have hback := hq.ne_backslash
  have hsolo : escapeLast q [q] = ['\\', q] := by simp [escapeLast]
  match body with
  | [c] =>
    by_cases hc : c = q
    · rw [hc, hsolo]
      simp [triple, List.isPrefixOf, hback]
    · have hkept : escapeLast q [c] = [c] := by simp [escapeLast, hc]
      rw [hkept]
      simp [triple, List.isPrefixOf, Ne.symm hc]
  | c :: d :: tail =>
    rw [show c :: d :: tail = [c] ++ (d :: tail) from rfl, escapeLast_append _ (by simp)]
    by_cases hc : c = q
    · subst hc
      cases tail with
      | nil =>
        by_cases hd : d = c
        · subst hd
          rw [hsolo]
          simp [triple, List.isPrefixOf, hback]
        · have hkept : escapeLast c [d] = [d] := by simp [escapeLast, hd]
          rw [hkept]
          simp [triple, List.isPrefixOf, Ne.symm hd]
      | cons e tail =>
        rw [show d :: e :: tail = [d] ++ (e :: tail) from rfl, escapeLast_append _ (by simp)]
        have hd : d ≠ c := by
          rintro rfl
          simp [hasTriple, triple, List.isPrefixOf] at h
        simp [triple, List.isPrefixOf, Ne.symm hd]
    · simp [triple, List.isPrefixOf, Ne.symm hc]

theorem hasTriple_of_append {a b : List Char} (h : hasTriple q (a ++ b) = false) :
    hasTriple q b = false := by
  induction a with
  | nil => exact h
  | cons c a ih =>
    rw [List.cons_append, hasTriple, Bool.or_eq_false_iff] at h
    exact ih h.2

theorem docstringChar_quote (hq : IsQuote q) : docstringChar q = [q] := by
  rcases hq with rfl | rfl
  · decide
  · decide

theorem quote_not_mem_hexDigits (hq : IsQuote q) (width n : Nat) : q ∉ hexDigits width n := by
  intro h
  have hhex := (mem_hexDigits h).1
  rcases hq with rfl | rfl
  · exact absurd hhex (by decide)
  · exact absurd hhex (by decide)

/-- Only a quote is written with this quote. -/
theorem quote_not_mem_docstringChar (hq : IsQuote q) (hc : c ≠ q) : q ∉ docstringChar c := by
  have hother : ∀ d ∈ ['\\', 'n', 'r', 't', 'x', 'u', 'U'], q ≠ d := by
    rcases hq with rfl | rfl
    · decide
    · decide
  have hhex := quote_not_mem_hexDigits hq
  unfold docstringChar escapeUnprintable codeEscape
  intro h
  split at h
  · exact hc (List.mem_singleton.mp h).symm
  · simp only [apply_ite (q ∈ ·), List.mem_cons, List.not_mem_nil, or_false, hhex] at h
    simp only [List.forall_mem_cons] at hother
    obtain ⟨hb, hn, hr, ht, hx, hu, hU, -⟩ := hother
    simp only [hb, hn, hr, ht, hx, hu, hU, Ne.symm hc, or_self, ite_self] at h

theorem escapeLast_of_not_mem {body : List Char} (h : q ∉ body) : escapeLast q body = body := by
  unfold escapeLast
  split
  · rename_i c front hbody
    have hc : c ∈ body := by
      rw [← List.mem_reverse, hbody]
      exact List.mem_cons_self
    rw [if_neg]
    rw [beq_iff_eq]
    rintro rfl
    exact h hc
  · rfl

/-- **The inside of a docstring is read** up to the three quotes that close it, if it has no three
such quotes in a row. -/
theorem literalBody_docstring (hq : IsQuote q) {cs : List Char}
    (h : hasTriple q (cs.flatMap docstringChar) = false) (acc rest : List Char) :
    literalBody false (triple q) acc
        (escapeLast q (cs.flatMap docstringChar) ++ (triple q ++ rest)) =
      .ok (String.ofList (acc.reverse ++ cs), rest) := by
  have hclose : triple q ≠ [] := by simp [triple]
  have hbackslash : '\\' ∉ triple q := by simp [triple, hq.ne_backslash.symm]
  have hlines : (triple q).length ≠ 1 := by simp [triple]
  induction cs generalizing acc with
  | nil =>
    rw [List.flatMap_nil, show escapeLast q [] = [] from rfl, List.nil_append, literalBody_close,
      List.append_nil]
  | cons c cs ih =>
    rw [List.flatMap_cons] at h ⊢
    have hspells := spells_docstringChar c
    by_cases hlast : cs = []
    · subst hlast
      rw [List.flatMap_nil, List.append_nil]
      have hend : ∀ rest, literalBody false (triple q) (c :: acc) (triple q ++ rest) =
          .ok (String.ofList (acc.reverse ++ [c]), rest) := fun rest => by
        rw [literalBody_close, List.reverse_cons]
      by_cases hc : c = q
      · -- a quote at the end is escaped, so that it does not close the docstring
        subst hc
        rw [docstringChar_quote hq, show escapeLast c [c] = '\\' :: [c] by simp [escapeLast],
          List.cons_append, literalBody_escape hclose hbackslash, hend]
        rcases hq with rfl | rfl
        · rfl
        · rfl
      · rw [escapeLast_of_not_mem (quote_not_mem_docstringChar hq hc),
          literalBody_spells hspells hclose hbackslash, hend]
        exact fun hbare => ⟨hbare.2, fun _ => hlines, isPrefixOf_of_ne hc⟩
    · have hbody : cs.flatMap docstringChar ≠ [] := by
        obtain ⟨d, ds, rfl⟩ := List.exists_cons_of_ne_nil hlast
        rw [List.flatMap_cons]
        exact List.append_ne_nil_of_left_ne_nil (spells_docstringChar d).ne_nil _
      rw [escapeLast_append _ hbody, List.append_assoc,
        literalBody_spells hspells hclose hbackslash, ih (hasTriple_of_append h)]
      · simp
      · refine fun hbare => ⟨hbare.2, fun _ => hlines, ?_⟩
        by_cases hc : c = q
        · subst hc
          rw [docstringChar_quote hq] at h
          exact isPrefixOf_escapeLast hq hbody h _
        · exact isPrefixOf_of_ne hc

/-- Three quotes open a docstring, and what follows them is its inside. -/
theorem literal_triple (body : List Char) {s : String}
    (h : literalBody false (triple q) [] body = .ok (s, rest)) :
    literal false (triple q ++ body) = .ok (.text s, rest) := by
  have hopen : [q, q].isPrefixOf (q :: q :: body) = true := by simp [List.isPrefixOf]
  show literal false (q :: q :: q :: body) = _
  unfold literal
  simp only [hopen, if_true]
  exact (congrArg (Except.map _) h).trans rfl

/-- The quotes that a docstring is written between: the text holds no three of them in a row. -/
theorem docstringChars_cases (cs : List Char) :
    docstringChars cs = triple (quoteFor cs) ++ quotedBody cs ++ triple (quoteFor cs) ∨
      ∃ q, IsQuote q ∧ hasTriple q (cs.flatMap docstringChar) = false ∧
        docstringChars cs =
          triple q ++ escapeLast q (cs.flatMap docstringChar) ++ triple q := by
  unfold docstringChars
  simp only
  generalize cs.flatMap docstringChar = body
  split
  · exact Or.inl rfl
  · rename_i hne
    generalize hcandidates : ['"', '\''].filter (!hasTriple · body) = candidates at hne ⊢
    obtain ⟨d, ds, rfl⟩ := List.exists_cons_of_ne_nil hne
    have hmem : ((((d :: ds).find? (body.getLast? != some ·)) <|> (d :: ds).head?).getD '"') ∈
        d :: ds := by
      cases hfind : (d :: ds).find? (body.getLast? != some ·) with
      | none => exact List.mem_cons_self
      | some q => exact List.mem_of_find?_eq_some hfind
    generalize
      (((d :: ds).find? (body.getLast? != some ·)) <|> (d :: ds).head?).getD '"' = q at hmem
    rw [← hcandidates, List.mem_filter, Bool.not_eq_true'] at hmem
    refine Or.inr ⟨q, ?_, hmem.2, rfl⟩
    simpa [IsQuote, or_comm] using hmem.1

/-- **A docstring reads back as its text**, and leaves what follows. -/
theorem literal_docstringChars (cs rest : List Char) :
    literal false (docstringChars cs ++ rest) = .ok (.text (String.ofList cs), rest) := by
  rcases docstringChars_cases cs with h | ⟨q, hq, htriple, h⟩
  · rw [h, List.append_assoc, List.append_assoc]
    exact literal_triple _ (literalBody_quoted (isQuote_quoteFor cs) 2 cs [] rest)
  · rw [h, List.append_assoc, List.append_assoc]
    exact literal_triple _ (literalBody_docstring hq htriple [] rest)

theorem mem_escapeLast {body : List Char} {d : Char} (hd : d ∈ escapeLast q body) :
    d ∈ body ∨ d = '\\' := by
  unfold escapeLast at hd
  split at hd
  · rename_i c front hbody
    split at hd
    · rw [List.mem_append, List.mem_cons, List.mem_singleton] at hd
      have hfront : body = front.reverse ++ [c] := by
        rw [← List.reverse_reverse body, hbody, List.reverse_cons]
      rw [hfront, List.mem_append, List.mem_singleton]
      rcases hd with hd | rfl | rfl
      · exact Or.inl (Or.inl hd)
      · exact Or.inr rfl
      · exact Or.inl (Or.inr rfl)
    · exact Or.inl hd
  · exact Or.inl hd

/-- A docstring has printable characters, line feeds and tabs. -/
theorem printable_docstringChars {cs : List Char} {d : Char} (hd : d ∈ docstringChars cs) :
    d = '\n' ∨ d = '\t' ∨ isPrintable d = true := by
  have hquotes : ∀ {q : Char}, IsQuote q → d ∈ triple q →
      d = '\n' ∨ d = '\t' ∨ isPrintable d = true := fun hq hd => by
    simp only [triple, List.mem_cons, List.not_mem_nil, or_false, or_self] at hd
    exact Or.inr (Or.inr (hd ▸ hq.printable))
  rcases docstringChars_cases cs with h | ⟨q, hq, -, h⟩
  · rw [h, List.mem_append, List.mem_append] at hd
    rcases hd with (hd | hd) | hd
    · exact hquotes (isQuote_quoteFor cs) hd
    · exact Or.inr (Or.inr (printable_quotedBody (isQuote_quoteFor cs) hd))
    · exact hquotes (isQuote_quoteFor cs) hd
  · rw [h, List.mem_append, List.mem_append] at hd
    rcases hd with (hd | hd) | hd
    · exact hquotes hq hd
    · rcases mem_escapeLast hd with hd | rfl
      · obtain ⟨c, -, hd⟩ := List.mem_flatMap.mp hd
        exact ((spells_docstringChar c).mem hd).elim (·.1) fun hp => Or.inr (Or.inr hp)
      · exact Or.inr (Or.inr (by decide))
    · exact hquotes hq hd

end SchemaModels.Source
