import Mathlib.Data.List.TakeWhile
import SchemaModels.Proofs.Source.Hint

/-!
# Class names that begin with a digit

A number at the front of a text ends before the first `t` (`number_eq_ok`), so it leaves the end of
a class name of data, and what it leaves is a name of its own. A number with a name after it is no
expression: such a class name cannot be read as a hint (`parse_digit`).
-/

namespace SchemaModels.Source.Hint

open Text (IsLetter IsWordly isIdentifier)

/-! ## What a number takes -/

/-- The rest is what is left after some characters without a `t`. -/
def Leaves (cs rest : List Char) : Prop := ∃ used, cs = used ++ rest ∧ 't' ∉ used

theorem leaves_refl (cs : List Char) : Leaves cs cs := ⟨[], rfl, by simp⟩

theorem Leaves.trans {cs ds es : List Char} (h : Leaves cs ds) (h' : Leaves ds es) :
    Leaves cs es := by
  obtain ⟨used, rfl, ht⟩ := h
  obtain ⟨used', rfl, ht'⟩ := h'
  refine ⟨used ++ used', by rw [List.append_assoc], ?_⟩
  rw [List.mem_append]
  exact fun hmem => hmem.elim ht ht'

theorem Leaves.cons {c : Char} {cs rest : List Char} (hc : c ≠ 't') (h : Leaves cs rest) :
    Leaves (c :: cs) rest :=
  Leaves.trans ⟨[c], rfl, by simpa [eq_comm] using hc⟩ h

theorem leaves_dropWhile {p : Char → Bool} (hp : p 't' = false) (cs : List Char) :
    Leaves cs (cs.dropWhile p) := by
  refine ⟨cs.takeWhile p, List.takeWhile_append_dropWhile.symm, fun hmem => ?_⟩
  have ht := List.mem_takeWhile_imp hmem
  rw [hp] at ht
  cases ht

/-- The token is a number. -/
def IsNumber : Token → Prop
  | .int _ | .float _ | .imaginary _ => True
  | _ => False

/-- A number was taken that ends where it may. -/
structure TakesNumber (cs rest : List Char) (t : Token) : Prop where
  number : IsNumber t
  leaves : Leaves cs rest
  ends : endsNumber rest = true

theorem basedNumber_eq_ok {base : Nat} {p : Char → Bool} (hp : p 't' = false) {cs rest : List Char}
    {t : Token} (h : basedNumber base p cs = .ok (t, rest)) : TakesNumber cs rest t := by
  unfold basedNumber at h
  simp only at h
  split at h
  · cases h
  · rename_i hends
    simp only [Bool.or_eq_true, Bool.not_eq_true', not_or, Bool.not_eq_false] at hends
    simp only [Except.ok.injEq, Prod.mk.injEq] at h
    obtain ⟨rfl, rfl⟩ := h
    exact ⟨trivial, leaves_dropWhile hp cs, hends.1.2⟩

theorem exponent?_eq_some {cs rest : List Char} {n : Int} (h : exponent? cs = some (n, rest)) :
    Leaves cs rest := by
  unfold exponent? at h
  split at h
  · rename_i e tail
    split at h
    · cases h
    · rename_i he
      have het : e ≠ 't' := by
        rintro rfl
        exact he (by decide)
      refine Leaves.cons het ?_
      split at h
      rename_i negative digits hsign
      have hdigits : Leaves tail digits := by
        split at hsign
        · obtain ⟨-, rfl⟩ := Prod.mk.inj hsign
          exact Leaves.cons (by decide) (leaves_refl _)
        · obtain ⟨-, rfl⟩ := Prod.mk.inj hsign
          exact Leaves.cons (by decide) (leaves_refl _)
        · obtain ⟨-, rfl⟩ := Prod.mk.inj hsign
          exact leaves_refl _
      simp only at h
      obtain ⟨-, h⟩ := Option.ite_none_left_eq_some.mp h
      obtain ⟨-, rfl⟩ := Prod.mk.inj (Option.some.inj h)
      exact hdigits.trans (leaves_dropWhile (by decide) digits)
  · cases h

/-- The fraction, if there is one. -/
theorem leaves_fraction {cs digits rest : List Char} {point : Bool}
    (h : (match cs with
      | '.' :: rest => (true, rest.takeWhile Char.isDigit, rest.dropWhile Char.isDigit)
      | _ => (false, [], cs)) = (point, digits, rest)) : Leaves cs rest := by
  split at h
  · simp only [Prod.mk.injEq] at h
    obtain ⟨-, -, rfl⟩ := h
    exact Leaves.cons (by decide) (leaves_dropWhile (by decide) _)
  · simp only [Prod.mk.injEq] at h
    obtain ⟨-, -, rfl⟩ := h
    exact leaves_refl _

/-- The exponent, if there is one. -/
theorem leaves_exponent {cs rest : List Char} {exponent : Option Int}
    (h : (match exponent? cs with
      | some (n, rest) => (some n, rest)
      | none => (none, cs)) = (exponent, rest)) : Leaves cs rest := by
  split at h
  · rename_i hsome
    obtain ⟨-, rfl⟩ := Prod.mk.inj h
    exact exponent?_eq_some hsome
  · obtain ⟨-, rfl⟩ := Prod.mk.inj h
    exact leaves_refl _

/-- The imaginary unit goes on after the digits. -/
theorem takes_imaginary {cs after rest : List Char} {c : Char} {x : Double} {t : Token}
    (hleaves : Leaves cs (c :: after)) (hc : c ≠ 't')
    (h : (if endsNumber after then .ok (.imaginary x, after) else .error .badExpression :
      Except Fault (Token × List Char)) = .ok (t, rest)) : TakesNumber cs rest t := by
  split at h
  · rename_i hends
    simp only [Except.ok.injEq, Prod.mk.injEq] at h
    obtain ⟨rfl, rfl⟩ := h
    exact ⟨trivial, hleaves.trans (Leaves.cons hc (leaves_refl _)), hends⟩
  · cases h

theorem decimalNumber_eq_ok {cs rest : List Char} {t : Token}
    (h : decimalNumber cs = .ok (t, rest)) : TakesNumber cs rest t := by
  unfold decimalNumber at h
  extract_lets whole start at h
  have hwhole : Leaves cs start := leaves_dropWhile (by decide) cs
  clear_value whole start
  split at h
  rename_i point fraction after hpoint
  split at h
  rename_i exponent last hexponent
  have hall := (hwhole.trans (leaves_fraction hpoint)).trans (leaves_exponent hexponent)
  simp only at h
  split at h
  · exact takes_imaginary hall (by decide) h
  · exact takes_imaginary hall (by decide) h
  · split at h
    · cases h
    · rename_i hends
      rw [Bool.not_eq_true', Bool.not_eq_false] at hends
      split at h
      · simp only [Except.ok.injEq, Prod.mk.injEq] at h
        obtain ⟨rfl, rfl⟩ := h
        exact ⟨trivial, hall, hends⟩
      · split at h
        · cases h
        · split at h
          · cases h
          · simp only [Except.ok.injEq, Prod.mk.injEq] at h
            obtain ⟨rfl, rfl⟩ := h
            exact ⟨trivial, hall, hends⟩

/-- **A number ends before the first `t`**, and where it may. -/
theorem number_eq_ok {cs rest : List Char} {t : Token} (h : number cs = .ok (t, rest)) :
    TakesNumber cs rest t := by
  have hlead : ∀ {x : Char} {cs : List Char}, x ≠ 't' → TakesNumber cs rest t →
      TakesNumber ('0' :: x :: cs) rest t := fun hx ht =>
    ⟨ht.number, Leaves.cons (by decide) (Leaves.cons hx ht.leaves), ht.ends⟩
  unfold number at h
  split at h
  · rename_i x tail
    have hcase : ∀ {a b : Char}, a ≠ 't' → b ≠ 't' → (x == a || x == b) = true → x ≠ 't' := by
      rintro a b ha hb hx rfl
      rw [Bool.or_eq_true, beq_iff_eq, beq_iff_eq] at hx
      exact hx.elim (fun he => ha he.symm) fun he => hb he.symm
    split at h
    · rename_i hx
      exact hlead (hcase (by decide) (by decide) hx) (basedNumber_eq_ok (by decide) h)
    · split at h
      · rename_i hx
        exact hlead (hcase (by decide) (by decide) hx) (basedNumber_eq_ok (by decide) h)
      · split at h
        · rename_i hx
          exact hlead (hcase (by decide) (by decide) hx) (basedNumber_eq_ok (by decide) h)
        · exact decimalNumber_eq_ok h
  · exact decimalNumber_eq_ok h

/-! ## What it leaves -/

/-- What ends in `ta` does so without what a number takes. -/
theorem Leaves.suffix {cs rest : List Char} (h : Leaves cs rest) (hcs : ['t', 'a'] <:+ cs) :
    ['t', 'a'] <:+ rest := by
  obtain ⟨used, rfl, ht⟩ := h
  obtain ⟨before, heq⟩ := hcs
  rcases List.append_eq_append_iff.mp heq with ⟨mid, rfl, hrest⟩ | ⟨mid, -, hrest⟩
  · cases mid with
    | nil => exact ⟨[], hrest⟩
    | cons c mid =>
      rw [List.cons_append, List.cons.injEq] at hrest
      exact absurd (by simp [← hrest.1]) ht
  · exact ⟨mid, hrest.symm⟩

theorem afterNumber_letters : ∀ w ∈ afterNumber, ∃ c ∈ w.toList.head?, IsLetter c := by
  have hfirst : ∀ w ∈ afterNumber, w.toList.head?.any (fun c => decide (IsLetter c)) = true := by
    decide
  intro w hw
  obtain ⟨c, hc, hletter⟩ := (Option.any_eq_true _ _).mp (hfirst w hw)
  exact ⟨c, hc, of_decide_eq_true hletter⟩

theorem keywords_suffix : ∀ k ∈ Naming.keywords, ¬ ['t', 'a'] <:+ k.toList := by
  decide

/-- What is left of such a word is a name, if a number may end before it. -/
theorem name_after_number {rest : List Char} (hall : ∀ c ∈ rest, IsWordly c)
    (hsuffix : ['t', 'a'] <:+ rest) (hends : endsNumber rest = true) :
    isIdentifier rest = true ∧ String.ofList rest ∉ Naming.keywords := by
  constructor
  · cases rest with
    | nil =>
      obtain ⟨before, heq⟩ := hsuffix
      exact absurd heq (by simp)
    | cons c tail =>
      have hpart := Text.part_of_wordly (hall c List.mem_cons_self)
      rw [endsNumber, isNameCharacter_of_part hpart, Bool.not_true, Bool.false_or,
        List.any_eq_true] at hends
      obtain ⟨w, hw, hprefix⟩ := hends
      obtain ⟨d, hd, hletter⟩ := afterNumber_letters w hw
      have hstart : Text.isIdentifierStart c = true := by
        rw [List.isPrefixOf_iff_prefix] at hprefix
        obtain ⟨after, heq⟩ := hprefix
        have hhead := congrArg List.head? heq
        rw [List.head?_append, hd, List.head?_cons] at hhead
        rw [← Option.some.inj hhead]
        exact Text.start_of_letter hletter
      rw [isIdentifier, hstart, Bool.true_and, List.all_eq_true]
      exact fun e he => Text.part_of_wordly (hall e (List.mem_cons_of_mem c he))
  · intro hmem
    refine keywords_suffix _ hmem ?_
    rw [String.toList_ofList]
    exact hsuffix

/-! ## Reading -/

/-- What begins a number begins no blank, comment, line end, string or name. -/
theorem digit_start {c : Char} (h : c.isDigit = true) :
    c ≠ '#' ∧ c ≠ '\n' ∧ c ≠ '\\' ∧ isGap c = false ∧
      ∀ rest, word (c :: rest) = number (c :: rest) := by
  have hlt : c.toNat < 128 := by
    have hbounds : 48 ≤ c.toNat ∧ c.toNat ≤ 57 := by
      simpa [Char.isDigit, UInt32.le_iff_toNat_le] using h
    omega
  have hall : c.isDigit = true → isGap c = false ∧ isNameStart c = false ∧ c ≠ 'r' ∧ c ≠ 'R' ∧
      c ≠ '"' ∧ c ≠ '\'' := Text.forall_ascii hlt (by decide)
  obtain ⟨hgap, hstart, hr, hR, hquote, hquote'⟩ := hall h
  refine ⟨?_, ?_, ?_, hgap, fun rest => ?_⟩
  · rintro rfl
    exact absurd h (by decide)
  · rintro rfl
    exact absurd h (by decide)
  · rintro rfl
    exact absurd h (by decide)
  · unfold word
    simp [hquote, hquote', hr, hR, hstart, h]

/-- A number and a name are no expression. -/
theorem parseTokens_number_name {t : Token} (h : IsNumber t) (y : String) :
    parseTokens [t, .name y, .lineEnd] = .error .badExpression := by
  cases t with
  | int _ => rfl
  | float _ => rfl
  | imaginary _ => rfl
  | _ => cases h

theorem track_number {t : Token} (h : IsNumber t) (stack : List String) :
    track stack t = some stack := by
  cases t with
  | sign _ => cases h
  | _ => rfl

/-- The first word is a number where the text begins with one. -/
theorem tokensFrom_number {c : Char} {tail rest : List Char} {t : Token} {fuel : Nat}
    (hc : c.isDigit = true) (h : number (c :: tail) = .ok (t, rest)) :
    tokensFrom [] true [] (fuel + 1) (c :: tail) = tokensFrom [] false [t] fuel rest := by
  obtain ⟨hcomment, hline, hslash, hgap, hword⟩ := digit_start hc
  rw [tokensFrom]
  · simp [hgap, hword, h, track_number (number_eq_ok h).number]
  · exact hcomment
  · exact hline
  · exact fun _ hd _ => hslash hd

/-- Nothing is read where the text begins with a digit and no number. -/
theorem tokensFrom_badNumber {c : Char} {tail : List Char} {e : Fault} {fuel : Nat}
    (hc : c.isDigit = true) (h : number (c :: tail) = .error e) :
    tokensFrom [] true [] (fuel + 1) (c :: tail) = [Token.bad] := by
  obtain ⟨hcomment, hline, hslash, hgap, hword⟩ := digit_start hc
  rw [tokensFrom]
  · simp [hgap, hword, h]
  · exact hcomment
  · exact hline
  · exact fun _ hd _ => hslash hd

/-- **A word that begins with a digit and ends like a class name of data is no expression.** -/
theorem parse_digit {s : String} {c : Char} (hall : ∀ d ∈ s.toList, IsWordly d)
    (hhead : s.toList.head? = some c) (hc : c.isDigit = true) (hsuffix : ['t', 'a'] <:+ s.toList) :
    parse s = .error .badExpression := by
  have hclean : Clean s := by
    constructor
    · exact fun hmem => absurd (hall _ hmem) (by decide)
    · exact fun hmem => absurd (hall _ hmem) (by decide)
  rw [parse_eq hclean]
  unfold tokens
  generalize s.toList = cs at *
  cases cs with
  | nil => cases hhead
  | cons d tail =>
    rw [List.head?_cons, Option.some.injEq] at hhead
    subst hhead
    cases hnumber : number (d :: tail) with
    | error e =>
      rw [List.length_cons, tokensFrom_badNumber hc hnumber]
      rfl
    | ok result =>
      obtain ⟨t, rest⟩ := result
      have htakes := number_eq_ok hnumber
      have hrest : ∀ e ∈ rest, IsWordly e := by
        obtain ⟨used, heq, -⟩ := htakes.leaves
        rw [heq] at hall
        exact fun e he => hall e (List.mem_append_right used he)
      obtain ⟨hname, hfree⟩ := name_after_number hrest (htakes.leaves.suffix hsuffix) htakes.ends
      obtain ⟨k, hk⟩ : ∃ k, tail.length + 1 = k + 2 := by
        obtain ⟨before, heq⟩ := hsuffix
        have hlength := congrArg List.length heq
        rw [List.length_append, List.length_cons] at hlength
        exact ⟨tail.length - 1, by simp at hlength; omega⟩
      have hsplit := @tokensFrom_name [] false [t] (k + 1) [] rest hname hfree ends_nil
      rw [List.append_nil, tokensFrom_end] at hsplit
      rw [List.length_cons, tokensFrom_number hc hnumber, hk, hsplit]
      exact parseTokens_number_name htakes.number _

end SchemaModels.Source.Hint
