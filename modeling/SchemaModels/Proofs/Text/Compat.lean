import SchemaModels.Text.Compat

/-!
# Composition goes run by run

A character `Opens` a run if it is no mark and composes with nothing before it. Marks stay behind it
when they are put into order, and nothing is composed across it, so compatibility composition of two
texts one after the other is that of each if such a character begins the second
(`compatChars_append`). All characters up to 0x9F are of this kind, and decompose to themselves: an
ASCII text composes to itself (`compat_ascii`), and is left alone at the end of another
(`compat_append`).
-/

namespace SchemaModels.Text

variable {c d e : Char} {cs ds es : List Char}

/-- The character is no mark, and composes with nothing before it. -/
def Opens (c : Char) : Prop := combiningClass c = 0 ∧ ∀ a, composePair? a c = none

theorem compositions_above : ∀ e ∈ compositions, 0xA0 ≤ e.1 := by
  decide

theorem opens_of_lt (h : c.toNat < 0xA0) : Opens c := by
  refine ⟨?_, fun a => ?_⟩
  · unfold combiningClass
    rw [if_pos (by omega)]
  · have hpair : hangulPair? a.toNat c.toNat = none := by
      unfold hangulPair?
      rw [if_neg (by omega), if_neg (by omega)]
    have hlookup : compositions.lookup c.toNat = none := by
      rw [List.lookup_eq_none_iff]
      intro e he
      have habove := compositions_above e he
      rw [bne_iff_ne]
      omega
    unfold composePair?
    rw [hpair, hlookup]
    rfl

theorem decompose_of_lt (h : c.toNat < 0xA0) : decompose c = [c] := by
  unfold decompose
  simp only
  rw [if_pos h]

/-! ## Order -/

theorem orderMarks_cons_base (hd : combiningClass d = 0) (ds : List Char) :
    orderMarks (d :: ds) = d :: orderMarks ds := by
  have hcons : orderMarks (d :: ds) = insertMark d (orderMarks ds) := rfl
  rw [hcons]
  cases orderMarks ds with
  | nil => rfl
  | cons e es => rw [insertMark, if_neg fun h => by omega]

theorem insertMark_append (hd : combiningClass d = 0) (c : Char) (cs ds : List Char) :
    insertMark c (cs ++ d :: ds) = insertMark c cs ++ d :: ds := by
  induction cs with
  | nil =>
    show insertMark c (d :: ds) = c :: d :: ds
    rw [insertMark, if_neg fun h => h.1 hd]
  | cons e es ih =>
    rw [List.cons_append, insertMark, insertMark]
    split
    · rw [ih]
      rfl
    · rfl

theorem orderMarks_append (hd : combiningClass d = 0) (cs ds : List Char) :
    orderMarks (cs ++ d :: ds) = orderMarks cs ++ d :: orderMarks ds := by
  induction cs with
  | nil => exact orderMarks_cons_base hd ds
  | cons c cs ih =>
    have hcons : orderMarks (c :: cs ++ d :: ds) = insertMark c (orderMarks (cs ++ d :: ds)) := rfl
    rw [hcons, ih, insertMark_append hd]
    rfl

/-! ## Composition -/

/-- A character that opens a run becomes the next base. -/
theorem composeFrom_cons_opens (hd : Opens d) (base : Char) (marks ds : List Char) :
    composeFrom base marks (d :: ds) = base :: marks.reverse ++ composeFrom d [] ds := by
  rw [composeFrom.eq_def]
  simp only
  rw [hd.2, ite_self, if_pos hd.1]

theorem composeFrom_append (hd : Opens d) (cs ds : List Char) (base : Char) (marks : List Char) :
    composeFrom base marks (cs ++ d :: ds) = composeFrom base marks cs ++ composeFrom d [] ds := by
  induction cs generalizing base marks with
  | nil => rw [List.nil_append, composeFrom_cons_opens hd, composeFrom]
  | cons c cs ih =>
    rw [List.cons_append, composeFrom.eq_def, composeFrom.eq_def base marks (c :: cs)]
    simp only
    split
    · exact ih _ _
    · split
      · rw [ih, List.append_assoc]
      · exact ih _ _

theorem compose_cons_base (hc : combiningClass c = 0) (cs : List Char) :
    compose (c :: cs) = composeFrom c [] cs := by
  unfold compose
  simp [hc]

theorem compose_cons_mark (hc : combiningClass c ≠ 0) (cs : List Char) :
    compose (c :: cs) = c :: compose cs := by
  have htake := @List.takeWhile_cons_of_pos _ (fun d => decide (combiningClass d ≠ 0)) c cs
    (decide_eq_true hc)
  have hdrop := @List.dropWhile_cons_of_pos _ (fun d => decide (combiningClass d ≠ 0)) c cs
    (decide_eq_true hc)
  unfold compose
  simp only
  rw [htake, hdrop]
  split <;> rfl

theorem compose_append (hd : Opens d) (cs ds : List Char) :
    compose (cs ++ d :: ds) = compose cs ++ compose (d :: ds) := by
  rw [compose_cons_base hd.1 ds]
  induction cs with
  | nil => exact compose_cons_base hd.1 ds
  | cons c cs ih =>
    rw [List.cons_append]
    by_cases hc : combiningClass c = 0
    · rw [compose_cons_base hc, compose_cons_base hc, composeFrom_append hd]
    · rw [compose_cons_mark hc, compose_cons_mark hc, ih]
      rfl

/-! ## Texts -/

/-- Characters up to 0x9F stay as they are. -/
theorem compose_decomposed (h : ∀ c ∈ cs, c.toNat < 0xA0) :
    compose (orderMarks (cs.flatMap decompose)) = cs := by
  induction cs with
  | nil => rfl
  | cons c cs ih =>
    obtain ⟨hc, hcs⟩ := List.forall_mem_cons.mp h
    have hopens := opens_of_lt hc
    rw [List.flatMap_cons, decompose_of_lt hc, List.singleton_append, orderMarks_cons_base hopens.1]
    cases cs with
    | nil => exact compose_cons_base hopens.1 []
    | cons d ds =>
      have hd := hcs d List.mem_cons_self
      have hdopens := opens_of_lt hd
      have hrest := ih hcs
      rw [List.flatMap_cons, decompose_of_lt hd, List.singleton_append,
        orderMarks_cons_base hdopens.1] at hrest ⊢
      have hsplit := compose_append hdopens [c] (orderMarks (ds.flatMap decompose))
      rw [hrest, compose_cons_base hopens.1] at hsplit
      exact hsplit

/-- The shortcut of composition changes nothing. -/
theorem compatChars_eq (cs : List Char) :
    compatChars cs = compose (orderMarks (cs.flatMap decompose)) := by
  unfold compatChars
  split
  · rename_i hall
    refine (compose_decomposed fun c hc => ?_).symm
    exact of_decide_eq_true (List.all_eq_true.mp hall c hc)
  · rfl

/-- **A text after another composes on its own** if what its first character decomposes into opens a
run. -/
theorem compatChars_append (hd : decompose d = e :: es) (he : Opens e) (cs ds : List Char) :
    compatChars (cs ++ d :: ds) = compatChars cs ++ compatChars (d :: ds) := by
  rw [compatChars_eq, compatChars_eq, compatChars_eq, List.flatMap_append, List.flatMap_cons, hd,
    List.cons_append, orderMarks_append he.1, compose_append he, orderMarks_cons_base he.1]

/-- All characters are ASCII. -/
def IsAscii (cs : List Char) : Prop := ∀ c ∈ cs, c.toNat < 0x80

instance (cs : List Char) : Decidable (IsAscii cs) :=
  inferInstanceAs (Decidable (∀ c ∈ cs, _))

theorem compatChars_ascii (hds : IsAscii ds) : compatChars ds = ds := by
  have hlt : ∀ c ∈ ds, c.toNat < 0xA0 := fun c hc => Nat.lt_trans (hds c hc) (by decide)
  rw [compatChars_eq, compose_decomposed hlt]

/-- **An ASCII ending stays** as it is. -/
theorem compatChars_append_ascii (hds : IsAscii ds) (cs : List Char) :
    compatChars (cs ++ ds) = compatChars cs ++ ds := by
  cases ds with
  | nil => rw [List.append_nil, List.append_nil]
  | cons d ds =>
    have hd : d.toNat < 0xA0 := Nat.lt_trans (hds d List.mem_cons_self) (by decide)
    rw [compatChars_append (decompose_of_lt hd) (opens_of_lt hd), compatChars_ascii hds]

theorem compat_append {s t : String} (ht : IsAscii t.toList) :
    compat (s ++ t) = compat s ++ t := by
  unfold compat
  rw [String.toList_append, compatChars_append_ascii ht, String.ofList_append, String.ofList_toList]

/-- **An ASCII text composes to itself.** -/
theorem compat_ascii {s : String} (hs : IsAscii s.toList) : compat s = s := by
  rw [compat, compatChars_ascii hs, String.ofList_toList]

/-! ## Nothing vanishes -/

theorem compatSequences_ne_nil : ∀ r ∈ compatSequences, ∀ s ∈ r.2, s ≠ [] := by
  decide +kernel

theorem decompose_ne_nil (c : Char) : decompose c ≠ [] := by
  unfold decompose
  simp only
  split
  · simp
  · split
    · simp [hangulLetters]
    · split
      · simp
      · split
        · simp
        · cases h : runImage? compatSequences c with
          | none => simp
          | some s =>
            unfold runImage? at h
            obtain ⟨r, hr, hs⟩ := Option.bind_eq_some_iff.mp h
            have hmem := List.mem_of_getElem? hs
            have hne := compatSequences_ne_nil r (List.mem_of_find?_eq_some hr) s hmem
            simpa using hne

theorem insertMark_ne_nil (c : Char) (ds : List Char) : insertMark c ds ≠ [] := by
  cases ds with
  | nil => simp [insertMark]
  | cons d ds =>
    rw [insertMark]
    split <;> simp

theorem composeFrom_ne_nil (base : Char) (marks cs : List Char) :
    composeFrom base marks cs ≠ [] := by
  induction cs generalizing base marks with
  | nil => simp [composeFrom]
  | cons c cs ih =>
    rw [composeFrom.eq_def]
    simp only
    split
    · exact ih _ _
    · split
      · simp
      · exact ih _ _

theorem compose_ne_nil {cs : List Char} (h : cs ≠ []) : compose cs ≠ [] := by
  obtain ⟨c, cs, rfl⟩ := List.exists_cons_of_ne_nil h
  by_cases hc : combiningClass c = 0
  · rw [compose_cons_base hc]
    exact composeFrom_ne_nil _ _ _
  · rw [compose_cons_mark hc]
    simp

/-- **No text composes to nothing.** -/
theorem compat_ne_empty {s : String} (h : s ≠ "") : compat s ≠ "" := by
  have hs : s.toList ≠ [] := by
    intro hnil
    exact h (String.toList_inj.mp (by rw [hnil]; rfl))
  have hchars : compatChars s.toList ≠ [] := by
    obtain ⟨c, cs, hcons⟩ := List.exists_cons_of_ne_nil hs
    have hflat : s.toList.flatMap decompose ≠ [] := by
      rw [hcons, List.flatMap_cons]
      exact fun hnil => decompose_ne_nil c (List.append_eq_nil_iff.mp hnil).1
    obtain ⟨d, ds, hd⟩ := List.exists_cons_of_ne_nil hflat
    rw [compatChars_eq, hd]
    exact compose_ne_nil (insertMark_ne_nil _ _)
  intro hempty
  have htoList := congrArg String.toList hempty
  unfold compat at htoList
  rw [String.toList_ofList] at htoList
  exact hchars htoList

end SchemaModels.Text
