import SchemaModels.Proofs.Text.Compat
import SchemaModels.Proofs.Text.Identifier

/-!
# Texts that compose to ASCII

Other characters than ASCII can decompose into ASCII, and texts with them compose to names that they
do not look like. Composition itself never leaves such a character (`stable_of_mem_compatChars`),
and upper case makes none of the others (`stable_of_mem_upperChar`), so a text made in these ways
composes to an ASCII text only if it is that text (`eq_of_compat`).
-/

namespace SchemaModels.Text

/-- The character is ASCII if it decomposes into ASCII. -/
def Stable (c : Char) : Prop := IsAscii (decompose c) → c.toNat < 0x80

/-- All characters that decompose into ASCII, with others that decompose between them. -/
def asciiForms : List Interval :=
  [(0xA0, 0xA0), (0xAA, 0xAA), (0xB2, 0xB3), (0xB9, 0xBA), (0x132, 0x133), (0x17F, 0x17F),
   (0x1C7, 0x1CC), (0x1F1, 0x1F3), (0x2B0, 0x2B8), (0x2E1, 0x2E3), (0x37E, 0x37E), (0x1D2C, 0x1D2E),
   (0x1D30, 0x1D3A), (0x1D3C, 0x1D4D), (0x1D4F, 0x1D65), (0x1D9C, 0x1DBB), (0x1FEF, 0x1FEF),
   (0x2000, 0x200A), (0x2024, 0x2026), (0x202F, 0x202F), (0x203C, 0x203C), (0x2047, 0x2049),
   (0x205F, 0x205F), (0x2070, 0x2071), (0x2074, 0x208E), (0x2090, 0x209C), (0x20A8, 0x20A8),
   (0x2100, 0x2102), (0x2105, 0x2106), (0x210A, 0x2113), (0x2115, 0x2116), (0x2119, 0x211D),
   (0x2120, 0x2122), (0x2124, 0x2124), (0x2128, 0x2128), (0x212A, 0x212D), (0x212F, 0x2131),
   (0x2133, 0x2139), (0x213B, 0x213B), (0x2145, 0x2149), (0x2160, 0x217F), (0x2460, 0x24EA),
   (0x2A74, 0x2A76), (0x2C7C, 0x2C7D), (0x3000, 0x3000), (0x3250, 0x325F), (0x32B1, 0x33FF),
   (0xA7F2, 0xA7F4), (0xFB00, 0xFB06), (0xFB29, 0xFB29), (0xFE10, 0xFE19), (0xFE30, 0xFE38),
   (0xFE47, 0xFE52), (0xFE54, 0xFE66), (0xFE68, 0xFE6B), (0xFF01, 0xFF5E), (0x107A5, 0x107A5),
   (0x1D400, 0x1D454), (0x1D456, 0x1D49C), (0x1D49E, 0x1D49F), (0x1D4A2, 0x1D4A2),
   (0x1D4A5, 0x1D4A6), (0x1D4A9, 0x1D4AC), (0x1D4AE, 0x1D4B9), (0x1D4BB, 0x1D4BB),
   (0x1D4BD, 0x1D4C3), (0x1D4C5, 0x1D505), (0x1D507, 0x1D50A), (0x1D50D, 0x1D514),
   (0x1D516, 0x1D51C), (0x1D51E, 0x1D539), (0x1D53B, 0x1D53E), (0x1D540, 0x1D544),
   (0x1D546, 0x1D546), (0x1D54A, 0x1D550), (0x1D552, 0x1D6A3), (0x1D7CE, 0x1D7FF),
   (0x1F100, 0x1F10A), (0x1F110, 0x1F12E), (0x1F130, 0x1F14F), (0x1F16A, 0x1F16C),
   (0x1F190, 0x1F190), (0x1FBF0, 0x1FBF9)]

/-- What other characters decompose into, compose to or become in upper case; the intervals with
most of them come first. -/
def settledIntervals : List Interval :=
  [(0x37F, 0x1D2B), (0x0, 0x9F), (0x3400, 0xA7F1), (0x2E4, 0x37D), (0x3001, 0x324F),
   (0x1DBC, 0x1FEE), (0x1F4, 0x2AF), (0x2180, 0x245F), (0xBB, 0x131), (0x1FBFA, 0x10FFFF),
   (0x107A6, 0x1D3FF), (0x134, 0x17E), (0x1CD, 0x1F0), (0x203D, 0x2046), (0x2030, 0x203B),
   (0x180, 0x1C6), (0x1FF0, 0x1FFF), (0x1D800, 0x1F0FF), (0x2B9, 0x2E0), (0x24EB, 0x2A73),
   (0x200B, 0x2023), (0xA7F5, 0xFAFF), (0xA1, 0xA9), (0xB4, 0xB8), (0xAB, 0xB1), (0x1D66, 0x1D9B),
   (0x2A77, 0x2C7B), (0x2C7E, 0x2FFF), (0x20A9, 0x20FF)]

theorem stable_of_ascii {c : Char} (h : c.toNat < 0x80) : Stable c := fun _ => h

/-! ## Tables -/

theorem settledIntervals_apart : ∀ i ∈ settledIntervals, apart asciiForms i.1 i.2 = true := by
  decide

/-- The code point is that of a character in `settledIntervals`. -/
def isSettled (n : Nat) : Bool :=
  within settledIntervals n n && (n.blt 0xD800 || Nat.blt 0xDFFF n && n.blt 0x110000)

/-- The images are settled, and not all ASCII unless `asciiForms` holds the character. -/
def settles (n : Nat) (images : List Nat) : Bool :=
  images.all isSettled && (images.any (Nat.ble 0x80) || within asciiForms n n)

/-- Every character of a table of runs passes the test with its image. -/
def everyRun {α : Type} (test : Nat → α → Bool) (table : List (Nat × List α)) : Bool :=
  table.all fun r => (r.2.zipIdx r.1).all fun p => test p.2 p.1

theorem compatSingles_settle : everyRun (fun n m => settles n [m]) compatSingles = true := by
  decide +kernel

theorem compatSequences_settle : everyRun settles compatSequences = true := by
  decide +kernel

theorem compatShifts_settle : ∀ s ∈ compatShifts,
    within settledIntervals ((s.first : Int) + s.distance).toNat
        ((s.last : Int) + s.distance).toNat = true ∧ 0 ≤ (s.first : Int) + s.distance ∧
      ((s.last : Int) + s.distance < 0xD800 ∨
        0xDFFF < (s.first : Int) + s.distance ∧ (s.last : Int) + s.distance < 0x110000) ∧
      (within asciiForms s.first s.last = true ∨ 0x80 ≤ (s.first : Int) + s.distance) := by
  decide

theorem compositions_settle :
    (compositions.all fun e => e.2.all fun p => isSettled p.2 && Nat.ble 0x80 p.2) = true := by
  decide


/-! ## Decomposition -/

theorem run_passes {α : Type} {test : Nat → α → Bool} {table : List (Nat × List α)} {c : Char}
    {a : α} (hall : everyRun test table = true) (h : runImage? table c = some a) :
    test c.toNat a = true := by
  unfold runImage? at h
  obtain ⟨r, hr, ha⟩ := Option.bind_eq_some_iff.mp h
  have hbounds := List.find?_some hr
  simp only [Bool.and_eq_true, decide_eq_true_eq] at hbounds
  have hrun := List.all_eq_true.mp (List.all_eq_true.mp hall r (List.mem_of_find?_eq_some hr))
  exact hrun (a, c.toNat) (List.mk_mem_zipIdx_iff_le_and_getElem?_sub.mpr ⟨hbounds.1, ha⟩)

theorem isSettled_of_mem {i : Interval} (hi : i ∈ settledIntervals) {n : Nat} (hlow : i.1 ≤ n)
    (hhigh : n ≤ i.2) (hvalid : n < 0xD800 ∨ 0xDFFF < n ∧ n < 0x110000) : isSettled n = true := by
  rw [isSettled, within, Bool.and_eq_true, List.any_eq_true]
  refine ⟨⟨i, hi, ?_⟩, ?_⟩
  · rw [Bool.and_eq_true, Nat.ble_eq, Nat.ble_eq]
    exact ⟨hlow, hhigh⟩
  · simpa [Nat.blt_eq] using hvalid

/-- A settled character is not in `asciiForms`. -/
theorem not_covers_of_settled {n : Nat} (h : isSettled n = true) :
    (Char.ofNat n).toNat = n ∧ covers asciiForms (Char.ofNat n) = false := by
  rw [isSettled, within, Bool.and_eq_true, List.any_eq_true] at h
  obtain ⟨⟨i, hi, hwithin⟩, hvalid⟩ := h
  simp only [Bool.and_eq_true, Nat.ble_eq] at hwithin
  have hn : (Char.ofNat n).toNat = n :=
    toNat_ofNat_of_valid (by simpa [Nat.blt_eq] using hvalid)
  refine ⟨hn, not_covers_of_apart (settledIntervals_apart i hi) ?_ ?_⟩
  · rw [hn]
    exact hwithin.1
  · rw [hn]
    exact hwithin.2

theorem hangulLetters_settle {n : Nat} (hlow : 0xAC00 ≤ n) (hhigh : n < 0xD7A4) :
    settles n (hangulLetters n) = true := by
  have hletter : ∀ m, 0x1100 ≤ m → m ≤ 0x11FF → isSettled m = true := fun m hm hm' =>
    isSettled_of_mem List.mem_cons_self (Nat.le_trans (by decide) hm)
      (Nat.le_trans hm' (by decide)) (Or.inl (by omega))
  have hall : ∀ m ∈ hangulLetters n, isSettled m = true := by
    intro m hm
    unfold hangulLetters at hm
    simp only at hm
    rw [List.mem_append] at hm
    simp only [List.mem_cons, List.not_mem_nil, or_false] at hm
    rcases hm with (hm | hm) | hm
    · exact hletter m (by omega) (by omega)
    · exact hletter m (by omega) (by omega)
    · split at hm
      · cases hm
      · rw [List.mem_singleton] at hm
        exact hletter m (by omega) (by omega)
  have hfirst : (hangulLetters n).any (Nat.ble 0x80) = true := by
    rw [List.any_eq_true]
    refine ⟨0x1100 + (n - 0xAC00) / 588, ?_, ?_⟩
    · simp [hangulLetters]
    · rw [Nat.ble_eq]
      omega
  rw [settles, hfirst, Bool.true_or, Bool.and_true, List.all_eq_true]
  exact hall

/-- The code points that a character decomposes to, by the table that has them. -/
inductive Images (c : Char) : List Nat → Prop
  | syllable (low : 0xAC00 ≤ c.toNat) (high : c.toNat < 0xD7A4) : Images c (hangulLetters c.toNat)
  | shift (s : Shift) (listed : s ∈ compatShifts) (first : s.first ≤ c.toNat)
      (last : c.toNat ≤ s.last) : Images c [((c.toNat : Int) + s.distance).toNat]
  | single (m : Nat) (listed : runImage? compatSingles c = some m) : Images c [m]
  | sequence (images : List Nat) (listed : runImage? compatSequences c = some images) :
    Images c images

/-- A character decomposes to itself, or to its images. -/
theorem decompose_images (c : Char) : decompose c = [c] ∨
    ∃ images, Images c images ∧ decompose c = images.map Char.ofNat := by
  unfold decompose
  simp only
  split
  · exact Or.inl rfl
  · split
    · rename_i hc
      exact Or.inr ⟨_, .syllable hc.1 hc.2, rfl⟩
    · cases hshift : shiftOf? compatShifts c with
      | some d =>
        obtain ⟨s, hs, hfirst, hlast, -, rfl⟩ := mem_shift_images hshift
        exact Or.inr ⟨_, .shift s hs hfirst hlast, rfl⟩
      | none =>
        cases hsingle : runImage? compatSingles c with
        | some m => exact Or.inr ⟨_, .single m hsingle, rfl⟩
        | none =>
          cases hsequence : runImage? compatSequences c with
          | some images => exact Or.inr ⟨_, .sequence images hsequence, rfl⟩
          | none => exact Or.inl rfl

theorem settles_of_images {c : Char} {images : List Nat} (h : Images c images) :
    settles c.toNat images = true := by
  cases h with
  | syllable low high => exact hangulLetters_settle low high
  | shift s hs hfirst hlast =>
    obtain ⟨hwithin, hpos, hvalid, hform⟩ := compatShifts_settle s hs
    simp only [within, List.any_eq_true, Bool.and_eq_true, Nat.ble_eq] at hwithin
    obtain ⟨i, hi, hlow, hhigh⟩ := hwithin
    have hsettled : isSettled ((c.toNat : Int) + s.distance).toNat = true :=
      isSettled_of_mem hi (by omega) (by omega) (by omega)
    rw [settles, List.all_cons, List.all_nil, hsettled, Bool.and_true, Bool.true_and,
      List.any_cons, List.any_nil, Bool.or_false, Bool.or_eq_true, Nat.ble_eq]
    refine hform.symm.imp (fun habove => by omega) fun hforms => ?_
    simp only [within, List.any_eq_true, Bool.and_eq_true, Nat.ble_eq] at hforms ⊢
    obtain ⟨j, hj, hlow', hhigh'⟩ := hforms
    exact ⟨j, hj, Nat.le_trans hlow' hfirst, Nat.le_trans hlast hhigh'⟩
  | single m hsingle =>
    have hpasses := run_passes compatSingles_settle hsingle
    exact hpasses
  | sequence images hsequence => exact run_passes compatSequences_settle hsequence

/-- A character decomposes to itself, or to settled ones. -/
theorem decompose_cases (c : Char) : decompose c = [c] ∨
    ∃ images, decompose c = images.map Char.ofNat ∧ settles c.toNat images = true :=
  (decompose_images c).imp_right fun ⟨images, himages, heq⟩ =>
    ⟨images, heq, settles_of_images himages⟩

theorem covers_of_ascii {c : Char} (h : IsAscii (decompose c)) :
    c.toNat < 0x80 ∨ covers asciiForms c = true := by
  rcases decompose_cases c with heq | ⟨images, heq, hsettles⟩
  · rw [heq] at h
    exact Or.inl (h c (List.mem_singleton_self c))
  · rw [heq] at h
    rw [settles, Bool.and_eq_true, List.all_eq_true, Bool.or_eq_true] at hsettles
    obtain ⟨hsettled, habove | hforms⟩ := hsettles
    · obtain ⟨m, hm, hle⟩ := List.any_eq_true.mp habove
      have hlt := h (Char.ofNat m) (List.mem_map_of_mem hm)
      rw [(not_covers_of_settled (hsettled m hm)).1] at hlt
      rw [Nat.ble_eq] at hle
      omega
    · exact Or.inr (covers_of_within hforms (Nat.le_refl _) (Nat.le_refl _))

theorem stable_of_not_covers {c : Char} (h : covers asciiForms c = false) : Stable c := by
  intro hascii
  rcases covers_of_ascii hascii with hc | hc
  · exact hc
  · rw [h] at hc
    cases hc

/-- **Decomposing leaves nothing to decompose** into ASCII. -/
theorem stable_of_mem_decompose {c d : Char} (h : d ∈ decompose c) : Stable d := by
  rcases decompose_cases c with heq | ⟨images, heq, hsettles⟩
  · rw [heq, List.mem_singleton] at h
    rw [h]
    intro hascii
    rw [heq] at hascii
    exact hascii c (List.mem_singleton_self c)
  · rw [heq] at h
    obtain ⟨m, hm, rfl⟩ := List.mem_map.mp h
    rw [settles, Bool.and_eq_true, List.all_eq_true] at hsettles
    exact stable_of_not_covers (not_covers_of_settled (hsettles.1 m hm)).2

/-! ## Order and composition -/

theorem mem_insertMark {c d : Char} {ds : List Char} : d ∈ insertMark c ds ↔ d = c ∨ d ∈ ds := by
  induction ds with
  | nil => simp [insertMark]
  | cons e es ih =>
    rw [insertMark]
    split
    · rw [List.mem_cons, ih, List.mem_cons]
      exact or_left_comm
    · rw [List.mem_cons]

theorem mem_orderMarks {d : Char} {cs : List Char} : d ∈ orderMarks cs ↔ d ∈ cs := by
  induction cs with
  | nil => rfl
  | cons c cs ih =>
    have hcons : orderMarks (c :: cs) = insertMark c (orderMarks cs) := rfl
    rw [hcons, mem_insertMark, ih, List.mem_cons]

/-- Two characters compose by arithmetic or by the table. -/
theorem composePair?_cases {a b d : Char} (h : composePair? a b = some d) : ∃ n, d = Char.ofNat n ∧
    (hangulPair? a.toNat b.toNat = some n ∨
      ∃ firsts, (b.toNat, firsts) ∈ compositions ∧ (a.toNat, n) ∈ firsts) := by
  unfold composePair? at h
  cases hpair : hangulPair? a.toNat b.toNat with
  | some n =>
    rw [hpair] at h
    exact ⟨n, (Option.some.inj h).symm, Or.inl rfl⟩
  | none =>
    rw [hpair] at h
    obtain ⟨n, hn, rfl⟩ := Option.map_eq_some_iff.mp h
    obtain ⟨firsts, hfirsts, hn⟩ := Option.bind_eq_some_iff.mp hn
    obtain ⟨before, after, hsplit, -⟩ := List.lookup_eq_some_iff.mp hfirsts
    obtain ⟨before', after', hsplit', -⟩ := List.lookup_eq_some_iff.mp hn
    refine ⟨n, rfl, Or.inr ⟨firsts, ?_, ?_⟩⟩
    · rw [hsplit]
      exact List.mem_append_right _ List.mem_cons_self
    · rw [hsplit']
      exact List.mem_append_right _ List.mem_cons_self

theorem syllable_of_hangulPair {a b n : Nat} (h : hangulPair? a b = some n) :
    0xAC00 ≤ n ∧ n < 0xD7A4 := by
  unfold hangulPair? at h
  split at h
  · rw [Option.some.injEq] at h
    omega
  · split at h
    · rw [Option.some.injEq] at h
      omega
    · cases h

/-- A composite is no ASCII character, and is settled; it comes by arithmetic or by the table. -/
theorem composite_settled {a b d : Char} (h : composePair? a b = some d) :
    isSettled d.toNat = true ∧ 0x80 ≤ d.toNat ∧
      (hangulPair? a.toNat b.toNat = some d.toNat ∨
        ∃ firsts, (b.toNat, firsts) ∈ compositions ∧ (a.toNat, d.toNat) ∈ firsts) := by
  obtain ⟨n, rfl, hcases⟩ := composePair?_cases h
  have hsettled : isSettled n = true ∧ 0x80 ≤ n := by
    rcases hcases with hpair | ⟨firsts, hfirsts, hn⟩
    · obtain ⟨hlow, hhigh⟩ := syllable_of_hangulPair hpair
      have hmem : (0xA7F5, 0xFAFF) ∈ settledIntervals := by decide
      refine ⟨isSettled_of_mem hmem ?_ ?_ (Or.inl ?_), ?_⟩ <;> omega
    · have hvalue := List.all_eq_true.mp (List.all_eq_true.mp compositions_settle _ hfirsts) _ hn
      rwa [Bool.and_eq_true, Nat.ble_eq] at hvalue
  rw [(not_covers_of_settled hsettled.1).1]
  exact ⟨hsettled.1, hsettled.2, hcases⟩

section

variable {p : Char → Prop} (hp : ∀ a b d, composePair? a b = some d → p d)
include hp

theorem forall_composeFrom {base : Char} {marks cs : List Char} (hbase : p base)
    (hmarks : ∀ c ∈ marks, p c) (hcs : ∀ c ∈ cs, p c) : ∀ c ∈ composeFrom base marks cs, p c := by
  induction cs generalizing base marks with
  | nil =>
    intro c hc
    rw [composeFrom, List.mem_cons, List.mem_reverse] at hc
    rcases hc with rfl | hc
    · exact hbase
    · exact hmarks c hc
  | cons d ds ih =>
    have hd := hcs d List.mem_cons_self
    have hds : ∀ c ∈ ds, p c := fun c hc => hcs c (List.mem_cons_of_mem d hc)
    rw [composeFrom.eq_def]
    simp only
    split
    · rename_i e he
      exact ih (hp base d e (Option.ite_none_right_eq_some.mp he).2) hmarks hds
    · split
      · intro c hc
        rw [List.cons_append, List.mem_cons, List.mem_append, List.mem_reverse] at hc
        rcases hc with rfl | hc | hc
        · exact hbase
        · exact hmarks c hc
        · exact ih hd (by simp) hds c hc
      · exact ih hbase (List.forall_mem_cons.mpr ⟨hd, hmarks⟩) hds

/-- What all composites have, composing keeps. -/
theorem forall_compose {cs : List Char} (hcs : ∀ c ∈ cs, p c) : ∀ c ∈ compose cs, p c := by
  induction cs with
  | nil => simp [compose]
  | cons d ds ih =>
    have hd := hcs d List.mem_cons_self
    have hds : ∀ c ∈ ds, p c := fun c hc => hcs c (List.mem_cons_of_mem d hc)
    by_cases hmark : combiningClass d = 0
    · rw [compose_cons_base hmark]
      exact forall_composeFrom hp hd (by simp) hds
    · rw [compose_cons_mark hmark]
      exact List.forall_mem_cons.mpr ⟨hd, ih hds⟩

end

theorem ascii_of_composeFrom {base : Char} {marks cs : List Char}
    (h : IsAscii (composeFrom base marks cs)) : IsAscii (base :: marks ++ cs) := by
  induction cs generalizing base marks with
  | nil =>
    rw [composeFrom] at h
    intro c hc
    refine h c ?_
    simpa using hc
  | cons d ds ih =>
    rw [composeFrom.eq_def] at h
    simp only at h
    split at h
    · rename_i e he
      have hpair := (Option.ite_none_right_eq_some.mp he).2
      have habove := (composite_settled hpair).2.1
      have hlt := ih h e List.mem_cons_self
      omega
    · split at h
      · have hds := ih fun c hc => h c (List.mem_append_right _ hc)
        intro c hc
        simp only [List.cons_append, List.mem_cons, List.mem_append] at hc
        rcases hc with rfl | hc | rfl | hc
        · exact h c (by simp)
        · exact h c (by simp [hc])
        · exact hds c (by simp)
        · exact hds c (by simp [hc])
      · intro c hc
        refine ih h c ?_
        simp only [List.cons_append, List.mem_cons, List.mem_append] at hc ⊢
        rcases hc with rfl | hc | rfl | hc
        · exact Or.inl rfl
        · exact Or.inr (Or.inr (Or.inl hc))
        · exact Or.inr (Or.inl rfl)
        · exact Or.inr (Or.inr (Or.inr hc))

/-- Only ASCII composes to ASCII. -/
theorem ascii_of_compose {cs : List Char} (h : IsAscii (compose cs)) : IsAscii cs := by
  induction cs with
  | nil => exact h
  | cons d ds ih =>
    by_cases hmark : combiningClass d = 0
    · rw [compose_cons_base hmark] at h
      exact ascii_of_composeFrom h
    · rw [compose_cons_mark hmark] at h
      intro c hc
      rcases List.mem_cons.mp hc with rfl | hc
      · exact h c List.mem_cons_self
      · exact ih (fun e he => h e (List.mem_cons_of_mem d he)) c hc

/-! ## Texts -/

/-- **Composition leaves stable characters.** -/
theorem stable_of_mem_compatChars {cs : List Char} {d : Char} (h : d ∈ compatChars cs) :
    Stable d := by
  rw [compatChars_eq] at h
  refine forall_compose (fun a b d hpair => ?_) (fun c hc => ?_) d h
  · have hsettled := not_covers_of_settled (composite_settled hpair).1
    rw [Char.ofNat_toNat] at hsettled
    exact stable_of_not_covers hsettled.2
  · rw [mem_orderMarks, List.mem_flatMap] at hc
    obtain ⟨b, -, hc⟩ := hc
    exact stable_of_mem_decompose hc

/-- **A stable text that composes to an ASCII text is that text.** -/
theorem eq_of_compat {s w : String} (hs : ∀ c ∈ s.toList, Stable c) (hw : IsAscii w.toList)
    (h : compat s = w) : s = w := by
  have hchars : compatChars s.toList = w.toList := by
    rw [← h, compat, String.toList_ofList]
  have hascii : IsAscii s.toList := by
    rw [← hchars] at hw
    rw [compatChars_eq] at hw
    intro c hc
    refine hs c hc fun d hd => ascii_of_compose hw d ?_
    rw [mem_orderMarks, List.mem_flatMap]
    exact ⟨c, hc, hd⟩
  rw [← h, compat_ascii hascii]

/-! ## Upper case -/

/-- A stride of the upper-case table stays outside `asciiForms`, unless its characters decompose
into ASCII already. -/
theorem upperShifts_settle : ∀ s ∈ upperShifts,
    apart asciiForms ((s.first : Int) + s.distance).toNat ((s.last : Int) + s.distance).toNat =
        true ∨
      ∀ n ∈ List.range' s.first (s.last - s.first + 1), (n - s.first) % s.step = 0 →
        apart asciiForms ((n : Int) + s.distance).toNat ((n : Int) + s.distance).toNat = true ∨
          0x80 ≤ n ∧ (decompose (Char.ofNat n)).all (·.toNat < 0x80) = true := by
  decide +kernel

theorem upperExpansions_settle : ∀ e ∈ upperExpansions, ∀ n ∈ e.2,
    apart asciiForms n n = true := by
  decide +kernel

theorem not_covers_ofNat {first last n : Nat} (h : apart asciiForms first last = true)
    (hfirst : first ≤ n) (hlast : n ≤ last) : covers asciiForms (Char.ofNat n) = false := by
  by_cases hvalid : n.isValidChar
  · have hn := toNat_ofNat_of_valid hvalid
    refine not_covers_of_apart h ?_ ?_
    · rw [hn]
      exact hfirst
    · rw [hn]
      exact hlast
  · have hzero : Char.ofNat n = Char.ofNat 0 := by
      unfold Char.ofNat
      rw [dif_neg hvalid]
      rfl
    rw [hzero]
    decide

/-- **Upper case leaves stable characters.** -/
theorem stable_of_mem_upperChar {c d : Char} (hc : Stable c) (hd : d ∈ upperChar c) : Stable d := by
  unfold upperChar at hd
  split at hd
  · rename_i hascii
    rw [List.mem_singleton] at hd
    have hupper : c.toUpper.toNat < 128 := forall_ascii hascii (by decide)
    rw [hd]
    exact stable_of_ascii hupper
  · cases hl : upperExpansions.lookup c.toNat with
    | some ns =>
      rw [hl] at hd
      obtain ⟨before, after, hsplit, -⟩ := List.lookup_eq_some_iff.mp hl
      obtain ⟨n, hn, rfl⟩ := List.mem_map.mp hd
      have hmem : (c.toNat, ns) ∈ upperExpansions := by
        rw [hsplit]
        exact List.mem_append_right _ List.mem_cons_self
      exact stable_of_not_covers (not_covers_ofNat (upperExpansions_settle _ hmem n hn)
        (Nat.le_refl n) (Nat.le_refl n))
    | none =>
      rw [hl, List.mem_singleton] at hd
      cases hs : shiftOf? upperShifts c with
      | none =>
        rw [hs] at hd
        rw [hd]
        exact hc
      | some e =>
        rw [hs] at hd
        obtain ⟨s, hmem, hfirst, hlast, hstep, rfl⟩ := mem_shift_images hs
        rw [hd]
        rcases upperShifts_settle s hmem with hapart | hevery
        · exact stable_of_not_covers (not_covers_ofNat hapart (by omega) (by omega))
        · have hrange : c.toNat ∈ List.range' s.first (s.last - s.first + 1) := by
            rw [List.mem_range'_1]
            omega
          rcases hevery c.toNat hrange hstep with hapart | ⟨habove, hforms⟩
          · exact stable_of_not_covers
              (not_covers_ofNat hapart (Nat.le_refl _) (Nat.le_refl _))
          · rw [Char.ofNat_toNat, List.all_eq_true] at hforms
            have hlt := hc fun b hb => of_decide_eq_true (hforms b hb)
            omega

end SchemaModels.Text
