import SchemaModels.Proofs.Text.Order
import SchemaModels.Proofs.Text.Stable

/-!
# Decomposition ends with the first step

A character is `Simple` if it decomposes to itself. Whatever characters decompose into is simple
(`simple_of_mem_decompose`). Composing begins with simple characters and goes on with composites:
`Base` has the characters that it comes to, and what such a character and a second one compose to
decomposes into what the first does, and the second (`decompose_composite`). So decomposing takes a
text composed from simple characters apart into these.
-/

namespace SchemaModels.Text

/-- The character decomposes to itself. -/
def Simple (c : Char) : Prop := decompose c = [c]

/-! ## Tables -/

/-- Characters between which none decomposes, and which hold all that others decompose into; the
intervals with most of these come first. -/
def simpleIntervals : List Interval :=
  [(0x0, 0x9F), (0x627, 0x674), (0x349E, 0x9FA0), (0x300, 0x338), (0x1100, 0x1B05), (0x3B1, 0x3C9),
   (0x391, 0x3A9), (0x30DE, 0x30F3), (0x20122, 0x2A600), (0x3099, 0x309A), (0x679, 0x6BE),
   (0x5B4, 0x621), (0x237, 0x2AB), (0x345, 0x345), (0x30A1, 0x30AB), (0x3001, 0x3017),
   (0x342, 0x342), (0x6C5, 0x6D2), (0x30FB, 0x30FD), (0x30CA, 0x30CF), (0x1D165, 0x1D1BA),
   (0x30C8, 0x30C8), (0x41A, 0x438), (0x2044, 0x2044), (0x30AF, 0x30AF), (0xFB2, 0xFB7),
   (0x30C3, 0x30C4), (0x410, 0x418), (0x43A, 0x44D), (0x565, 0x582), (0x6D5, 0x928),
   (0x1B35, 0x1B3A), (0x30D8, 0x30D8), (0x93C, 0x93C), (0x2211, 0x2223), (0x30AD, 0x30AD),
   (0x30DB, 0x30DB), (0x30D2, 0x30D2), (0x30D5, 0x30D5), (0x9A1, 0x9C7), (0xCD5, 0xD47),
   (0xD57, 0xDD9), (0x2032, 0x2032), (0x21D0, 0x2203), (0x222B, 0x222B), (0x30B3, 0x30B3),
   (0x30B9, 0x30B9), (0xB21, 0xB47), (0x30B7, 0x30B7), (0xA38, 0xA3C), (0x2190, 0x2194),
   (0x30BB, 0x30BB), (0x30BF, 0x30BF), (0x1D157, 0x1D158), (0xCC2, 0xCC6), (0xE4D, 0xEB2),
   (0xF71, 0xF72), (0x1D02, 0x1D25), (0x2207, 0x2208), (0x2291, 0x22AB), (0x30B5, 0x30B5),
   (0x30C1, 0x30C1), (0x11357, 0x114BA), (0x1DF04, 0x1DF1E), (0x2B9, 0x2D1), (0x6C1, 0x6C1),
   (0xA16, 0xA32), (0xBBE, 0xBC7), (0xF80, 0xF80), (0x2035, 0x2035), (0x222E, 0x222E),
   (0x2502, 0x2986), (0x30B1, 0x30B1), (0x30C6, 0x30C6), (0x110BA, 0x11127), (0x11131, 0x11347),
   (0xA2, 0xA6), (0x1B7, 0x1C2), (0x227A, 0x227D), (0x22B2, 0x22B5), (0x30BD, 0x30BD),
   (0x115AF, 0x115B9), (0xB7, 0xB7), (0xC6, 0xC6), (0xE6, 0xE6), (0x126, 0x127), (0x92B, 0x930),
   (0xBD7, 0xC46), (0x1D7B, 0x1D91), (0x2013, 0x2014), (0x3046, 0x304B), (0x307B, 0x307B),
   (0xB0, 0xB0), (0xF8, 0xF8), (0x18E, 0x190), (0x3DC, 0x3DD), (0x474, 0x475), (0x4D8, 0x4D9),
   (0x4E8, 0x4E9), (0xB56, 0xB57), (0xC56, 0xCBF), (0xDDF, 0xE32), (0xF40, 0xF42), (0xF90, 0xF92),
   (0x102E, 0x10DC), (0x1B3E, 0x1B3F), (0x2264, 0x2265), (0x2272, 0x2273), (0x2276, 0x2277),
   (0x2282, 0x2283), (0x2286, 0x2287), (0x2ADD, 0x2C71), (0x306F, 0x306F), (0x3072, 0x3072),
   (0x3075, 0x3075), (0x3078, 0x3078), (0x3088, 0x308A), (0xA727, 0xA76F), (0xAB37, 0xAB52),
   (0xAB66, 0xAB67), (0x11930, 0x11935), (0xAC, 0xAC), (0xD8, 0xD8), (0xF0, 0xF0), (0x131, 0x131),
   (0x14B, 0x14B), (0x153, 0x153), (0x1AB, 0x1AB), (0x222, 0x222), (0x406, 0x406), (0x456, 0x456),
   (0x933, 0x933), (0x9D7, 0x9D7), (0xB92, 0xB92), (0xECD, 0xECD), (0xF0B, 0xF0B), (0xF4C, 0xF4C),
   (0xF51, 0xF51), (0xF56, 0xF56), (0xF5B, 0xF5B), (0xF74, 0xF74), (0xF9C, 0xF9C), (0xFA1, 0xFA1),
   (0xFA6, 0xFA6), (0xFAB, 0xFAB), (0x1025, 0x1025), (0x1B07, 0x1B07), (0x1B09, 0x1B09),
   (0x1B0B, 0x1B0B), (0x1B0D, 0x1B0D), (0x1B11, 0x1B11), (0x1B3C, 0x1B3C), (0x1B42, 0x1B42),
   (0x2010, 0x2010), (0x20A9, 0x20A9), (0x220B, 0x220B), (0x2225, 0x2225), (0x223C, 0x223C),
   (0x2243, 0x2243), (0x2245, 0x2245), (0x2248, 0x2248), (0x224D, 0x224D), (0x2261, 0x2261),
   (0x2D61, 0x2D61), (0x304D, 0x304D), (0x304F, 0x304F), (0x3051, 0x3051), (0x3053, 0x3053),
   (0x3055, 0x3055), (0x3057, 0x3057), (0x3059, 0x3059), (0x305B, 0x305B), (0x305D, 0x305D),
   (0x305F, 0x305F), (0x3061, 0x3061), (0x3064, 0x3064), (0x3066, 0x3066), (0x3068, 0x3068),
   (0x309D, 0x309D), (0xA78E, 0xA78E), (0x11099, 0x11099), (0x1109B, 0x1109B), (0x110A5, 0x110A5),
   (0x114BD, 0x114BD)]

/-- Characters between which no table has an image of one character; they hold all composites but
Hangul syllables. -/
def compositeIntervals : List Interval :=
  [(0xC0, 0x17E), (0x1A0, 0x233), (0x385, 0x386), (0x388, 0x3CE), (0x3D3, 0x3D4), (0x400, 0xDDE),
   (0x1026, 0x1026), (0x1B06, 0x1B43), (0x1E00, 0x1FBC), (0x1FC1, 0x1FED), (0x1FF2, 0x1FFC),
   (0x219A, 0x22ED), (0x304C, 0x30FE), (0x1109A, 0x11938)]

/-- The code point is that of a character in `simpleIntervals`. -/
def isSimple (n : Nat) : Bool := within simpleIntervals n n

/-- No run of the table has a character of the interval. -/
def misses {α : Type} (table : List (Nat × List α)) (i : Interval) : Bool :=
  table.all fun r => i.2.blt r.1 || Nat.ble (r.1 + r.2.length) i.1

/-- No shift has a character of the interval. -/
def unshifted (i : Interval) : Bool :=
  compatShifts.all fun s => i.2.blt s.first || s.last.blt i.1

/-- The images of a code point in a table of runs that are in order. -/
def imagesIn (n : Nat) : List (Nat × List (List Nat)) → Option (List Nat)
  | [] => none
  | r :: rest =>
    bif n.blt r.1 then none
    else bif n.blt (r.1 + r.2.length) then r.2[n - r.1]?
    else imagesIn n rest

/-- No table begins at the code point or before it. -/
def areLater (n : Nat) : List (List (Nat × List (List Nat))) → Bool
  | (r :: _) :: _ => n.blt r.1
  | _ => true

/-- The images of a code point in tables one after the other; all but the one that can have them are
passed over. -/
def imagesAmong (n : Nat) : List (List (Nat × List (List Nat))) → Option (List Nat)
  | [] => none
  | table :: rest => bif areLater n rest then imagesIn n table else imagesAmong n rest

/-- The images of a code point that decomposes to several. -/
def sequence? (n : Nat) : Option (List Nat) :=
  imagesAmong n [compatSequences1, compatSequences2, compatSequences3, compatSequences4,
    compatSequences5, compatSequences6, compatSequences7, compatSequences8]

/-- The second row is the first with a number at its end. -/
def extendsBy : List Nat → List Nat → Nat → Bool
  | [], [x], b => x.beq b
  | m :: ms, n :: ns, b => m.beq n && extendsBy ms ns b
  | _, _, _ => false

/-- First parts of composites that decompose, and are no composites themselves. -/
def compatFirsts : List Nat := [0xA8, 0x17F, 0x3D2, 0x1FBF, 0x1FFE]

/-- The images of the composite are those of its first part, with the second part at their end. -/
def splits (first second composite : Nat) : Bool :=
  within compositeIntervals composite composite &&
    match sequence? composite with
    | none => false
    | some images =>
      compatFirsts.any first.beq ||
        match sequence? first with
        | some front => within compositeIntervals first first && extendsBy front images second
        | none => (first.blt 0xAC00 || Nat.blt 0xD7A3 first) && extendsBy [first] images second

/-- The simple intervals hold no character of a table, and all images of the two tables of runs. -/
theorem simpleIntervals_close :
    (simpleIntervals.all fun i => (i.2.blt 0xAC00 || Nat.blt 0xD7A3 i.1) && unshifted i &&
      misses compatSingles i && misses compatSequences i) = true ∧
      everyRun (fun _ m => isSimple m) compatSingles = true ∧
        everyRun (fun _ images => images.all isSimple) compatSequences = true := by
  decide +kernel

theorem shifts_simple : ∀ s ∈ compatShifts, within simpleIntervals
    ((s.first : Int) + s.distance).toNat ((s.last : Int) + s.distance).toNat = true := by
  decide

/-- Every composite decomposes into its parts, by the table of rows of images alone. -/
theorem compositions_split :
    (compositions.all fun e => e.2.all fun p => splits p.1 e.1 p.2) = true ∧
      (compositeIntervals.all fun i => (i.2.blt 0xAC00 || Nat.blt 0xD7A3 i.1) && unshifted i &&
        misses compatSingles i) = true := by
  decide +kernel

theorem compatSequences_ascend :
    compatSequences.IsChain fun r s => r.1 + r.2.length ≤ s.1 := by
  decide +kernel

/-! ## Characters that decompose to themselves -/

variable {a b c d e : Char}

theorem exists_interval {table : List Interval} {n : Nat} (h : within table n n = true) :
    ∃ i ∈ table, i.1 ≤ n ∧ n ≤ i.2 := by
  simpa only [within, List.any_eq_true, Bool.and_eq_true, Nat.ble_eq] using h

/-- No run of the table has the character if none has one of its interval. -/
theorem runImage?_of_misses {α : Type} {table : List (Nat × List α)} {i : Interval}
    (h : misses table i = true) (hlow : i.1 ≤ c.toNat) (hhigh : c.toNat ≤ i.2) :
    runImage? table c = none := by
  have hfind : table.find? (fun r => r.1 ≤ c.toNat && c.toNat < r.1 + r.2.length) = none := by
    rw [List.find?_eq_none]
    intro r hr hwithin
    simp only [Bool.and_eq_true, decide_eq_true_eq] at hwithin
    have hmisses := List.all_eq_true.mp h r hr
    rw [Bool.or_eq_true, Nat.blt_eq, Nat.ble_eq] at hmisses
    omega
  rw [runImage?, hfind]
  rfl

theorem not_shift_of_unshifted {i : Interval} {s : Shift} (h : unshifted i = true)
    (hs : s ∈ compatShifts) (hlow : i.1 ≤ c.toNat) (hhigh : c.toNat ≤ i.2) :
    ¬ (s.first ≤ c.toNat ∧ c.toNat ≤ s.last) := by
  have hmisses := List.all_eq_true.mp h s hs
  rw [Bool.or_eq_true, Nat.blt_eq, Nat.blt_eq] at hmisses
  omega

theorem simple_of_isSimple (h : isSimple c.toNat = true) : Simple c := by
  obtain ⟨i, hi, hlow, hhigh⟩ := exists_interval h
  have hclose := List.all_eq_true.mp simpleIntervals_close.1 i hi
  simp only [Bool.and_eq_true, Bool.or_eq_true, Nat.blt_eq] at hclose
  obtain ⟨⟨⟨hsyllable, hshift⟩, hsingle⟩, hsequence⟩ := hclose
  refine (decompose_images c).resolve_right ?_
  rintro ⟨images, himages, -⟩
  cases himages with
  | syllable low high => omega
  | shift s listed first last => exact not_shift_of_unshifted hshift listed hlow hhigh ⟨first, last⟩
  | single m listed =>
    rw [runImage?_of_misses hsingle hlow hhigh] at listed
    cases listed
  | sequence _ listed =>
    rw [runImage?_of_misses hsequence hlow hhigh] at listed
    cases listed

theorem isSimple_of_within {first last n : Nat} (h : within simpleIntervals first last = true)
    (hfirst : first ≤ n) (hlast : n ≤ last) : isSimple n = true := by
  simp only [isSimple, within, List.any_eq_true, Bool.and_eq_true, Nat.ble_eq] at h ⊢
  obtain ⟨i, hi, hlow, hhigh⟩ := h
  exact ⟨i, hi, Nat.le_trans hlow hfirst, Nat.le_trans hlast hhigh⟩

theorem isSimple_of_images {images : List Nat} (h : Images c images) :
    ∀ m ∈ images, isSimple m = true := by
  cases h with
  | syllable low high =>
    have hletters : within simpleIntervals 0x1100 0x11FF = true := by decide
    intro m hm
    refine isSimple_of_within hletters ?_ ?_
    all_goals
      simp only [hangulLetters, List.mem_append, List.mem_cons, List.not_mem_nil, or_false] at hm
      rcases hm with (hm | hm) | hm
      · omega
      · omega
      · split at hm
        · cases hm
        · rw [List.mem_singleton] at hm
          omega
  | shift s listed first last =>
    refine List.forall_mem_singleton.mpr (isSimple_of_within (shifts_simple s listed) ?_ ?_)
    · omega
    · omega
  | single m listed =>
    exact List.forall_mem_singleton.mpr (run_passes simpleIntervals_close.2.1 listed)
  | sequence _ listed =>
    exact List.all_eq_true.mp (run_passes simpleIntervals_close.2.2 listed)

/-- **What a character decomposes into is simple.** -/
theorem simple_of_mem_decompose (h : d ∈ decompose c) : Simple d := by
  rcases decompose_images c with heq | ⟨images, himages, heq⟩
  · rw [heq, List.mem_singleton] at h
    rw [h]
    exact heq
  · rw [heq] at h
    obtain ⟨m, hm, rfl⟩ := List.mem_map.mp h
    have hsettles := settles_of_images himages
    rw [settles, Bool.and_eq_true, List.all_eq_true] at hsettles
    refine simple_of_isSimple ?_
    rw [(not_covers_of_settled (hsettles.1 m hm)).1]
    exact isSimple_of_images himages m hm

theorem flatMap_decompose_simple {cs : List Char} (h : ∀ c ∈ cs, Simple c) :
    cs.flatMap decompose = cs := by
  induction cs with
  | nil => rfl
  | cons c cs ih =>
    obtain ⟨hc, hcs⟩ := List.forall_mem_cons.mp h
    rw [List.flatMap_cons, hc, ih hcs]
    rfl

/-! ## Composites -/

theorem mem_of_imagesIn {n : Nat} {images : List Nat} {table : List (Nat × List (List Nat))}
    (h : imagesIn n table = some images) :
    ∃ r ∈ table, r.1 ≤ n ∧ n < r.1 + r.2.length ∧ r.2[n - r.1]? = some images := by
  induction table with
  | nil => cases h
  | cons r rest ih =>
    rw [imagesIn, cond_eq_ite, cond_eq_ite] at h
    split at h
    · cases h
    · rename_i hfirst
      rw [Nat.blt_eq, Nat.not_lt] at hfirst
      split at h
      · rename_i hlast
        rw [Nat.blt_eq] at hlast
        exact ⟨r, List.mem_cons_self, hfirst, hlast, h⟩
      · obtain ⟨r', hr', himages⟩ := ih h
        exact ⟨r', List.mem_cons_of_mem r hr', himages⟩

theorem mem_of_imagesAmong {n : Nat} {images : List Nat}
    {tables : List (List (Nat × List (List Nat)))} (h : imagesAmong n tables = some images) :
    ∃ table ∈ tables, imagesIn n table = some images := by
  induction tables with
  | nil => cases h
  | cons table rest ih =>
    rw [imagesAmong, cond_eq_ite] at h
    split at h
    · exact ⟨table, List.mem_cons_self, h⟩
    · obtain ⟨table', htable', himages⟩ := ih h
      exact ⟨table', List.mem_cons_of_mem table htable', himages⟩

/-- In a table of runs one after the other, the run that has a character is the one found. -/
theorem runImage?_of_mem {α : Type} {table : List (Nat × List α)} {r : Nat × List α}
    (htable : table.Pairwise fun r s => r.1 + r.2.length ≤ s.1) (hr : r ∈ table)
    (hfirst : r.1 ≤ c.toNat) (hlast : c.toNat < r.1 + r.2.length) :
    runImage? table c = r.2[c.toNat - r.1]? := by
  have hfind : table.find? (fun r => r.1 ≤ c.toNat && c.toNat < r.1 + r.2.length) = some r := by
    induction table with
    | nil => cases hr
    | cons s rest ih =>
      obtain ⟨hs, hrest⟩ := List.pairwise_cons.mp htable
      rcases List.mem_cons.mp hr with rfl | hr
      · rw [List.find?_cons_of_pos]
        simp [hfirst, hlast]
      · have hbehind := hs r hr
        rw [List.find?_cons_of_neg]
        · exact ih hrest hr
        · simp only [Bool.and_eq_true, decide_eq_true_eq]
          omega
  rw [runImage?, hfind]
  rfl

theorem sequences_pairwise : compatSequences.Pairwise fun r s => r.1 + r.2.length ≤ s.1 := by
  have htrans : ∀ r s t : Nat × List (List Nat), r.1 + r.2.length ≤ s.1 → s.1 + s.2.length ≤ t.1 →
      r.1 + r.2.length ≤ t.1 := fun r s t hrs hst => by omega
  have : IsTrans (Nat × List (List Nat)) fun r s => r.1 + r.2.length ≤ s.1 := ⟨htrans⟩
  exact List.isChain_iff_pairwise.mp compatSequences_ascend

theorem runImage?_of_sequence {images : List Nat} (h : sequence? c.toNat = some images) :
    runImage? compatSequences c = some images := by
  obtain ⟨table, htable, himages⟩ := mem_of_imagesAmong h
  obtain ⟨r, hr, hfirst, hlast, hget⟩ := mem_of_imagesIn himages
  have hmem : r ∈ compatSequences := by
    simp only [List.mem_cons, List.not_mem_nil, or_false] at htable
    simp only [compatSequences, List.mem_append]
    rcases htable with rfl | rfl | rfl | rfl | rfl | rfl | rfl | rfl <;> simp [hr]
  rw [runImage?_of_mem sequences_pairwise hmem hfirst hlast, hget]

theorem extendsBy_iff {front whole : List Nat} {n : Nat} :
    extendsBy front whole n = true ↔ whole = front ++ [n] := by
  induction front generalizing whole with
  | nil =>
    match whole with
    | [] => simp [extendsBy]
    | [m] => simp [extendsBy]
    | m :: m' :: ms => simp [extendsBy]
  | cons k front ih =>
    cases whole with
    | nil => simp [extendsBy]
    | cons m ms =>
      rw [extendsBy, Bool.and_eq_true, ih, Nat.beq_eq, List.cons_append, List.cons.injEq]
      exact and_congr_left' eq_comm


/-- A character that texts composed from simple characters have: a simple one, a Hangul syllable, or
a composite. -/
inductive Base (c : Char) : Prop
  | simple (self : Simple c)
  | syllable (low : 0xAC00 ≤ c.toNat) (high : c.toNat < 0xD7A4)
  | composite (images : List Nat) (listed : sequence? c.toNat = some images)
      (inside : covers compositeIntervals c = true)

theorem compositeIntervals_above : ∀ i ∈ compositeIntervals, 0xA0 ≤ i.1 := by
  decide

theorem decompose_sequence {images : List Nat} (hsequence : sequence? c.toNat = some images)
    (hinside : covers compositeIntervals c = true) : decompose c = images.map Char.ofNat := by
  obtain ⟨i, hi, hlow, hhigh⟩ := covers_iff.mp hinside
  have habove := compositeIntervals_above i hi
  have hclose := List.all_eq_true.mp compositions_split.2 i hi
  simp only [Bool.and_eq_true, Bool.or_eq_true, Nat.blt_eq] at hclose
  obtain ⟨⟨hsyllable, hshift⟩, hsingle⟩ := hclose
  have hnone : shiftOf? compatShifts c = none := by
    cases hsome : shiftOf? compatShifts c with
    | none => rfl
    | some d =>
      obtain ⟨s, hs, hfirst, hlast, -⟩ := mem_shift_images hsome
      exact absurd ⟨hfirst, hlast⟩ (not_shift_of_unshifted hshift hs hlow hhigh)
  unfold decompose
  simp only
  rw [if_neg (by omega), if_neg (by omega), hnone, runImage?_of_misses hsingle hlow hhigh,
    runImage?_of_sequence hsequence]
  rfl

theorem decompose_syllable (hlow : 0xAC00 ≤ c.toNat) (hhigh : c.toNat < 0xD7A4) :
    decompose c = (hangulLetters c.toNat).map Char.ofNat := by
  unfold decompose
  simp only
  rw [if_neg (by omega), if_pos ⟨hlow, hhigh⟩]

theorem compatFirsts_decompose : ∀ n ∈ compatFirsts,
    decompose (Char.ofNat n) ≠ [Char.ofNat n] ∧ covers compositeIntervals (Char.ofNat n) = false ∧
      n < 0xAC00 := by
  decide +kernel

theorem not_base_of_compatFirst (h : c.toNat ∈ compatFirsts) : ¬ Base c := by
  obtain ⟨hself, hapart, hlow⟩ := compatFirsts_decompose c.toNat h
  rw [Char.ofNat_toNat] at hself hapart
  rintro (hsimple | ⟨hlow', -⟩ | ⟨images, -, hinside⟩)
  · exact hself hsimple
  · omega
  · rw [hapart] at hinside
    cases hinside

/-- A base that is neither a syllable nor among the composites is simple. -/
theorem Base.self (h : Base c) (hsyllable : c.toNat < 0xAC00 ∨ 0xD7A3 < c.toNat)
    (hsequence : sequence? c.toNat = none ∨ covers compositeIntervals c = false) :
    decompose c = [c] := by
  rcases h with hsimple | ⟨hlow, hhigh⟩ | ⟨images, hlisted, hinside⟩
  · exact hsimple
  · omega
  · rw [hlisted, hinside] at hsequence
    simp at hsequence

/-- The letters of a syllable are those that it was composed from. -/
theorem decompose_hangulPair (ha : Base a)
    (h : hangulPair? a.toNat b.toNat = some e.toNat) :
    decompose e = decompose a ++ [b] ∧ Base e := by
  have hrange : 0xAC00 ≤ e.toNat ∧ e.toNat < 0xD7A4 := syllable_of_hangulPair h
  refine ⟨?_, .syllable hrange.1 hrange.2⟩
  rw [decompose_syllable hrange.1 hrange.2]
  unfold hangulPair? at h
  split at h
  · rename_i hletters
    rw [Option.some.injEq] at h
    have hself : decompose a = [a] := by
      have hapart : apart compositeIntervals 0x1100 0x1112 = true := by decide
      refine ha.self (by omega) (Or.inr (not_covers_of_apart hapart ?_ ?_))
      · omega
      · omega
    have hlead : 0x1100 + (e.toNat - 0xAC00) / 588 = a.toNat := by omega
    have hvowel : 0x1161 + (e.toNat - 0xAC00) % 588 / 28 = b.toNat := by omega
    have htail : (e.toNat - 0xAC00) % 28 = 0 := by omega
    rw [hself, hangulLetters, hlead, hvowel, htail, if_pos rfl]
    simp [Char.ofNat_toNat]
  · split at h
    · rename_i hopen
      rw [Option.some.injEq] at h
      have hlead : (e.toNat - 0xAC00) / 588 = (a.toNat - 0xAC00) / 588 := by omega
      have hvowel : (e.toNat - 0xAC00) % 588 / 28 = (a.toNat - 0xAC00) % 588 / 28 := by omega
      have htail : 0x11A7 + (e.toNat - 0xAC00) % 28 = b.toNat := by omega
      rw [decompose_syllable (by omega) (by omega), hangulLetters, hangulLetters, hlead, hvowel,
        htail, if_neg (by omega), if_pos (by omega)]
      simp [Char.ofNat_toNat]
    · cases h

theorem splits_cases {first second composite : Nat} (h : splits first second composite = true) :
    within compositeIntervals composite composite = true ∧ ∃ images,
      sequence? composite = some images ∧ (first ∈ compatFirsts ∨
        (∃ front, sequence? first = some front ∧ within compositeIntervals first first = true ∧
          images = front ++ [second]) ∨
        sequence? first = none ∧ (first < 0xAC00 ∨ 0xD7A3 < first) ∧ images = [first, second]) := by
  rw [splits, Bool.and_eq_true] at h
  obtain ⟨hinside, h⟩ := h
  refine ⟨hinside, ?_⟩
  cases hcomposite : sequence? composite with
  | none =>
    rw [hcomposite] at h
    cases h
  | some images =>
    rw [hcomposite] at h
    refine ⟨images, rfl, ?_⟩
    rcases Bool.or_eq_true_iff.mp h with hfirst | h
    · obtain ⟨n, hn, heq⟩ := List.any_eq_true.mp hfirst
      rw [Nat.beq_eq] at heq
      exact Or.inl (heq ▸ hn)
    · right
      cases hfront : sequence? first with
      | some front =>
        rw [hfront] at h
        simp only [Bool.and_eq_true, extendsBy_iff] at h
        exact Or.inl ⟨front, rfl, h⟩
      | none =>
        rw [hfront] at h
        simp only [Bool.and_eq_true, Bool.or_eq_true, Nat.blt_eq, extendsBy_iff] at h
        exact Or.inr ⟨rfl, h⟩

/-- **A composite decomposes into what its parts do**, and can be a base itself. -/
theorem decompose_composite (ha : Base a) (h : composePair? a b = some e) :
    decompose e = decompose a ++ [b] ∧ Base e := by
  obtain ⟨-, -, hpair | ⟨firsts, hfirsts, he⟩⟩ := composite_settled h
  · exact decompose_hangulPair ha hpair
  · have hsplits := List.all_eq_true.mp (List.all_eq_true.mp compositions_split.1 _ hfirsts) _ he
    obtain ⟨hinside, images, hcomposite, hfirst⟩ := splits_cases hsplits
    have hcovers := covers_of_within hinside (Nat.le_refl _) (Nat.le_refl _)
    refine ⟨?_, .composite images hcomposite hcovers⟩
    rw [decompose_sequence hcomposite hcovers]
    rcases hfirst with hcompat | ⟨front, hfront, hwithin, rfl⟩ | ⟨hnone, hrange, rfl⟩
    · exact absurd ha (not_base_of_compatFirst hcompat)
    · have hfirst := covers_of_within hwithin (Nat.le_refl _) (Nat.le_refl _)
      rw [decompose_sequence hfront hfirst, List.map_append, List.map_singleton,
        Char.ofNat_toNat]
    · rw [ha.self hrange (Or.inl hnone), List.map_cons, List.map_singleton, Char.ofNat_toNat,
        Char.ofNat_toNat]
      rfl

end SchemaModels.Text
