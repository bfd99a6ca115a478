import SchemaModels.Proofs.Text.Case
import SchemaModels.Text.Identifier

/-!
# Identifiers and case

Among the ASCII characters, identifiers hold letters, digits and the underscore, and begin with no
digit (`ascii_of_part`, `ascii_of_start`). Upper case makes identifier characters of identifier
characters: `part_of_mem_upperChar` for all that a character becomes, `start_of_upperChar` for the
first of it.
-/

namespace SchemaModels.Text

theorem covers_iff {table : List Interval} {c : Char} :
    covers table c = true ↔ ∃ i ∈ table, i.1 ≤ c.toNat ∧ c.toNat ≤ i.2 := by
  simp [covers]

/-! ## ASCII -/

theorem letterIntervals_ascii :
    ∀ i ∈ letterIntervals, i = (0x41, 0x5A) ∨ i = (0x61, 0x7A) ∨ 0x80 ≤ i.1 := by
  decide +kernel

theorem markIntervals_ascii : ∀ i ∈ markIntervals, i = (0x30, 0x39) ∨ 0x80 ≤ i.1 := by
  decide +kernel

/-- An ASCII letter or an underscore. -/
def IsLetter (c : Char) : Prop :=
  (0x41 ≤ c.toNat ∧ c.toNat ≤ 0x5A) ∨ (0x61 ≤ c.toNat ∧ c.toNat ≤ 0x7A) ∨ c = '_'

/-- An ASCII letter, an underscore or an ASCII digit. -/
def IsWordly (c : Char) : Prop := IsLetter c ∨ (0x30 ≤ c.toNat ∧ c.toNat ≤ 0x39)

instance (c : Char) : Decidable (IsLetter c) := inferInstanceAs (Decidable (_ ∨ _ ∨ _))

instance (c : Char) : Decidable (IsWordly c) := inferInstanceAs (Decidable (_ ∨ _))

theorem lt_of_wordly {c : Char} (h : IsWordly c) : c.toNat < 128 := by
  rcases h with (h | h | rfl) | h
  · omega
  · omega
  · decide
  · omega

theorem ascii_of_start {c : Char} (h : isIdentifierStart c = true) :
    IsLetter c ∨ 0x80 ≤ c.toNat := by
  rw [isIdentifierStart, Bool.or_eq_true, beq_iff_eq, covers_iff] at h
  rcases h with h | ⟨i, hi, hlow, hhigh⟩
  · exact Or.inl (Or.inr (Or.inr h))
  · rcases letterIntervals_ascii i hi with rfl | rfl | habove
    · exact Or.inl (Or.inl ⟨hlow, hhigh⟩)
    · exact Or.inl (Or.inr (Or.inl ⟨hlow, hhigh⟩))
    · exact Or.inr (Nat.le_trans habove hlow)

theorem ascii_of_part {c : Char} (h : isIdentifierPart c = true) :
    IsWordly c ∨ 0x80 ≤ c.toNat := by
  rw [isIdentifierPart, Bool.or_eq_true, covers_iff] at h
  rcases h with h | ⟨i, hi, hlow, hhigh⟩
  · exact (ascii_of_start h).imp_left Or.inl
  · rcases markIntervals_ascii i hi with rfl | habove
    · exact Or.inl (Or.inr ⟨hlow, hhigh⟩)
    · exact Or.inr (Nat.le_trans habove hlow)

theorem start_of_letter {c : Char} (h : IsLetter c) : isIdentifierStart c = true := by
  rw [isIdentifierStart, Bool.or_eq_true, beq_iff_eq, covers_iff]
  rcases h with h | h | h
  · exact Or.inr ⟨(0x41, 0x5A), by decide, h⟩
  · exact Or.inr ⟨(0x61, 0x7A), by decide, h⟩
  · exact Or.inl h

theorem part_of_wordly {c : Char} (h : IsWordly c) : isIdentifierPart c = true := by
  rcases h with h | h
  · exact isIdentifierPart_of_start (start_of_letter h)
  · rw [isIdentifierPart, Bool.or_eq_true, @covers_iff markIntervals]
    exact Or.inr ⟨(0x30, 0x39), by decide, h⟩

/-! ## Upper case -/

/-- Some interval holds everything between the two numbers. -/
def within (table : List Interval) (first last : Nat) : Bool :=
  table.any fun i => i.1.ble first && last.ble i.2

/-- Nothing between the two numbers lies in an interval. -/
def apart (table : List Interval) (first last : Nat) : Bool :=
  table.all fun i => i.2 < first || last < i.1

theorem covers_of_within {table : List Interval} {first last : Nat} {c : Char}
    (h : within table first last = true) (hfirst : first ≤ c.toNat) (hlast : c.toNat ≤ last) :
    covers table c = true := by
  simp only [within, List.any_eq_true, Bool.and_eq_true, Nat.ble_eq] at h
  obtain ⟨i, hi, hlow, hhigh⟩ := h
  exact covers_iff.mpr ⟨i, hi, Nat.le_trans hlow hfirst, Nat.le_trans hlast hhigh⟩

theorem not_covers_of_apart {table : List Interval} {first last : Nat} {c : Char}
    (h : apart table first last = true) (hfirst : first ≤ c.toNat) (hlast : c.toNat ≤ last) :
    covers table c = false := by
  rw [← Bool.not_eq_true, covers_iff]
  rintro ⟨i, hi, hlow, hhigh⟩
  simp only [apart, List.all_eq_true, Bool.or_eq_true, decide_eq_true_eq] at h
  have := h i hi
  omega

theorem letter_of_within {first last : Nat} {c : Char}
    (h : within letterIntervals first last = true) (hfirst : first ≤ c.toNat)
    (hlast : c.toNat ≤ last) : isIdentifierStart c = true := by
  rw [isIdentifierStart, Bool.or_eq_true]
  exact Or.inr (covers_of_within h hfirst hlast)

theorem not_part_of_apart {first last : Nat} {c : Char} (hc : c ≠ '_')
    (hl : apart letterIntervals first last = true) (hm : apart markIntervals first last = true)
    (hfirst : first ≤ c.toNat) (hlast : c.toNat ≤ last) : isIdentifierPart c = false := by
  rw [isIdentifierPart, isIdentifierStart, not_covers_of_apart hl hfirst hlast,
    not_covers_of_apart hm hfirst hlast]
  simpa using hc

/-- Every stride of the upper-case table is taken to letters as a whole, or holds no character of
an identifier; one lies between letters and is taken to every second character. -/
theorem upperShifts_images : ∀ s ∈ upperShifts,
    (within letterIntervals ((s.first : Int) + s.distance).toNat
        ((s.last : Int) + s.distance).toNat = true ∧ 0 ≤ (s.first : Int) + s.distance ∧
      ((s.last : Int) + s.distance < 0xD800 ∨
        0xDFFF < (s.first : Int) + s.distance ∧ (s.last : Int) + s.distance < 0x110000)) ∨
    (0x80 ≤ s.first ∧ apart letterIntervals s.first s.last = true ∧
      apart markIntervals s.first s.last = true) ∨
    (s.first = 0x1F51 ∧ s.last = 0x1F57 ∧ s.step = 2 ∧ s.distance = 8) := by
  decide +kernel

theorem upperExpansions_images : ∀ e ∈ upperExpansions, e.2 ≠ [] ∧
    (∀ n ∈ e.2, (within letterIntervals n n = true ∨ within markIntervals n n = true) ∧
      n < 0xD800) ∧
    within letterIntervals (e.2.headD 0) (e.2.headD 0) = true := by
  decide +kernel

theorem part_of_within {n : Nat} {c : Char}
    (h : within letterIntervals n n = true ∨ within markIntervals n n = true)
    (hc : c.toNat = n) : isIdentifierPart c = true := by
  rcases h with h | h
  · exact isIdentifierPart_of_start (letter_of_within h (by omega) (by omega))
  · rw [isIdentifierPart, covers_of_within h (by omega) (by omega), Bool.or_true]

/-- A shifted character of an identifier is a letter. -/
theorem start_of_upperShift {c d : Char} (hpart : isIdentifierPart c = true)
    (h : shiftOf? upperShifts c = some d) : isIdentifierStart d = true := by
  obtain ⟨s, hs, hfirst, hlast, hstep, rfl⟩ := mem_shift_images h
  rcases upperShifts_images s hs with ⟨hwithin, hpos, hvalid⟩ | ⟨habove, hl, hm⟩ | hodd
  · have hv := toNat_ofNat_of_valid (n := ((c.toNat : Int) + s.distance).toNat) (by omega)
    exact letter_of_within hwithin (by omega) (by omega)
  · have hc : c ≠ '_' := by
      rintro rfl
      exact absurd (Nat.le_trans habove hfirst) (by decide)
    exact absurd hpart (by rw [not_part_of_apart hc hl hm hfirst hlast]; decide)
  · obtain ⟨h₁, h₂, h₃, h₄⟩ := hodd
    rw [h₁] at hfirst hstep
    rw [h₂] at hlast
    rw [h₃] at hstep
    rw [h₄]
    have hcases : c.toNat = 0x1F51 ∨ c.toNat = 0x1F53 ∨ c.toNat = 0x1F55 ∨ c.toNat = 0x1F57 := by
      omega
    rcases hcases with hc | hc | hc | hc
    · rw [hc]
      decide +kernel
    · rw [hc]
      decide +kernel
    · rw [hc]
      decide +kernel
    · rw [hc]
      decide +kernel

theorem toUpper_ascii {c : Char} (hc : c.toNat < 128) :
    (IsLetter c → IsLetter c.toUpper) ∧ (IsWordly c → IsWordly c.toUpper) :=
  forall_ascii hc (by decide)

/-- **Upper case stays within identifiers.** -/
theorem part_of_mem_upperChar {c d : Char} (hc : isIdentifierPart c = true)
    (hd : d ∈ upperChar c) : isIdentifierPart d = true := by
  unfold upperChar at hd
  split at hd
  · rename_i hascii
    rw [List.mem_singleton.mp hd]
    rcases ascii_of_part hc with hw | habove
    · exact part_of_wordly ((toUpper_ascii hascii).2 hw)
    · omega
  · cases hl : upperExpansions.lookup c.toNat with
    | some ns =>
      rw [hl] at hd
      obtain ⟨before, after, hsplit, -⟩ := List.lookup_eq_some_iff.mp hl
      obtain ⟨-, hall, -⟩ := upperExpansions_images (c.toNat, ns) (by rw [hsplit]; simp)
      obtain ⟨n, hn, rfl⟩ := List.mem_map.mp hd
      exact part_of_within (hall n hn).1 (toNat_ofNat_of_valid (Or.inl (hall n hn).2))
    | none =>
      rw [hl] at hd
      rw [List.mem_singleton.mp hd]
      cases hs : shiftOf? upperShifts c with
      | none => exact hc
      | some e => exact isIdentifierPart_of_start (start_of_upperShift hc hs)

/-- **Upper case keeps a beginning of an identifier.** -/
theorem start_of_upperChar {c : Char} (hc : isIdentifierStart c = true) :
    ∃ d ds, upperChar c = d :: ds ∧ isIdentifierStart d = true := by
  unfold upperChar
  split
  · rename_i hascii
    refine ⟨_, _, rfl, ?_⟩
    rcases ascii_of_start hc with hl | habove
    · exact start_of_letter ((toUpper_ascii hascii).1 hl)
    · omega
  · cases hl : upperExpansions.lookup c.toNat with
    | some ns =>
      obtain ⟨before, after, hsplit, -⟩ := List.lookup_eq_some_iff.mp hl
      obtain ⟨hne, hall, hhead⟩ := upperExpansions_images (c.toNat, ns) (by rw [hsplit]; simp)
      cases ns with
      | nil => exact absurd rfl hne
      | cons n ns =>
        have hv := toNat_ofNat_of_valid (Or.inl (hall n List.mem_cons_self).2)
        exact ⟨_, _, rfl, letter_of_within hhead (by rw [hv]; exact Nat.le_refl n)
          (by rw [hv]; exact Nat.le_refl n)⟩
    | none =>
      refine ⟨_, _, rfl, ?_⟩
      cases hs : shiftOf? upperShifts c with
      | none => exact hc
      | some e => exact start_of_upperShift (isIdentifierPart_of_start hc) hs

end SchemaModels.Text
