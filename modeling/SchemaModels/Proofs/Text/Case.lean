import SchemaModels.Text.Case

/-!
# Characters that case conversion brings in

Lower case writes no character below the small letters of ASCII that was not there before
(`mem_of_mem_lower`), so a separator cannot come out of a text that has none. Upper case writes no
underscore (`eq_underscore_of_mem_upperChar`), so a piece of a text stays one.
-/

namespace SchemaModels.Text

theorem mem_shift_images {table : List Shift} {c d : Char} (h : shiftOf? table c = some d) :
    ∃ s ∈ table, s.first ≤ c.toNat ∧ c.toNat ≤ s.last ∧ (c.toNat - s.first) % s.step = 0 ∧
      d = Char.ofNat ((c.toNat : Int) + s.distance).toNat := by
  unfold shiftOf? at h
  obtain ⟨s, hs, rfl⟩ := Option.map_eq_some_iff.mp h
  have hc := List.find?_some hs
  simp only [Stride.contains, Bool.and_eq_true, decide_eq_true_eq, beq_iff_eq] at hc
  exact ⟨s, List.mem_of_find?_eq_some hs, hc.1.1, hc.1.2, hc.2, rfl⟩

/-- The images of the lower-case table are valid, and none lies below the small letters. -/
theorem lowerShifts_images : ∀ s ∈ lowerShifts, 0x61 ≤ (s.first : Int) + s.distance ∧
    ((s.last : Int) + s.distance < 0xD800 ∨
      0xDFFF < (s.first : Int) + s.distance ∧ (s.last : Int) + s.distance < 0x110000) := by
  decide +kernel

/-- What holds of the first characters by their numbers holds of every ASCII character. -/
@[elab_as_elim]
theorem forall_ascii {p : Char → Prop} {c : Char} (hc : c.toNat < 128)
    (h : ∀ n < 128, p (Char.ofNat n)) : p c := by
  have hthis := h c.toNat hc
  rwa [Char.ofNat_toNat] at hthis

theorem toNat_ofNat_of_valid {n : Nat} (h : n < 0xD800 ∨ 0xDFFF < n ∧ n < 0x110000) :
    (Char.ofNat n).toNat = n := by
  unfold Char.ofNat
  rw [dif_pos h]
  rfl

theorem toLower_image {c : Char} (hd : c.toLower.toNat < 0x61) : c.toLower = c := by
  unfold Char.toLower at hd ⊢
  split
  · rename_i hc
    rw [dif_pos hc] at hd
    have hlow : 65 ≤ c.val.toNat ∧ c.val.toNat ≤ 90 := by
      simpa [UInt32.le_iff_toNat_le] using hc
    have hsum : (c.val + ('a'.val - 'A'.val)).toNat = c.val.toNat + 32 := by
      rw [UInt32.toNat_add]
      show (c.val.toNat + 32) % 2 ^ 32 = c.val.toNat + 32
      omega
    have hd' : (c.val + ('a'.val - 'A'.val)).toNat < 0x61 := hd
    omega
  · rfl

theorem lowerChar_image {c d : Char} (h : d ∈ lowerChar c) (hd : d.toNat < 0x61) : d = c := by
  unfold lowerChar at h
  split at h
  · rw [List.mem_singleton] at h
    subst h
    exact toLower_image hd
  · split at h
    · simp only [List.mem_cons, List.not_mem_nil, or_false] at h
      rcases h with rfl | rfl
      · exact absurd hd (by decide)
      · exact absurd hd (by decide)
    · rw [List.mem_singleton] at h
      cases hs : shiftOf? lowerShifts c with
      | none =>
        rw [hs] at h
        exact h
      | some e =>
        rw [hs] at h
        obtain ⟨s, hmem, h₁, h₂, -, rfl⟩ := mem_shift_images hs
        obtain ⟨hlow, hvalid⟩ := lowerShifts_images s hmem
        have hv := toNat_ofNat_of_valid (n := ((c.toNat : Int) + s.distance).toNat) (by omega)
        rw [Option.getD_some] at h
        rw [h, hv] at hd
        omega

theorem mem_of_mem_lowerAfter {d : Char} (hd : d.toNat < 0x61) :
    ∀ (cs before : List Char), d ∈ lowerAfter before cs → d ∈ cs
  | [], _, h => by simp [lowerAfter] at h
  | c :: cs, before, h => by
    rw [lowerAfter, List.mem_append] at h
    rcases h with h | h
    · split at h
      · rw [List.mem_singleton] at h
        split at h
        · exact absurd (h ▸ hd) (by decide)
        · exact absurd (h ▸ hd) (by decide)
      · rw [lowerChar_image h hd]
        exact List.mem_cons_self
    · exact List.mem_cons_of_mem c (mem_of_mem_lowerAfter hd cs (c :: before) h)

/-- **Lower case brings in no character below the small letters.** -/
theorem mem_of_mem_lower {s : String} {d : Char} (h : d ∈ (lower s).toList)
    (hd : d.toNat < 0x61) : d ∈ s.toList := by
  unfold lower at h
  rw [String.toList_ofList] at h
  exact mem_of_mem_lowerAfter hd s.toList [] h

theorem lowerAfter_ascii {cs : List Char} (h : ∀ c ∈ cs, c.toNat < 128) (before : List Char) :
    lowerAfter before cs = cs.map Char.toLower := by
  induction cs generalizing before with
  | nil => rfl
  | cons c cs ih =>
    obtain ⟨hc, hcs⟩ := List.forall_mem_cons.mp h
    have hsigma : ¬ (c == 'Σ') = true := by
      rw [beq_iff_eq]
      rintro rfl
      exact absurd hc (by decide)
    rw [lowerAfter, if_neg hsigma, lowerChar, if_pos hc, ih hcs]
    rfl

/-- **Lower case of ASCII text** goes character by character. -/
theorem lower_ascii {s : String} (h : ∀ c ∈ s.toList, c.toNat < 128) :
    (lower s).toList = s.toList.map Char.toLower := by
  unfold lower
  rw [String.toList_ofList, lowerAfter_ascii h]

/-! ## Upper case -/

theorem upper_underscore :
    (∀ s ∈ upperShifts, (s.last : Int) + s.distance < 0x5F ∨ 0x5F < (s.first : Int) + s.distance) ∧
      ∀ e ∈ upperExpansions, ∀ n ∈ e.2, 0x5F ≠ n := by
  decide +kernel

/-- **Upper case brings in no underscore.** -/
theorem eq_underscore_of_mem_upperChar {c : Char} (h : '_' ∈ upperChar c) : c = '_' := by
  unfold upperChar at h
  split at h
  · rename_i hascii
    have hupper : c.toUpper = '_' → c = '_' := forall_ascii hascii (by decide)
    rw [List.mem_singleton] at h
    exact hupper h.symm
  · have hfree : ∀ n, 0x5F ≠ n → '_' ≠ Char.ofNat n := fun n hn heq => by
      by_cases hvalid : n < 0xD800 ∨ 0xDFFF < n ∧ n < 0x110000
      · exact hn ((congrArg Char.toNat heq).trans (toNat_ofNat_of_valid hvalid))
      · unfold Char.ofNat at heq
        rw [dif_neg hvalid] at heq
        exact absurd heq (by decide)
    cases hl : upperExpansions.lookup c.toNat with
    | some ns =>
      rw [hl] at h
      obtain ⟨before, after, hsplit, -⟩ := List.lookup_eq_some_iff.mp hl
      obtain ⟨n, hn, heq⟩ := List.mem_map.mp h
      have hmem : (c.toNat, ns) ∈ upperExpansions := by
        rw [hsplit]
        exact List.mem_append_right _ List.mem_cons_self
      exact absurd heq.symm (hfree n (upper_underscore.2 _ hmem n hn))
    | none =>
      rw [hl, List.mem_singleton] at h
      cases hs : shiftOf? upperShifts c with
      | none =>
        rw [hs] at h
        exact h.symm
      | some e =>
        rw [hs] at h
        obtain ⟨s, hmem, hfirst, hlast, -, rfl⟩ := mem_shift_images hs
        have hrange := upper_underscore.1 s hmem
        exact absurd h (hfree _ (by omega))

end SchemaModels.Text
