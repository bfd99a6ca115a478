import SchemaModels.Proofs.Text.Case

/-!
# Texts in lower case

A character is `Settled` if it is its own lower-case form, whatever stands around it. All characters
of a text in lower case are (`settled_of_mem_lower`): no image of the table is in the table. A text
of settled characters is its own lower-case form (`lower_of_settled`), so lower case is idempotent
(`lower_lower`).
-/

namespace SchemaModels.Text

/-- The character is its own lower-case form in every context. -/
structure Settled (c : Char) : Prop where
  char : lowerChar c = [c]
  sigma : c ≠ 'Σ'

/-- An ASCII character that is no capital is settled. -/
theorem settled_of_ascii {c : Char} (hascii : c.toNat < 0x80) (hlower : c.toLower = c) :
    Settled c := by
  refine ⟨by rw [lowerChar, if_pos hascii, hlower], ?_⟩
  rintro rfl
  exact absurd hascii (by decide)

/-! ## The table -/

/-- The image of a code point. -/
def Shift.image (s : Shift) (n : Nat) : Nat := ((n : Int) + s.distance).toNat

/-- No number of the row is in the shift: the row ends before it, begins behind it, or both go by
every second number and the row falls between those of the shift. -/
def Shift.avoids (t : Shift) (first last step : Nat) : Bool :=
  last.blt t.first || t.last.blt first ||
    ((step.beq 2 || first.beq last) && t.step.beq 2 && ((first + t.first) % 2).beq 1)

/-- The letter that becomes two, as if it were a shift. -/
def dottedCapital : Shift := ⟨0x130, 0x130, 2, 0⟩

/-- No image of the table is in the table. -/
theorem lowerShifts_avoid : (lowerShifts.all fun s => (dottedCapital :: lowerShifts).all fun t =>
    t.avoids (s.image s.first) (s.image s.last) s.step) = true := by
  decide +kernel

variable {c d : Char}

/-- An image of the table is the code point of its character. -/
theorem toNat_image {s : Shift} (hs : s ∈ lowerShifts) (hfirst : s.first ≤ c.toNat)
    (hlast : c.toNat ≤ s.last) : (Char.ofNat (s.image c.toNat)).toNat = s.image c.toNat := by
  obtain ⟨hlow, hvalid⟩ := lowerShifts_images s hs
  refine toNat_ofNat_of_valid ?_
  unfold Shift.image
  omega

/-- The image of a character in the row of a shift is in no shift that avoids the row of images. -/
theorem not_contains_of_avoids {s t : Shift} (hs : s ∈ lowerShifts)
    (ht : t.avoids (s.image s.first) (s.image s.last) s.step = true) (hfirst : s.first ≤ c.toNat)
    (hlast : c.toNat ≤ s.last) (hstep : (c.toNat - s.first) % s.step = 0) :
    (Stride.mk t.first t.last t.step).contains (s.image c.toNat) = false := by
  obtain ⟨hlow, -⟩ := lowerShifts_images s hs
  unfold Shift.avoids Shift.image at ht
  unfold Stride.contains Shift.image
  simp only [Bool.or_eq_true, Bool.and_eq_true, Nat.blt_eq, Nat.beq_eq] at ht
  simp only [Bool.and_eq_false_iff, decide_eq_false_iff_not, beq_eq_false_iff_ne]
  rcases ht with (hend | hbegin) | ⟨⟨hrow, heven⟩, hodd⟩
  · omega
  · omega
  · rw [heven]
    rcases hrow with hrow | hrow
    · rw [hrow] at hstep
      omega
    · omega

theorem shiftOf?_eq_none_of_not_contains {table : List Shift}
    (h : ∀ t ∈ table, (Stride.mk t.first t.last t.step).contains d.toNat = false) :
    shiftOf? table d = none := by
  unfold shiftOf?
  rw [List.find?_eq_none.mpr fun t ht => by simp [h t ht]]
  rfl

/-- **Images are settled.** -/
theorem settled_of_image {c d : Char} (h : shiftOf? lowerShifts c = some d) : Settled d := by
  obtain ⟨s, hs, hfirst, hlast, hstep, rfl⟩ := mem_shift_images h
  have hnumber := toNat_image hs hfirst hlast
  have hout : ∀ t ∈ dottedCapital :: lowerShifts,
      (Stride.mk t.first t.last t.step).contains (Char.ofNat (s.image c.toNat)).toNat = false := by
    intro t ht
    rw [hnumber]
    exact not_contains_of_avoids hs
      (List.all_eq_true.mp (List.all_eq_true.mp lowerShifts_avoid s hs) t ht) hfirst hlast hstep
  have hlow : 0x61 ≤ (Char.ofNat (s.image c.toNat)).toNat := by
    obtain ⟨hlow, -⟩ := lowerShifts_images s hs
    rw [hnumber, Shift.image]
    omega
  obtain ⟨hdotted, hshifts⟩ := List.forall_mem_cons.mp hout
  show Settled (Char.ofNat (s.image c.toNat))
  generalize Char.ofNat (s.image c.toNat) = d at hdotted hshifts hlow
  by_cases hascii : d.toNat < 0x80
  · have hsmall : 0x61 ≤ d.toNat → d.toLower = d := forall_ascii hascii (by decide)
    exact settled_of_ascii hascii (hsmall hlow)
  · have hnone := shiftOf?_eq_none_of_not_contains hshifts
    refine ⟨?_, ?_⟩
    · have hne : (d == 'İ') = false := by
        rw [beq_eq_false_iff_ne]
        rintro rfl
        exact absurd hdotted (by decide)
      rw [lowerChar, if_neg hascii, hne, hnone]
      rfl
    · rintro rfl
      have hsigma : (shiftOf? lowerShifts 'Σ').isSome = true := by decide +kernel
      rw [hnone] at hsigma
      cases hsigma

/-! ## Characters of texts in lower case -/

theorem settled_of_mem_lowerChar (hc : c ≠ 'Σ') (h : d ∈ lowerChar c) : Settled d := by
  unfold lowerChar at h
  split at h
  · rename_i hascii
    have hlower : c.toLower.toLower = c.toLower ∧ c.toLower.toNat < 0x80 :=
      forall_ascii hascii (by decide)
    rw [List.mem_singleton] at h
    subst h
    exact settled_of_ascii hlower.2 hlower.1
  · rename_i hascii
    split at h
    · simp only [List.mem_cons, List.not_mem_nil, or_false] at h
      rcases h with rfl | rfl
      · exact settled_of_ascii (by decide) rfl
      · exact ⟨by decide +kernel, by decide⟩
    · rename_i hdotted
      rw [List.mem_singleton] at h
      cases hshift : shiftOf? lowerShifts c with
      | some e =>
        rw [hshift] at h
        subst h
        exact settled_of_image hshift
      | none =>
        rw [hshift] at h
        obtain rfl : d = c := h
        refine ⟨?_, hc⟩
        rw [lowerChar, if_neg hascii, if_neg hdotted, hshift]
        rfl

theorem settled_of_mem_lowerAfter : ∀ (cs before : List Char), d ∈ lowerAfter before cs → Settled d
  | [], _, h => by simp [lowerAfter] at h
  | c :: cs, before, h => by
    rw [lowerAfter, List.mem_append] at h
    rcases h with h | h
    · split at h
      · rw [List.mem_singleton] at h
        split at h
        · rw [h]
          exact ⟨by decide +kernel, by decide⟩
        · rw [h]
          exact ⟨by decide +kernel, by decide⟩
      · rename_i hsigma
        exact settled_of_mem_lowerChar (by simpa using hsigma) h
    · exact settled_of_mem_lowerAfter cs (c :: before) h

/-- **Every character of a text in lower case is settled.** -/
theorem settled_of_mem_lower {s : String} (h : d ∈ (lower s).toList) : Settled d := by
  unfold lower at h
  rw [String.toList_ofList] at h
  exact settled_of_mem_lowerAfter s.toList [] h

theorem lowerAfter_of_settled {cs : List Char} (h : ∀ c ∈ cs, Settled c) (before : List Char) :
    lowerAfter before cs = cs := by
  induction cs generalizing before with
  | nil => rfl
  | cons c cs ih =>
    obtain ⟨hc, hcs⟩ := List.forall_mem_cons.mp h
    rw [lowerAfter, if_neg (by simpa using hc.sigma), hc.char, ih hcs]
    rfl

/-- **A text of settled characters is its own lower-case form.** -/
theorem lower_of_settled {s : String} (h : ∀ c ∈ s.toList, Settled c) : lower s = s := by
  unfold lower
  rw [lowerAfter_of_settled h, String.ofList_toList]

/-- **Lower case is idempotent.** -/
theorem lower_lower (s : String) : lower (lower s) = lower s :=
  lower_of_settled fun _ h => settled_of_mem_lower h

end SchemaModels.Text
