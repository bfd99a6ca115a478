import SchemaModels.Proofs.Text.Normal

/-!
# Parts of composed texts

What stands next to each other in a composed text is a composed text itself (`Composed.of_append`).
The first character of a text can be taken off, since the rest is composed from what is left when
the characters that the first one absorbed are taken out (`composeFrom_eq_cons`); so can the last
one, with what it is composed from (`composeFrom_dropLast`). The other way round, texts one after
the other are composed if each of them is and composing goes text by text (`composed_append_iff`).
-/

namespace SchemaModels.Text

variable {base c : Char} {marks cs ds w v : List Char}

/-! ## The first character -/

theorem compose_marks (h : ∀ m ∈ marks, combiningClass m ≠ 0) (cs : List Char) :
    compose (marks ++ cs) = marks ++ compose cs := by
  induction marks with
  | nil => rfl
  | cons m ms ih =>
    obtain ⟨hm, hms⟩ := List.forall_mem_cons.mp h
    rw [List.cons_append, compose_cons_mark hm, ih hms]
    rfl

theorem Pending.normal (h : Pending marks cs) : Normal (marks.reverse ++ cs) :=
  ⟨h.simple, h.ordered⟩

theorem Pending.marked_reverse (h : Pending marks cs) :
    ∀ m ∈ marks.reverse, combiningClass m ≠ 0 := fun m hm =>
  h.marked m (List.mem_reverse.mp hm)

/-- Behind its first character, what is composed is composed from a normal text. -/
theorem composeFrom_eq_cons (base : Char) (h : Pending marks cs) :
    ∃ first w, Normal w ∧ composeFrom base marks cs = first :: compose w := by
  induction cs generalizing base marks with
  | nil =>
    have hnormal := h.normal
    refine ⟨base, _, hnormal, ?_⟩
    rw [composeFrom, compose_marks h.marked_reverse]
    simp [compose]
  | cons c cs ih =>
    cases habsorbed : absorbed? base marks c with
    | some d =>
      rw [composeFrom_absorbed habsorbed]
      exact ih d (h.absorb habsorbed)
    | none =>
      by_cases hc : combiningClass c = 0
      · refine ⟨base, _, h.normal, ?_⟩
        rw [composeFrom_opened habsorbed hc, compose_marks h.marked_reverse, compose_cons_base hc]
        rfl
      · rw [composeFrom_kept habsorbed hc]
        exact ih base (h.keep hc)

theorem Composed.tail (h : Composed (c :: cs)) : Composed cs := by
  obtain ⟨w, hw, hcompose⟩ := composed_iff.mp h
  cases w with
  | nil => cases hcompose
  | cons d w =>
    by_cases hd : combiningClass d = 0
    · obtain ⟨first, v, hv, heq⟩ := composeFrom_eq_cons d hw.tail.pending
      rw [compose_cons_base hd, heq, List.cons.injEq] at hcompose
      exact composed_iff.mpr ⟨v, hv, hcompose.2⟩
    · rw [compose_cons_mark hd, List.cons.injEq] at hcompose
      exact composed_iff.mpr ⟨w, hw.tail, hcompose.2⟩

/-! ## The last character -/

/-- The second text is the first one without one of its marks, or without what follows a place. -/
inductive Shortened : List Char → List Char → Prop
  | mark {m : Char} {rest : List Char} (marked : combiningClass m ≠ 0) : Shortened (m :: rest) rest
  | rest {row : List Char} : Shortened row []
  | cons {row shorter : List Char} (a : Char) (shortened : Shortened row shorter) :
      Shortened (a :: row) (a :: shorter)

theorem Shortened.mem (h : Shortened cs w) : ∀ c ∈ w, c ∈ cs := by
  induction h with
  | mark => exact fun c hc => List.mem_cons_of_mem _ hc
  | rest => simp
  | cons c _ ih =>
    intro d hd
    rw [List.mem_cons] at hd ⊢
    exact hd.imp_right (ih d)

theorem Shortened.ordered (h : Shortened cs w) : ∀ ds, Ordered (ds ++ cs) → Ordered (ds ++ w) := by
  induction h with
  | mark marked => exact fun ds hordered => hordered.erase marked
  | rest =>
    intro ds hordered
    rw [List.append_nil]
    exact hordered.prefix
  | cons c _ ih =>
    intro ds hordered
    rw [List.append_cons] at hordered ⊢
    exact ih _ hordered

theorem Normal.shorten (hcs : Normal cs) (h : Shortened cs w) : Normal w :=
  ⟨fun c hc => hcs.simple c (h.mem c hc), h.ordered [] hcs.ordered⟩

/-- What composing can do with the last character of its result: it comes of the base alone, and
then the last mark before it can be left out too; or a shorter text composes to the result without
it. -/
theorem composeFrom_dropLast (base : Char) (h : Pending marks cs) :
    (∃ e, composeFrom base marks cs = e :: marks.reverse ∧
      composeFrom base marks.tail cs = e :: marks.tail.reverse) ∨
    ∃ w, Shortened cs w ∧ composeFrom base marks w = (composeFrom base marks cs).dropLast := by
  induction cs generalizing base marks with
  | nil => exact Or.inl ⟨base, rfl, rfl⟩
  | cons c cs ih =>
    cases habsorbed : absorbed? base marks c with
    | some d =>
      have hpair := (absorbed?_eq_some_iff.mp habsorbed).2
      have htail : absorbed? base marks.tail c = some d :=
        absorbed?_eq_some_iff.mpr ⟨fun m hm =>
          h.lt habsorbed m (List.mem_of_mem_tail (List.mem_of_mem_head? hm)), hpair⟩
      rw [composeFrom_absorbed habsorbed, composeFrom_absorbed htail]
      refine (ih d (h.absorb habsorbed)).imp_right fun ⟨w, hw, heq⟩ => ⟨c :: w, .cons c hw, ?_⟩
      rw [composeFrom_absorbed habsorbed, heq]
    | none =>
      right
      by_cases hc : combiningClass c = 0
      · have hdrop : (composeFrom base marks (c :: cs)).dropLast =
            base :: marks.reverse ++ (composeFrom c [] cs).dropLast := by
          rw [composeFrom_opened habsorbed hc,
            List.dropLast_append_of_ne_nil (composeFrom_ne_nil c [] cs)]
        rw [hdrop]
        rcases ih c h.open with ⟨e, heq, -⟩ | ⟨w, hw, heq⟩
        · refine ⟨[], .rest, ?_⟩
          rw [heq, composeFrom]
          simp
        · refine ⟨c :: w, .cons c hw, ?_⟩
          rw [composeFrom_opened habsorbed hc, heq]
      · rw [composeFrom_kept habsorbed hc]
        rcases ih base (h.keep hc) with ⟨e, heq, hwithout⟩ | ⟨w, hw, heq⟩
        · refine ⟨cs, .mark hc, ?_⟩
          rw [List.tail_cons] at hwithout
          rw [heq, hwithout, List.reverse_cons, ← List.cons_append, List.dropLast_concat]
        · refine ⟨c :: w, .cons c hw, ?_⟩
          rw [composeFrom_kept habsorbed hc, heq]

theorem compose_dropLast (h : Normal w) :
    ∃ v, Shortened w v ∧ compose v = (compose w).dropLast := by
  induction w with
  | nil => exact ⟨[], .rest, rfl⟩
  | cons c w ih =>
    by_cases hc : combiningClass c = 0
    · rw [compose_cons_base hc]
      rcases composeFrom_dropLast c h.tail.pending with ⟨e, heq, -⟩ | ⟨v, hv, heq⟩
      · refine ⟨[], .rest, ?_⟩
        rw [heq]
        rfl
      · exact ⟨c :: v, .cons c hv, by rw [compose_cons_base hc, heq]⟩
    · rw [compose_cons_mark hc]
      obtain ⟨v, hv, heq⟩ := ih h.tail
      cases w with
      | nil => exact ⟨[], .rest, rfl⟩
      | cons d w =>
        refine ⟨c :: v, .cons c hv, ?_⟩
        rw [compose_cons_mark hc, heq, List.dropLast_cons_of_ne_nil (compose_ne_nil (by simp))]

theorem Composed.dropLast (h : Composed cs) : Composed cs.dropLast := by
  obtain ⟨w, hw, rfl⟩ := composed_iff.mp h
  obtain ⟨v, hv, heq⟩ := compose_dropLast hw
  exact composed_iff.mpr ⟨v, hw.shorten hv, heq⟩

/-! ## Texts one after the other -/

/-- **Both parts of a composed text are composed.** -/
theorem Composed.of_append (h : Composed (cs ++ ds)) : Composed cs ∧ Composed ds := by
  constructor
  · induction ds using List.reverseRecOn with
    | nil => rwa [List.append_nil] at h
    | append_singleton ds d ih =>
      refine ih ?_
      have hdrop := h.dropLast
      rwa [← List.append_assoc, List.dropLast_concat] at hdrop
  · induction cs with
    | nil => exact h
    | cons c cs ih => exact ih h.tail

/-- Composing the texts one after the other goes text by text. -/
def Meet (cs ds : List Char) : Prop := compatChars (cs ++ ds) = compatChars cs ++ compatChars ds

theorem composed_append_iff : Composed (cs ++ ds) ↔ Composed cs ∧ Composed ds ∧ Meet cs ds := by
  constructor
  · intro h
    obtain ⟨hcs, hds⟩ := h.of_append
    refine ⟨hcs, hds, ?_⟩
    rw [Meet, hcs, hds]
    exact h
  · rintro ⟨hcs, hds, hmeet⟩
    rw [Composed, hmeet, hcs, hds]

end SchemaModels.Text
