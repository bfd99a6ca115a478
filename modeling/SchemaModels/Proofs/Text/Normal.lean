import SchemaModels.Proofs.Text.Order
import SchemaModels.Proofs.Text.Simple

/-!
# Composed texts

A text is `Normal` if its characters are simple and its marks in order. Decomposing what was
composed from a normal text gives that text back (`orderMarks_decompose_compose`), so the texts that
composition leaves alone are those composed from normal ones (`composed_iff`), and composing a
second time changes nothing (`composed_compatChars`).

All of this goes along `composeFrom`: a character is absorbed by the base, opens a new run, or is
kept as one more mark. `Pending` is what each of the three steps preserves.
-/

namespace SchemaModels.Text

variable {base c d : Char} {marks cs w : List Char}

/-! ## One step of composition -/

/-- The composite of the base with a character after its marks; none, if the last of these has the
class of the character or a higher one. -/
def absorbed? (base : Char) (marks : List Char) (c : Char) : Option Char :=
  if marks.head?.all (combiningClass · < combiningClass c) then composePair? base c else none

theorem absorbed?_eq_some_iff : absorbed? base marks c = some d ↔
    (∀ m ∈ marks.head?, combiningClass m < combiningClass c) ∧ composePair? base c = some d := by
  rw [absorbed?, Option.ite_none_right_eq_some]
  simp [Option.all_eq_true]

theorem composeFrom_cons (base : Char) (marks cs : List Char) (c : Char) :
    composeFrom base marks (c :: cs) =
      ((absorbed? base marks c).map fun d => composeFrom d marks cs).getD
        (if combiningClass c = 0 then base :: marks.reverse ++ composeFrom c [] cs
          else composeFrom base (c :: marks) cs) := by
  cases marks with
  | nil =>
    have hfree : absorbed? base [] c = composePair? base c := by simp [absorbed?]
    rw [hfree, composeFrom.eq_def]
    simp only [if_true]
    cases composePair? base c <;> rfl
  | cons m ms =>
    have hfree : absorbed? base (m :: ms) c =
        if combiningClass m < combiningClass c then composePair? base c else none := by
      simp [absorbed?]
    rw [hfree, composeFrom.eq_def]
    simp only [decide_eq_true_eq]
    cases (if combiningClass m < combiningClass c then composePair? base c else none) <;> rfl

theorem composeFrom_absorbed (h : absorbed? base marks c = some d) (cs : List Char) :
    composeFrom base marks (c :: cs) = composeFrom d marks cs := by
  rw [composeFrom_cons, h]
  rfl

theorem composeFrom_opened (h : absorbed? base marks c = none) (hc : combiningClass c = 0)
    (cs : List Char) :
    composeFrom base marks (c :: cs) = base :: marks.reverse ++ composeFrom c [] cs := by
  rw [composeFrom_cons, h, if_pos hc]
  rfl

theorem composeFrom_kept (h : absorbed? base marks c = none) (hc : combiningClass c ≠ 0)
    (cs : List Char) : composeFrom base marks (c :: cs) = composeFrom base (c :: marks) cs := by
  rw [composeFrom_cons, h, if_neg hc]
  rfl

/-! ## What the steps preserve -/

/-- The marks behind a base, the last one first, and the rest of a text whose marks are in order. -/
structure Pending (marks cs : List Char) : Prop where
  marked : ∀ m ∈ marks, combiningClass m ≠ 0
  simple : ∀ c ∈ marks.reverse ++ cs, Simple c
  ordered : Ordered (marks.reverse ++ cs)

/-- Marks in order do not pass the class of the last one. -/
theorem le_of_ordered (hmarks : ∀ m ∈ marks, combiningClass m ≠ 0) (hc : combiningClass c ≠ 0)
    (h : Ordered (marks ++ c :: cs)) : ∀ m ∈ marks, combiningClass m ≤ combiningClass c := by
  induction marks with
  | nil => simp
  | cons m ms ih =>
    obtain ⟨-, hms⟩ := List.forall_mem_cons.mp hmarks
    have hrest := ih hms h.tail
    refine List.forall_mem_cons.mpr ⟨?_, hrest⟩
    have hnext := (List.isChain_cons.mp h).1
    cases ms with
    | nil => exact hnext c rfl hc
    | cons m' ms =>
      exact Nat.le_trans (hnext m' rfl (hms m' List.mem_cons_self))
        (hrest m' List.mem_cons_self)

/-- A character that the base absorbs has a higher class than all marks between them. -/
theorem Pending.lt (h : Pending marks cs) (hd : absorbed? base marks c = some d) :
    ∀ m ∈ marks, combiningClass m < combiningClass c := by
  have hfree := (absorbed?_eq_some_iff.mp hd).1
  have hordered := h.ordered
  cases marks with
  | nil => simp
  | cons m ms =>
    have hlast : combiningClass m < combiningClass c := hfree m rfl
    rw [List.reverse_cons, List.append_assoc] at hordered
    obtain ⟨hm, hms⟩ := List.forall_mem_cons.mp h.marked
    have hbefore := le_of_ordered (fun n hn => hms n (List.mem_reverse.mp hn)) hm hordered
    refine List.forall_mem_cons.mpr ⟨hlast, fun n hn => ?_⟩
    exact Nat.lt_of_le_of_lt (hbefore n (List.mem_reverse.mpr hn)) hlast

theorem Pending.absorb (h : Pending marks (c :: cs)) (hd : absorbed? base marks c = some d) :
    Pending marks cs := by
  refine ⟨h.marked, fun e he => h.simple e ?_, ?_⟩
  · rw [List.mem_append] at he ⊢
    exact he.imp_right (List.mem_cons_of_mem c)
  · cases marks with
    | nil => exact h.ordered.tail
    | cons m ms =>
      have hlt := (absorbed?_eq_some_iff.mp hd).1 m rfl
      exact Ordered.erase (Nat.ne_of_gt (Nat.lt_of_le_of_lt (Nat.zero_le _) hlt)) h.ordered

theorem Pending.open (h : Pending marks (c :: cs)) : Pending [] cs := by
  refine ⟨by simp, fun e he => h.simple e ?_, h.ordered.suffix.tail⟩
  exact List.mem_append_right _ (List.mem_cons_of_mem c he)

theorem Pending.keep (h : Pending marks (c :: cs)) (hc : combiningClass c ≠ 0) :
    Pending (c :: marks) cs := by
  have hrow : (c :: marks).reverse ++ cs = marks.reverse ++ c :: cs := by simp
  refine ⟨List.forall_mem_cons.mpr ⟨hc, h.marked⟩, ?_, ?_⟩
  · rw [hrow]
    exact h.simple
  · rw [hrow]
    exact h.ordered

/-! ## Back and forth -/

theorem orderMarks_congr (h : orderMarks cs = orderMarks w) (ds : List Char) :
    orderMarks (ds ++ cs) = orderMarks (ds ++ w) := by
  unfold orderMarks at h ⊢
  rw [List.foldr_append, List.foldr_append, h]

theorem orderMarks_decompose_composeFrom (hbase : Base base) (h : Pending marks cs) :
    orderMarks ((composeFrom base marks cs).flatMap decompose) =
      orderMarks (decompose base ++ (marks.reverse ++ cs)) := by
  induction cs generalizing base marks with
  | nil =>
    have hsimple := h.simple
    rw [List.append_nil] at hsimple
    rw [composeFrom, List.flatMap_cons, flatMap_decompose_simple hsimple, List.append_nil]
  | cons c cs ih =>
    cases habsorbed : absorbed? base marks c with
    | some d =>
      -- The composite brings `c` back in front of the marks; sorting takes it behind them.
      obtain ⟨hd, hdbase⟩ := decompose_composite hbase (absorbed?_eq_some_iff.mp habsorbed).2
      have hbehind : ∀ m ∈ marks.reverse, combiningClass m ≠ 0 ∧
          combiningClass m < combiningClass c := fun m hm =>
        ⟨h.marked m (List.mem_reverse.mp hm), h.lt habsorbed m (List.mem_reverse.mp hm)⟩
      rw [composeFrom_absorbed habsorbed, ih hdbase (h.absorb habsorbed), hd, List.append_assoc]
      exact orderMarks_behind hbehind (decompose base) cs
    | none =>
      by_cases hc : combiningClass c = 0
      · have hself : Simple c := h.simple c (List.mem_append_right _ List.mem_cons_self)
        have hrest := ih (.simple hself) h.open
        rw [hself] at hrest
        have hmarks : marks.reverse.flatMap decompose = marks.reverse :=
          flatMap_decompose_simple fun m hm => h.simple m (List.mem_append_left _ hm)
        rw [composeFrom_opened habsorbed hc, List.flatMap_append, List.flatMap_cons, hmarks,
          ← List.append_assoc (decompose base)]
        exact orderMarks_congr hrest _
      · rw [composeFrom_kept habsorbed hc, ih hbase (h.keep hc)]
        simp

/-- The characters are simple, and the marks in order. -/
structure Normal (w : List Char) : Prop where
  simple : ∀ c ∈ w, Simple c
  ordered : Ordered w

theorem Normal.tail (h : Normal (c :: w)) : Normal w :=
  ⟨fun d hd => h.simple d (List.mem_cons_of_mem c hd), h.ordered.tail⟩

theorem Normal.pending (h : Normal w) : Pending [] w := ⟨by simp, h.simple, h.ordered⟩

theorem normal_orderMarks (cs : List Char) : Normal (orderMarks (cs.flatMap decompose)) := by
  refine ⟨fun d hd => ?_, ordered_orderMarks _⟩
  rw [mem_orderMarks, List.mem_flatMap] at hd
  obtain ⟨c, -, hd⟩ := hd
  exact simple_of_mem_decompose hd

/-- **Decomposing undoes composing** of a normal text. -/
theorem orderMarks_decompose_compose (h : Normal w) :
    orderMarks ((compose w).flatMap decompose) = w := by
  induction w with
  | nil => rfl
  | cons c w ih =>
    have hself : Simple c := h.simple c List.mem_cons_self
    by_cases hc : combiningClass c = 0
    · rw [compose_cons_base hc, orderMarks_decompose_composeFrom (.simple hself) h.tail.pending,
        hself]
      exact orderMarks_of_ordered h.ordered
    · have hcons : orderMarks (c :: (compose w).flatMap decompose) =
          insertMark c (orderMarks ((compose w).flatMap decompose)) := rfl
      rw [compose_cons_mark hc, List.flatMap_cons, hself, List.singleton_append, hcons, ih h.tail]
      exact insertMark_of_ordered h.ordered

/-- The text stays as it is when it is composed. -/
def Composed (cs : List Char) : Prop := compatChars cs = cs

theorem composed_iff : Composed cs ↔ ∃ w, Normal w ∧ compose w = cs := by
  constructor
  · intro h
    exact ⟨_, normal_orderMarks cs, (compatChars_eq cs).symm.trans h⟩
  · rintro ⟨w, hw, rfl⟩
    rw [Composed, compatChars_eq, orderMarks_decompose_compose hw]

/-- **Composing a second time** changes nothing. -/
theorem composed_compatChars (cs : List Char) : Composed (compatChars cs) :=
  composed_iff.mpr ⟨_, normal_orderMarks cs, (compatChars_eq cs).symm⟩

end SchemaModels.Text
