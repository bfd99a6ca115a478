import Mathlib.Data.List.Chain
import SchemaModels.Text.Compat

/-!
# Canonical order

A text is `Ordered` when no mark stands after one of a higher class. `orderMarks` makes texts
ordered (`ordered_orderMarks`) and leaves ordered ones alone (`orderMarks_of_ordered`). A mark can
be taken to where it belongs from any place behind marks of lower classes (`orderMarks_behind`), so
that what composing has moved to its base comes back to its place.
-/

namespace SchemaModels.Text

variable {a b c d : Char} {cs ds ms : List Char}

/-- The second character may stand after the first: if it is a mark, its class is not lower. -/
def Follows (a b : Char) : Prop := combiningClass b ≠ 0 → combiningClass a ≤ combiningClass b

/-- The marks of every run stand in the order of their classes. -/
def Ordered (cs : List Char) : Prop := cs.IsChain Follows

theorem ordered_nil : Ordered [] := List.isChain_nil

theorem Ordered.tail (h : Ordered (c :: cs)) : Ordered cs := (List.isChain_cons.mp h).2

theorem Ordered.prefix (h : Ordered (cs ++ ds)) : Ordered cs := (List.isChain_append.mp h).1

theorem Ordered.suffix (h : Ordered (cs ++ ds)) : Ordered ds := (List.isChain_append.mp h).2.1

/-- A mark can be left out. -/
theorem Ordered.erase (hc : combiningClass c ≠ 0) (h : Ordered (cs ++ c :: ds)) :
    Ordered (cs ++ ds) := by
  obtain ⟨hcs, hrest, hbefore⟩ := List.isChain_append.mp h
  obtain ⟨hafter, hds⟩ := List.isChain_cons.mp hrest
  refine List.isChain_append.mpr ⟨hcs, hds, fun a ha b hb hmark => ?_⟩
  exact Nat.le_trans (hbefore a ha c rfl hc) (hafter b hb hmark)

/-! ## Sorting -/

/-- A character stays in front of what may follow it. -/
theorem insertMark_of_ordered (h : Ordered (c :: cs)) : insertMark c cs = c :: cs := by
  cases cs with
  | nil => rfl
  | cons d ds =>
    have hd := (List.isChain_cons.mp h).1 d rfl
    rw [insertMark, if_neg]
    rintro ⟨hmark, hlt⟩
    have := hd hmark
    omega

/-- **An ordered text stays** as it is. -/
theorem orderMarks_of_ordered (h : Ordered cs) : orderMarks cs = cs := by
  induction cs with
  | nil => rfl
  | cons c cs ih =>
    have hcons : orderMarks (c :: cs) = insertMark c (orderMarks cs) := rfl
    rw [hcons, ih h.tail, insertMark_of_ordered h]

theorem head?_insertMark : (insertMark c cs).head? = some c ∨
    (insertMark c cs).head? = cs.head? := by
  cases cs with
  | nil => exact Or.inl rfl
  | cons d ds =>
    rw [insertMark]
    split
    · exact Or.inr rfl
    · exact Or.inl rfl

theorem ordered_insertMark (h : Ordered cs) : Ordered (insertMark c cs) := by
  induction cs with
  | nil => exact List.isChain_singleton c
  | cons d ds ih =>
    rw [insertMark]
    split
    · rename_i hd
      refine List.isChain_cons.mpr ⟨fun b hb => ?_, ih h.tail⟩
      rcases @head?_insertMark c ds with hhead | hhead
      · rw [hhead, Option.mem_def, Option.some.injEq] at hb
        rw [← hb]
        exact fun _ => Nat.le_of_lt hd.2
      · rw [hhead] at hb
        exact (List.isChain_cons.mp h).1 b hb
    · rename_i hd
      refine List.isChain_cons.mpr ⟨fun b hb hmark => ?_, h⟩
      rw [List.head?_cons, Option.mem_def, Option.some.injEq] at hb
      subst hb
      exact Nat.le_of_not_lt fun hlt => hd ⟨hmark, hlt⟩

/-- **Sorting orders** any text. -/
theorem ordered_orderMarks (cs : List Char) : Ordered (orderMarks cs) := by
  induction cs with
  | nil => exact ordered_nil
  | cons c cs ih => exact ordered_insertMark ih

/-! ## Marks of different classes -/

/-- Marks of different classes can be put in one after the other in any order. -/
theorem insertMark_comm (ha : combiningClass a ≠ 0) (hab : combiningClass a < combiningClass b) :
    insertMark b (insertMark a cs) = insertMark a (insertMark b cs) := by
  induction cs with
  | nil => simp [insertMark, ha, hab, Nat.le_of_lt hab]
  | cons d ds ih =>
    by_cases hdb : combiningClass d ≠ 0 ∧ combiningClass d < combiningClass b
    · by_cases hda : combiningClass d ≠ 0 ∧ combiningClass d < combiningClass a
      · simp only [insertMark, if_pos hda, if_pos hdb, ih]
      · simp only [insertMark, if_neg hda, if_pos hdb, if_pos (And.intro ha hab)]
    · have hda : ¬ (combiningClass d ≠ 0 ∧ combiningClass d < combiningClass a) := fun h =>
        hdb ⟨h.1, Nat.lt_trans h.2 hab⟩
      have hba : ¬ (combiningClass b ≠ 0 ∧ combiningClass b < combiningClass a) := fun h => by omega
      simp only [insertMark, if_neg hda, if_neg hdb, if_pos (And.intro ha hab), if_neg hba]

/-- **A mark belongs behind marks of lower classes**: sorting takes it there. -/
theorem orderMarks_behind
    (hms : ∀ m ∈ ms, combiningClass m ≠ 0 ∧ combiningClass m < combiningClass b)
    (cs ds : List Char) :
    orderMarks (cs ++ b :: (ms ++ ds)) = orderMarks (cs ++ (ms ++ b :: ds)) := by
  have hrest : orderMarks (b :: (ms ++ ds)) = orderMarks (ms ++ b :: ds) := by
    induction ms with
    | nil => rfl
    | cons m ms ih =>
      obtain ⟨hm, hms⟩ := List.forall_mem_cons.mp hms
      have hswap : orderMarks (b :: (m :: ms ++ ds)) =
          insertMark m (orderMarks (b :: (ms ++ ds))) :=
        insertMark_comm hm.1 hm.2
      rw [hswap, ih hms]
      rfl
  unfold orderMarks at hrest ⊢
  rw [List.foldr_append, List.foldr_append, hrest]

end SchemaModels.Text
