import SchemaModels.Proofs.Files.Tree

/-!
# Files written over and over

`setAll` sets paths in order, of which one may come more than once. `setAll_again`: where all of
them are set already, setting them again leaves the very same tree, with its entries in the same
order.
-/

namespace SchemaModels.FileTree

open Files (Path Node)

variable {p q : Path} {m n : Node} {t : FileTree}

/-! ## Setting one path -/

theorem put_put (es : List (Path × Node)) : put p n (put p m es) = put p n es := by
  induction es with
  | nil => simp [put]
  | cons e es ih =>
    by_cases he : e.1 = p
    · simp [put, he]
    · simp [put, he, ih]

theorem put_of_lookup {es : List (Path × Node)} (h : es.lookup p = some n) : put p n es = es := by
  induction es with
  | nil => cases h
  | cons e es ih =>
    obtain ⟨r, k⟩ := e
    rw [lookup_cons_eq] at h
    by_cases hr : p = r
    · rw [if_pos hr] at h
      cases h
      rw [put, if_pos hr.symm, hr]
    · rw [if_neg hr] at h
      rw [put, if_neg (Ne.symm hr), ih h]

/-- A path that is there keeps its place, whether another one is set before it or after it. -/
theorem put_comm {es : List (Path × Node)} (hne : p ≠ q) (h : es.lookup p ≠ none) :
    put q n (put p m es) = put p m (put q n es) := by
  induction es with
  | nil => exact absurd rfl h
  | cons e es ih =>
    obtain ⟨r, k⟩ := e
    rw [lookup_cons_eq] at h
    by_cases hp : r = p
    · subst hp
      simp [put, hne]
    · rw [if_neg (Ne.symm hp)] at h
      by_cases hq : r = q
      · subst hq
        simp [put, hp]
      · simp [put, hp, hq, ih h]

theorem set_set : (t.set p m).set p n = t.set p n := by
  unfold set
  rw [put_put]

theorem set_of_get? (hp : p ≠ []) (h : t.get? p = some n) : t.set p n = t := by
  rw [get?, if_neg hp] at h
  unfold set
  rw [put_of_lookup h]

theorem set_comm (hp : p ≠ []) (hne : p ≠ q) (h : t.get? p ≠ none) :
    (t.set p m).set q n = (t.set q n).set p m := by
  rw [get?, if_neg hp] at h
  unfold set
  simp only
  rw [put_comm hne h]

/-- What is put at a free path is gone once the path is erased. -/
theorem erase_set (hp : p ≠ []) (h : t.get? p = none) : (t.set p n).erase p = t := by
  have herase := erase_set_set (m := n) (n := n) hp h
  rwa [set_set] at herase

/-! ## Setting several paths -/

/-- Sets paths one after the other. -/
def setAll (t : FileTree) (files : List (Path × Node)) : FileTree :=
  files.foldl (fun t f => t.set f.1 f.2) t

theorem setAll_cons (t : FileTree) (f : Path × Node) (files : List (Path × Node)) :
    t.setAll (f :: files) = (t.set f.1 f.2).setAll files := rfl

theorem get?_setAll_of_not_mem {files : List (Path × Node)} (hfiles : ∀ f ∈ files, f.1 ≠ [])
    (hp : p ∉ files.map (·.1)) : (t.setAll files).get? p = t.get? p := by
  induction files generalizing t with
  | nil => rfl
  | cons f files ih =>
    obtain ⟨hf, hfiles⟩ := List.forall_mem_cons.mp hfiles
    rw [List.map_cons, List.mem_cons, not_or] at hp
    rw [setAll_cons, ih hfiles hp.2, get?_set hf, if_neg hp.1]

/-- Setting a path that is there makes no difference if it is set later on. -/
theorem setAll_set {files : List (Path × Node)} (hfiles : ∀ f ∈ files, f.1 ≠ [])
    (hp : p ∈ files.map (·.1)) (h : t.get? p ≠ none) :
    (t.set p m).setAll files = t.setAll files := by
  induction files generalizing t with
  | nil => cases hp
  | cons f files ih =>
    obtain ⟨hf, hfiles⟩ := List.forall_mem_cons.mp hfiles
    rw [setAll_cons, setAll_cons]
    by_cases heq : p = f.1
    · rw [heq, set_set]
    · have hmem : p ∈ files.map (·.1) := (List.mem_cons.mp hp).resolve_left heq
      have hne : p ≠ [] := by
        obtain ⟨g, hg, rfl⟩ := List.mem_map.mp hmem
        exact hfiles g hg
      have hkept : (t.set f.1 f.2).get? p ≠ none := by rwa [get?_set hf, if_neg heq]
      rw [set_comm hne heq h, ih hfiles hmem hkept]

/-- What is there stays there. -/
theorem get?_setAll_ne_none {files : List (Path × Node)} (hfiles : ∀ f ∈ files, f.1 ≠ [])
    (h : t.get? p ≠ none) : (t.setAll files).get? p ≠ none := by
  induction files generalizing t with
  | nil => exact h
  | cons f files ih =>
    obtain ⟨hf, hfiles⟩ := List.forall_mem_cons.mp hfiles
    refine ih hfiles ?_
    rw [get?_set hf]
    split
    · simp
    · exact h

/-- **Files that are all set already** are set again without a change, also where several of them
have one path: the last of these decides both times. -/
theorem setAll_again (t : FileTree) {files : List (Path × Node)} (hfiles : ∀ f ∈ files, f.1 ≠ []) :
    (t.setAll files).setAll files = t.setAll files := by
  induction files generalizing t with
  | nil => rfl
  | cons f files ih =>
    obtain ⟨hf, hfiles⟩ := List.forall_mem_cons.mp hfiles
    have hset : (t.set f.1 f.2).get? f.1 = some f.2 := by rw [get?_set hf, if_pos rfl]
    rw [setAll_cons, setAll_cons]
    refine Eq.trans ?_ (ih (t.set f.1 f.2) hfiles)
    by_cases hmem : f.1 ∈ files.map (·.1)
    · exact setAll_set hfiles hmem (get?_setAll_ne_none hfiles (by rw [hset]; simp))
    · rw [set_of_get? hf ((get?_setAll_of_not_mem hfiles hmem).trans hset)]

end SchemaModels.FileTree
