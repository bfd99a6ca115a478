import Mathlib.Data.List.Induction
import Mathlib.Tactic.ByContra
import SchemaModels.Files.Tree

/-!
# What operations do to a file tree

`get?` is the view of a tree that every statement about files is made in: `get?_set` and
`get?_erase` say what it shows after a change, and the inversion lemmas (`create_eq_ok`,
`unlink_eq_ok`, `unlink_eq_missing`, `rename_eq_ok`) say what an operation that went through has
found and done.

`FileTree.IsTree` is what makes a list of entries a tree: whatever has a path lies in a directory.
-/

namespace SchemaModels.FileTree

open Files (Path Node Refusal)

variable {t t' : FileTree} {p q : Path} {n : Node}

/-! ## The view -/

theorem lookup_cons_eq {α : Type} (r q : Path) (m : α) (es : List (Path × α)) :
    ((r, m) :: es).lookup q = if q = r then some m else es.lookup q := by
  rw [List.lookup_cons]
  by_cases h : q = r
  · simp [h]
  · simp [h, beq_false_of_ne h]

theorem lookup_put (p q : Path) (n : Node) (es : List (Path × Node)) :
    (put p n es).lookup q = if q = p then some n else es.lookup q := by
  induction es with
  | nil => exact lookup_cons_eq p q n []
  | cons e es ih =>
    obtain ⟨r, m⟩ := e
    unfold put
    by_cases hr : r = p
    · subst hr
      rw [if_pos rfl, lookup_cons_eq, lookup_cons_eq]
      split <;> rfl
    · rw [if_neg hr, lookup_cons_eq, lookup_cons_eq, ih]
      by_cases hq : q = r
      · subst hq
        rw [if_pos rfl, if_neg hr, if_pos rfl]
      · rw [if_neg hq, if_neg hq]

theorem lookup_filter_ne (p q : Path) (es : List (Path × Node)) :
    (es.filter (·.1 ≠ p)).lookup q = if q = p then none else es.lookup q := by
  induction es with
  | nil => simp
  | cons e es ih =>
    obtain ⟨r, m⟩ := e
    by_cases hr : r = p
    · subst hr
      rw [List.filter_cons_of_neg (by simp), ih, lookup_cons_eq]
      split <;> rfl
    · rw [List.filter_cons_of_pos (by simpa using hr), lookup_cons_eq, lookup_cons_eq, ih]
      by_cases hq : q = r
      · subst hq
        rw [if_pos rfl, if_neg hr, if_pos rfl]
      · rw [if_neg hq, if_neg hq]

/-- The root is always there. -/
theorem get?_nil (t : FileTree) : t.get? [] = some .directory := by
  simp [get?]

theorem get?_set (hp : p ≠ []) (q : Path) :
    (t.set p n).get? q = if q = p then some n else t.get? q := by
  unfold get? set
  by_cases hq : q = []
  · subst hq
    rw [if_pos rfl, if_neg (Ne.symm hp), if_pos rfl]
  · rw [if_neg hq, if_neg hq]
    exact lookup_put p q n t.entries

theorem get?_erase (hp : p ≠ []) (q : Path) :
    (t.erase p).get? q = if q = p then none else t.get? q := by
  unfold get? erase
  by_cases hq : q = []
  · subst hq
    rw [if_pos rfl, if_neg (Ne.symm hp), if_pos rfl]
  · rw [if_neg hq, if_neg hq]
    exact lookup_filter_ne p q t.entries

/-! ## A file that comes and goes -/

theorem put_append_of_lookup_none {es : List (Path × Node)} (h : es.lookup p = none)
    (rest : List (Path × Node)) : put p n (es ++ rest) = es ++ put p n rest := by
  induction es with
  | nil => rfl
  | cons e es ih =>
    obtain ⟨r, m⟩ := e
    rw [lookup_cons_eq] at h
    by_cases hr : p = r
    · rw [if_pos hr] at h
      cases h
    · rw [if_neg hr] at h
      rw [List.cons_append, put, if_neg (Ne.symm hr), ih h, List.cons_append]

theorem filter_of_lookup_none {es : List (Path × Node)} (h : es.lookup p = none) :
    es.filter (·.1 ≠ p) = es := by
  rw [List.filter_eq_self]
  intro e he
  have hne : p ≠ e.1 := by simpa using List.lookup_eq_none_iff.mp h e he
  exact decide_eq_true (Ne.symm hne)

/-- What is put at a free path, and put there again, is gone once the path is erased. -/
theorem erase_set_set {m : Node} (hp : p ≠ []) (h : t.get? p = none) :
    ((t.set p m).set p n).erase p = t := by
  have hl : t.entries.lookup p = none := by
    rw [get?, if_neg hp] at h
    exact h
  have hput := put_append_of_lookup_none (n := m) hl []
  rw [List.append_nil] at hput
  unfold set erase
  simp only
  rw [hput, put_append_of_lookup_none hl, List.filter_append, filter_of_lookup_none hl]
  simp [put]

/-! ## Operations that went through -/

theorem create_eq_ok {mode : Nat} {text : String} (h : t.create p mode text = .ok t') :
    t.get? p = none ∧ t' = t.set p (.file mode text) := by
  unfold create at h
  split at h
  · cases h
  · split at h
    · cases h
    · cases h
      exact ⟨‹_›, rfl⟩

theorem unlink_eq_ok (h : t.unlink p = .ok t') :
    (∃ mode text, t.get? p = some (.file mode text)) ∧ t' = t.erase p := by
  unfold unlink at h
  split at h
  · cases h
  · split at h
    · cases h
    · cases h
    · cases h
      exact ⟨⟨_, _, ‹_›⟩, rfl⟩

theorem rename_eq_ok {source target : Path} (h : t.rename source target = .ok t') :
    ∃ n, t.get? source = some n ∧ t.get? target ≠ some .directory ∧
      t' = (t.erase source).set target n := by
  unfold rename at h
  split at h
  · cases h
  · cases h
  · rename_i n hs ht
    cases h
    exact ⟨n, hs, ht, rfl⟩

/-! ## Trees -/

/-- Whatever has a path lies in a directory. -/
def IsTree (t : FileTree) : Prop :=
  ∀ p, (t.get? p).isSome → t.get? p.parent = some .directory

/-- A list of entries is a tree if each of them lies in a directory. -/
theorem isTree_of_entries (h : ∀ f ∈ t.entries, t.get? f.1.parent = some .directory) :
    t.IsTree := by
  intro p hp
  unfold get? at hp
  split at hp
  · rename_i hroot
    rw [hroot]
    exact get?_nil t
  · obtain ⟨n, hn⟩ := Option.isSome_iff_exists.mp hp
    obtain ⟨before, after, hsplit, -⟩ := List.lookup_eq_some_iff.mp hn
    exact h (p, n) (by rw [hsplit]; simp)

/-- In a tree no directory is missing on the way to something that is there. -/
theorem IsTree.obstacle?_ne_missing (ht : t.IsTree) :
    ∀ (rest : List String) (directory : Path), (t.get? (directory ++ rest)).isSome →
      t.obstacle? directory rest ≠ some .missing
  | [], _, _ => by simp [obstacle?]
  | name :: rest, directory, h => by
    have h' : (t.get? ((directory ++ [name]) ++ rest)).isSome := by simpa using h
    have hsome : (t.get? (directory ++ [name])).isSome := by
      clear h
      induction rest using List.reverseRecOn with
      | nil => simpa using h'
      | append_singleton rest last ih =>
        apply ih
        have hd := ht _ h'
        rw [Path.parent, ← List.append_assoc, List.dropLast_concat] at hd
        rw [hd]
        rfl
    unfold obstacle?
    split
    · simp
    · split
      · rename_i hn
        rw [hn] at hsome
        cases hsome
      · simp
      · exact ht.obstacle?_ne_missing rest _ h'

/-- What cannot be removed because it is missing is not there. -/
theorem IsTree.unlink_eq_missing (ht : t.IsTree) (h : t.unlink p = .error .missing) :
    t.get? p = none := by
  by_contra hne
  have hsome : (t.get? p).isSome := Option.isSome_iff_ne_none.mpr hne
  have hparent : (t.get? ([] ++ p.parent)).isSome := by
    rw [List.nil_append, ht p hsome]
    rfl
  have hob := ht.obstacle?_ne_missing p.parent [] hparent
  unfold unlink blocked? at h
  revert h
  cases hr : t.obstacle? [] p.parent with
  | some r =>
    intro h
    simp only [Except.error.injEq] at h
    subst h
    exact hob hr
  | none =>
    simp only
    split
    · split at *
      · rename_i h
        cases h
        simp
      · rename_i h
        cases h
    · cases hg : t.get? p with
      | none => exact absurd hg hne
      | some n => cases n <;> simp

end SchemaModels.FileTree
