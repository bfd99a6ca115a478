import Mathlib.Data.List.Nodup
import Mathlib.Data.List.Perm.Subperm
import SchemaModels.Proofs.Files.Replace

/-!
# When a file can be replaced

A path is `Writable` on a disk if it can be reached, its temporary name is not too long, and it
leads to no directory. `replaceFile_ok_iff`: just then it can be replaced. That a temporary name is
free is no condition, since one always is (`freeTemporary_free`): there are more of them than the
tree has paths. Replacing another file makes no difference (`writable_of_replaceFile`), as long as
it is itself no temporary one.
-/

namespace SchemaModels

open Files (Path Node)

/-! ## Following a path -/

/-- A path can be followed through the same directories. -/
theorem FileTree.obstacle?_congr {t t' : FileTree}
    (h : ∀ q, t'.get? q = some .directory ↔ t.get? q = some .directory) (directory : Path)
    (names : List String) :
    t'.obstacle? directory names = none ↔ t.obstacle? directory names = none := by
  induction names generalizing directory with
  | nil => exact Iff.rfl
  | cons name names ih =>
    have hnext := h (directory ++ [name])
    rw [obstacle?, obstacle?]
    split
    · simp
    · rcases ht : t.get? (directory ++ [name]) with _ | _ | _
      · rcases ht' : t'.get? (directory ++ [name]) with _ | _ | _
        · simp
        · rw [ht, ht'] at hnext
          simp at hnext
        · simp
      · rw [hnext.mpr ht]
        exact ih _
      · rcases ht' : t'.get? (directory ++ [name]) with _ | _ | _
        · simp
        · rw [ht, ht'] at hnext
          simp at hnext
        · simp

namespace Files.Disk

open FileTree

variable {d d' : Disk} {p q : Path} {text : String}

/-! ## Temporary names -/

theorem ofDigitChars_zeros (k : Nat) (ds : List Char) :
    Nat.ofDigitChars 10 (List.replicate k '0' ++ ds) 0 = Nat.ofDigitChars 10 ds 0 := by
  induction k with
  | zero => rfl
  | succ k ih =>
    rw [List.replicate_succ, List.cons_append]
    exact ih

/-- Different numbers have different tokens: the digits give the number back. -/
theorem token_injective : Function.Injective token := by
  intro m n h
  have hvalue : ∀ k, Nat.ofDigitChars 10 (token k).toList 0 = k := fun k => by
    unfold token
    rw [String.toList_ofList, ofDigitChars_zeros]
    exact Nat.ofDigitChars_toDigits (by decide) (by decide)
  rw [← hvalue m, h, hvalue n]

theorem temporary_injective (p : Path) : Function.Injective (temporary p) := by
  intro m n h
  have hlast := List.cons.inj (List.append_cancel_left h)
  have hname := hlast.1
  rw [String.append_left_inj, String.append_right_inj] at hname
  exact token_injective hname

/-- What a tree has at a path is among its entries. -/
theorem mem_paths_of_get? {t : FileTree} (hp : p ≠ []) (h : t.get? p ≠ none) :
    p ∈ t.entries.map (·.1) := by
  unfold FileTree.get? at h
  rw [if_neg hp] at h
  obtain ⟨n, hn⟩ := Option.ne_none_iff_exists'.mp h
  obtain ⟨before, after, hsplit, -⟩ := List.lookup_eq_some_iff.mp hn
  rw [hsplit]
  simp

/-- **The chosen temporary name** is the first one that is free. -/
theorem freeTemporary_spec (d : Disk) (p : Path) : ∃ n, d.freeTemporary p = temporary p n ∧
    d.tree.get? (temporary p n) = none ∧ ∀ m < n, d.tree.get? (temporary p m) ≠ none := by
  unfold freeTemporary
  rw [List.find?_map]
  cases hfind : (List.range (d.tree.entries.length + 1)).find?
      ((fun q => (d.tree.get? q).isNone) ∘ temporary p) with
  | some n =>
    obtain ⟨hfree, -, hfirst⟩ := List.find?_range_eq_some.mp hfind
    refine ⟨n, rfl, by simpa using hfree, fun m hm => ?_⟩
    simpa [Option.isSome_iff_ne_none] using hfirst m hm
  | none =>
    -- all of these names would be taken, which are more than the tree has paths
    have htaken : (List.range (d.tree.entries.length + 1)).map (temporary p) ⊆
        d.tree.entries.map (·.1) := by
      intro q hq
      obtain ⟨n, hn, rfl⟩ := List.mem_map.mp hq
      have hsome := List.find?_eq_none.mp hfind n hn
      exact mem_paths_of_get? (temporary_ne_nil p n) (by simpa using hsome)
    have hnodup : ((List.range (d.tree.entries.length + 1)).map (temporary p)).Nodup :=
      List.Nodup.map (temporary_injective p) List.nodup_range
    have hlength := (hnodup.subperm htaken).length_le
    rw [List.length_map, List.length_map, List.length_range] at hlength
    omega

theorem freeTemporary_free (d : Disk) (p : Path) : d.tree.get? (d.freeTemporary p) = none := by
  obtain ⟨n, hn, hfree, -⟩ := d.freeTemporary_spec p
  rw [hn]
  exact hfree

/-- The chosen name depends on the temporary names that are taken, and on nothing else. -/
theorem freeTemporary_congr
    (h : ∀ n, d'.tree.get? (temporary p n) = d.tree.get? (temporary p n)) :
    d'.freeTemporary p = d.freeTemporary p := by
  obtain ⟨m, hm, hfree, hfirst⟩ := d'.freeTemporary_spec p
  obtain ⟨n, hn, hfree', hfirst'⟩ := d.freeTemporary_spec p
  rw [h] at hfree
  have heq : m = n := by
    rcases Nat.lt_trichotomy m n with hlt | heq | hlt
    · exact absurd hfree (hfirst' m hlt)
    · exact heq
    · exact absurd ((h n).trans hfree') (hfirst n hlt)
  rw [hm, hn, heq]

/-! ## Replacing -/

/-- **A path that can be written to**: its directory can be reached, the temporary name beside it is
not too long, and it leads to no directory itself. -/
structure Writable (d : Disk) (p : Path) : Prop where
  reachable : d.tree.obstacle? [] p.parent = none
  fits : (d.freeTemporary p).name.utf8ByteSize ≤ FileTree.maxName
  clear : d.tree.get? p ≠ some .directory

theorem freeTemporary_parent (d : Disk) (p : Path) : (d.freeTemporary p).parent = p.parent := by
  obtain ⟨n, hn⟩ := d.freeTemporary_eq p
  rw [hn, temporary, Path.parent, List.dropLast_concat]

/-- A temporary file can be created just if it can be reached and its name is not too long. -/
theorem create_freeTemporary (d : Disk) (p : Path) (mode : Nat) (text : String) :
    (d.tree.create (d.freeTemporary p) mode text = .ok (d.tree.set (d.freeTemporary p)
      (.file mode text)) ∧ d.tree.obstacle? [] p.parent = none ∧
        (d.freeTemporary p).name.utf8ByteSize ≤ FileTree.maxName) ∨
      (∃ r, d.tree.create (d.freeTemporary p) mode text = .error r) ∧
        ¬ (d.tree.obstacle? [] p.parent = none ∧
          (d.freeTemporary p).name.utf8ByteSize ≤ FileTree.maxName) := by
  unfold FileTree.create FileTree.blocked?
  rw [freeTemporary_parent, freeTemporary_free]
  cases hreach : d.tree.obstacle? [] p.parent with
  | some r => exact Or.inr ⟨⟨r, rfl⟩, by simp⟩
  | none =>
    by_cases hlong : FileTree.maxName < (d.freeTemporary p).name.utf8ByteSize
    · rw [if_pos hlong]
      exact Or.inr ⟨⟨_, rfl⟩, fun h => absurd hlong (Nat.not_lt.mpr h.2)⟩
    · rw [if_neg hlong]
      exact Or.inl ⟨rfl, rfl, Nat.le_of_not_lt hlong⟩

/-- **A file can be replaced** just if its path can be written to. -/
theorem replaceFile_ok_iff (d : Disk) (p : Path) (text : String) :
    (d.replaceFile p text).2 = .ok () ↔ d.Writable p := by
  have hne := d.freeTemporary_ne_nil p
  have hfree := d.freeTemporary_free p
  unfold replaceFile
  simp only
  rcases d.create_freeTemporary p 0o600 text with ⟨hcreate, hreach, hfits⟩ | ⟨⟨r, hcreate⟩, hnot⟩
  · have hclear : d.Writable p ↔ d.tree.get? p ≠ some .directory :=
      ⟨fun h => h.clear, fun h => ⟨hreach, hfits, h⟩⟩
    rw [hclear, hcreate]
    simp only
    generalize d.freeTemporary p = temp at hne hfree
    unfold FileTree.rename
    rw [get?_set hne, if_pos rfl, get?_set hne, get?_set hne]
    by_cases hp : p = temp
    · rw [if_pos hp, hp, hfree]
      simp
    · rw [if_neg hp, if_neg hp]
      rcases d.tree.get? p with _ | _ | _
      · simp
      · simp
      · simp
  · rw [hcreate]
    exact iff_of_false (by simp) fun h => hnot ⟨h.reachable, h.fits⟩

/-- **Replacing a file makes no difference** to which other files can be replaced. -/
theorem writable_of_replaceFile (h : d.replaceFile q text = (d', .ok ()))
    (hq : ∀ n, q ≠ temporary p n) : d'.Writable p ↔ d.Writable p := by
  obtain ⟨-, hclear, hget⟩ := replaceFile_eq_ok h
  have hdirectory : ∀ r, d'.tree.get? r = some .directory ↔ d.tree.get? r = some .directory := by
    intro r
    rw [hget]
    split
    · rename_i hr
      rw [hr]
      exact iff_of_false (by simp) hclear
    · rfl
  have htemporary : d'.freeTemporary p = d.freeTemporary p :=
    freeTemporary_congr fun n => by rw [hget, if_neg fun hn => hq n hn.symm]
  constructor
  · rintro ⟨hreach, hfits, hp⟩
    exact ⟨(obstacle?_congr hdirectory _ _).mp hreach, htemporary ▸ hfits,
      fun hd => hp ((hdirectory p).mpr hd)⟩
  · rintro ⟨hreach, hfits, hp⟩
    exact ⟨(obstacle?_congr hdirectory _ _).mpr hreach, htemporary ▸ hfits,
      fun hd => hp ((hdirectory p).mp hd)⟩

end Files.Disk

end SchemaModels
