import SchemaModels.Files.Replace
import SchemaModels.Proofs.Files.Tree
import SchemaModels.Proofs.Task

/-!
# A file is replaced as a whole or not at all

`replaceFile_eq_set`, `replaceFile_eq_ok`: a replacement that goes through changes the one path it
is about, and leaves nothing of its temporary file. `replaceFile_eq_error`: one that is refused, at
whatever step, leaves the disk as it was. `ends_writeWhole_ok` and `ends_writeWhole_error` say the
same of the step of a run, where a refusal becomes the problem that names the path.
-/

namespace SchemaModels.Files.Disk

open FileTree

variable {d d' : Disk} {p : Path} {text : String}

/-! ## Temporary names -/

theorem temporary_ne_nil (p : Path) (n : Nat) : temporary p n ≠ [] := by
  simp [temporary]

/-- The name of a source file is no temporary one. -/
theorem snoc_ne_temporary (front : Path) (stem : String) (p : Path) (n : Nat) :
    front ++ [stem ++ ".py"] ≠ temporary p n := by
  intro h
  have hlast := (List.append_inj' h rfl).2
  rw [List.cons.injEq] at hlast
  have hlist := congrArg (fun s : String => s.toList.getLast?) hlast.1
  have hpy : ".py".toList.getLast? = some 'y' := by decide
  have htmp : ".tmp".toList.getLast? = some 'p' := by decide
  simp only [String.toList_append, List.getLast?_append, hpy, htmp, Option.some_or] at hlist
  exact absurd hlist (by decide)

/-- The chosen temporary name is one of the temporary names beside the path. -/
theorem freeTemporary_eq (d : Disk) (p : Path) : ∃ n, d.freeTemporary p = temporary p n := by
  unfold freeTemporary
  cases h : ((List.range (d.tree.entries.length + 1)).map (temporary p)).find? fun q =>
      (d.tree.get? q).isNone with
  | none => exact ⟨0, rfl⟩
  | some q =>
    obtain ⟨n, -, hn⟩ := List.mem_map.mp (List.mem_of_find?_eq_some h)
    exact ⟨n, hn.symm⟩

theorem freeTemporary_ne_nil (d : Disk) (p : Path) : d.freeTemporary p ≠ [] := by
  obtain ⟨n, hn⟩ := d.freeTemporary_eq p
  rw [hn]
  exact temporary_ne_nil p n

/-! ## One replacement -/

/-- **A replacement that goes through sets its path**, and does nothing else to the entries of the
tree. -/
theorem replaceFile_eq_set (h : d.replaceFile p text = (d', .ok ())) :
    d.tree.get? p ≠ some .directory ∧
      d' = { d with tree := d.tree.set p (.file (d.modeFor p) text) } := by
  have hne := d.freeTemporary_ne_nil p
  unfold replaceFile at h
  simp only at h
  generalize d.freeTemporary p = temp at h hne
  split at h
  · cases h
  · rename_i written hcreate
    obtain ⟨hfree, rfl⟩ := create_eq_ok hcreate
    split at h
    · rename_i t hrename
      obtain ⟨n, hn, htarget, rfl⟩ := rename_eq_ok hrename
      cases h
      rw [get?_set hne, if_pos rfl, Option.some.injEq] at hn
      rw [get?_set hne, get?_set hne] at htarget
      -- the temporary path is free before, and free again after the move
      refine ⟨fun hdir => ?_, by rw [← hn, erase_set_set hne hfree]⟩
      by_cases hpt : p = temp
      · rw [hpt, hfree] at hdir
        cases hdir
      · rw [if_neg hpt, if_neg hpt] at htarget
        exact htarget hdir
    · cases h

/-- **A replacement that goes through** leaves the text at the path, with the bits of the file that
was there or those of a new one, and everything else as it was. -/
theorem replaceFile_eq_ok (h : d.replaceFile p text = (d', .ok ())) :
    d'.umask = d.umask ∧ d.tree.get? p ≠ some .directory ∧
      ∀ q, d'.tree.get? q = if q = p then some (.file (d.modeFor p) text) else d.tree.get? q := by
  obtain ⟨hclear, rfl⟩ := replaceFile_eq_set h
  have hp : p ≠ [] := by
    rintro rfl
    exact hclear (get?_nil _)
  exact ⟨rfl, hclear, fun q => get?_set hp q⟩

/-- **A refused replacement changes nothing**: the temporary file was not created, or is gone. -/
theorem replaceFile_eq_error {e : FileError} (h : d.replaceFile p text = (d', .error e)) :
    d' = d := by
  have hne := d.freeTemporary_ne_nil p
  unfold replaceFile at h
  simp only at h
  generalize d.freeTemporary p = temp at h hne
  split at h
  · cases h
    rfl
  · rename_i written hcreate
    obtain ⟨hfree, rfl⟩ := create_eq_ok hcreate
    split at h
    · cases h
    · cases h
      rw [erase_set_set hne hfree]

/-! ## The step of a run -/

/-- The step ends as the replacement does. -/
theorem ends_writeWhole_iff {o : Outcome Unit} :
    (writeWhole p text).Ends d d' o ↔ (d.replaceFile p text).1 = d' ∧
      (match (d.replaceFile p text).2 with
        | .ok () => .ok ()
        | .error e => .error (.problem (.unwritable e (Path.text p)))) = o := by
  unfold Task.Ends
  have hrun : (writeWhole p text).run d =
      ((Task.set (d.replaceFile p text).1 >>= fun _ =>
        match (d.replaceFile p text).2 with
        | .ok () => Task.note .debug ("Generated file: " ++ Path.text p)
        | .error e => Task.refuse (.unwritable e (Path.text p))).run d) := rfl
  rw [hrun]
  cases (d.replaceFile p text).2 with
  | ok u => exact Iff.rfl
  | error e => exact Iff.rfl

/-- A step that goes through is a replacement that goes through. -/
theorem replaceFile_of_ends {u : Unit} (h : (writeWhole p text).Ends d d' (.ok u)) :
    d.replaceFile p text = (d', .ok ()) := by
  obtain ⟨hd, ho⟩ := ends_writeWhole_iff.mp h
  rcases hr : d.replaceFile p text with ⟨d₁, result⟩
  rw [hr] at hd ho
  cases result with
  | error e => cases ho
  | ok _ => rw [← hd]

theorem ends_writeWhole_ok (h : (writeWhole p text).Ends d d' (.ok ())) :
    d'.umask = d.umask ∧ d.tree.get? p ≠ some .directory ∧
      ∀ q, d'.tree.get? q = if q = p then some (.file (d.modeFor p) text) else d.tree.get? q :=
  replaceFile_eq_ok (replaceFile_of_ends h)

theorem ends_writeWhole_error {e : Failure} (h : (writeWhole p text).Ends d d' (.error e)) :
    d' = d ∧ ∃ f, e = .problem (.unwritable f (Path.text p)) := by
  obtain ⟨hd, ho⟩ := ends_writeWhole_iff.mp h
  rcases hr : d.replaceFile p text with ⟨d₁, result⟩
  rw [hr] at hd ho
  cases result with
  | ok u => cases ho
  | error f =>
    cases ho
    rw [← hd]
    exact ⟨replaceFile_eq_error hr, f, rfl⟩

end SchemaModels.Files.Disk
