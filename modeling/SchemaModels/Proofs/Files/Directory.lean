import SchemaModels.Files.Replace
import SchemaModels.Proofs.Files.Tree
import SchemaModels.Proofs.Task

/-!
# Creating a directory

Creating a directory creates those above it that are missing, and leaves them there if it fails
later on. `Opened` says that nothing else changes: it holds after every attempt, whether it succeeds
or not (`opened_makeDirectories`).
-/

namespace SchemaModels

open Files (Path Disk)

variable {t t' t'' : FileTree} {p q : Path}

namespace FileTree

/-- **A path has been opened**: what has changed is new directories on the way to it. -/
def Opened (t t' : FileTree) (p : Path) : Prop :=
  ∀ q, t'.get? q = t.get? q ∨ (q <+: p ∧ t.get? q = none ∧ t'.get? q = some .directory)

theorem opened_refl (t : FileTree) (p : Path) : t.Opened t p := fun _ => Or.inl rfl

/-- What is opened on the way to a directory is opened on the way to what lies in it. -/
theorem Opened.child (h : t.Opened t' p.parent) : t.Opened t' p := fun q =>
  (h q).imp_right fun ⟨hq, hnew⟩ => ⟨hq.trans (List.dropLast_prefix p), hnew⟩

theorem Opened.trans (h₁ : t.Opened t' p) (h₂ : t'.Opened t'' p) : t.Opened t'' p := by
  intro q
  rcases h₂ q with h₂ | ⟨hq, hnone, hnew⟩
  · rw [h₂]
    exact h₁ q
  · rcases h₁ q with h₁ | ⟨-, -, hdir⟩
    · exact Or.inr ⟨hq, h₁ ▸ hnone, hnew⟩
    · rw [hnone] at hdir
      cases hdir

theorem opened_of_makeDirectory (h : t.makeDirectory p = .ok t') : t.Opened t' p := by
  unfold makeDirectory at h
  split at h
  · cases h
  · split at h
    · cases h
    · rename_i hnone
      cases h
      have hp : p ≠ [] := by
        rintro rfl
        rw [get?_nil] at hnone
        cases hnone
      intro q
      rw [get?_set hp]
      by_cases hq : q = p
      · subst hq
        exact Or.inr ⟨List.prefix_rfl, hnone, if_pos rfl⟩
      · exact Or.inl (if_neg hq)

end FileTree

namespace Files.Disk

open FileTree

/-- **An attempt to create a directory** opens the way to it, and changes nothing else. -/
theorem opened_makeDirectories (t : FileTree) (p : Path) (depth : Nat) :
    t.Opened (makeDirectories t p depth).1 p := by
  induction depth generalizing p with
  | zero => exact t.opened_refl p
  | succ depth ih =>
    have hparent := (ih p.parent).child
    rw [makeDirectories]
    cases hmake : t.makeDirectory p with
    | ok t' => exact opened_of_makeDirectory hmake
    | error r =>
      cases r with
      | missing =>
        simp only
        generalize makeDirectories t p.parent depth = parent at hparent
        obtain ⟨t', e | u⟩ := parent
        · exact hparent
        · cases hagain : t'.makeDirectory p with
          | ok t'' =>
            simp only [hagain]
            exact hparent.trans (opened_of_makeDirectory hagain)
          | error r =>
            simp only [hagain]
            exact hparent
      | _ =>
        simp only
        split <;> exact t.opened_refl p

variable {d d' : Disk}

theorem ends_outputDirectory {o : Outcome Unit} (h : (outputDirectory p).Ends d d' o) :
    d'.umask = d.umask ∧ d.tree.Opened d'.tree p := by
  have hopened := opened_makeDirectories d.tree p (p.length + 1)
  unfold outputDirectory at h
  rw [Task.ends_get_bind_iff] at h
  generalize makeDirectories d.tree p (p.length + 1) = made at h hopened
  obtain ⟨t, e | u⟩ := made
  · obtain ⟨rfl, -⟩ := h
    exact ⟨rfl, hopened⟩
  · obtain ⟨rfl, -⟩ := h
    exact ⟨rfl, hopened⟩

end Files.Disk

end SchemaModels
