import SchemaModels.Proofs.Files.Writable

/-!
# Replacing any file with any text

A replacement is meant to be atomic: it puts a text in its place and touches nothing else, or it is
refused with a problem that names the path and touches nothing at all. `Replaces` follows each
replacement to its end, one constructor for each, and two of them are neither. A path that the
system would cut off is the fault of its name, and a text that has no bytes leaves a temporary file
behind (`writeContent_atomic_iff`).
-/

namespace SchemaModels.Files

open FileTree

/-- A problem of writing that names the path. -/
def NamesPath (p : Path) (e : Failure) : Prop :=
  ∃ problem, e = .problem problem ∧ problem.report.category = .outputWrite ∧
    problem.report.context = [("path", .text (Path.text p))]

theorem namesPath_unwritable (e : FileError) (p : Path) :
    NamesPath p (.problem (.unwritable e (Path.text p))) := by
  have hnamed : (Path.text p).isEmpty = false := by simp [Path.text]
  have hcontext : (Problem.unwritable e (Path.text p)).report.context =
      Report.note [("path", .text (Path.text p))] [] ⟨"path", "path", false⟩ := rfl
  refine ⟨_, rfl, rfl, ?_⟩
  rw [hcontext]
  simp [Report.note, Json.isBlank, hnamed, Json.setKey]

theorem not_namesPath_fault (p : Path) (f : Fault) : ¬ NamesPath p (.fault f) := by
  rintro ⟨problem, h, -⟩
  cases h

namespace Disk

variable {d d' : Disk} {p : Path} {text : String} {content : Option String} {o : Outcome Unit}

/-! ## What is meant -/

/-- The permission bits that a file written to a path is to have: those of the file that it
replaces, or those of a new one. -/
structure IsMode (d : Disk) (p : Path) (bits : Nat) : Prop where
  kept : ∀ mode old, d.tree.get? p = some (.file mode old) → bits = mode
  fresh : d.tree.get? p = none → bits = 0o666 &&& (0o777 ^^^ d.umask)

/-- **An atomic replacement**: it goes through and changes its path alone, or it is told and changes
nothing. -/
inductive Atomic (d : Disk) (p : Path) (content : Option String) (d' : Disk) : Outcome Unit → Prop
  | replaced {text : String} {bits : Nat} (given : content = some text) (mode : d.IsMode p bits)
      (umask : d'.umask = d.umask)
      (tree : ∀ q, d'.tree.get? q = if q = p then some (.file bits text) else d.tree.get? q) :
      Atomic d p content d' (.ok ())
  | refused {e : Failure} (told : NamesPath p e) (unchanged : d' = d) :
      Atomic d p content d' (.error e)

theorem isMode_modeFor (d : Disk) (p : Path) : d.IsMode p (d.modeFor p) := by
  unfold modeFor
  exact ⟨fun mode old h => by rw [h], fun h => by rw [h]; rfl⟩

/-! ## How it ends -/

/-- A temporary file can be created beside the path. -/
def Begins (d : Disk) (p : Path) : Prop :=
  d.tree.obstacle? [] p.parent = none ∧ (d.freeTemporary p).name.utf8ByteSize ≤ FileTree.maxName

/-- **The ways in which a replacement ends.** -/
inductive Replaces (d : Disk) (p : Path) : Option String → Disk → Outcome Unit → Prop
  | replaced {text : String} {d' : Disk} (whole : p.isCut = false) (writable : d.Writable p)
      (umask : d'.umask = d.umask)
      (tree : ∀ q, d'.tree.get? q =
        if q = p then some (.file (d.modeFor p) text) else d.tree.get? q) :
      Replaces d p (some text) d' (.ok ())
  | refused {text : String} (whole : p.isCut = false) (unwritable : ¬ d.Writable p)
      (e : FileError) :
      Replaces d p (some text) d (.error (.problem (.unwritable e (Path.text p))))
  /-- A text without bytes that would not be written anyway. -/
  | unbegun (whole : p.isCut = false) (unreachable : ¬ d.Begins p) (e : FileError) :
      Replaces d p none d (.error (.problem (.unwritable e (Path.text p))))
  /-- A text without bytes: an empty temporary file is there then. -/
  | abandoned {d' : Disk} (whole : p.isCut = false) (begun : d.Begins p)
      (free : d.tree.get? (d.freeTemporary p) = none) (umask : d'.umask = d.umask)
      (tree : ∀ q, d'.tree.get? q = if q = d.freeTemporary p
        then some (.file (0o600 &&& (0o777 ^^^ d.umask)) "") else d.tree.get? q) :
      Replaces d p none d' (.error (.fault .unencodable))
  | cut {content : Option String} (cut : p.isCut = true) :
      Replaces d p content d (.error (.fault .cutPath))

/-- A text with bytes replaces the file just if its path can be written to. -/
theorem replaces_of_writeWhole (whole : p.isCut = false) (h : (writeWhole p text).Ends d d' o) :
    Replaces d p (some text) d' o := by
  cases o with
  | ok u =>
    obtain ⟨humask, -, hget⟩ := ends_writeWhole_ok h
    refine .replaced whole ((d.replaceFile_ok_iff p text).mp ?_) humask hget
    rw [replaceFile_of_ends h]
  | error e =>
    have hunwritable : ¬ d.Writable p := fun hwritable => by
      obtain ⟨-, ho⟩ := ends_writeWhole_iff.mp h
      rw [(d.replaceFile_ok_iff p text).mpr hwritable] at ho
      cases ho
    obtain ⟨rfl, f, rfl⟩ := ends_writeWhole_error h
    exact .refused whole hunwritable f

/-- A text without bytes gets as far as its temporary file. -/
theorem replaces_of_abandon (whole : p.isCut = false) (h : (abandon p).Ends d d' o) :
    Replaces d p none d' o := by
  unfold abandon at h
  rw [Task.ends_get_bind_iff] at h
  rcases d.create_freeTemporary p (0o600 &&& (0o777 ^^^ d.umask)) "" with
    ⟨hcreate, hbegins⟩ | ⟨⟨r, hcreate⟩, hnot⟩
  · simp only [hcreate] at h
    obtain ⟨rfl, rfl⟩ := h
    exact .abandoned whole hbegins (d.freeTemporary_free p) rfl
      fun q => get?_set (d.freeTemporary_ne_nil p) q
  · simp only [hcreate] at h
    obtain ⟨rfl, rfl⟩ := h
    exact .unbegun whole hnot _

/-- **Each replacement ends in one of these ways.** -/
theorem replaces_writeContent (h : (writeContent p content).Ends d d' o) :
    Replaces d p content d' o := by
  unfold writeContent at h
  cases hcut : p.isCut with
  | true =>
    rw [if_pos hcut] at h
    obtain ⟨rfl, rfl⟩ := Task.ends_lift_iff.mp h
    exact .cut hcut
  | false =>
    rw [if_neg (by simp [hcut])] at h
    cases content with
    | some text => exact replaces_of_writeWhole hcut h
    | none => exact replaces_of_abandon hcut h

/-- A replacement is atomic unless it ends with a fault. -/
theorem Replaces.atomic_iff (h : Replaces d p content d' o) : Atomic d p content d' o ↔
    p.isCut = false ∧ (content = none → ¬ d.Begins p) := by
  have hfault : ∀ {d' : Disk} {f : Fault}, ¬ Atomic d p content d' (.error (.fault f)) := by
    rintro d' f ⟨⟩
    exact not_namesPath_fault p f ‹_›
  cases h with
  | replaced whole writable umask tree =>
    exact iff_of_true (.replaced rfl (isMode_modeFor d p) umask tree) ⟨whole, by simp⟩
  | refused whole unwritable e =>
    exact iff_of_true (.refused (namesPath_unwritable e p) rfl) ⟨whole, by simp⟩
  | unbegun whole unreachable e =>
    exact iff_of_true (.refused (namesPath_unwritable e p) rfl) ⟨whole, fun _ => unreachable⟩
  | abandoned whole begun => exact iff_of_false hfault fun h => h.2 rfl begun
  | cut cut => exact iff_of_false hfault fun h => by rw [cut] at h; cases h.1

/-- **What replacing a file comes to.** -/
structure Replacement (d : Disk) (p : Path) (content : Option String) (d' : Disk)
    (o : Outcome Unit) : Prop where
  ends : Replaces d p content d' o
  /-- All that is not atomic is a path that the system would cut off, or a text without bytes. -/
  atomic : Atomic d p content d' o ↔ p.isCut = false ∧ (content = none → ¬ d.Begins p)

/-- **When a replacement is atomic.** Whatever the tree, the path, the text and the umask: just if
the system would not cut the path off, and the text has bytes or its temporary file cannot be
created. -/
theorem writeContent_atomic_iff (d : Disk) (p : Path) (content : Option String) :
    Replacement d p content ((writeContent p content).run d).1
      ((writeContent p content).run d).2.outcome :=
  have ends := replaces_writeContent (Task.ends_run (writeContent p content) d)
  ⟨ends, ends.atomic_iff⟩

/-- A disk without files. -/
def bareDisk : Disk := { tree := ⟨[]⟩ }

/-- A name that the system would cut off in the middle. -/
def cutName : Path := ["a\x00b.py"]

/-- The fault of such a name is passed on. -/
theorem not_atomic_cut : ¬ Atomic bareDisk cutName (some "x")
    ((writeContent cutName (some "x")).run bareDisk).1
    ((writeContent cutName (some "x")).run bareDisk).2.outcome := by
  have ends := replaces_writeContent (Task.ends_run (writeContent cutName (some "x")) bareDisk)
  exact fun h => absurd (ends.atomic_iff.mp h).1 (by decide)

/-- A text without bytes leaves its temporary file. -/
example : ((writeContent ["a.py"] none).run bareDisk).1.tree.entries =
    [([".a.py.00000000.tmp"], .file 0o600 "")] := by decide +kernel

end Disk

end SchemaModels.Files
