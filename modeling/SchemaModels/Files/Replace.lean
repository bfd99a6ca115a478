import SchemaModels.Files.Tree
import SchemaModels.Task

/-!
Writing a file as a whole: its text goes to a temporary file beside it, which then takes its place.
Whatever operation is refused on the way, the temporary file is removed again.
-/

namespace SchemaModels.Files

/-- A file tree, with the bits that new files do not get. -/
structure Disk where
  tree : FileTree
  umask : Nat := 0o022
  deriving Inhabited

namespace Disk

/-- The permission bits of a new file. -/
def newMode (d : Disk) : Nat := 0o666 &&& (0o777 ^^^ d.umask)

/-- The permission bits that a file written to a path gets: those of the file that it replaces, else
those of a new file. -/
def modeFor (d : Disk) (p : Path) : Nat :=
  match d.tree.get? p with
  | some (.file mode _) => mode
  | _ => d.newMode

/-- The number of the temporary name, in eight digits. -/
def token (n : Nat) : String :=
  let ds := Nat.toDigits 10 n
  String.ofList (List.replicate (8 - ds.length) '0' ++ ds)

/-- A name for a temporary file beside a path. -/
def temporary (p : Path) (n : Nat) : Path :=
  p.parent ++ ["." ++ p.name ++ "." ++ token n ++ ".tmp"]

/-- The first temporary name that is free. Among one more name than the tree has paths there is
one. -/
def freeTemporary (d : Disk) (p : Path) : Path :=
  ((List.range (d.tree.entries.length + 1)).map (temporary p)).find? (fun q =>
    (d.tree.get? q).isNone) |>.getD (temporary p 0)

/-- Replaces a file, or creates it. -/
def replaceFile (d : Disk) (p : Path) (text : String) : Disk × Except FileError Unit :=
  let temp := d.freeTemporary p
  match d.tree.create temp 0o600 text with
  | .error r => (d, .error { refusal := r, path := Path.text temp })
  | .ok written =>
    let ready := written.set temp (.file (d.modeFor p) text)
    match ready.rename temp p with
    | .ok t => ({ d with tree := t }, .ok ())
    | .error r =>
      ({ d with tree := ready.erase temp },
        .error { refusal := r, path := Path.text temp, target? := some (Path.text p) })

/-- Replaces a file as a step of a run. -/
def writeWhole (p : Path) (text : String) : Task Disk Unit := do
  let (d, result) := (← Task.get).replaceFile p text
  Task.set d
  match result with
  | .ok () => Task.note .debug ("Generated file: " ++ Path.text p)
  | .error e => Task.refuse (.unwritable e (Path.text p))

/-- Begins to replace a file, with a text that cannot be written. The temporary file has been
created by then, and it stays. -/
def abandon (p : Path) : Task Disk Unit := do
  let d ← Task.get
  let temp := d.freeTemporary p
  match d.tree.create temp (0o600 &&& (0o777 ^^^ d.umask)) "" with
  | .ok t => do
    Task.set { d with tree := t }
    Task.lift (Logged.ofChecked (.error .unencodable))
  | .error r => Task.refuse (.unwritable { refusal := r, path := Path.text temp } (Path.text p))

/-- Replaces a file with any text, which is none if it holds half of a surrogate pair. A path that
the system would cut off is not tried. -/
def writeContent (p : Path) (content : Option String) : Task Disk Unit :=
  if p.isCut then Task.lift (Logged.ofChecked (.error .cutPath))
  else match content with
    | some text => writeWhole p text
    | none => abandon p

/-- Creates a directory and those above it that are missing; a directory that is there already is
no failure. What was created before a failure stays. The depth is the number of names to try. -/
def makeDirectories (t : FileTree) (p : Path) : (depth : Nat) → FileTree × Except FileError Unit
  | 0 => (t, .error { refusal := .missing, path := Path.text p })
  | depth + 1 =>
    match t.makeDirectory p with
    | .ok t => (t, .ok ())
    | .error .missing =>
      match makeDirectories t p.parent depth with
      | (t, .error e) => (t, .error e)
      | (t, .ok ()) =>
        match t.makeDirectory p with
        | .ok t => (t, .ok ())
        | .error r => (t, .error { refusal := r, path := Path.text p })
    | .error r =>
      if t.isDirectory p then (t, .ok ()) else (t, .error { refusal := r, path := Path.text p })

/-- Makes sure that the output directory is there. -/
def outputDirectory (p : Path) : Task Disk Unit := do
  let d ← Task.get
  let (t, result) := makeDirectories d.tree p (p.length + 1)
  Task.set { d with tree := t }
  match result with
  | .ok () => pure ()
  | .error e => Task.refuse (.noDirectory e (Path.text p))

end Disk

end SchemaModels.Files
