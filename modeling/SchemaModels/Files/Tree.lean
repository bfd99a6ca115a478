import SchemaModels.Files.Error
import SchemaModels.Files.Path

/-!
A tree of files and directories, and the operations of a file system on it. Each operation gives
the changed tree or says why it is refused.
-/

namespace SchemaModels

open Files

/-- What a path leads to: a directory, or a file with its permission bits and its text. -/
inductive Files.Node where
  | directory
  | file (mode : Nat) (text : String)
  deriving DecidableEq, Inhabited

/-- The files and directories below the root, each path once. -/
structure FileTree where
  entries : List (Path × Node)
  deriving DecidableEq, Inhabited

namespace FileTree

/-- What a path leads to. The root is a directory. -/
def get? (t : FileTree) (p : Path) : Option Node :=
  if p = [] then some .directory else t.entries.lookup p

/-- Sets what a path leads to. -/
def put (p : Path) (n : Node) : List (Path × Node) → List (Path × Node)
  | [] => [(p, n)]
  | (q, m) :: rest => if q = p then (p, n) :: rest else (q, m) :: put p n rest

/-- The tree with a node at a path. -/
def set (t : FileTree) (p : Path) (n : Node) : FileTree := ⟨put p n t.entries⟩

/-- The tree without a path. -/
def erase (t : FileTree) (p : Path) : FileTree := ⟨t.entries.filter (·.1 ≠ p)⟩

/-- The most bytes that a name may have. -/
def maxName : Nat := 255

/-- Why no path through these names can be followed from a directory. -/
def obstacle? (t : FileTree) (directory : Path) : List String → Option Refusal
  | [] => none
  | name :: rest =>
    if maxName < name.utf8ByteSize then some .nameTooLong
    else match t.get? (directory ++ [name]) with
      | none => some .missing
      | some (.file ..) => some .notDirectory
      | some .directory => t.obstacle? (directory ++ [name]) rest

/-- Why a path cannot be looked at: a directory on the way is none, or its own name is too long. -/
def blocked? (t : FileTree) (p : Path) : Option Refusal :=
  match t.obstacle? [] p.parent with
  | some r => some r
  | none => if maxName < p.name.utf8ByteSize then some .nameTooLong else none

/-- Creates a file that must not exist. -/
def create (t : FileTree) (p : Path) (mode : Nat) (text : String) : Except Refusal FileTree :=
  match t.blocked? p with
  | some r => .error r
  | none =>
    match t.get? p with
    | some _ => .error .exists
    | none => .ok (t.set p (.file mode text))

/-- Removes a file. -/
def unlink (t : FileTree) (p : Path) : Except Refusal FileTree :=
  match t.blocked? p with
  | some r => .error r
  | none =>
    match t.get? p with
    | none => .error .missing
    | some .directory => .error .isDirectory
    | some (.file ..) => .ok (t.erase p)

/-- Moves a file over another path, which must not be a directory. -/
def rename (t : FileTree) (source target : Path) : Except Refusal FileTree :=
  match t.get? source, t.get? target with
  | none, _ => .error .missing
  | some _, some .directory => .error .isDirectory
  | some n, _ => .ok ((t.erase source).set target n)

/-- Creates a directory. -/
def makeDirectory (t : FileTree) (p : Path) : Except Refusal FileTree :=
  match t.blocked? p with
  | some r => .error r
  | none =>
    match t.get? p with
    | some _ => .error .exists
    | none => .ok (t.set p .directory)

/-- The path is a directory. -/
def isDirectory (t : FileTree) (p : Path) : Bool := t.get? p == some .directory

/-- Writes a file in place: an existing one keeps its permission bits. -/
def write (t : FileTree) (p : Path) (umask : Nat) (text : String) : Except Refusal FileTree :=
  match t.blocked? p with
  | some r => .error r
  | none =>
    match t.get? p with
    | some .directory => .error .isDirectory
    | some (.file mode _) => .ok (t.set p (.file mode text))
    | none => .ok (t.set p (.file (0o666 &&& (0o777 ^^^ umask)) text))

/-- The file that a path text leads to from a directory. Directories on the way must be there, also
those that two dots lead back from. -/
def follow (t : FileTree) (p : Path) : List String → Option Path
  | [] => some p
  | name :: rest =>
    if t.isDirectory p then t.follow (Path.step p name) rest else none

/-- The text of the file that a path text leads to from a directory. -/
def textOf? (t : FileTree) (directory : Path) (s : String) : Option String :=
  match t.follow (if Path.isAbsolute s then [] else directory) (Path.names s) with
  | none => none
  | some p =>
    match t.get? p with
    | some (.file _ text) => some text
    | _ => none

end FileTree

end SchemaModels
