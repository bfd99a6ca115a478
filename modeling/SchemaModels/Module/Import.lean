import SchemaModels.Source.Statement

/-!
The imports of a generated module. They are kept in their final order while they are collected:
one entry for each module that a name is needed from, entries by group, level and module, and the
names of an entry ascending without repetition.
-/

namespace SchemaModels

/-- Names imported from one module, `level` packages up. -/
structure ImportSpec where
  module : String
  names : List String
  level : Nat := 0
  deriving DecidableEq, Inhabited

namespace ImportSpec

/-- Modules of the standard library that generated modules use. -/
def standardModules : List String := ["datetime", "enum", "typing"]

/-- Imports come in four groups: of language features, of the standard library, of other
libraries, and of the package itself. -/
def groupOf (module : String) (level : Nat) : Nat :=
  if module = "__future__" then 0
  else if level ≠ 0 then 3
  else if standardModules.contains (String.ofList (module.toList.takeWhile (· ≠ '.'))) then 1
  else 2

def group (s : ImportSpec) : Nat := groupOf s.module s.level

/-- The entry comes before those from the given module: by group, then level, then module. -/
def isBefore (s : ImportSpec) (module : String) (level : Nat) : Bool :=
  let g := groupOf module level
  s.group < g || (s.group == g && (s.level < level || (s.level == level && s.module < module)))

/-- The import statement; an empty module name is left out. -/
def statement (s : ImportSpec) : Source.Statement :=
  .importNames s.level (if s.module.isEmpty then none else some s.module) s.names

end ImportSpec

namespace ImportList

/-- Puts a name into ascending names, once. -/
def insertName (name : String) : List String → List String
  | [] => [name]
  | n :: ns =>
    if name = n then n :: ns
    else if name < n then name :: n :: ns
    else n :: insertName name ns

/-- Puts a name into the entry of its module, or into a new entry at its place. -/
def insert (module : String) (level : Nat) (name : String) : List ImportSpec → List ImportSpec
  | [] => [⟨module, [name], level⟩]
  | s :: rest =>
    if s.module = module ∧ s.level = level then { s with names := insertName name s.names } :: rest
    else if s.isBefore module level then s :: insert module level name rest
    else ⟨module, [name], level⟩ :: s :: rest

/-- Adds names of one module; without names nothing is added. -/
def add (module : String) (names : List String) (level : Nat) (specs : List ImportSpec) :
    List ImportSpec :=
  names.foldl (fun acc name => insert module level name acc) specs

end ImportList

end SchemaModels
