import SchemaModels.Naming

/-!
Absolute paths as lists of names, from the root down.
-/

namespace SchemaModels.Files

/-- An absolute path: the names on the way from the root. -/
abbrev Path := List String

namespace Path

/-- The text of a path. -/
def text (p : Path) : String :=
  "/" ++ "/".intercalate p

/-- The directory that holds a path. -/
def parent (p : Path) : Path := p.dropLast

/-- The last name of a path. -/
def name (p : Path) : String := p.getLast?.getD ""

/-- The system would cut the path off, at the character that ends texts for it. -/
def isCut (p : Path) : Bool := p.any fun n => n.toList.contains (Char.ofNat 0)

/-- The pieces of a text between the given characters. -/
def split (separator : Char) : List Char → List (List Char)
  | [] => [[]]
  | c :: cs =>
    if c = separator then [] :: split separator cs
    else match split separator cs with
      | [] => [[c]]
      | p :: ps => (c :: p) :: ps

/-- The names in a path text. Empty names and single dots count for nothing. -/
def names (s : String) : List String :=
  ((split '/' s.toList).map String.ofList).filter fun n => n != "" && n != "."

/-- The path text begins at the root. -/
def isAbsolute (s : String) : Bool := s.toList.head? == some '/'

/-- One name further on; two dots lead back. -/
def step (p : Path) (name : String) : Path :=
  if name = ".." then p.dropLast else p ++ [name]

/-- The path that a text stands for, seen from a directory, with two dots taken away. -/
def resolve (directory : Path) (s : String) : Path :=
  (names s).foldl step (if isAbsolute s then [] else directory)

/-- The path of a text seen from a directory, as it is written. -/
def below (directory : Path) (s : String) : Path :=
  (if isAbsolute s then [] else directory) ++ names s

end Path

end SchemaModels.Files
