import SchemaModels.Naming.Reserved
import SchemaModels.Text.Case
import SchemaModels.Text.Compat
import SchemaModels.Text.Identifier

/-!
Names of the generated source: how the names of collections, fields and select values become
module names, class names and members.

* `snakeCase` and `identifier` change between `snake_case` and `camelCase`.
* `singular` takes a plural to its singular, by a list of irregular words and by endings.
* `typeName`, `enumTypeName`, `moduleName`, `memberName` and `variantName` are what the generator
  uses. The last two make an identifier out of any text: the text is composed, characters that
  no identifier holds become underscores, and a reserved word gets an underscore at its end.
-/

namespace SchemaModels.Naming

/-! ## Case -/

/-- A small ASCII letter or an ASCII digit. -/
def isSmallOrDigit (c : Char) : Bool :=
  ('a' ≤ c && c ≤ 'z') || ('0' ≤ c && c ≤ '9')

/-- An ASCII capital. -/
def isCapital (c : Char) : Bool :=
  'A' ≤ c && c ≤ 'Z'

/-- Puts an underscore before every ASCII capital that directly follows a small ASCII letter or a
digit, so that capitals in a row stay together. -/
def separate : List Char → List Char
  | a :: b :: rest =>
    if isSmallOrDigit a && isCapital b then a :: '_' :: separate (b :: rest)
    else a :: separate (b :: rest)
  | cs => cs

/-- The snake-case form of a camel-case text. -/
def snakeCase (s : String) : String :=
  Text.lower (String.ofList (separate s.toList))

/-- With its first character in upper case; the spellings of "date time" give way to a token that
no built-in type has for a name. -/
def capitalized (s : String) : String :=
  if dateTimeSpellings.contains s then dateTimeToken
  else match s.toList with
    | [] => s
    | c :: cs => String.ofList (Text.upperChar c ++ cs)

/-- The pieces between underscores, empty ones included. -/
def pieces : List Char → List (List Char)
  | [] => [[]]
  | c :: cs =>
    if c = '_' then [] :: pieces cs
    else match pieces cs with
      | [] => [[c]]
      | p :: ps => (c :: p) :: ps

/-- Joins the pieces of a snake-case text: the first one as it is, the others capitalized. -/
def identifier (s : String) : String :=
  match (pieces s.toList).filter (!·.isEmpty) with
  | [] => ""
  | p :: ps => ps.foldl (fun acc q => acc ++ capitalized (String.ofList q)) (String.ofList p)

/-! ## Number -/

/-- The text without an ending that it has. -/
def withoutEnd? (ending : String) (s : String) : Option String :=
  if ending.toList.isSuffixOf s.toList then
    some (String.ofList (s.toList.take (s.length - ending.length)))
  else none

/-- The singular of a word: an irregular one by the list, else by its ending. -/
def singular (word : String) : String :=
  match irregulars.lookup (Text.lower word) with
  | some s => s
  | none =>
    match withoutEnd? "ies" word, withoutEnd? "ves" word with
    | some stem, _ => stem ++ "y"
    | none, some stem => stem ++ "f"
    | none, none =>
      if esEndings.any fun e => (withoutEnd? e word).isSome then
        String.ofList (word.toList.take (word.length - 2))
      else if 1 < word.length && !singularsInS.contains (Text.lower word) then
        (withoutEnd? "s" word).getD word
      else word

/-! ## Names of classes and modules -/

/-- The suffix of the class that holds a collection's records. -/
def dataSuffix : String := "Data"

/-- The suffix of the class that holds a collection's related records. -/
def expandSuffix : String := "DataExpand"

/-- The class name of a collection. -/
def typeName (collection suffix : String) : String :=
  identifier (capitalized (singular collection)) ++ suffix

/-- The module name of a collection. -/
def moduleName (collection : String) : String :=
  snakeCase (singular collection) ++ "_data"

/-! ## Identifiers out of any text -/

/-- The text composed, with an underscore for every character that no identifier holds. -/
def identifierText (s : String) : String :=
  String.ofList ((Text.compatChars s.toList).map fun c =>
    if Text.isIdentifierPart c then c else '_')

/-- The first character may begin an identifier. -/
def beginsIdentifier (s : String) : Bool :=
  match s.toList with
  | [] => false
  | c :: _ => Text.isIdentifierStart c

/-- The enum class name of a select field. -/
def enumTypeName (field : String) : String :=
  let name := identifier (identifierText field)
  let name := if name.isEmpty then "select" else name
  let name := if beginsIdentifier name then name else "select_" ++ name
  capitalized (identifier name) ++ "Enum"

/-- An identifier for any text: `fallback` if no character of it can be kept, led by `lead` if its
first one cannot begin an identifier, with an underscore at the end if it is reserved. -/
def safeIdentifier (fallback lead : String) (s : String) : String :=
  let name := identifier (identifierText s)
  if name.isEmpty then fallback
  else
    let name := if beginsIdentifier name then name else lead ++ name
    if reserved.contains name then name ++ "_" else name

/-- The member name of a field. -/
def memberName (field : String) : String :=
  safeIdentifier "field" "f" field

/-- The name of an enum's variant for a select value. -/
def variantName (value : String) : String :=
  safeIdentifier "empty" "v" value

/-- The name of a number field says that it holds whole numbers. -/
def isIntegerName (field : String) : Bool :=
  integerEndings.any fun e => (withoutEnd? e (Text.lower field)).isSome

end SchemaModels.Naming
