import SchemaModels.Source.Expr

/-!
Statements of the generated source and their text. Every statement stands on lines of its own, with
four blanks for each level of nesting; an empty line comes before every class and function.
-/

namespace SchemaModels.Source

/-- Statements, as far as the generated source needs them. -/
inductive Statement where
  | docstring (s : String)
  | expression (e : Expr)
  | importModule (name : String)
  | importNames (level : Nat) (module : Option String) (names : List String)
  | assign (target : String) (value : Expr)
  | declare (target : String) (hint : Expr) (value : Option Expr)
  | give (value : Expr)
  | function (name : String) (params : List (String × Option Expr)) (returns : Option Expr)
      (decorators : List Expr) (body : List Statement)
  | classDef (name : String) (bases : List Expr) (body : List Statement)
  deriving Inhabited

namespace Statement

/-- A line at the given level of nesting. -/
def indented (level : Nat) (s : String) : String :=
  String.ofList (List.replicate (4 * level) ' ') ++ s

def parameter : String × Option Expr → String
  | (name, some hint) => name ++ ": " ++ hint.source
  | (name, none) => name

/-- The text of an import from a module `level` packages up. -/
def importText (level : Nat) (module : Option String) (names : List String) : String :=
  "from " ++ String.ofList (List.replicate level '.') ++ module.getD "" ++ " import " ++
    ", ".intercalate names

mutual

/-- The lines of a statement. A docstring counts as one line, whatever it holds. -/
def lines (level : Nat) : Statement → List String
  | .docstring s => [indented level (Source.docstring s)]
  | .expression e => [indented level e.source]
  | .importModule name => [indented level ("import " ++ name)]
  | .importNames up module names => [indented level (importText up module names)]
  | .assign target value => [indented level (target ++ " = " ++ value.source)]
  | .declare target hint value =>
    [indented level (target ++ ": " ++ hint.source ++
      match value with
      | some v => " = " ++ v.source
      | none => "")]
  | .give value => [indented level ("return " ++ value.source)]
  | .function name params returns decorators body =>
    "" :: decorators.map (fun d => indented level ("@" ++ d.source)) ++
      indented level ("def " ++ name ++ "(" ++ ", ".intercalate (params.map parameter) ++ ")" ++
        (match returns with
          | some r => " -> " ++ r.source
          | none => "") ++ ":") :: blockLines (level + 1) body
  | .classDef name bases body =>
    "" :: indented level ("class " ++ name ++
      (if bases.isEmpty then "" else "(" ++ ", ".intercalate (bases.map Expr.source) ++ ")") ++
      ":") :: blockLines (level + 1) body

def blockLines (level : Nat) : List Statement → List String
  | [] => []
  | s :: rest => lines level s ++ blockLines level rest

end

/-- The text of statements at the outermost level; no empty line comes before the first one. -/
def source (statements : List Statement) : String :=
  match blockLines 0 statements with
  | "" :: rest => "\n".intercalate rest
  | all => "\n".intercalate all

end Statement

end SchemaModels.Source
