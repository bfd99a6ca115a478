import SchemaModels.Module.Render

/-!
# The names of statements

`bindings` are the names that a statement binds where it stands, and `uses` those that it refers to
from there: inside a function, the names of its parameters are its own. `looksUp` are the names that
a class looks up while its body is carried out: the annotations of its members, the functions called
for their values, and the decorators of its methods, but nothing inside the methods.
-/

namespace SchemaModels.Source

/-! ## Expressions -/

namespace Expr

theorem namesOfItems_eq (es : List Expr) : namesOfItems es = es.flatMap names := by
  induction es with
  | nil => rfl
  | cons e es ih => rw [namesOfItems, List.flatMap_cons, ih]

theorem namesOfKeywords_eq (kws : List (Option String × Expr)) :
    namesOfKeywords kws = kws.flatMap fun k => k.2.names := by
  induction kws with
  | nil => rfl
  | cons k kws ih => rw [namesOfKeywords, List.flatMap_cons, ih]

theorem names_foldl_attribute (parts : List (List Char)) (e : Expr) :
    (parts.foldl (fun e attr => .attribute e (String.ofList attr)) e).names = e.names := by
  induction parts generalizing e with
  | nil => rfl
  | cons p parts ih =>
    rw [List.foldl_cons, ih]
    rfl

/-- A name without dots is one name. -/
theorem names_dotted {s : String} (h : '.' ∉ s.toList) : (dotted s).names = [s] := by
  unfold dotted
  rw [List.splitOn_eq_singleton h]
  show [String.ofList s.toList] = [s]
  rw [String.ofList_toList]

/-- A name with a dot refers to what stands before it. -/
theorem names_dotted_append {s t : String} (h : '.' ∉ s.toList) :
    (dotted (s ++ ("." ++ t))).names = [s] := by
  have hsplit : (s ++ ("." ++ t)).toList = s.toList ++ '.' :: t.toList := by
    rw [String.toList_append, String.toList_append]
    rfl
  unfold dotted
  rw [hsplit, List.splitOn_append_cons_self_of_not_mem h]
  simp only
  rw [names_foldl_attribute, String.ofList_toList]
  rfl

/-- A call refers to its function, then to what its arguments refer to. -/
theorem names_callNamed (func : String) (args : List Expr) (keywords : List (String × Expr)) :
    (callNamed func args keywords).names =
      (dotted func).names ++ args.flatMap names ++ keywords.flatMap fun k => k.2.names := by
  unfold callNamed
  rw [names, namesOfItems_eq, namesOfKeywords_eq, List.flatMap_map]

end Expr

/-! ## Statements -/

/-- Where a name comes from: a module that many packages up, or the text itself. -/
inductive Origin where
  | defined
  | imported (level : Nat) (module : String)
  deriving DecidableEq

/-- A name that is bound. -/
structure Binding where
  name : String
  origin : Origin
  deriving DecidableEq

namespace Statement

/-- The names that a statement binds. -/
def bindings : Statement → List Binding
  | .importModule name => [⟨name, .imported 0 name⟩]
  | .importNames level module names => names.map (⟨·, .imported level (module.getD "")⟩)
  | .assign target _ | .declare target _ _ => [⟨target, .defined⟩]
  | .function name _ _ _ _ => [⟨name, .defined⟩]
  | .classDef name _ _ => [⟨name, .defined⟩]
  | .docstring _ | .expression _ | .give _ => []

/-- The names that a statement imports. -/
def imports : Statement → List String
  | .importModule name => [name]
  | .importNames _ _ names => names
  | _ => []

/-- The classes that a statement defines. -/
def classes : Statement → List String
  | .classDef name _ _ => [name]
  | _ => []

/-- The names that a parameter's hint refers to. -/
def parameterNames (p : String × Option Expr) : List String := Expr.namesOfOption p.2

mutual

/-- The names that a statement refers to. -/
def uses : Statement → List String
  | .docstring _ | .importModule _ | .importNames _ _ _ => []
  | .expression e | .assign _ e | .give e => e.names
  | .declare _ hint value => hint.names ++ Expr.namesOfOption value
  | .function _ params returns decorators body =>
    decorators.flatMap Expr.names ++ params.flatMap parameterNames ++ Expr.namesOfOption returns ++
      (usesOf body).filter fun n => !(params.map (·.1)).contains n
  | .classDef _ bases body => bases.flatMap Expr.names ++ usesOf body

def usesOf : List Statement → List String
  | [] => []
  | s :: rest => uses s ++ usesOf rest

end

theorem usesOf_eq_flatMap (ss : List Statement) : usesOf ss = ss.flatMap uses := by
  induction ss with
  | nil => rfl
  | cons s ss ih => rw [usesOf, List.flatMap_cons, ih]

/-- The names that a statement of a class body looks up when it is carried out. -/
def looksUp : Statement → List String
  | .docstring _ | .importModule _ | .importNames _ _ _ => []
  | .expression e | .assign _ e | .give e => e.names
  | .declare _ hint value => hint.names ++ Expr.namesOfOption value
  | .function _ _ _ decorators _ => decorators.flatMap Expr.names
  | .classDef _ bases _ => bases.flatMap Expr.names

@[simp] theorem looksUp_docstring (s : String) : (docstring s).looksUp = [] := rfl

/-- The statements of a class body. -/
def body : Statement → List Statement
  | .classDef _ _ body => body
  | _ => []

end Statement

end SchemaModels.Source
