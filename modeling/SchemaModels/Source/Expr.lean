import SchemaModels.Double.Shortest
import SchemaModels.Source.Literal

/-!
Expressions of the generated source and their text. The printer puts parentheses only where the
binding strength of an expression is below what its place asks for.
-/

namespace SchemaModels.Source

/-- Operators in front of an operand. -/
inductive UnaryOp where
  | plus
  | minus
  | invert
  | not
  deriving DecidableEq

/-- Operators between two operands. -/
inductive BinaryOp where
  | bitOr
  | bitXor
  | bitAnd
  | shiftLeft
  | shiftRight
  | add
  | sub
  | mul
  | matMul
  | div
  | mod
  | floorDiv
  | pow
  deriving DecidableEq

/-- Comparisons, which may stand in a row. -/
inductive Comparison where
  | eq
  | notEq
  | lt
  | le
  | gt
  | ge
  | is
  | isNot
  | isIn
  | notIn
  deriving DecidableEq

/-- Expressions. A subscript with several parts has a tuple as its index. -/
inductive Expr where
  | name (id : String)
  | text (s : String)
  | bool (b : Bool)
  | none
  | ellipsis
  | int (n : Nat)
  | float (x : Double)
  | imaginary (x : Double)
  | attribute (value : Expr) (attr : String)
  | call (func : Expr) (args : List Expr) (keywords : List (Option String × Expr))
  | subscript (value index : Expr)
  | slice (lower upper step : Option Expr)
  | starred (value : Expr)
  | list (items : List Expr)
  | tuple (items : List Expr)
  | set (items : List Expr)
  | dict (entries : List (Option Expr × Expr))
  | unary (op : UnaryOp) (operand : Expr)
  | binary (op : BinaryOp) (left right : Expr)
  | junction (conjunctive : Bool) (operands : List Expr)
  | compare (left : Expr) (rest : List (Comparison × Expr))
  | ternary (test yes no : Expr)
  | named (target : String) (value : Expr)
  deriving Inhabited

/-! ## Binding strength -/

/-- How strongly an expression holds together, from named expressions to atoms. -/
abbrev Strength := Nat

namespace Strength

def named : Strength := 1
def tuple : Strength := 2
def ternary : Strength := 4
def or : Strength := 5
def and : Strength := 6
def not : Strength := 7
def compare : Strength := 8
def bitOr : Strength := 9
def bitXor : Strength := 10
def bitAnd : Strength := 11
def shift : Strength := 12
def sum : Strength := 13
def product : Strength := 14
def sign : Strength := 15
def power : Strength := 16
def atom : Strength := 18

/-- The next higher strength. -/
def next (s : Strength) : Strength := min (s + 1) atom

end Strength

namespace UnaryOp

def sign : UnaryOp → String
  | .plus => "+"
  | .minus => "-"
  | .invert => "~"
  | .not => "not "

def strength : UnaryOp → Strength
  | .not => .not
  | _ => .sign

end UnaryOp

namespace BinaryOp

def sign : BinaryOp → String
  | .bitOr => "|"
  | .bitXor => "^"
  | .bitAnd => "&"
  | .shiftLeft => "<<"
  | .shiftRight => ">>"
  | .add => "+"
  | .sub => "-"
  | .mul => "*"
  | .matMul => "@"
  | .div => "/"
  | .mod => "%"
  | .floorDiv => "//"
  | .pow => "**"

def strength : BinaryOp → Strength
  | .bitOr => .bitOr
  | .bitXor => .bitXor
  | .bitAnd => .bitAnd
  | .shiftLeft | .shiftRight => .shift
  | .add | .sub => .sum
  | .mul | .matMul | .div | .mod | .floorDiv => .product
  | .pow => .power

/-- Powers group to the right, all others to the left. -/
def groupsRight (op : BinaryOp) : Bool := op == .pow

end BinaryOp

def Comparison.sign : Comparison → String
  | .eq => "=="
  | .notEq => "!="
  | .lt => "<"
  | .le => "<="
  | .gt => ">"
  | .ge => ">="
  | .is => "is"
  | .isNot => "is not"
  | .isIn => "in"
  | .notIn => "not in"

namespace Expr

/-- An attribute of a whole number is set apart from it, lest the point be read as a decimal
point. -/
def isWhole : Expr → Bool
  | .int _ | .bool _ => true
  | _ => false

/-- The text of a number; an infinite one is written as one too large to be finite. -/
def numberText (x : Double) : String :=
  match x with
  | .infinite _ => "1e309"
  | x => x.text

/-- The text of an imaginary number, which has no `.0`. -/
def imaginaryText (x : Double) : String :=
  let s := numberText x
  (if s.endsWith ".0" then String.ofList (s.toList.take (s.length - 2)) else s) ++ "j"

/-- Puts an expression into parentheses if its place asks for more strength than it has. -/
def wrap (own asked : Strength) (s : String) : String :=
  if own < asked then "(" ++ s ++ ")" else s

/-- Items with a comma between them, and one after a single item. -/
def commaItems : List String → String
  | [s] => s ++ ","
  | ss => ", ".intercalate ss

mutual

/-- The text of an expression in a place that asks for the given strength. -/
def render (asked : Strength) : Expr → String
  | .name id => id
  | .text s => quoted s
  | .bool b => if b then "True" else "False"
  | .none => "None"
  | .ellipsis => "..."
  | .int n => toString n
  | .float x => numberText x
  | .imaginary x => imaginaryText x
  | .attribute value attr =>
    render .atom value ++ (if value.isWhole then " ." else ".") ++ attr
  | .call func args keywords =>
    render .atom func ++ "(" ++
      ", ".intercalate (renderItems .ternary args ++ renderKeywords keywords) ++ ")"
  | .subscript value index =>
    render .atom value ++ "[" ++
      (match index with
        | .tuple (item :: items) => commaItems (renderItems .ternary (item :: items))
        | index => render .ternary index) ++ "]"
  | .slice lower upper step =>
    renderOptional lower ++ ":" ++ renderOptional upper ++
      match step with
      | some e => ":" ++ render .ternary e
      | .none => ""
  | .starred value => "*" ++ render .bitOr value
  | .list items => "[" ++ ", ".intercalate (renderItems .ternary items) ++ "]"
  | .tuple items =>
    let s := commaItems (renderItems .ternary items)
    if items.isEmpty || Strength.tuple < asked then "(" ++ s ++ ")" else s
  | .set items =>
    if items.isEmpty then "\x7b*()\x7d"
    else "\x7b" ++ ", ".intercalate (renderItems .ternary items) ++ "\x7d"
  | .dict entries => "\x7b" ++ ", ".intercalate (renderEntries entries) ++ "\x7d"
  | .unary op operand => wrap op.strength asked (op.sign ++ render op.strength operand)
  | .binary op left right =>
    let s := op.strength
    wrap s asked
      (render (if op.groupsRight then s.next else s) left ++ " " ++ op.sign ++ " " ++
        render (if op.groupsRight then s else s.next) right)
  | .junction conjunctive operands =>
    let s := if conjunctive then Strength.and else Strength.or
    wrap s asked
      ((if conjunctive then " and " else " or ").intercalate (renderRising s operands))
  | .compare left rest =>
    wrap .compare asked (render Strength.compare.next left ++ renderComparisons rest)
  | .ternary test yes no =>
    wrap .ternary asked
      (render Strength.ternary.next yes ++ " if " ++ render Strength.ternary.next test ++
        " else " ++ render .ternary no)
  | .named target value =>
    wrap .named asked (target ++ " := " ++ render .atom value)

def renderOptional : Option Expr → String
  | some e => render .ternary e
  | .none => ""

def renderItems (asked : Strength) : List Expr → List String
  | [] => []
  | e :: es => render asked e :: renderItems asked es

/-- Each operand of a junction asks for more strength than the one before. -/
def renderRising (s : Strength) : List Expr → List String
  | [] => []
  | e :: es => render s.next e :: renderRising s.next es

def renderKeywords : List (Option String × Expr) → List String
  | [] => []
  | (some k, e) :: rest => (k ++ "=" ++ render .ternary e) :: renderKeywords rest
  | (.none, e) :: rest => ("**" ++ render .ternary e) :: renderKeywords rest

def renderEntries : List (Option Expr × Expr) → List String
  | [] => []
  | (some k, e) :: rest => (render .ternary k ++ ": " ++ render .ternary e) :: renderEntries rest
  | (.none, e) :: rest => ("**" ++ render .bitOr e) :: renderEntries rest

def renderComparisons : List (Comparison × Expr) → String
  | [] => ""
  | (op, e) :: rest =>
    " " ++ op.sign ++ " " ++ render Strength.compare.next e ++ renderComparisons rest

end

/-- The text of an expression that stands by itself. -/
def source (e : Expr) : String := render .ternary e

/-! ## Names -/

mutual

/-- The names that an expression refers to or binds, in the order of its text. -/
def names : Expr → List String
  | .name id => [id]
  | .attribute value _ => names value
  | .call func args keywords => names func ++ namesOfItems args ++ namesOfKeywords keywords
  | .subscript value index => names value ++ names index
  | .slice lower upper step => namesOfOption lower ++ namesOfOption upper ++ namesOfOption step
  | .starred value => names value
  | .list items | .tuple items | .set items | .junction _ items => namesOfItems items
  | .dict entries => namesOfEntries entries
  | .unary _ operand => names operand
  | .binary _ left right => names left ++ names right
  | .compare left rest => names left ++ namesOfComparisons rest
  | .ternary test yes no => names yes ++ names test ++ names no
  | .named target value => target :: names value
  | .text _ | .bool _ | .none | .ellipsis | .int _ | .float _ | .imaginary _ => []

def namesOfOption : Option Expr → List String
  | some e => names e
  | .none => []

def namesOfItems : List Expr → List String
  | [] => []
  | e :: es => names e ++ namesOfItems es

def namesOfKeywords : List (Option String × Expr) → List String
  | [] => []
  | (_, e) :: rest => names e ++ namesOfKeywords rest

def namesOfEntries : List (Option Expr × Expr) → List String
  | [] => []
  | (k, e) :: rest => namesOfOption k ++ names e ++ namesOfEntries rest

def namesOfComparisons : List (Comparison × Expr) → List String
  | [] => []
  | (_, e) :: rest => names e ++ namesOfComparisons rest

end

/-- A name with dots, as the name and its attributes. -/
def dotted (s : String) : Expr :=
  match s.toList.splitOn '.' with
  | [] => .name s
  | part :: parts =>
    parts.foldl (fun e attr => .attribute e (String.ofList attr)) (.name (String.ofList part))

end Expr

end SchemaModels.Source
