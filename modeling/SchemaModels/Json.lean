import SchemaModels.Double

/-!
Values of the server's answers and of the configuration: JSON with whole numbers of any size kept
apart from floating-point ones, and objects that keep the order of their keys.
-/

namespace SchemaModels

/-- A JSON value. An object lists each key once. -/
inductive Json where
  | null
  | bool (b : Bool)
  | int (n : Int)
  | float (x : Double)
  | text (s : String)
  | list (items : List Json)
  | object (entries : List (String × Json))
  deriving Inhabited

namespace Json

/-! ## Objects -/

/-- Sets a key: in its old place if it was there, else at the end. -/
def setKey {α : Type} (key : String) (value : α) : List (String × α) → List (String × α)
  | [] => [(key, value)]
  | (k, v) :: rest => if k = key then (k, value) :: rest else (k, v) :: setKey key value rest

/-- The object of the given entries; of two with one key the later value holds. -/
def ofEntries (entries : List (String × Json)) : Json :=
  .object (entries.foldl (fun acc (k, v) => setKey k v acc) [])

/-! ## Blank values -/

/-- Values that count as absent: null, false, zero, and empty texts, lists and objects. -/
def isBlank : Json → Bool
  | .null => true
  | .bool b => !b
  | .int n => n == 0
  | .float x => x.isZero
  | .text s => s.isEmpty
  | .list items => items.isEmpty
  | .object entries => entries.isEmpty

/-! ## Equality by value -/

/-- The number that a value counts as; true counts as one and false as zero. -/
def number? : Json → Option (Int ⊕ Double)
  | .bool b => some (.inl b.toNat)
  | .int n => some (.inl n)
  | .float x => some (.inr x)
  | _ => none

/-- Numbers are equal by value, whole or not. -/
def sameNumber : Int ⊕ Double → Int ⊕ Double → Bool
  | .inl m, .inl n => m == n
  | .inl m, .inr y => y.compareInt? m == some .eq
  | .inr x, .inl n => x.compareInt? n == some .eq
  | .inr x, .inr y => x.sameValue y

mutual

/-- Equality by value: numbers by their size, lists item by item, objects key by key in any
order. -/
def same : Json → Json → Bool
  | .null, .null => true
  | .text s, .text t => s == t
  | .list xs, .list ys => sameItems xs ys
  | .object xs, .object ys => xs.length == ys.length && sameEntries xs ys
  | x, y =>
    match x.number?, y.number? with
    | some m, some n => sameNumber m n
    | _, _ => false

def sameItems : List Json → List Json → Bool
  | [], [] => true
  | x :: xs, y :: ys => same x y && sameItems xs ys
  | _, _ => false

/-- Every entry of the first list has an equal one in the second. -/
def sameEntries : List (String × Json) → List (String × Json) → Bool
  | [], _ => true
  | (k, x) :: xs, ys =>
    (match ys.lookup k with
      | some y => same x y
      | none => false) && sameEntries xs ys

end

end Json

end SchemaModels
