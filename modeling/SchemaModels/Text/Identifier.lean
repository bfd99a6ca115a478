import SchemaModels.Text.Identifier.Table

/-!
Which texts are identifiers of the generated source: a letter or underscore, followed by letters,
underscores, digits and marks, in the sense of the Unicode Standard.
-/

namespace SchemaModels.Text

/-- An identifier may begin with `c`. -/
def isIdentifierStart (c : Char) : Bool :=
  c == '_' || covers letterIntervals c

/-- An identifier may go on with `c`. -/
def isIdentifierPart (c : Char) : Bool :=
  isIdentifierStart c || covers markIntervals c

/-- Every character that may begin an identifier may also stand inside it. -/
theorem isIdentifierPart_of_start {c : Char} (h : isIdentifierStart c = true) :
    isIdentifierPart c = true := by
  simp [isIdentifierPart, h]

/-- A non-empty text whose first character begins an identifier and whose others continue it. -/
def isIdentifier : List Char → Bool
  | [] => false
  | c :: cs => isIdentifierStart c && cs.all isIdentifierPart

end SchemaModels.Text
