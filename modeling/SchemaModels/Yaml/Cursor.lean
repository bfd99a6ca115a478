import SchemaModels.Fault

/-!
Places in a YAML text. A cursor is the text still to be read, with the line and the column that it
starts at; all reading goes through `Cursor.next`, which keeps them up to date. Carriage returns
have been turned into line feeds before.
-/

namespace SchemaModels.Yaml

/-- Why a text gives no value: it is no YAML, or a value in it cannot be made. -/
inductive Error where
  | malformed (reason : String)
  | fault (f : Fault)
  deriving Inhabited

/-! ## Characters -/

/-- A mark of the byte order. -/
def isByteMark (c : Char) : Bool := c.toNat == 0xFEFF

/-- A character that ends a line. -/
def isBreak (c : Char) : Bool :=
  c == '\n' || c.toNat == 0x85 || c.toNat == 0x2028 || c.toNat == 0x2029

/-- The character that a line break counts as: most count as a line feed. -/
def breakValue (c : Char) : Char :=
  if c.toNat == 0x2028 || c.toNat == 0x2029 then c else '\n'

def isGap (c : Char) : Bool := c == ' ' || c == '\t'

/-- A line ends here. -/
def endsLine : Option Char → Bool
  | none => true
  | some c => isBreak c

/-- A word ends here, where tabs are no blanks. -/
def endsPart : Option Char → Bool
  | none => true
  | some c => c == ' ' || isBreak c

/-- A word ends here. -/
def endsWord : Option Char → Bool
  | none => true
  | some c => isGap c || isBreak c

/-- Characters that a text may hold. -/
def isAllowed (c : Char) : Bool :=
  let n := c.toNat
  n == 0x09 || n == 0x0A || n == 0x0D || (0x20 ≤ n && n ≤ 0x7E) || n == 0x85 ||
    (0xA0 ≤ n && n ≤ 0xD7FF) || (0xE000 ≤ n && n ≤ 0xFFFD) || 0x10000 ≤ n

/-- Letters and digits of ASCII, hyphens and underscores. -/
def isNameChar (c : Char) : Bool :=
  c.isAlphanum || c == '-' || c == '_'

/-! ## Cursors -/

/-- What is left of a text, how many characters have been read, and the place in lines and
columns. -/
structure Cursor where
  rest : List Char
  index : Nat := 0
  line : Nat := 0
  column : Nat := 0
  deriving DecidableEq, Inhabited

namespace Cursor

/-- Past the next character. A mark of the byte order takes up no column. -/
def next (c : Cursor) : Cursor :=
  match c.rest with
  | [] => c
  | x :: rest =>
    if isBreak x then { rest, index := c.index + 1, line := c.line + 1, column := 0 }
    else
      { rest, index := c.index + 1, line := c.line
        column := if isByteMark x then c.column else c.column + 1 }

/-- Past some characters. -/
def skip : Nat → Cursor → Cursor
  | 0, c => c
  | n + 1, c => skip n c.next

/-- The next character. -/
def head (c : Cursor) : Option Char := c.rest.head?

/-- The character some places on. -/
def peek (c : Cursor) (n : Nat) : Option Char := c.rest[n]?

/-- The next characters of a class, and the cursor past them. -/
def span (p : Char → Bool) (c : Cursor) : List Char × Cursor :=
  let taken := c.rest.takeWhile p
  (taken, skip taken.length c)

/-- Past the next characters of a class. -/
def drop (p : Char → Bool) (c : Cursor) : Cursor := (c.span p).2

/-- Past the blanks. -/
def dropBlanks (c : Cursor) : Cursor := c.drop (· == ' ')

/-- Past a comment, if one begins here. -/
def dropComment (c : Cursor) : Cursor :=
  if c.head = some '#' then c.drop (!isBreak ·) else c

/-- A mark of three characters that begins or ends a document. -/
def isMark (mark : Char) (c : Cursor) : Bool :=
  (List.replicate 3 mark).isPrefixOf c.rest && endsWord (c.peek 3)

/-- A document begins or ends here, if this is the start of a line. -/
def atMark (c : Cursor) : Bool := c.isMark '-' || c.isMark '.'

/-- Past the blanks and the comment that may end a line, and past its break; nothing else may stand
there. -/
def endLine (c : Cursor) : Except Error Cursor :=
  let c := c.dropBlanks.dropComment
  if endsLine c.head then .ok c.next else .error (.malformed "expected a comment or a line break")

end Cursor

end SchemaModels.Yaml
