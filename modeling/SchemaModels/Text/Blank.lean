/-!
Blank characters, trimming, and the division of a text into lines.
-/

namespace SchemaModels.Text

/-- White space of every script, with the four ASCII information separators. -/
def isBlank (c : Char) : Bool :=
  let n := c.toNat
  (0x09 ≤ n && n ≤ 0x0D) || (0x1C ≤ n && n ≤ 0x20) || n == 0x85 || n == 0xA0 || n == 0x1680 ||
    (0x2000 ≤ n && n ≤ 0x200A) || n == 0x2028 || n == 0x2029 || n == 0x202F || n == 0x205F ||
    n == 0x3000

/-- Without the leading characters of a class. -/
def dropLeading (p : Char → Bool) (cs : List Char) : List Char :=
  cs.dropWhile p

/-- Without the trailing characters of a class. -/
def dropTrailing (p : Char → Bool) (cs : List Char) : List Char :=
  (cs.reverse.dropWhile p).reverse

/-- Without blank characters at either end. -/
def trim (s : String) : String :=
  String.ofList (dropTrailing isBlank (dropLeading isBlank s.toList))

/-- A character that ends a line. -/
def isLineBreak (c : Char) : Bool :=
  let n := c.toNat
  (0x0A ≤ n && n ≤ 0x0D) || (0x1C ≤ n && n ≤ 0x1E) || n == 0x85 || n == 0x2028 || n == 0x2029

/-- The number of lines still to come, when the current one already has characters (`open?`) or
not. A carriage return and the line feed after it end one line together, and text after the last
break is a line of its own. -/
def countLinesFrom (open? : Bool) : List Char → Nat
  | [] => if open? then 1 else 0
  | '\r' :: '\n' :: cs => 1 + countLinesFrom false cs
  | c :: cs => if isLineBreak c then 1 + countLinesFrom false cs else countLinesFrom true cs

/-- How many lines a text has. -/
def countLines (s : String) : Nat :=
  countLinesFrom false s.toList

end SchemaModels.Text
