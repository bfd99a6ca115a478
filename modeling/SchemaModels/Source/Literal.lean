import SchemaModels.Text.Printable

/-!
String literals of the generated source. `quoted` writes a text on one line between single quotes,
or between double quotes when it holds a single quote and no double quote; everything that is not
printable is escaped. `docstring` writes a text between triple quotes and keeps its line breaks.
-/

namespace SchemaModels.Source

/-- The last `width` digits of a number in base sixteen. -/
def hexDigits : (width : Nat) → Nat → List Char
  | 0, _ => []
  | width + 1, n => hexDigits width (n / 16) ++ [Nat.digitChar (n % 16)]

/-- The escape of a character by its code point, as short as the code point allows. -/
def codeEscape (c : Char) : List Char :=
  let n := c.toNat
  if n < 0x100 then '\\' :: 'x' :: hexDigits 2 n
  else if n < 0x10000 then '\\' :: 'u' :: hexDigits 4 n
  else '\\' :: 'U' :: hexDigits 8 n

/-- A line feed, carriage return, tab or other unprintable character by its escape. -/
def escapeUnprintable (c : Char) : List Char :=
  if c == '\n' then ['\\', 'n']
  else if c == '\r' then ['\\', 'r']
  else if c == '\t' then ['\\', 't']
  else if Text.isPrintable c then [c]
  else codeEscape c

/-! ## Literals on one line -/

/-- The quote a literal uses: single, unless the text holds single quotes and no double ones. -/
def quoteFor (cs : List Char) : Char :=
  if cs.contains '\'' && !cs.contains '"' then '"' else '\''

/-- A character of a literal between the given quotes. -/
def quotedChar (quote c : Char) : List Char :=
  if c == quote || c == '\\' then ['\\', c] else escapeUnprintable c

/-- The inside of a literal. -/
def quotedBody (cs : List Char) : List Char :=
  cs.flatMap (quotedChar (quoteFor cs))

/-- The literal of a text. -/
def quotedChars (cs : List Char) : List Char :=
  quoteFor cs :: quotedBody cs ++ [quoteFor cs]

/-- The literal of a text. -/
def quoted (s : String) : String :=
  String.ofList (quotedChars s.toList)

/-! ## Docstrings -/

/-- A character of a docstring: line feeds and tabs stay, as do quotes. -/
def docstringChar (c : Char) : List Char :=
  if c == '\n' || c == '\t' then [c]
  else if c == '\\' then ['\\', '\\']
  else escapeUnprintable c

/-- Three of a quote. -/
def triple (quote : Char) : List Char := [quote, quote, quote]

/-- Some part of the text is three of the quote in a row. -/
def hasTriple (quote : Char) : List Char → Bool
  | [] => false
  | c :: cs => (triple quote).isPrefixOf (c :: cs) || hasTriple quote cs

/-- Escapes the last character when it is the quote that closes the docstring. -/
def escapeLast (quote : Char) (body : List Char) : List Char :=
  match body.reverse with
  | c :: front => if c == quote then front.reverse ++ ['\\', c] else body
  | [] => body

/-- The docstring of a text: between three double quotes, or three single ones if the text holds
the former or ends in a double quote. A text that holds both is written like a one-line literal. -/
def docstringChars (cs : List Char) : List Char :=
  let body := cs.flatMap docstringChar
  match ['"', '\''].filter (!hasTriple · body) with
  | [] =>
    let q := triple (quoteFor cs)
    q ++ quotedBody cs ++ q
  | candidates =>
    let quote := ((candidates.find? (body.getLast? != some ·)) <|> candidates.head?).getD '"'
    triple quote ++ escapeLast quote body ++ triple quote

/-- The docstring of a text. -/
def docstring (s : String) : String :=
  String.ofList (docstringChars s.toList)

end SchemaModels.Source
