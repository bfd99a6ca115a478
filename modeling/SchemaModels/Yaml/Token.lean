import SchemaModels.Yaml.Property

/-!
The tokens of a YAML text. Indentation becomes tokens that begin and end blocks; a key is known only
by the colon behind it, so the places where a key may have begun are kept, and its token is put in
there when the colon comes.
-/

namespace SchemaModels.Yaml

/-- A token. The end of the text is the end of the tokens. -/
inductive Token where
  | directive (d : Directive)
  | documentStart
  | documentEnd
  | blockSequence
  | blockMapping
  | blockEnd
  | openSequence
  | closeSequence
  | openMapping
  | closeMapping
  | item
  | comma
  | key
  | value
  | alias (name : String)
  | anchor (name : String)
  | tag (t : WrittenTag)
  /-- A scalar; `plain` tells it from one in quotes or in a block. -/
  | scalar (plain : Bool) (text : Option String)
  deriving DecidableEq, Inhabited

/-- A place where a key may have begun: how many tokens come before it, and where it is. -/
structure KeyPlace where
  tokens : Nat
  index : Nat
  line : Nat
  column : Nat
  /-- Something other than a key cannot stand here. -/
  required : Bool

/-- Reading tokens: what is read so far, and the blocks, brackets and possible keys that are
open. -/
structure Scan where
  cursor : Cursor
  tokens : List Token := []
  /-- The column of the innermost block. -/
  indent : Int := -1
  /-- The columns of the blocks around it, from the inside. -/
  outer : List Int := []
  /-- How many brackets are open. -/
  depth : Nat := 0
  keyAllowed : Bool := true
  /-- The latest possible key at each depth. -/
  keys : List (Nat × KeyPlace) := []

namespace Scan

/-- Adds a token at the end. -/
def add (t : Token) (s : Scan) : Scan := { s with tokens := s.tokens ++ [t] }

/-- Puts a token in at a place. -/
def insert (n : Nat) (t : Token) (s : Scan) : Scan :=
  { s with tokens := s.tokens.take n ++ t :: s.tokens.drop n }

/-- The cursor moves on. -/
def moveTo (c : Cursor) (s : Scan) : Scan := { s with cursor := c }

def inBrackets (s : Scan) : Bool := s.depth != 0

/-! ## Blocks -/

/-- Ends the blocks that are further right than a column, given the columns around the innermost. -/
def endBlocks (column : Int) : Int → List Int → List Token × Int × List Int
  | indent, [] => ([], indent, [])
  | indent, o :: os =>
    if column < indent then
      let (ts, i, rest) := endBlocks column o os
      (.blockEnd :: ts, i, rest)
    else ([], indent, o :: os)

/-- Ends the blocks that are further right than a column. Within brackets indentation means
nothing. -/
def unwind (column : Int) (s : Scan) : Scan :=
  if s.inBrackets then s
  else
    let (ts, indent, outer) := endBlocks column s.indent s.outer
    { s with tokens := s.tokens ++ ts, indent, outer }

/-- Begins a block at a column if it is further right than the innermost one; says whether it
does. -/
def beginBlock (column : Int) (s : Scan) : Bool × Scan :=
  if s.indent < column then (true, { s with indent := column, outer := s.indent :: s.outer })
  else (false, s)

/-- Begins a block here if this is further right than the innermost one. -/
def blockHere (t : Token) (s : Scan) : Scan :=
  match s.beginBlock s.cursor.column with
  | (true, s) => s.add t
  | (false, s) => s

/-! ## Possible keys -/

/-- A key that has to be one has no colon. -/
def noColon {α : Type} : Except Error α := .error (.malformed "could not find expected ':'")

/-- How far behind its beginning the colon of a key may be. -/
def keyReach : Nat := 1024

/-- Forgets the possible keys that are on another line or too far back. -/
def dropStale (s : Scan) : Except Error Scan :=
  let stale := fun (k : Nat × KeyPlace) =>
    k.2.line != s.cursor.line || keyReach < s.cursor.index - k.2.index
  if s.keys.any fun k => stale k && k.2.required then noColon
  else .ok { s with keys := s.keys.filter (!stale ·) }

/-- Forgets the possible key at this depth. -/
def dropKey (s : Scan) : Except Error Scan :=
  match s.keys.lookup s.depth with
  | none => .ok s
  | some k =>
    if k.required then noColon else .ok { s with keys := s.keys.filter (·.1 != s.depth) }

/-- Keeps this place as one where a key may begin. -/
def saveKey (s : Scan) : Except Error Scan :=
  if s.keyAllowed then do
    let required := !s.inBrackets && s.indent == s.cursor.column
    let s ← s.dropKey
    let c := s.cursor
    .ok { s with
      keys := (s.depth, ⟨s.tokens.length, c.index, c.line, c.column, required⟩) :: s.keys }
  else .ok s

/-! ## Tokens -/

/-- Past blanks, comments and line breaks. Outside brackets a key may begin on a new line. -/
def dropSpace : Nat → Scan → Scan
  | 0, s => s
  | steps + 1, s =>
    let c := s.cursor.dropBlanks.dropComment
    if c.head.any isBreak then
      dropSpace steps { s with cursor := c.next, keyAllowed := s.keyAllowed || !s.inBrackets }
    else s.moveTo c

/-- A token of one character. -/
def sign (t : Token) (s : Scan) : Scan := (s.add t).moveTo s.cursor.next

/-- Everything that the end of a document ends. -/
def endDocument (s : Scan) : Except Error Scan := do
  let s ← (s.unwind (-1)).dropKey
  .ok { s with keyAllowed := false }

/-- A bracket that opens. -/
def openBracket (t : Token) (s : Scan) : Except Error Scan := do
  let s ← s.saveKey
  .ok (sign t { s with depth := s.depth + 1, keyAllowed := true })

/-- A bracket that closes. -/
def closeBracket (t : Token) (s : Scan) : Except Error Scan := do
  let s ← s.dropKey
  if s.depth = 0 then .error (.malformed "a bracket closes that is not open")
  else .ok (sign t { s with depth := s.depth - 1, keyAllowed := false })

/-- A comma. -/
def comma (s : Scan) : Except Error Scan := do
  let s ← s.dropKey
  .ok (sign .comma { s with keyAllowed := true })

/-- The hyphen in front of an item. -/
def item (s : Scan) : Except Error Scan := do
  if !s.inBrackets && !s.keyAllowed then
    .error (.malformed "sequence entries are not allowed here")
  else
    let s := if s.inBrackets then s else s.blockHere .blockSequence
    let s ← s.dropKey
    .ok (sign .item { s with keyAllowed := true })

/-- The question mark in front of a key. -/
def explicitKey (s : Scan) : Except Error Scan := do
  if !s.inBrackets && !s.keyAllowed then
    .error (.malformed "mapping keys are not allowed here")
  else
    let s := if s.inBrackets then s else s.blockHere .blockMapping
    let s ← s.dropKey
    .ok (sign .key { s with keyAllowed := !s.inBrackets })

/-- The colon in front of a value. -/
def value (s : Scan) : Except Error Scan := do
  match s.keys.lookup s.depth with
  | some k =>
    let s := { s with keys := s.keys.filter (·.1 != s.depth) }.insert k.tokens .key
    let s :=
      if s.inBrackets then s
      else match s.beginBlock k.column with
        | (true, s) => s.insert k.tokens .blockMapping
        | (false, s) => s
    .ok (sign .value { s with keyAllowed := false })
  | none =>
    if !s.inBrackets && !s.keyAllowed then
      .error (.malformed "mapping values are not allowed here")
    else
      let s := if s.inBrackets then s else s.blockHere .blockMapping
      .ok (sign .value { s with keyAllowed := !s.inBrackets })

/-- A token that may begin a key. -/
def word (read : Cursor → Except Error (Token × Cursor)) (s : Scan) : Except Error Scan := do
  let s ← s.saveKey
  let (t, c) ← read s.cursor
  .ok ((s.add t).moveTo c |> fun s => { s with keyAllowed := false })

/-- A plain scalar. -/
def plain (s : Scan) : Except Error Scan := do
  let s ← s.saveKey
  let (text, broken, c) := Scalar.plain s.inBrackets (s.indent + 1) s.cursor
  .ok { (s.add (.scalar true (some text))).moveTo c with keyAllowed := broken }

/-- A block of lines. -/
def block (folded : Bool) (s : Scan) : Except Error Scan := do
  let s ← s.dropKey
  let (text, c) ← Scalar.block folded s.indent s.cursor
  .ok { (s.add (.scalar false (some text))).moveTo c with keyAllowed := true }

/-- A plain scalar may begin with this character. -/
def beginsPlain (s : Scan) (x : Char) : Bool :=
  !(isGap x || isBreak x || "-?:,[]\x7b\x7d#&*!|>'\"%@`".toList.contains x) ||
    (!endsWord (s.cursor.peek 1) && (x == '-' || (!s.inBrackets && (x == '?' || x == ':'))))

/-- The token that begins with the given character, at the cursor. -/
def fetch (x : Char) (s : Scan) : Except Error Scan :=
  let c := s.cursor
  let alone := endsWord (c.peek 1)
  if x == '%' && c.column == 0 then do
    let s ← s.endDocument
    let (d, c) ← Property.directive s.cursor
    .ok ((s.add (.directive d)).moveTo c)
  else if c.column == 0 && c.isMark '-' then do
    .ok (((← s.endDocument).add .documentStart).moveTo (c.skip 3))
  else if c.column == 0 && c.isMark '.' then do
    .ok (((← s.endDocument).add .documentEnd).moveTo (c.skip 3))
  else if x == '[' then s.openBracket .openSequence
  else if x == '{' then s.openBracket .openMapping
  else if x == ']' then s.closeBracket .closeSequence
  else if x == '}' then s.closeBracket .closeMapping
  else if x == ',' then s.comma
  else if x == '-' && alone then s.item
  else if x == '?' && (s.inBrackets || alone) then s.explicitKey
  else if x == ':' && (s.inBrackets || alone) then s.value
  else if x == '*' then
    s.word fun c => (fun (n, c) => (.alias n, c)) <$> Property.anchorName c.next
  else if x == '&' then
    s.word fun c => (fun (n, c) => (.anchor n, c)) <$> Property.anchorName c.next
  else if x == '!' then s.word fun c => (fun (t, c) => (.tag t, c)) <$> Property.tag c
  else if x == '|' && !s.inBrackets then s.block false
  else if x == '>' && !s.inBrackets then s.block true
  else if x == '\'' then
    s.word fun c => (fun (t, c) => (.scalar false t, c)) <$> Scalar.quoted false c
  else if x == '"' then
    s.word fun c => (fun (t, c) => (.scalar false t, c)) <$> Scalar.quoted true c
  else if s.beginsPlain x then s.plain
  else .error (.malformed "found character that cannot start any token")

/-- Reads the tokens to the end of the text. -/
def run : Nat → Scan → Except Error (List Token)
  | 0, s => .ok s.tokens
  | steps + 1, s => do
    let s ← (s.dropSpace (s.cursor.rest.length + 1)).dropStale
    let s := s.unwind s.cursor.column
    match s.cursor.head with
    | none => return (← s.endDocument).tokens
    | some x => run steps (← s.fetch x)

end Scan

/-- The tokens of a text. A mark of the byte order in front of it counts for nothing. -/
def Token.ofText (cs : List Char) : Except Error (List Token) :=
  if cs.all isAllowed then
    let c : Cursor := { rest := cs }
    Scan.run (cs.length + 1) { cursor := if cs.head?.any isByteMark then c.next else c }
  else .error (.malformed "special characters are not allowed")

end SchemaModels.Yaml
