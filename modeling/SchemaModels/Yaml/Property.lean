import SchemaModels.Yaml.Scalar

/-!
What is written in front of a value or of a document: anchors and aliases, tags, and directives.
-/

namespace SchemaModels.Yaml

/-- A tag as it is written: a handle that stands for the first part of the tag, and the rest. -/
structure WrittenTag where
  handle : Option String
  suffix : String
  deriving DecidableEq, Inhabited

/-- A directive in front of a document. Directives of other kinds mean nothing here. -/
inductive Directive where
  | version (major minor : Nat)
  | tag (handle start : String)
  | other
  deriving DecidableEq, Inhabited

namespace Property

/-- The name of an anchor or alias, after the sign that begins it. -/
def anchorName (c : Cursor) : Except Error (String × Cursor) :=
  let (name, c) := c.span isNameChar
  if name.isEmpty then .error (.malformed "expected an alphabetic or numeric anchor name")
  else if endsWord c.head || c.head.any ("?:,]\x7d%@`".toList.contains ·) then
    .ok (String.ofList name, c)
  else .error (.malformed "found an unexpected character after an anchor name")

/-! ## Tags -/

/-- Characters that a tag may hold as they are. -/
def isTagChar (c : Char) : Bool :=
  c.isAlphanum || "-;/?:@&=+$,_.!~*'()[]".toList.contains c

/-- The bytes that are written as percent signs with two digits each. -/
def percentBytes : Nat → Cursor → Except Error (List UInt8 × Cursor)
  | 0, c => .ok ([], c)
  | steps + 1, c =>
    if c.head = some '%' then
      match Scalar.hexNumber? 2 c.next.rest with
      | none => .error (.malformed "expected a sequence of 2 hexadecimal numbers")
      | some n => do
        let (more, c) ← percentBytes steps (c.skip 3)
        .ok (n.toUInt8 :: more, c)
    else .ok ([], c)

/-- The characters of a tag. -/
def tagChars : Nat → Cursor → Except Error (List Char × Cursor)
  | 0, c => .ok ([], c)
  | steps + 1, c =>
    match c.head with
    | none => .ok ([], c)
    | some x =>
      if x = '%' then do
        let (bytes, c) ← percentBytes c.rest.length c
        match String.fromUTF8? ⟨bytes.toArray⟩ with
        | none => .error (.malformed "a tag holds bytes that are no text")
        | some s => do
          let (more, c) ← tagChars steps c
          .ok (s.toList ++ more, c)
      else if isTagChar x then do
        let (more, c) ← tagChars steps c.next
        .ok (x :: more, c)
      else .ok ([], c)

/-- The characters of a tag, of which there is at least one. -/
def tagText (c : Cursor) : Except Error (String × Cursor) := do
  let (cs, c) ← tagChars c.rest.length c
  if cs.isEmpty then .error (.malformed "expected a tag") else .ok (String.ofList cs, c)

/-- A handle: a name between exclamation marks, or a single mark in front of a blank. -/
def handle (c : Cursor) : Except Error (String × Cursor) :=
  if c.head ≠ some '!' then .error (.malformed "expected '!'")
  else if c.peek 1 = some ' ' then .ok ("!", c.next)
  else
    let (name, c) := c.next.span isNameChar
    if c.head = some '!' then .ok (String.ofList ('!' :: name ++ ['!']), c.next)
    else .error (.malformed "expected '!'")

/-- A tag, from the exclamation mark that begins it. -/
def tag (c : Cursor) : Except Error (WrittenTag × Cursor) := do
  let (t, c) ←
    match c.peek 1 with
    | some '<' => do
      let (s, c) ← tagText (c.skip 2)
      if c.head = some '>' then .ok (WrittenTag.mk none s, c.next)
      else .error (.malformed "expected '>'")
    | x =>
      if endsWord x then .ok (⟨none, "!"⟩, c.next)
      else if (c.next.rest.takeWhile fun x => !endsPart (some x)).contains '!' then do
        let (h, c) ← handle c
        let (s, c) ← tagText c
        .ok (⟨some h, s⟩, c)
      else do
        let (s, c) ← tagText c.next
        .ok (⟨some "!", s⟩, c)
  if endsPart c.head then .ok (t, c) else .error (.malformed "expected ' ' after a tag")

/-! ## Directives -/

/-- A number of a version. -/
def versionNumber (c : Cursor) : Except Error (Nat × Cursor) :=
  let (ds, c) := c.span Char.isDigit
  if ds.isEmpty then .error (.malformed "expected a digit")
  else .ok (ds.foldl (fun n d => n * 10 + (d.toNat - 48)) 0, c)

/-- A version. -/
def version (c : Cursor) : Except Error (Directive × Cursor) := do
  let (major, c) ← versionNumber c.dropBlanks
  if c.head ≠ some '.' then .error (.malformed "expected a digit or '.'")
  else
    let (minor, c) ← versionNumber c.next
    if endsPart c.head then .ok (.version major minor, c)
    else .error (.malformed "expected a digit or ' '")

/-- What a handle stands for. -/
def tagDirective (c : Cursor) : Except Error (Directive × Cursor) := do
  let (h, c) ← handle c.dropBlanks
  if c.head ≠ some ' ' then .error (.malformed "expected ' '")
  else
    let (start, c) ← tagText c.dropBlanks
    if endsPart c.head then .ok (.tag h start, c) else .error (.malformed "expected ' '")

/-- A directive, from the percent sign that begins it to the end of its line. -/
def directive (c : Cursor) : Except Error (Directive × Cursor) := do
  let (name, c) := c.next.span isNameChar
  if name.isEmpty then .error (.malformed "expected a directive name")
  else if !endsPart c.head then .error (.malformed "unexpected character in a directive name")
  else
    let (d, c) ←
      match String.ofList name with
      | "YAML" => version c
      | "TAG" => tagDirective c
      | _ => .ok (Directive.other, c.drop (!isBreak ·))
    .ok (d, ← c.endLine)

end Property

end SchemaModels.Yaml
