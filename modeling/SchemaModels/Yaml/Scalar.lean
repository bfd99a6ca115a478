import SchemaModels.Yaml.Cursor

/-!
Scalars as they are written: plain words, texts in quotes, and blocks of lines. Each function reads
one scalar at a cursor and gives its text and the cursor behind it. A step takes a character at
least, so the length of the text is steps enough for every loop.
-/

namespace SchemaModels.Yaml.Scalar

/-- A line break within a scalar and the breaks after it: a single break is a blank, and of several
the first one goes. -/
def foldBreak (first : Char) (breaks : List Char) : List Char :=
  let v := breakValue first
  if v != '\n' then v :: breaks else if breaks.isEmpty then [' '] else breaks

/-! ## Plain scalars -/

/-- Characters that structure a list or mapping in brackets. -/
def isFlowSign (c : Char) : Bool :=
  c == ',' || c == '[' || c == ']' || c == '{' || c == '}'

/-- A run of characters ends in front of this text: at a blank, at a colon that ends a key, and in
brackets at the signs that structure them. -/
def endsRun (flow : Bool) : List Char → Bool
  | [] => true
  | c :: cs =>
    endsWord (some c) ||
      (c == ':' && (endsWord cs.head? || (flow && cs.head?.any isFlowSign))) ||
      (flow && (c == '?' || isFlowSign c))

/-- The length of the run of characters at the front of a text. -/
def runLength (flow : Bool) : List Char → Nat
  | [] => 0
  | c :: cs => if endsRun flow (c :: cs) then 0 else runLength flow cs + 1

/-- The breaks up to the next character that is no blank; nothing if a document ends on the way. -/
def plainBreaks : Nat → Cursor → Option (List Char) × Cursor
  | 0, c => (some [], c)
  | steps + 1, c =>
    match c.head with
    | none => (some [], c)
    | some x =>
      if x = ' ' then plainBreaks steps c.next
      else if isBreak x then
        if c.next.atMark then (none, c.next)
        else
          let (breaks, c) := plainBreaks steps c.next
          (breaks.map (breakValue x :: ·), c)
      else (some [], c)

/-- What stands between two runs, the cursor behind it, and whether it holds a line break. It is
empty where the scalar ends. -/
def plainGap (c : Cursor) : List Char × Bool × Cursor :=
  let (blanks, c) := c.span (· == ' ')
  match c.head with
  | none => (blanks, false, c)
  | some x =>
    if isBreak x then
      if c.next.atMark then ([], true, c.next)
      else
        match plainBreaks c.rest.length c.next with
        | (none, c) => ([], true, c)
        | (some breaks, c) => (foldBreak x breaks, true, c)
    else (blanks, false, c)

/-- The rest of a plain scalar, after a gap that may hold a line break. Outside brackets its lines
start at the given column or further right. -/
def plainFrom (flow : Bool) (least : Int) :
    Nat → List Char → Bool → Cursor → List Char × Bool × Cursor
  | 0, _, broken, c => ([], broken, c)
  | steps + 1, gap, broken, c =>
    let length := if c.head = some '#' then 0 else runLength flow c.rest
    if length = 0 then ([], broken, c)
    else
      let run := c.rest.take length
      let (nextGap, broken, c) := plainGap (c.skip length)
      if nextGap.isEmpty || c.head == some '#' || (!flow && c.column < least) then
        (gap ++ run, broken, c)
      else
        let (more, broken, c) := plainFrom flow least steps nextGap broken c
        (gap ++ run ++ more, broken, c)

/-- A plain scalar, and whether a line break follows it. -/
def plain (flow : Bool) (least : Int) (c : Cursor) : String × Bool × Cursor :=
  let (cs, broken, c) := plainFrom flow least (c.rest.length + 1) [] false c
  (String.ofList cs, broken, c)

/-! ## Texts in quotes -/

/-- The breaks up to the next character that is no blank. -/
def quotedBreaks : Nat → Cursor → Except Error (List Char × Cursor)
  | 0, c => .ok ([], c)
  | steps + 1, c =>
    if c.atMark then .error (.malformed "found unexpected document separator")
    else
      let c := c.drop isGap
      match c.head with
      | none => .ok ([], c)
      | some x =>
        if isBreak x then do
          let (breaks, c) ← quotedBreaks steps c.next
          .ok (breakValue x :: breaks, c)
        else .ok ([], c)

/-- Blanks or line breaks within quotes. -/
def quotedGap (c : Cursor) : Except Error (List Char × Cursor) :=
  let (blanks, c) := c.span isGap
  match c.head with
  | none => .error (.malformed "found unexpected end of stream")
  | some x =>
    if isBreak x then do
      let (breaks, c) ← quotedBreaks c.rest.length c.next
      .ok (foldBreak x breaks, c)
    else .ok (blanks, c)

/-- Characters that are written by a letter after a backslash. -/
def shortEscapes : List (Char × Nat) :=
  [('0', 0x00), ('a', 0x07), ('b', 0x08), ('t', 0x09), ('\t', 0x09), ('n', 0x0A), ('v', 0x0B),
   ('f', 0x0C), ('r', 0x0D), ('e', 0x1B), (' ', 0x20), ('"', 0x22), ('\\', 0x5C), ('/', 0x2F),
   ('N', 0x85), ('_', 0xA0), ('L', 0x2028), ('P', 0x2029)]

/-- How many digits the code point has that follows a letter after a backslash. -/
def escapeWidth? : Char → Option Nat
  | 'x' => some 2
  | 'u' => some 4
  | 'U' => some 8
  | _ => none

/-- The value of a digit in base sixteen. -/
def hexValue? (c : Char) : Option Nat :=
  if '0' ≤ c && c ≤ '9' then some (c.toNat - 48)
  else if 'a' ≤ c && c ≤ 'f' then some (c.toNat - 87)
  else if 'A' ≤ c && c ≤ 'F' then some (c.toNat - 55)
  else none

/-- The number of exactly so many digits in base sixteen at the front of a text. -/
def hexNumber? (width : Nat) (cs : List Char) : Option Nat :=
  let ds := (cs.take width).filterMap hexValue?
  if ds.length = width then some (ds.foldl (fun n d => n * 16 + d) 0) else none

/-- The character of a code point; half of a surrogate pair is none. -/
def character? (n : Nat) : Except Error (Option Char) :=
  if 0x80000000 ≤ n then .error (.fault .infiniteInteger)
  else if 0x110000 ≤ n then .error (.fault .badCodePoint)
  else if n.isValidChar then .ok (some (Char.ofNat n))
  else .ok none

/-- What a backslash and the text after it stand for. -/
def escape (c : Cursor) : Except Error (List (Option Char) × Cursor) :=
  match c.head with
  | none => .error (.malformed "found unknown escape character")
  | some x =>
    match shortEscapes.lookup x, escapeWidth? x with
    | some n, _ => .ok ([some (Char.ofNat n)], c.next)
    | none, some width =>
      match hexNumber? width c.next.rest with
      | none => .error (.malformed s!"expected escape sequence of {width} hexadecimal numbers")
      | some n => do .ok ([← character? n], c.next.skip width)
    | none, none =>
      if isBreak x then do
        let (breaks, c) ← quotedBreaks c.rest.length c.next
        .ok (breaks.map some, c)
      else .error (.malformed "found unknown escape character")

/-- The characters up to the quote that ends a text. -/
def quotedFrom (double : Bool) : Nat → Cursor → Except Error (List (Option Char) × Cursor)
  | 0, _ => .error (.malformed "found unexpected end of stream")
  | steps + 1, c =>
    match c.head with
    | none => .error (.malformed "found unexpected end of stream")
    | some x =>
      if isGap x || isBreak x then do
        let (gap, c) ← quotedGap c
        let (more, c) ← quotedFrom double steps c
        .ok (gap.map some ++ more, c)
      else if !double && x == '\'' && c.peek 1 == some '\'' then do
        let (more, c) ← quotedFrom double steps (c.skip 2)
        .ok (some x :: more, c)
      else if x == (if double then '"' else '\'') then .ok ([], c.next)
      else if double && x == '\\' then do
        let (cs, c) ← escape c.next
        let (more, c) ← quotedFrom double steps c
        .ok (cs ++ more, c)
      else do
        let (more, c) ← quotedFrom double steps c.next
        .ok (some x :: more, c)

/-- A text in quotes, from the quote that begins it. The text is none if it holds half of a
surrogate pair. -/
def quoted (double : Bool) (c : Cursor) : Except Error (Option String × Cursor) := do
  let (cs, c) ← quotedFrom double c.rest.length c.next
  .ok (if cs.all Option.isSome then some (String.ofList (cs.filterMap id)) else none, c)

/-! ## Blocks of lines -/

/-- What becomes of the line breaks that end a block: all go, one stays, or all stay. -/
inductive Chomping where
  | strip
  | clip
  | keep
  deriving DecidableEq

def chomping? : Char → Option Chomping
  | '+' => some .keep
  | '-' => some .strip
  | _ => none

/-- The indentation that a block states. -/
def increment? (c : Cursor) : Except Error (Option Nat × Cursor) :=
  match c.head with
  | some x =>
    if x = '0' then
      .error (.malformed "expected indentation indicator in the range 1-9, but found 0")
    else if x.isDigit then .ok (some (x.toNat - 48), c.next)
    else .ok (none, c)
  | none => .ok (none, c)

/-- What stands behind the sign that begins a block: chomping and indentation in either order. -/
def blockHead (c : Cursor) : Except Error (Chomping × Option Nat × Cursor) := do
  match c.head.bind chomping? with
  | some how =>
    let (increment, c) ← increment? c.next
    .ok (how, increment, c)
  | none =>
    match ← increment? c with
    | (none, c) => .ok (.clip, none, c)
    | (some n, c) =>
      match c.head.bind chomping? with
      | some how => .ok (how, some n, c.next)
      | none => .ok (.clip, some n, c)

/-- Past blanks, up to a column. -/
def dropIndent (indent : Nat) (c : Cursor) : Cursor :=
  c.skip (min (c.rest.takeWhile (· == ' ')).length (indent - c.column))

/-- The breaks up to the next line that is not empty. -/
def blockBreaks (indent : Nat) : Nat → Cursor → List Char × Cursor
  | 0, c => ([], c)
  | steps + 1, c =>
    let c := dropIndent indent c
    match c.head with
    | none => ([], c)
    | some x =>
      if isBreak x then
        let (breaks, c) := blockBreaks indent steps c.next
        (breakValue x :: breaks, c)
      else ([], c)

/-- The breaks up to the first line that is not empty, and the furthest column that blanks reach. -/
def blockLead : Nat → Cursor → List Char × Nat × Cursor
  | 0, c => ([], 0, c)
  | steps + 1, c =>
    match c.head with
    | none => ([], 0, c)
    | some x =>
      if x = ' ' then
        let (breaks, furthest, last) := blockLead steps c.next
        (breaks, max c.next.column furthest, last)
      else if isBreak x then
        let (breaks, furthest, last) := blockLead steps c.next
        (breakValue x :: breaks, furthest, last)
      else ([], 0, c)

/-- A line of the block begins here. -/
def atLine (indent : Nat) (c : Cursor) : Bool := c.column == indent && c.head.isSome

/-- The lines of a block with the breaks in front of each, the break that ends the last line, and
the breaks after it. -/
def blockLines (folded : Bool) (indent : Nat) :
    Nat → List Char → Cursor → List Char × List Char × List Char × Cursor
  | 0, breaks, c => ([], [], breaks, c)
  | steps + 1, breaks, c =>
    if atLine indent c then
      let flush := !c.head.any isGap
      let (line, c) := c.span (!isBreak ·)
      let ending := (c.head.map breakValue).toList
      let (nextBreaks, c) := blockBreaks indent (c.rest.length + 1) c.next
      if atLine indent c then
        let joint :=
          if folded && ending == ['\n'] && flush && !c.head.any isGap then
            if nextBreaks.isEmpty then [' '] else []
          else ending
        let (more, last, tail, c) := blockLines folded indent steps nextBreaks c
        (breaks ++ line ++ joint ++ more, last, tail, c)
      else (breaks ++ line, ending, nextBreaks, c)
    else ([], [], breaks, c)

/-- A block of lines, from the sign that begins it, within a block of the given indentation. -/
def block (folded : Bool) (outer : Int) (c : Cursor) : Except Error (String × Cursor) := do
  let (how, increment, c) ← blockHead c.next
  if !endsPart c.head then
    .error (.malformed "expected chomping or indentation indicators")
  else
    let c ← c.endLine
    let least := (max (outer + 1) 1).toNat
    let (indent, breaks, c) :=
      match increment with
      | some n =>
        let indent := least + n - 1
        (indent, blockBreaks indent (c.rest.length + 1) c)
      | none =>
        let (breaks, furthest, c) := blockLead (c.rest.length + 1) c
        (max least furthest, breaks, c)
    let (cs, last, tail, c) := blockLines folded indent (c.rest.length + 1) breaks c
    .ok (String.ofList (cs ++ (if how = .strip then [] else last) ++
      (if how = .keep then tail else [])), c)

end SchemaModels.Yaml.Scalar
