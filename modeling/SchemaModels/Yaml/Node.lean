import SchemaModels.Yaml.Tag
import SchemaModels.Yaml.Token

/-!
The nodes of a YAML document: scalars, sequences and mappings, each with its tag. An alias is the
node that its anchor names. A text holds one document at most.
-/

namespace SchemaModels.Yaml

/-- A node of a document. -/
inductive Node where
  /-- A scalar. The text is none if it holds half of a surrogate pair. -/
  | scalar (tag : Tag) (text : Option String)
  | sequence (tag : Tag) (items : List Node)
  | mapping (tag : Tag) (entries : List (Node × Node))
  /-- An alias of a sequence or mapping that it stands in. -/
  | within (isMapping : Bool)
  deriving Inhabited

namespace Node

/-- A node that nothing is written for. -/
def empty : Node := .scalar .null (some "")

/-- The tag of a node. -/
def tag : Node → Tag
  | .scalar t _ => t
  | .sequence t _ => t
  | .mapping t _ => t
  | .within isMapping => if isMapping then .map else .seq

mutual

/-- How deep sequences and mappings are nested in a node. -/
def depth : Node → Nat
  | .sequence _ items => depthItems items + 1
  | .mapping _ entries => depthEntries entries + 1
  | _ => 0

def depthItems : List Node → Nat
  | [] => 0
  | n :: ns => max (depth n) (depthItems ns)

def depthEntries : List (Node × Node) → Nat
  | [] => 0
  | (k, v) :: es => max (max (depth k) (depth v)) (depthEntries es)

end

end Node

/-- Reading nodes: the tokens still to come, what handles stand for, and the nodes that have
anchors. -/
structure Reading where
  tokens : List Token
  handles : List (String × String)
  anchors : List (String × Node) := []

namespace Reading

/-- The tokens that are left. -/
def left (ts : List Token) (r : Reading) : Reading := { r with tokens := ts }

/-- A node and what is left to read. -/
abbrev Result := Except Error (Node × Reading)

def unexpected {α : Type} (what : String) : Except Error α :=
  .error (.malformed ("expected " ++ what))

/-! ## Properties -/

/-- What stands in front of a node. -/
structure Properties where
  anchor : Option String := none
  tag : Option String := none

/-- The full name of a tag. -/
def tagName (r : Reading) (t : WrittenTag) : Except Error String :=
  match t.handle with
  | none => .ok t.suffix
  | some h =>
    match r.handles.lookup h with
    | some start => .ok (start ++ t.suffix)
    | none => .error (.malformed "found undefined tag handle")

/-- The anchor and the tag in front of a node, in either order. -/
def properties (r : Reading) : Except Error (Properties × Reading) :=
  match r.tokens with
  | .anchor a :: .tag t :: ts => do .ok (⟨some a, some (← r.tagName t)⟩, r.left ts)
  | .tag t :: .anchor a :: ts => do .ok (⟨some a, some (← r.tagName t)⟩, r.left ts)
  | .anchor a :: ts => .ok (⟨some a, none⟩, r.left ts)
  | .tag t :: ts => do .ok (⟨none, some (← r.tagName t)⟩, r.left ts)
  | _ => .ok ({}, r)

/-- The tag of a sequence or mapping; the default one unless another is written. -/
def Properties.tagOr (p : Properties) (default : Tag) : Tag :=
  match p.tag with
  | none | some "!" => default
  | some name => .ofName name

/-- The tag of a scalar. Without a tag its form counts if it is plain, with the tag `!` in any
case. -/
def Properties.scalarTag (p : Properties) (plain : Bool) (text : Option String) : Tag :=
  let formed := (text.map Tag.ofPlain).getD .str
  match p.tag with
  | none => if plain then formed else .str
  | some "!" => formed
  | some name => .ofName name

/-- Names a node that is about to be read; two nodes cannot have one name. -/
def name (p : Properties) (n : Node) (r : Reading) : Except Error Reading :=
  match p.anchor with
  | none => .ok r
  | some a =>
    match r.anchors.lookup a with
    | some _ => .error (.malformed "found duplicate anchor")
    | none => .ok { r with anchors := (a, n) :: r.anchors }

/-- Puts the finished node in under its name. -/
def finish (p : Properties) (n : Node) (r : Reading) : Node × Reading :=
  match p.anchor with
  | none => (n, r)
  | some a => (n, { r with anchors := (a, n) :: r.anchors })

/-! ## Nodes -/

/-- An empty node in front of one of the given tokens, else what is read. -/
def emptyAt (stops : List Token) (read : Reading → Result) (r : Reading) : Result :=
  if r.tokens.head?.any stops.contains then .ok (.empty, r) else read r

/-- What follows a value's colon, else an empty node. -/
def afterColon (stops : List Token) (read : Reading → Result) (r : Reading) : Result :=
  match r.tokens with
  | .value :: ts => (r.left ts).emptyAt stops read
  | _ => .ok (.empty, r)

mutual

/-- The node at the front of the tokens. `block` allows blocks, and `bare` a sequence of items that
begin no block of their own. The steps bound the nesting of the calls. -/
def node (block bare : Bool) : Nat → Reading → Result
  | 0, _ => unexpected "fewer levels"
  | steps + 1, r =>
    match r.tokens with
    | .alias a :: ts =>
      match r.anchors.lookup a with
      | some n => .ok (n, r.left ts)
      | none => .error (.malformed "found undefined alias")
    | _ => do
      let (p, r) ← r.properties
      let sequence := fun (ts : List Token)
          (items : Reading → Except Error (List Node × Reading)) => do
        let (ns, r) ← items (← (r.left ts).name p (.within false))
        Except.ok (finish p (.sequence (p.tagOr .seq) ns) r)
      let mapping := fun (ts : List Token)
          (entries : Reading → Except Error (List (Node × Node) × Reading)) => do
        let (es, r) ← entries (← (r.left ts).name p (.within true))
        Except.ok (finish p (.mapping (p.tagOr .map) es) r)
      match r.tokens, block, bare with
      | .item :: _, _, true => sequence r.tokens (bareItems steps)
      | .scalar plain text :: ts, _, _ =>
        let n := Node.scalar (p.scalarTag plain text) text
        .ok (n, ← (r.left ts).name p n)
      | .openSequence :: ts, _, _ => sequence ts (flowItems true steps)
      | .openMapping :: ts, _, _ => mapping ts (flowEntries true steps)
      | .blockSequence :: ts, true, _ => sequence ts (blockItems steps)
      | .blockMapping :: ts, true, _ => mapping ts (blockEntries steps)
      | _, _, _ =>
        if p.anchor.isSome || p.tag.isSome then
          let n := Node.scalar (p.scalarTag true (some "")) (some "")
          .ok (n, ← r.name p n)
        else unexpected "the node content"

/-- The items of a block. -/
def blockItems : Nat → Reading → Except Error (List Node × Reading)
  | 0, _ => unexpected "fewer levels"
  | steps + 1, r =>
    match r.tokens with
    | .item :: ts => do
      let (n, r) ← (r.left ts).emptyAt [.item, .blockEnd] (node true false steps)
      let (ns, r) ← blockItems steps r
      .ok (n :: ns, r)
    | .blockEnd :: ts => .ok ([], r.left ts)
    | _ => unexpected "<block end>"

/-- Items at the column of the mapping that they are a value in. -/
def bareItems : Nat → Reading → Except Error (List Node × Reading)
  | 0, _ => unexpected "fewer levels"
  | steps + 1, r =>
    match r.tokens with
    | .item :: ts => do
      let (n, r) ← (r.left ts).emptyAt [.item, .key, .value, .blockEnd] (node true false steps)
      let (ns, r) ← bareItems steps r
      .ok (n :: ns, r)
    | _ => .ok ([], r)

/-- The entries of a block. -/
def blockEntries : Nat → Reading → Except Error (List (Node × Node) × Reading)
  | 0, _ => unexpected "fewer levels"
  | steps + 1, r =>
    match r.tokens with
    | .key :: ts => do
      let stops : List Token := [.key, .value, .blockEnd]
      let (k, r) ← (r.left ts).emptyAt stops (node true true steps)
      let (v, r) ← r.afterColon stops (node true true steps)
      let (es, r) ← blockEntries steps r
      .ok ((k, v) :: es, r)
    | .blockEnd :: ts => .ok ([], r.left ts)
    | _ => unexpected "<block end>"

/-- The items of a sequence in brackets; a key and a value among them are a mapping of their
own. -/
def flowItems (first : Bool) : Nat → Reading → Except Error (List Node × Reading)
  | 0, _ => unexpected "fewer levels"
  | steps + 1, r =>
    match first, r.tokens with
    | _, .closeSequence :: ts => .ok ([], r.left ts)
    | false, .comma :: .closeSequence :: ts => .ok ([], r.left ts)
    | false, .comma :: ts => do
      let (n, r) ← flowItem steps (r.left ts)
      let (ns, r) ← flowItems false steps r
      .ok (n :: ns, r)
    | true, _ => do
      let (n, r) ← flowItem steps r
      let (ns, r) ← flowItems false steps r
      .ok (n :: ns, r)
    | false, _ => unexpected "',' or ']'"

/-- An item of a sequence in brackets. -/
def flowItem : Nat → Reading → Result
  | 0, _ => unexpected "fewer levels"
  | steps + 1, r =>
    match r.tokens with
    | .key :: ts => do
      let (k, r) ← (r.left ts).emptyAt [.value, .comma, .closeSequence] (node false false steps)
      let (v, r) ← r.afterColon [.comma, .closeSequence] (node false false steps)
      .ok (.mapping .map [(k, v)], r)
    | _ => node false false steps r

/-- The entries of a mapping in brackets. -/
def flowEntries (first : Bool) : Nat → Reading → Except Error (List (Node × Node) × Reading)
  | 0, _ => unexpected "fewer levels"
  | steps + 1, r =>
    match first, r.tokens with
    | _, .closeMapping :: ts => .ok ([], r.left ts)
    | false, .comma :: .closeMapping :: ts => .ok ([], r.left ts)
    | false, .comma :: ts => do
      let (e, r) ← flowEntry steps (r.left ts)
      let (es, r) ← flowEntries false steps r
      .ok (e :: es, r)
    | true, _ => do
      let (e, r) ← flowEntry steps r
      let (es, r) ← flowEntries false steps r
      .ok (e :: es, r)
    | false, _ => unexpected "',' or a closing brace"

/-- An entry of a mapping in brackets. -/
def flowEntry : Nat → Reading → Except Error ((Node × Node) × Reading)
  | 0, _ => unexpected "fewer levels"
  | steps + 1, r =>
    match r.tokens with
    | .key :: ts => do
      let (k, r) ← (r.left ts).emptyAt [.value, .comma, .closeMapping] (node false false steps)
      let (v, r) ← r.afterColon [.comma, .closeMapping] (node false false steps)
      .ok ((k, v), r)
    | _ => do
      let (k, r) ← node false false steps r
      .ok ((k, .empty), r)

end

/-! ## Documents -/

/-- Handles that every document has. -/
def commonHandles : List (String × String) := [("!", "!"), ("!!", Tag.common)]

/-- What handles stand for, after the directives in front of a document. -/
def directives (versioned : Bool) (handles : List (String × String)) :
    List Token → Except Error (List (String × String) × List Token)
  | .directive (.version major _) :: ts =>
    if versioned then .error (.malformed "found duplicate YAML directive")
    else if major ≠ 1 then .error (.malformed "found incompatible YAML document")
    else directives true handles ts
  | .directive (.tag h start) :: ts =>
    if (handles.lookup h).isSome then .error (.malformed "duplicate tag handle")
    else directives versioned ((h, start) :: handles) ts
  | .directive .other :: ts => directives versioned handles ts
  | ts => .ok (handles, ts)

/-- Nothing but the marks of a document's end may follow it. -/
def close (n : Node) (r : Reading) : Except Error Node :=
  if r.tokens.all (· == .documentEnd) then .ok n
  else .error (.malformed "expected a single document in the stream")

/-- The document of a text that begins with directives or with the mark of its start. -/
def marked (ts : List Token) : Except Error Node := do
  let (handles, ts) ← directives false [] ts
  match ts with
  | .documentStart :: ts => do
    let r : Reading := { tokens := ts, handles := handles ++ commonHandles }
    let bare := match ts with
      | [] | .directive _ :: _ | .documentStart :: _ | .documentEnd :: _ => true
      | _ => false
    if bare then close .empty r
    else
      let (n, r) ← node true false (4 * ts.length + 4) r
      close n r
  | _ => unexpected "<document start>"

end Reading

/-- The document that tokens make up, if there is one. -/
def Node.ofTokens? (ts : List Token) : Except Error (Option Node) :=
  match ts with
  | [] => .ok none
  | .directive _ :: _ | .documentStart :: _ => some <$> Reading.marked ts
  | _ => do
    let (n, r) ← Reading.node true false (4 * ts.length + 4)
      { tokens := ts, handles := Reading.commonHandles }
    some <$> Reading.close n r

end SchemaModels.Yaml
