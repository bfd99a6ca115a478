import SchemaModels.Text.Case.Table

/-!
Full case conversion: a character may become several, and a capital sigma at the end of a word
becomes the final form.
-/

namespace SchemaModels.Text

/-- The upper-case form of a character. -/
def upperChar (c : Char) : List Char :=
  if c.toNat < 0x80 then [c.toUpper]
  else match upperExpansions.lookup c.toNat with
    | some ns => ns.map Char.ofNat
    | none => [(shiftOf? upperShifts c).getD c]

/-- The lower-case form of a character, apart from the context of a sigma. -/
def lowerChar (c : Char) : List Char :=
  if c.toNat < 0x80 then [c.toLower]
  else if c == 'İ' then ['i', Char.ofNat 0x307]
  else [(shiftOf? lowerShifts c).getD c]

/-- The upper-case form of a text. -/
def upper (s : String) : String :=
  String.ofList (s.toList.flatMap upperChar)

/-- Whether the nearest character that counts, in reading order, carries case. -/
def meetsCased (cs : List Char) : Bool :=
  match cs.dropWhile (covers skippedIntervals) with
  | [] => false
  | c :: _ => covers casedIntervals c

/-- The lower-case form of a text, given the characters before it from the nearest outwards. A
sigma takes its final form after a cased character that no cased character follows. -/
def lowerAfter (before : List Char) : List Char → List Char
  | [] => []
  | c :: cs =>
    (if c == 'Σ' then [if meetsCased before && !meetsCased cs then 'ς' else 'σ']
      else lowerChar c) ++ lowerAfter (c :: before) cs

/-- The lower-case form of a text. -/
def lower (s : String) : String :=
  String.ofList (lowerAfter [] s.toList)

/-- The text has capital letters, and neither small nor title-case ones. -/
def isAllCapitals (s : String) : Bool :=
  s.toList.any (strides capitalStrides) &&
    !s.toList.any fun c => strides smallStrides c || covers titleIntervals c

end SchemaModels.Text
