import SchemaModels.Text.Compat.Decomposition
import SchemaModels.Text.Compat.Composition

/-!
Compatibility composition (normalization form KC): decompose every character, put the marks of
each base character into canonical order, then compose again. Identifiers that agree in this form
are one identifier.
-/

namespace SchemaModels.Text

/-! ## Hangul syllables, which are composed by arithmetic -/

/-- The letters of a Hangul syllable. -/
def hangulLetters (n : Nat) : List Nat :=
  let i := n - 0xAC00
  let tail := i % 28
  [0x1100 + i / 588, 0x1161 + i % 588 / 28] ++ if tail = 0 then [] else [0x11A7 + tail]

/-- The syllable of a leading consonant and a vowel, or of an open syllable and a trailing
consonant. -/
def hangulPair? (a b : Nat) : Option Nat :=
  if 0x1100 ≤ a ∧ a < 0x1113 ∧ 0x1161 ≤ b ∧ b < 0x1176 then
    some (0xAC00 + ((a - 0x1100) * 21 + (b - 0x1161)) * 28)
  else if 0xAC00 ≤ a ∧ a < 0xD7A4 ∧ (a - 0xAC00) % 28 = 0 ∧ 0x11A7 < b ∧ b < 0x11C3 then
    some (a + (b - 0x11A7))
  else none

/-! ## Decomposition -/

/-- The full compatibility decomposition of a character. -/
def decompose (c : Char) : List Char :=
  let n := c.toNat
  if n < 0xA0 then [c]
  else if 0xAC00 ≤ n ∧ n < 0xD7A4 then (hangulLetters n).map Char.ofNat
  else match shiftOf? compatShifts c with
    | some d => [d]
    | none =>
      match runImage? compatSingles c with
      | some m => [Char.ofNat m]
      | none => ((runImage? compatSequences c).map (·.map Char.ofNat)).getD [c]

/-- The combining class; zero for every character that is not a reordered mark. -/
def combiningClass (c : Char) : Nat :=
  if c.toNat < 0x300 then 0
  else ((combiningClasses.find? fun r => r.1 ≤ c.toNat && c.toNat ≤ r.2.1).map (·.2.2)).getD 0

/-! ## Canonical order -/

/-- Puts a character before marks that are in order already: past those of a lower class. -/
def insertMark (c : Char) : List Char → List Char
  | [] => [c]
  | d :: ds =>
    if combiningClass d ≠ 0 ∧ combiningClass d < combiningClass c then d :: insertMark c ds
    else c :: d :: ds

/-- Sorts every run of marks by combining class, keeping the order of equals. -/
def orderMarks (cs : List Char) : List Char :=
  cs.foldr insertMark []

/-! ## Composition -/

/-- The composite of two characters. -/
def composePair? (a b : Char) : Option Char :=
  match hangulPair? a.toNat b.toNat with
  | some n => some (Char.ofNat n)
  | none =>
    ((compositions.lookup b.toNat).bind (·.lookup a.toNat)).map Char.ofNat

/-- Composes the rest of a text into its current base character, with `marks` the characters
after the base that did not compose, the last one first. A character composes only if no
character between it and the base has its combining class or a higher one. -/
def composeFrom (base : Char) (marks : List Char) : List Char → List Char
  | [] => base :: marks.reverse
  | c :: cs =>
    let free := match marks with
      | [] => true
      | m :: _ => combiningClass m < combiningClass c
    match if free then composePair? base c else none with
    | some d => composeFrom d marks cs
    | none =>
      if combiningClass c = 0 then base :: marks.reverse ++ composeFrom c [] cs
      else composeFrom base (c :: marks) cs

/-- Composes a text whose marks are in canonical order. Marks before the first base character
stay as they are. -/
def compose (cs : List Char) : List Char :=
  let leading := cs.takeWhile (combiningClass · ≠ 0)
  match cs.dropWhile (combiningClass · ≠ 0) with
  | [] => leading
  | c :: rest => leading ++ composeFrom c [] rest

/-- Compatibility composition of a row of characters. -/
def compatChars (cs : List Char) : List Char :=
  if cs.all (·.toNat < 0xA0) then cs
  else compose (orderMarks (cs.flatMap decompose))

/-- Compatibility composition of a text. -/
def compat (s : String) : String :=
  String.ofList (compatChars s.toList)

end SchemaModels.Text
