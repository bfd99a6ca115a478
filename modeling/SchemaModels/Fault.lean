import SchemaModels.Json.Display

/-!
Faults: an operation met data that it is not defined on. The server's answers and the
configuration are JSON of any shape, and they are taken apart without a check of their shape
first; the fault says which operation failed on which value.
-/

namespace SchemaModels

/-- A template cannot be filled with the values it is given. -/
inductive TemplateFault where
  /-- The values run out. -/
  | tooFew
  /-- Values are left over. -/
  | tooMany
  /-- A named conversion has no names to look in. -/
  | namesNeeded
  /-- No value has the name. -/
  | unknownName (name : String)
  /-- The template ends within a conversion. -/
  | incomplete
  /-- The template ends within a name. -/
  | incompleteName
  /-- The character at a place of the template names no kind of conversion. -/
  | badKind (kind : Char) (place : Nat)
  /-- A layout names no part of an entry. -/
  | nameless (template : String)
  /-- A layout names a part that entries do not have. -/
  | unknownPart (name : String)
  /-- A kind of conversion does not take the value. -/
  | unfit (kind : Char) (found : Json)
  deriving Inhabited

/-- An operation met a value it is not defined on. -/
inductive Fault where
  /-- A naming rule that asks for a text met another value. -/
  | textExpected (found : Json)
  /-- An operator or function does not take this value. -/
  | operand (found : Json)
  /-- The value has no such member. -/
  | noMember (found : Json) (member : String)
  /-- The value has no items. -/
  | notIterable (found : Json)
  /-- A page number cannot be compared with this value. -/
  | notOrdered (found : Json)
  /-- The text, given as a literal, is no whole number in a base. -/
  | badInteger (literal : String) (base : Nat := 10)
  /-- The text, given as a literal, is no number. -/
  | badNumber (literal : String)
  /-- A numeral has no characters but its sign. -/
  | emptyNumeral
  /-- No character has this code point. -/
  | badCodePoint
  /-- A text is none of the words for true and false. -/
  | badTruth (word : String)
  /-- A text is no date. -/
  | noDate
  /-- A number that is none cannot become whole. -/
  | nanInteger
  /-- An infinite number cannot become whole. -/
  | infiniteInteger
  /-- A text of this many digits is too long to be read as a number. -/
  | longInteger (digits : Nat)
  /-- A list or an object in a text is nested deeper than it can be read. -/
  | tooDeep (inObject : Bool)
  /-- An expansion record lacks entries. -/
  | incompleteRecord (id : Json) (missing : List String)
  /-- A text is no expression of the generated source. -/
  | badExpression
  /-- A text begins with blanks where a line must not. -/
  | badIndentation
  /-- Bytes are no UTF-8 text. -/
  | undecodable
  /-- A text with half of a surrogate pair has no bytes in UTF-8. -/
  | unencodable
  /-- A date or time names no day or moment. -/
  | badDate (reason : String)
  /-- A path holds the character that ends it for the system. -/
  | cutPath
  | template (cause : TemplateFault)
  deriving Inhabited

/-- What is wrong with a template. -/
def TemplateFault.message : TemplateFault → String
  | .tooFew => "not enough arguments for format string"
  | .tooMany => "not all arguments converted during string formatting"
  | .namesNeeded => "format requires a mapping"
  | .unknownName name => Source.quoted name
  | .incomplete => "incomplete format"
  | .incompleteName => "incomplete format key"
  | .badKind kind place =>
    let shown := if 31 ≤ kind.toNat ∧ kind.toNat < 126 then kind else '?'
    s!"unsupported format character '{shown}' (0x" ++
      String.ofList (Nat.toDigits 16 kind.toNat) ++ s!") at index {place}"
  | .nameless template => s!"Invalid format '{template}' for '%' style"
  | .unknownPart name => "Formatting field not found in record: " ++ Source.quoted name
  | .unfit kind found => s!"%{kind} format: a number is required, not {found.typeName}"

/-- The families of faults. A step can be prepared for the faults of some families and pass the
others on. -/
inductive Fault.Family where
  /-- A value is of a kind that the operation does not take. -/
  | operand
  /-- A value has no such member. -/
  | member
  /-- A value is of the right kind and yet unfit. -/
  | value
  /-- There is nothing under a key. -/
  | key
  /-- There is nothing at a place. -/
  | place
  /-- A number is too large. -/
  | range
  /-- A text is no source. -/
  | source
  /-- A value is nested too deep. -/
  | depth
  deriving DecidableEq

/-- The family of what is wrong with a template. -/
def TemplateFault.family : TemplateFault → Fault.Family
  | .tooFew | .tooMany | .namesNeeded | .unfit .. => .operand
  | .unknownName _ => .key
  | .incomplete | .incompleteName | .badKind .. | .nameless _ | .unknownPart _ => .value

namespace Fault

/-- The family that a fault belongs to. -/
def family : Fault → Family
  | .textExpected _ | .operand _ | .notIterable _ | .notOrdered _ => .operand
  | .noMember .. | .noDate => .member
  | .badInteger .. | .badNumber _ | .badCodePoint | .nanInteger | .longInteger _
  | .incompleteRecord .. | .undecodable | .unencodable | .badDate _ | .cutPath => .value
  | .badTruth _ => .key
  | .emptyNumeral => .place
  | .infiniteInteger => .range
  | .badExpression | .badIndentation => .source
  | .tooDeep _ => .depth
  | .template cause => cause.family

/-- The most digits a text may have that is read as a whole number. -/
def maxDigits : Nat := 4300

/-- What went wrong. -/
def message : Fault → String
  | .textExpected found => s!"Expected string, got {found.typeName}"
  | .operand found => s!"unsupported value of type '{found.typeName}'"
  | .noMember found member => s!"'{found.typeName}' object has no attribute '{member}'"
  | .notIterable found => s!"'{found.typeName}' object is not iterable"
  | .notOrdered found => s!"'>=' not supported between instances of 'int' and '{found.typeName}'"
  | .badInteger literal base => s!"invalid literal for int() with base {base}: {literal}"
  | .badNumber literal => s!"could not convert string to float: {literal}"
  | .emptyNumeral => "string index out of range"
  | .badCodePoint => "chr() arg not in range(0x110000)"
  | .badTruth word => Source.quoted word
  | .noDate => "'NoneType' object has no attribute 'groupdict'"
  | .nanInteger => "cannot convert float NaN to integer"
  | .infiniteInteger => "cannot convert float infinity to integer"
  | .longInteger digits =>
    s!"Exceeds the limit ({maxDigits} digits) for integer string conversion: " ++
      s!"value has {digits} digits; use sys.set_int_max_str_digits() to increase the limit"
  | .tooDeep inObject =>
    let kind := if inObject then "object" else "array"
    s!"maximum recursion depth exceeded while decoding a JSON {kind} from a unicode string"
  | .incompleteRecord id missing =>
    s!"Expansion record {id.display} is missing " ++ ", ".intercalate missing
  | .badExpression => "invalid syntax"
  | .badIndentation => "unexpected indent"
  | .undecodable => "invalid UTF-8"
  | .unencodable => "surrogates not allowed"
  | .badDate reason => reason
  | .cutPath => "embedded null byte"
  | .template cause => cause.message

end Fault

end SchemaModels
