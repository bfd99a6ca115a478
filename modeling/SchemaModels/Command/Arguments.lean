import SchemaModels.Command.Switch
import SchemaModels.Json
import SchemaModels.Source.Literal
import SchemaModels.Text.Digit
import SchemaModels.Text.Part

/-!
Reading the command line.

Each argument is first told apart on its own: a switch, possibly with something attached to it, an
operand, or the mark after which only operands follow. A long switch may be cut short as long as one
switch alone begins like that. Then the switches take their operands, from left to right, until one
asks for help; whatever no switch takes is left over and refused at the end.
-/

namespace SchemaModels.Command

/-- What a run is asked for. -/
structure Arguments where
  config : String := Switch.defaultConfig
  outputDirectory : Option String := none
  verbose : Bool := false
  noColour : Bool := false
  noFormat : Bool := false
  deriving DecidableEq, Inhabited

/-- What the command line asks for. -/
inductive Wish where
  | help
  | run (arguments : Arguments)
  deriving DecidableEq, Inhabited

/-- What is wrong with a command line. -/
inductive Mistake where
  /-- Several switches begin like this. -/
  | ambiguous (argument : String) (candidates : List String)
  /-- A switch lacks its operand. -/
  | operandMissing (s : Switch)
  /-- A switch that takes no operand has got one. -/
  | operandUnwanted (s : Switch) (operand : String)
  /-- No switch takes these arguments. -/
  | leftOver (arguments : List String)
  deriving DecidableEq, Inhabited

/-- What is told of a mistake. -/
def Mistake.message : Mistake → String
  | .ambiguous argument candidates =>
    s!"ambiguous option: {argument} could match " ++ ", ".intercalate candidates
  | .operandMissing s => s!"argument {s.title}: expected one argument"
  | .operandUnwanted s operand =>
    s!"argument {s.title}: ignored explicit argument " ++ Source.quoted operand
  | .leftOver arguments => "unrecognized arguments: " ++ " ".intercalate arguments

/-- Sets what a switch asks for. -/
def Arguments.set (a : Arguments) : Switch → Option String → Arguments
  | .config, some path => { a with config := path }
  | .outputDirectory, some path => { a with outputDirectory := some path }
  | .verbose, _ => { a with verbose := true }
  | .noColour, _ => { a with noColour := true }
  | .noFormat, _ => { a with noFormat := true }
  | _, _ => a

/-! ## Single arguments -/

/-- What is attached to a switch, and whether an equals sign stands before it. -/
structure Attached where
  marked : Bool
  text : List Char
  deriving DecidableEq, Inhabited

/-- An argument on its own. -/
inductive Word where
  /-- From here on there are operands only. -/
  | divider
  | operand (text : String)
  /-- Looks like a switch and is none. -/
  | stranger (text : String)
  | long (s : Switch) (attached : Option Attached)
  | short (s : Switch) (attached : Option Attached)
  deriving DecidableEq, Inhabited

/-- The text before and after the first equals sign. -/
def splitAtEquals (cs : List Char) : List Char × Option Attached :=
  match cs.dropWhile (· != '=') with
  | [] => (cs, none)
  | _ :: rest => (cs.takeWhile (· != '='), some ⟨true, rest⟩)

/-- The text is a negative number. One line feed may follow it. -/
def isNegativeNumber : List Char → Bool
  | '-' :: cs =>
    let isDigit := fun c => (Text.digitValue? c).isSome
    let body := match cs.reverse with
      | '\n' :: rest => rest.reverse
      | _ => cs
    match body.dropWhile isDigit with
    | [] => !body.isEmpty
    | '.' :: rest => !rest.isEmpty && rest.all isDigit
    | _ => false
  | _ => false

/-- An argument that begins with a hyphen and belongs to no switch: numbers and texts with blanks
are operands. -/
def unmatched (cs : List Char) : Word :=
  if isNegativeNumber cs || cs.contains ' ' then .operand (String.ofList cs)
  else .stranger (String.ofList cs)

/-- Reads an argument that begins with two hyphens. -/
def readLong (cs : List Char) : Except Mistake Word :=
  let (name, attached) := splitAtEquals cs
  match Switch.all.find? (·.long.toList == name) with
  | some s => .ok (.long s attached)
  | none =>
    match Switch.all.filter fun s => name.isPrefixOf s.long.toList with
    | [] => .ok (unmatched cs)
    | [s] => .ok (.long s attached)
    | candidates => .error (.ambiguous (String.ofList cs) (candidates.map Switch.long))

/-- Reads an argument. -/
def readWord (argument : String) : Except Mistake Word :=
  match argument.toList with
  | ['-', '-'] => .ok .divider
  | '-' :: '-' :: cs => readLong ('-' :: '-' :: cs)
  | '-' :: c :: cs =>
    match Switch.ofLetter? c with
    | none => .ok (unmatched ('-' :: c :: cs))
    | some s => .ok (.short s (match cs with
      | [] => none
      | '=' :: rest => some ⟨true, rest⟩
      | _ => some ⟨false, cs⟩))
  | _ => .ok (.operand argument)

/-- Reads all arguments. -/
def readWords : List String → Except Mistake (List Word)
  | [] => .ok []
  | argument :: rest => do
    match ← readWord argument with
    | .divider => .ok (.divider :: rest.map .operand)
    | w => return w :: (← readWords rest)

/-! ## Joined switches -/

/-- How an argument with switches in it ends. -/
inductive Tail where
  /-- All its switches are complete. -/
  | complete
  /-- The last switch has its operand. -/
  | filled (s : Switch) (operand : String)
  /-- The last switch takes the next argument. -/
  | waiting (s : Switch)
  /-- The last letters belong to no switch. -/
  | stray (letters : String)
  deriving DecidableEq, Inhabited

/-- The switches of one argument: those without an operand, and the end. -/
structure Cluster where
  flags : List Switch
  tail : Tail
  deriving DecidableEq, Inhabited

/-- A switch with nothing attached to it. -/
def Cluster.alone (s : Switch) : Cluster :=
  if s.operand?.isSome then ⟨[], .waiting s⟩ else ⟨[s], .complete⟩

/-- A switch that goes before others. -/
def Cluster.push (s : Switch) (c : Cluster) : Cluster := { c with flags := s :: c.flags }

/-- The switches of an argument with one hyphen, from a switch on to which a text is attached.
Letters attached to a switch without an operand are switches themselves. -/
def cluster (s : Switch) (marked : Bool) (cs : List Char) : Except Mistake Cluster :=
  if s.operand?.isSome then .ok ⟨[], .filled s (String.ofList cs)⟩
  else match cs with
    | [] => .error (.operandUnwanted s "")
    | c :: rest =>
      if marked || c == '-' then .error (.operandUnwanted s (String.ofList cs))
      else match Switch.ofLetter? c with
        | none => .ok ⟨[s], .stray (String.ofList ('-' :: cs))⟩
        | some next =>
          match rest with
          | [] => .ok (.push s (.alone next))
          | '=' :: after => Cluster.push s <$> cluster next true after
          | more => Cluster.push s <$> cluster next false more

/-- The switches of an argument. An argument that holds none is stray. -/
def Word.cluster : Word → Except Mistake Cluster
  | .divider => .ok ⟨[], .stray "--"⟩
  | .operand t | .stranger t => .ok ⟨[], .stray t⟩
  | .long s none | .short s none => .ok (.alone s)
  | .long s (some a) =>
    if s.operand?.isSome then .ok ⟨[], .filled s (String.ofList a.text)⟩
    else .error (.operandUnwanted s (String.ofList a.text))
  | .short s (some a) => Command.cluster s a.marked a.text

/-! ## All arguments -/

/-- Takes the switches from left to right; `leftOver` are the arguments that none has taken. -/
def take (a : Arguments) (leftOver : List String) : List Word → Except Mistake Wish
  | [] => if leftOver.isEmpty then .ok (.run a) else .error (.leftOver leftOver)
  | w :: rest => do
    let ⟨flags, tail⟩ ← w.cluster
    let a := flags.foldl (·.set · none) a
    let stop := flags.contains .help
    match tail, rest with
    | .waiting s, .operand t :: rest =>
      if stop then .ok .help else take (a.set s (some t)) leftOver rest
    | .waiting s, _ => .error (.operandMissing s)
    | .complete, rest => if stop then .ok .help else take a leftOver rest
    | .filled s t, rest => if stop then .ok .help else take (a.set s (some t)) leftOver rest
    | .stray t, rest => if stop then .ok .help else take a (leftOver ++ [t]) rest

/-- Reads a command line. -/
def read (arguments : List String) : Except Mistake Wish := do
  take {} [] (← readWords arguments)

end SchemaModels.Command
