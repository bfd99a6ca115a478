import SchemaModels.Json.Display
import SchemaModels.Log.Mark
import SchemaModels.Log
import SchemaModels.Template
import SchemaModels.Text.Blank
import SchemaModels.Text.Part

/-!
Log lines: the name of an entry's weight and its message, laid out by a template, in a colour that
the weight gives to warnings and errors and the mark of the message to everything else.
-/

namespace SchemaModels.Log

/-! ## Weights -/

def Level.all : List Level := [.debug, .info, .warning, .error, .critical]

/-- The name of a weight: that of the level with this weight if there is one. -/
def weightName (weight : Int) : String :=
  match Level.all.find? (fun l => (l.weight : Int) = weight) with
  | some l => l.name
  | none => if weight = 0 then "NOTSET" else s!"Level {weight}"

/-! ## Colours -/

/-- The control sequence with the given code. -/
def control (code : Nat) : String := s!"\x1b[{code}m"

def bold : String := control 1

def reset : String := control 0

/-- The colour of warnings and errors; a weight that is no level's has none. -/
def warningColour (weight : Int) : String :=
  if weight = Level.warning.weight then control 33
  else if weight = Level.error.weight then control 31
  else if weight = Level.critical.weight then control 35
  else ""

/-- The colour of lighter entries, by the mark at the front of the message. Headings are the rules
around them and messages in capitals. -/
def markColour (weight : Int) (message : String) : String :=
  let cs := Text.dropLeading Text.isBlank message.toList
  if cs.head? = some successMark then control 92 ++ bold
  else if cs.head? = some progressMark then control 94
  else if cs.head? = some highlightMark then control 96
  else if Text.holds rule.toList cs || Text.isAllCapitals (String.ofList cs) then bold ++ control 96
  else if weight = Level.debug.weight then control 36
  else ""

/-- The colour of an entry; empty if it has none. -/
def colour (weight : Int) (message : String) : String :=
  if (Level.warning.weight : Int) ≤ weight then warningColour weight else markColour weight message

/-- A line in the colour of its entry. -/
def paint (coloured : Bool) (weight : Int) (message line : String) : String :=
  let start := colour weight message
  if coloured && !start.isEmpty then start ++ line ++ reset else line

/-- Colours are for terminals only, if they are wanted and the environment does not forbid them. -/
def useColours (wanted terminal : Bool) (forbidden : Option String) : Bool :=
  wanted && !(forbidden.any (!·.isEmpty)) && terminal

/-! ## Lines -/

/-- A line in the usual layout. -/
def line (coloured : Bool) (weight : Int) (message : String) : String :=
  paint coloured weight message (weightName weight ++ ": " ++ message)

/-- A message with the values put in, if there are any; a message without values is no template. -/
def fillMessage (message : String) (arguments : List Json) : Except Fault String :=
  if arguments.isEmpty then .ok message
  else Template.fill (Template.ofText message) (.ofArguments arguments)

/-- The parts of an entry that a layout can name. -/
def parts (weight : Int) (message : String) : List (String × Json) :=
  [("levelname", .text (weightName weight)), ("levelno", .int weight), ("message", .text message)]

/-- The pieces of a layout, which has to name some part of an entry; an empty template is a layout
of the message alone. -/
def readLayout (template : String) : Except Fault (List Template.Piece) :=
  let pieces := Template.ofText (if template.isEmpty then "%(message)s" else template)
  if Template.hasName pieces then .ok pieces else .error (.template (.nameless template))

/-- A line in a layout. -/
def layOut (layout : List Template.Piece) (weight : Int) (message : String) :
    Except Fault String :=
  let entries := parts weight message
  match Template.fill layout ⟨[.object entries], some entries⟩ with
  | .error (.template (.unknownName name)) => .error (.template (.unknownPart name))
  | r => r

end SchemaModels.Log
