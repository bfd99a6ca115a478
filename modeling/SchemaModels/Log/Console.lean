import SchemaModels.Log.Line

/-!
The console: where log lines go. Entries lighter than the console's weight are left out, and the
library that talks to the network is never let below the weight of plain information.
-/

namespace SchemaModels.Log

/-- Lines written so far, and how further ones are written. -/
structure Console where
  least : Int
  coloured : Bool
  lines : List String
  deriving Inhabited

namespace Console

/-- An empty console. -/
def fresh (least : Int) (coloured : Bool) : Console := ⟨least, coloured, []⟩

/-- Writes a message unless it is too light. -/
def write (c : Console) (weight : Int) (message : String) : Console :=
  if c.least ≤ weight then { c with lines := c.lines ++ [line c.coloured weight message] } else c

/-- Writes a row of entries. -/
def writeAll (c : Console) (entries : List Entry) : Console :=
  entries.foldl (fun c e => c.write e.level.weight e.message) c

/-- Writes plain information. -/
def inform (c : Console) (message : String) : Console :=
  c.write Level.info.weight message

/-- Writes a heading. -/
def head (c : Console) (title : String) : Console :=
  (heading title).foldl inform c

/-- All that is written, each line with the break that ends it. -/
def text (c : Console) : String :=
  String.join (c.lines.map (· ++ "\n"))

/-- The least weight of entries about the network. -/
def networkLeast (c : Console) : Int := max c.least Level.info.weight

end Console

end SchemaModels.Log
