import SchemaModels.Command.Ending
import SchemaModels.Server.Recording

/-!
The program. It looks at the files that a run can meet, carries the run out on them in memory, and
then does to the files what the run did. The replies of the server are read from standard input, one
line for each request.
-/

namespace SchemaModels.Program

open Files (Path)

/-- The names in a directory; none if it cannot be listed. -/
def namesIn? (p : Path) : IO (Option (List String)) := do
  try
    let here ← IO.currentDir
    return some ((← (here / Path.text p).readDir).toList.map (·.fileName))
  catch _ => return none

/-- What is at a path. -/
def look (p : Path) : IO (Option Files.Node) := do
  if (← namesIn? p).isSome then return some .directory
  try
    return some (.file 0o644 (← IO.FS.readFile (Path.text p)))
  catch _ => return none

/-- Adds what is at a path, and at the paths that lead to it, to a tree. -/
def addPath (t : FileTree) (p : Path) : IO FileTree := do
  let mut t := t
  for n in List.range p.length do
    let q := p.take (n + 1)
    if let some node ← look q then
      t := t.set q node
  return t

/-- Adds a directory with what is directly in it to a tree. -/
def addDirectory (t : FileTree) (p : Path) : IO FileTree := do
  let mut t ← addPath t p
  for name in (← namesIn? p).getD [] do
    if let some node ← look (p ++ [name]) then
      t := t.set (p ++ [name]) node
  return t

/-- Does to the files what leads from one tree to another. -/
def apply (before after : FileTree) : IO Unit := do
  for (p, _) in before.entries do
    if (after.get? p).isNone then
      IO.FS.removeFile (Path.text p)
  for (p, node) in after.entries do
    if before.get? p != some node then
      match node with
      | .directory => IO.FS.createDirAll (Path.text p)
      | .file _ text => IO.FS.writeFile (Path.text p) text

/-- The rest of a stream. -/
partial def readAll (stream : IO.FS.Stream) (lines : String) : IO String := do
  let line ← stream.getLine
  if line.isEmpty then return lines else readAll stream (lines ++ line)

/-- The files that a command line is about, and the replies to its requests. -/
def host (arguments : List String) : IO Command.Host := do
  let directory := Path.names (← IO.currentDir).toString
  let tree ← addPath ⟨[]⟩ directory
  let empty : Command.Host :=
    { directory, disk := { tree }, session := .start "" (.int 30) [] }
  match Command.read arguments with
  | .ok (.run a) =>
    let tree ← addPath tree (Path.resolve directory a.config)
    let h := { empty with disk := { tree } }
    let tree ← match a.destination? h with
      | some p => addDirectory tree p
      | none => pure tree
    let replies := Server.replies (← readAll (← IO.getStdin) "")
    return { h with disk := { tree }, session := .start "" (.int 30) replies }
  | _ => return empty

end SchemaModels.Program

open SchemaModels

/-- Carries out the command line that the program was called with. -/
def main (arguments : List String) : IO UInt32 := do
  let h ← Program.host arguments
  let stderr ← IO.getStderr
  let screen : Command.Screen :=
    { terminal := ← stderr.isTty, noColour := ← IO.getEnv "NO_COLOR" }
  let (after, ending) := Command.execute arguments screen h
  Program.apply h.disk.tree after.disk.tree
  (← IO.getStdout).putStr ending.stdout
  stderr.putStr ending.stderr
  return ending.status.toUInt32
