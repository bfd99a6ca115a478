import SchemaModels.Files.Replace
import SchemaModels.Package.Report

/-!
Formatting the files of a run. Only these files are formatted, so that anything else in the
directory stays as it is; a file that cannot be read keeps the text that was generated, with a
warning.
-/

namespace SchemaModels.Package

open Files (Path Disk)

/-- The name of the formatter. -/
def formatter : String := "Black"

/-- Formats a file, and answers whether it has changed. A file that can be read always changes:
generated code is never in the formatter's layout, which is given as a function on it. -/
def formatFile (layOut : String → String) (file : Written) : Task Disk Bool := do
  let path := file.path.getD ""
  if file.readable then do
    Task.note .debug (s!"Formatted code using {formatter}: " ++ path)
    Disk.writeWhole (Path.below [] path) (layOut file.code)
    pure true
  else do
    Task.note .warning
      (s!"Could not format {path} using {formatter}: " ++ Fault.badExpression.message)
    pure false

/-- Formats files one after the other, and answers how many have changed. -/
def formatFiles (layOut : String → String) : List Written → Task Disk Nat
  | [] => pure 0
  | file :: rest => do
    let changed ← formatFile layOut file
    let others ← formatFiles layOut rest
    pure (changed.toNat + others)

/-- Formats the files of a run. -/
def format (layOut : String → String) (report : RunReport) : Task Disk Unit := do
  let changed ← formatFiles layOut report.results
  Task.note .debug
    s!"{formatter} reformatted {changed} of {report.results.length} generated files"
  Task.note .info s!"Formatted {changed} generated files with black"

end SchemaModels.Package
