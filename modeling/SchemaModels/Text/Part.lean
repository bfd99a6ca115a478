/-!
Parts of a text.
-/

namespace SchemaModels.Text

/-- Some part of a list is the given one. -/
def holds (part : List Char) : List Char → Bool
  | [] => part.isEmpty
  | c :: cs => part.isPrefixOf (c :: cs) || holds part cs

end SchemaModels.Text
