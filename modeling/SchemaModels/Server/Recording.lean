import SchemaModels.Server.Session

/-!
Recorded replies: a text with one JSON value a line, each the reply to one request. An object with a
reason for its loss stands for a lost request, any other for an answer; what an answer leaves out is
that of an empty success.
-/

namespace SchemaModels.Server

/-- The entry of an object. -/
def recorded? (v : Json) (key : String) : Option Json :=
  match v with
  | .object entries => entries.lookup key
  | _ => none

/-- The reply that a value stands for. -/
def Reply.ofJson (v : Json) : Reply :=
  match recorded? v "lost" with
  | some reason => .lost reason.display
  | none => .answer
    { status := match recorded? v "status" with
        | some (.int n) => n
        | _ => 200
      reason := ((recorded? v "reason").map Json.display).getD ""
      body := ((recorded? v "body").map Json.display).getD "" }

/-- The reply on a line. A line that cannot be read is a lost request. -/
def Reply.ofLine (line : String) : Reply :=
  match Json.read line.toList with
  | .ok v => .ofJson v
  | .error e => .lost (e.message line.toList)

/-- The replies of a recording. Empty lines do not count. -/
def replies (recording : String) : List Reply :=
  ((recording.splitOn "\n").filter (!·.isEmpty)).map Reply.ofLine

end SchemaModels.Server
