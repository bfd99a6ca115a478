import SchemaModels.Json.Reader
import SchemaModels.Json.Access
import SchemaModels.Task

/-!
Sessions with a server. A session sends requests one after the other and takes one reply for each
from those that the network has for it; it keeps the requests that it sent. Every request carries
the authorization that the session has at the time.
-/

namespace SchemaModels.Server

inductive Method where
  | get
  | post
  deriving DecidableEq, Inhabited

/-- A request: what it carries is the body of a `post` and the parameters of a `get`. -/
structure Request where
  method : Method
  url : String
  content : Json
  timeout : Json
  authorization : Option Json
  deriving Inhabited

/-- An answer of the server. -/
structure Answer where
  status : Int
  reason : String
  body : String
  deriving DecidableEq, Inhabited

/-- What comes back for a request: an answer, or the reason why there is none. -/
inductive Reply where
  | answer (a : Answer)
  | lost (reason : String)
  deriving DecidableEq, Inhabited

/-- How deep the value of an answer can be nested, unless something else is known of the machine. Of
the thousand steps that it goes down, a run is some on its way before it reads an answer. -/
def usualDepth : Nat := 985

/-- A session with a server, and the token of its latest sign-in. -/
structure Session where
  domain : String
  /-- How many seconds a request may take. -/
  timeout : Json := .int 30
  /-- How deep the value of an answer can be nested. -/
  depth : Nat := usualDepth
  token : Option Json := none
  authorization : Option Json := none
  replies : List Reply
  requests : List Request := []
  deriving Inhabited

/-! ## Answers -/

/-- Why nothing comes of a request: it has failed, or something in the answer is not as it should
be. -/
inductive Interruption where
  | failed (reason : String)
  | fault (cause : Fault)
  deriving Inhabited

/-- What went wrong. -/
def Interruption.message : Interruption → String
  | .failed reason => reason
  | .fault cause => cause.message

namespace Answer

/-- Statuses that tell of a mistake of the client or of the server. -/
def isFailure (a : Answer) : Bool := 400 ≤ a.status && a.status < 600

/-- What a failed answer to a request for an address comes to. -/
def failure? (a : Answer) (url : String) : Option String :=
  if a.isFailure then
    let side := if a.status < 500 then "Client" else "Server"
    some (s!"{a.status} {side} Error: {a.reason} for url: {url}")
  else none

/-- The value in the body of an answer. A body that is no JSON is as good as a request that failed;
one that is nested too deep is not. -/
def value (a : Answer) (depth : Nat) : Except Interruption Json :=
  match Json.read a.body.toList depth with
  | .ok v => .ok v
  | .error (.tooDeep inObject) => .error (.fault (.tooDeep inObject))
  | .error e => .error (.failed (e.message a.body.toList))

end Answer

/-- The value of a reply to a request for an address. -/
def Reply.value (depth : Nat) (url : String) : Reply → Except Interruption Json
  | .lost reason => .error (.failed reason)
  | .answer a =>
    match a.failure? url with
    | some reason => .error (.failed reason)
    | none => a.value depth

/-! ## Requests -/

namespace Session

/-- A new session; slashes at the end of the domain are dropped. -/
def start (domain : String) (timeout : Json) (replies : List Reply)
    (depth : Nat := usualDepth) : Session where
  domain := String.ofList (Text.dropTrailing (· == '/') domain.toList)
  timeout
  depth
  replies

/-- The address of a path. -/
def url (s : Session) (path : String) : String := s.domain ++ path

/-- The request that the session would send. -/
def request (s : Session) (method : Method) (path : String) (content : Json) : Request :=
  { method, url := s.url path, content, timeout := s.timeout, authorization := s.authorization }

/-- The reply when the network has none left. -/
def silence : Reply := .lost "no scripted response"

/-- The session after a request, when the given replies are left. -/
def sent (s : Session) (r : Request) (left : List Reply) : Session :=
  { s with requests := s.requests ++ [r], replies := left }

/-- Sends a request. -/
def send (s : Session) (method : Method) (path : String) (content : Json) : Session × Reply :=
  let r := s.request method path content
  match s.replies with
  | [] => (s.sent r [], silence)
  | reply :: left => (s.sent r left, reply)

/-- The session once it has signed in. -/
def signedIn (s : Session) (token : Json) : Session :=
  { s with token := some token, authorization := some token }

end Session

end SchemaModels.Server
