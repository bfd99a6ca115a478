import SchemaModels.Server.Session

/-!
Signing in. The accounts of superusers are tried first; a server that does not know that address is
asked at the older one. The answer that counts is the last one.
-/

namespace SchemaModels.Server

/-- The address to sign in at. -/
def superuserPath : String := "/api/collections/_superusers/auth-with-password"

/-- The address to sign in at on older servers. -/
def adminPath : String := "/api/admins/auth-with-password"

/-- Asks to be signed in at an address. -/
def knock (path : String) (credentials : Json) : Task Session Answer := do
  let s ← Task.get
  let (s, reply) := s.send .post path credentials
  Task.set s
  match reply with
  | .answer a => pure a
  | .lost reason => Task.refuse (.unreachable reason s.domain)

/-- The answer of the first address that is found, or of the last one. -/
def knockAt (credentials : Json) (path : String) (others : List String) : Task Session Answer := do
  let a ← knock path credentials
  if a.status = 404 then do
    Task.note .debug s!"Auth endpoint {path} not found, trying the next one"
    match others with
    | [] => pure a
    | next :: rest => knockAt credentials next rest
  else pure a

/-- The token that an answer gives. -/
def tokenOf (a : Answer) (depth : Nat) (domain : String) : Outcome Json :=
  if a.isFailure then .error (.problem (.refused a.status domain))
  else
    match a.value depth with
    | .error (.failed _) => .error (.problem (.answerNotJson domain))
    | .error (.fault cause) => .error (.fault cause)
    | .ok v => do
      let token ← Outcome.ofFault (v.entry "token")
      if token.isBlank then .error (.problem (.answerWithoutToken domain)) else .ok token

/-- Signs in, and keeps the token for the requests to come. -/
def signIn (email password : Json) : Task Session Json := do
  let credentials := .object [("identity", email), ("password", password)]
  let a ← knockAt credentials superuserPath [adminPath]
  let s ← Task.get
  let token ← Task.lift (Logged.ofOutcome (tokenOf a s.depth s.domain))
  Task.set (s.signedIn token)
  Task.note .info ("Authenticated with PocketBase at " ++ s.domain)
  pure token

end SchemaModels.Server
