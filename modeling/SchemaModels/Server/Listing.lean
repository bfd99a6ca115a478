import SchemaModels.Server.Session

/-!
Listings that come in pages. Pages are asked for one after the other until the number of the page
reaches the total that its answer gives. Each item is taken in as its page arrives, so an item that
is not accepted ends the listing before the next page is asked for.
-/

namespace SchemaModels.Server

/-- The fault in an interruption, if whoever is prepared for the given families has not been
prepared for it. A failed request is none. -/
def Interruption.unforeseen? (families : List Fault.Family) : Interruption → Option Fault
  | .failed _ => none
  | .fault cause => if cause.family ∈ families then none else some cause

/-- How many items a page may have. -/
def pageSize : Nat := 200

/-- The parameters of a request for a page. -/
def pageParameters (page : Nat) : Json :=
  .object [("page", .int page), ("perPage", .int pageSize)]

/-- The items of a page. -/
def itemsOf (body : Json) : Except Fault (List Json) := do
  match ← body.entry? "items" with
  | none => .ok []
  | some v => v.members

/-- Whether the page with the given number is the last; without a total there is one page. -/
def isLast (page : Nat) (body : Json) : Except Fault Bool := do
  let total := (← body.entry "totalPages").orElse (.int 1)
  match total.number? with
  | some (.inl n) => .ok (n ≤ page)
  | some (.inr x) => .ok (x.compareInt? page == some .gt || x.compareInt? page == some .eq)
  | none => .error (.notOrdered total)

/-- What is taken in of a page, and whether it is the last. -/
def takePage {α : Type} (take : Json → Except Fault α) (depth : Nat) (url : String) (page : Nat)
    (reply : Reply) : Except Interruption (List α × Bool) := do
  let body ← reply.value depth url
  let items ← (itemsOf body).mapError .fault
  let taken ← (items.mapM take).mapError .fault
  let last ← (isLast page body).mapError .fault
  .ok (taken, last)

/-- The items of the pages from the given one on, when the network has the given replies. -/
def listFrom {α : Type} (take : Json → Except Fault α) (path : String) (page : Nat)
    (s : Session) : List Reply → Session × Except Interruption (List α)
  | [] =>
    let s := s.sent (s.request .get path (pageParameters page)) []
    (s, (takePage take s.depth (s.url path) page Session.silence).map (·.1))
  | reply :: left =>
    let s := s.sent (s.request .get path (pageParameters page)) left
    match takePage take s.depth (s.url path) page reply with
    | .error e => (s, .error e)
    | .ok (taken, true) => (s, .ok taken)
    | .ok (taken, false) =>
      let (s, rest) := listFrom take path (page + 1) s left
      (s, rest.map (taken ++ ·))

/-- The items of all pages. -/
def list {α : Type} (take : Json → Except Fault α) (path : String) (s : Session) :
    Session × Except Interruption (List α) :=
  listFrom take path 1 s s.replies

end SchemaModels.Server
