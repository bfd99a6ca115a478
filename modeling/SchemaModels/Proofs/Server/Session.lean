import SchemaModels.Proofs.Server.Collections
import SchemaModels.Proofs.Server.Mappings
import SchemaModels.Server.SignIn

/-!
# The token of a session

A session keeps its token twice: for whoever asks, and as the authorization of its requests. `Asked
s s'` is what sending requests does to it: they are kept, each with the authorization that the
session had, and neither copy of the token changes. Listings do no more than that (`asked_list`),
nor does a sign-in before it knows its token (`ends_signIn`). So one call changes both copies or
none (`Call.called`), and after any calls both are the token of the latest sign-in that went through
(`called_after`).
-/

namespace SchemaModels.Server

variable {s s' s'' : Session}

/-! ## Sending requests -/

/-- Requests have been sent from the session, with the authorization that it has, and its token is
the one before. -/
structure Session.Asked (s s' : Session) : Prop where
  domain : s'.domain = s.domain
  depth : s'.depth = s.depth
  token : s'.token = s.token
  authorization : s'.authorization = s.authorization
  requests : ∃ sent, s'.requests = s.requests ++ sent ∧
    ∀ r ∈ sent, r.authorization = s.authorization

/-! ## Listings -/

/-- The pages of a listing are asked for, and nothing else happens to the session. -/
theorem Session.asked_paged (s : Session) (path : String) (first n : Nat) :
    s.Asked (s.paged path first n) :=
  ⟨rfl, rfl, rfl, rfl, _, rfl, List.forall_mem_map.mpr fun _ _ => rfl⟩

/-- A listing sends requests and does nothing else to the session. -/
theorem asked_list {α : Type} (take : Json → Except Fault α) (path : String) (s : Session) :
    s.Asked (list take path s).1 := by
  obtain ⟨n, o, -, hlist⟩ := list_spec take path s
  rw [hlist]
  exact s.asked_paged path 1 n

theorem asked_fetchCollections (s : Session) : s.Asked (fetchCollections.run s).1 := by
  rw [(ends_fetchCollections s).1]
  exact asked_list .ok collectionsPath s

theorem asked_fetchMappings (collection : String) (s : Session) :
    s.Asked ((fetchMappings collection).run s).1 := by
  rw [state_fetchMappings]
  exact asked_list Mapping.ofJson (recordsPath collection) s

/-! ## Signing in -/

/-- The body of a request to sign in. -/
def credentials (email password : Json) : Json :=
  .object [("identity", email), ("password", password)]

/-- The reply that the network has for the next request. -/
def Session.nextReply (s : Session) : Reply := s.replies.headD silence

/-- The session with the next request sent. -/
def Session.posted (s : Session) (path : String) (content : Json) : Session :=
  s.sent (s.request .post path content) s.replies.tail

theorem Session.send_post (s : Session) (path : String) (content : Json) :
    s.send .post path content = (s.posted path content, s.nextReply) := by
  unfold send posted nextReply
  cases s.replies <;> rfl

/-- The server does not know the address. -/
def Reply.isNotFound : Reply → Bool
  | .answer a => a.status == 404
  | .lost _ => false

/-- The answer in a reply. -/
def Reply.answered (domain : String) : Reply → Outcome Answer
  | .answer a => .ok a
  | .lost reason => .error (.problem (.unreachable reason domain))

/-- What the reply that counts comes to. -/
def Reply.verdict (depth : Nat) (domain : String) : Reply → Outcome Json
  | .answer a => tokenOf a depth domain
  | .lost reason => .error (.problem (.unreachable reason domain))

/-- The addresses that a sign-in asks at: that of superusers, and the older one if the server does
not know the first. -/
def Session.doors (s : Session) : List String :=
  superuserPath :: if s.nextReply.isNotFound then [adminPath] else []

/-- The session once a sign-in has asked. -/
def Session.knocked (s : Session) (content : Json) : Session :=
  s.doors.foldl (fun s path => s.posted path content) s

/-- The reply to the last request of a sign-in. -/
def Session.lastReply (s : Session) : Reply :=
  s.replies.getD (s.doors.length - 1) silence

theorem Session.knocked_eq (s : Session) (content : Json) :
    s.knocked content = { s with
      requests := s.requests ++ s.doors.map fun path => s.request .post path content
      replies := s.replies.drop s.doors.length } := by
  unfold knocked doors
  split
  · simp [posted, sent, request, url, ← List.drop_one]
  · simp [posted, sent, request, url]

theorem Session.asked_knocked (s : Session) (content : Json) : s.Asked (s.knocked content) := by
  rw [s.knocked_eq]
  exact ⟨rfl, rfl, rfl, rfl, _, rfl, List.forall_mem_map.mpr fun _ _ => rfl⟩

theorem ends_knock (path : String) (content : Json) (s : Session) :
    (knock path content).Ends s (s.posted path content) (s.nextReply.answered s.domain) := by
  unfold knock
  refine Task.Ends.bind ⟨rfl, rfl⟩ ?_
  rw [s.send_post]
  refine Task.Ends.bind ⟨rfl, rfl⟩ ?_
  cases s.nextReply <;> exact ⟨rfl, rfl⟩

/-- The answer of the last address counts, whatever its status. -/
theorem ends_knockAt_last (content : Json) (path : String) (s : Session) :
    (knockAt content path []).Ends s (s.posted path content) (s.nextReply.answered s.domain) := by
  have hknock := ends_knock path content s
  rw [knockAt]
  cases hreply : s.nextReply with
  | lost reason =>
    rw [hreply] at hknock
    exact Task.Ends.bind_error hknock
  | answer a =>
    rw [hreply] at hknock
    refine Task.Ends.bind hknock ?_
    split <;> exact ⟨rfl, rfl⟩

theorem ends_knockAt (content : Json) (s : Session) :
    (knockAt content superuserPath [adminPath]).Ends s (s.knocked content)
      (s.lastReply.answered s.domain) := by
  have hknock := ends_knock superuserPath content s
  have hlast : s.lastReply =
      if s.nextReply.isNotFound then (s.posted superuserPath content).nextReply
      else s.nextReply := by
    unfold Session.lastReply Session.doors Session.nextReply Session.posted Session.sent
    split <;> simp [List.head?_eq_getElem?]
  rw [hlast, knockAt]
  unfold Session.knocked Session.doors
  cases hreply : s.nextReply with
  | lost reason =>
    rw [hreply] at hknock
    exact Task.Ends.bind_error hknock
  | answer a =>
    rw [hreply] at hknock
    refine Task.Ends.bind hknock ?_
    by_cases hstatus : a.status = 404
    · rw [if_pos hstatus, if_pos (by simpa [Reply.isNotFound] using hstatus),
        if_pos (by simpa [Reply.isNotFound] using hstatus)]
      exact Task.Ends.bind ⟨rfl, rfl⟩ (ends_knockAt_last content adminPath _)
    · rw [if_neg hstatus, if_neg (by simpa [Reply.isNotFound] using hstatus),
        if_neg (by simpa [Reply.isNotFound] using hstatus)]
      exact ⟨rfl, rfl⟩

/-- **How a sign-in ends.** It asks at one address or at two, and what the last reply comes to is
its outcome; only a token is kept. -/
theorem ends_signIn (email password : Json) (s : Session) :
    (signIn email password).Ends s
      (match s.lastReply.verdict s.depth s.domain with
        | .ok token => (s.knocked (credentials email password)).signedIn token
        | .error _ => s.knocked (credentials email password))
      (s.lastReply.verdict s.depth s.domain) := by
  have hknock := ends_knockAt (credentials email password) s
  have hdomain := (s.asked_knocked (credentials email password)).domain
  have hdepth := (s.asked_knocked (credentials email password)).depth
  unfold signIn
  cases hlast : s.lastReply with
  | lost reason =>
    rw [hlast] at hknock
    exact Task.Ends.bind_error hknock
  | answer a =>
    rw [hlast] at hknock
    refine Task.Ends.bind hknock (Task.Ends.bind ⟨rfl, rfl⟩ ?_)
    rw [hdomain, hdepth]
    simp only [Reply.verdict]
    cases tokenOf a s.depth s.domain with
    | error e => exact ⟨rfl, rfl⟩
    | ok token => exact ⟨rfl, rfl⟩

/-- **What a sign-in does to a session.** -/
structure SignedIn (s s' : Session) (email password : Json) (o : Outcome Json) : Prop where
  requests : s'.requests = s.requests ++
    s.doors.map fun path => s.request .post path (credentials email password)
  outcome : o = s.lastReply.verdict s.depth s.domain
  granted : ∀ token, o = .ok token → s'.token = some token ∧ s'.authorization = some token
  refused : ∀ e, o = .error e → s'.token = s.token ∧ s'.authorization = s.authorization

theorem signedIn_of_ends {email password : Json} {o : Outcome Json}
    (h : (signIn email password).Ends s s' o) : SignedIn s s' email password o := by
  obtain ⟨hs, rfl⟩ := h.unique (ends_signIn email password s)
  have hrequests := congrArg Session.requests (s.knocked_eq (credentials email password))
  have hasked := s.asked_knocked (credentials email password)
  refine ⟨?_, rfl, fun token ho => ?_, fun e ho => ?_⟩
  · rw [hs]
    split
    · exact hrequests
    · exact hrequests
  · rw [hs, ho]
    exact ⟨rfl, rfl⟩
  · rw [hs, ho]
    exact ⟨hasked.token, hasked.authorization⟩

/-! ## Calls -/

/-- What a session is asked to do. -/
inductive Call where
  | signIn (email password : Json)
  | collections
  | mappings (collection : String)

/-- The session after a call, whether it has gone through or not. -/
def Call.after (c : Call) (s : Session) : Session :=
  match c with
  | .signIn email password => ((Server.signIn email password).run s).1
  | .collections => (fetchCollections.run s).1
  | .mappings collection => ((fetchMappings collection).run s).1

/-- The token that a call has got: that of a sign-in that has gone through. -/
def Call.token? (c : Call) (s : Session) : Option Json :=
  match c with
  | .signIn email password => ((Server.signIn email password).run s).2.outcome.toOption
  | .collections => none
  | .mappings _ => none

/-- The session after calls. -/
def after (s : Session) (calls : List Call) : Session := calls.foldl (fun s c => c.after s) s

/-- The tokens of the sign-ins that have gone through, in order. -/
def tokens : Session → List Call → List Json
  | _, [] => []
  | s, c :: calls => (c.token? s).toList ++ tokens (c.after s) calls

/-- What a call does to a session: the requests that it sends have the authorization from before it,
and both copies of the token change to the one that it has got, or neither. -/
structure Session.Called (s s' : Session) (token? : Option Json) : Prop where
  domain : s'.domain = s.domain
  token : s'.token = token?.or s.token
  authorization : s'.authorization = token?.or s.authorization
  requests : ∃ sent, s'.requests = s.requests ++ sent ∧
    ∀ r ∈ sent, r.authorization = s.authorization

theorem Session.Asked.called (h : s.Asked s') : s.Called s' none :=
  ⟨h.domain, h.token, h.authorization, h.requests⟩

/-- **One call.** -/
theorem Call.called (c : Call) (s : Session) : s.Called (c.after s) (c.token? s) := by
  cases c with
  | signIn email password =>
    have hends := ends_signIn email password s
    have hasked := s.asked_knocked (credentials email password)
    unfold after token?
    simp only
    rw [hends.1, hends.2]
    cases s.lastReply.verdict s.depth s.domain with
    | error e => exact hasked.called
    | ok token => exact ⟨hasked.domain, rfl, rfl, hasked.requests⟩
  | collections => exact (asked_fetchCollections s).called
  | mappings collection => exact (asked_fetchMappings collection s).called

/-- **Any calls.** Both copies of the token are the latest one that was got, if there is one. -/
theorem called_after (s : Session) (calls : List Call) : (after s calls).domain = s.domain ∧
    (after s calls).token = (tokens s calls).getLast?.or s.token ∧
      (after s calls).authorization = (tokens s calls).getLast?.or s.authorization := by
  induction calls generalizing s with
  | nil => exact ⟨rfl, rfl, rfl⟩
  | cons c calls ih =>
    obtain ⟨hdomain, htoken, hauth, -⟩ := c.called s
    obtain ⟨hdomain', htoken', hauth'⟩ := ih (c.after s)
    have hlast : (tokens s (c :: calls)).getLast? =
        (tokens (c.after s) calls).getLast?.or (c.token? s) := by
      rw [tokens, List.getLast?_append]
      cases c.token? s <;> rfl
    refine ⟨hdomain'.trans hdomain, ?_, ?_⟩
    · rw [hlast, Option.or_assoc, ← htoken]
      exact htoken'
    · rw [hlast, Option.or_assoc, ← hauth]
      exact hauth'

/-- **A session whose token is kept well** through calls, from its start on. -/
structure Session.Consistent (start : Session) (calls : List Call) : Prop where
  /-- Both copies of the token agree. -/
  agree : (after start calls).authorization = (after start calls).token
  /-- They are the latest token that a sign-in has got, and none before there is one. -/
  latest : (after start calls).token = (tokens start calls).getLast?
  /-- Every request of a further call has that authorization. -/
  carried : ∀ c : Call, ∃ sent,
    (c.after (after start calls)).requests = (after start calls).requests ++ sent ∧
      ∀ r ∈ sent, r.authorization = (after start calls).token
  /-- A further sign-in asks at one address or two, and the last reply decides. -/
  signIn : ∀ email password, SignedIn (after start calls)
    ((signIn email password).run (after start calls)).1 email password
    ((signIn email password).run (after start calls)).2.outcome
  domain : (after start calls).domain = start.domain

/-- **Client and requests agree on the token**, after any calls and whatever the network replies. It
is none before the first sign-in that goes through, and then that of the latest one; a sign-in that
fails changes nothing about it. -/
theorem consistent_start (domain : String) (timeout : Json) (replies : List Reply) (depth : Nat)
    (calls : List Call) : (Session.start domain timeout replies depth).Consistent calls := by
  obtain ⟨hdomain, htoken, hauth⟩ := called_after (.start domain timeout replies depth) calls
  have hagree := hauth.trans htoken.symm
  refine ⟨hagree, htoken.trans (Option.or_none), fun c => ?_, fun email password => ?_, hdomain⟩
  · rw [← hagree]
    exact (c.called _).requests
  · exact signedIn_of_ends (Task.ends_run _ _)

end SchemaModels.Server
