import SchemaModels.Proofs.Server.Session

/-!
# How a sign-in fails

A sign-in is meant to give a token, or to fail with a problem of authentication that names the
domain. `Reply.Decides` follows the reply that counts to each way in which a sign-in can end, one
constructor for each: there are two among them that are neither, the fault of an answer that is
nested too deep to be read, and that of a value that has no entries to look for a token in
(`signIn_told_iff`).
-/

namespace SchemaModels

/-- A problem of authentication that names a domain, unless there is nothing to name. -/
def Failure.NamesDomain (domain : String) (e : Failure) : Prop :=
  ∃ p, e = .problem p ∧ p.report.category = .authentication ∧
    p.report.context = if domain.isEmpty then [] else [("domain", .text domain)]

namespace Server

variable {domain : String} {depth : Nat} {reply : Reply} {v token : Json} {o : Outcome Json}
  {s : Session}

/-- The reply is an answer that is no failure, and this is its value. -/
def Reply.Gives (depth : Nat) : Reply → Json → Prop
  | .answer a, v => a.isFailure = false ∧ a.value depth = .ok v
  | .lost _, _ => False

/-- The reply is an answer that is no failure, and it is nested too deep. -/
def Reply.GivesTooDeep (depth : Nat) : Reply → Prop
  | .answer a => a.isFailure = false ∧ ∃ e, a.value depth = .error e ∧ e.IsTooDeep
  | .lost _ => False

/-- **The ways in which a sign-in ends**, given the reply that counts. -/
inductive Reply.Decides (depth : Nat) (domain : String) : Reply → Outcome Json → Prop
  | lost (reason : String) :
      Decides depth domain (.lost reason) (.error (.problem (.unreachable reason domain)))
  | refused {a : Answer} (failure : a.isFailure = true) :
      Decides depth domain (.answer a) (.error (.problem (.refused a.status domain)))
  | unread {a : Answer} {m : String} (success : a.isFailure = false)
      (unread : a.value depth = .error (.failed m)) :
      Decides depth domain (.answer a) (.error (.problem (.answerNotJson domain)))
  | nested {a : Answer} {inObject : Bool} (success : a.isFailure = false)
      (deep : a.value depth = .error (.fault (.tooDeep inObject))) :
      Decides depth domain (.answer a) (.error (.fault (.tooDeep inObject)))
  | shapeless {a : Answer} {v : Json} (success : a.isFailure = false)
      (value : a.value depth = .ok v) (shape : ∀ entries, v ≠ .object entries) :
      Decides depth domain (.answer a) (.error (.fault (.noMember v "get")))
  | blank {a : Answer} {entries : List (String × Json)} (success : a.isFailure = false)
      (value : a.value depth = .ok (.object entries))
      (token : (Json.under "token" entries).isBlank = true) :
      Decides depth domain (.answer a) (.error (.problem (.answerWithoutToken domain)))
  | granted {a : Answer} {entries : List (String × Json)} (success : a.isFailure = false)
      (value : a.value depth = .ok (.object entries))
      (token : (Json.under "token" entries).isBlank = false) :
      Decides depth domain (.answer a) (.ok (Json.under "token" entries))

/-- **Each reply ends a sign-in in one of these ways.** -/
theorem decides_verdict (depth : Nat) (domain : String) (reply : Reply) :
    reply.Decides depth domain (reply.verdict depth domain) := by
  cases reply with
  | lost reason => exact .lost reason
  | answer a =>
    unfold Reply.verdict tokenOf
    simp only
    split
    · rename_i hfailure
      exact .refused hfailure
    · rename_i hsuccess
      rw [Bool.not_eq_true] at hsuccess
      cases hvalue : a.value depth with
      | error e =>
        rcases Answer.value_error hvalue with ⟨reason, rfl⟩ | ⟨inObject, rfl⟩
        · exact .unread hsuccess hvalue
        · exact .nested hsuccess hvalue
      | ok v =>
        cases v with
        | object entries =>
          show Reply.Decides depth domain (.answer a)
            (if (Json.under "token" entries).isBlank then
              .error (.problem (.answerWithoutToken domain)) else .ok (Json.under "token" entries))
          split
          · rename_i hblank
            exact .blank hsuccess hvalue hblank
          · rename_i hfilled
            exact .granted hsuccess hvalue (by simpa using hfilled)
        | _ => exact .shapeless hsuccess hvalue (by simp)

/-- The domain is noted, unless it is empty. -/
theorem context_of_domain (message domain : String) :
    (Report.make .authentication message [("domain", .text domain)]).context =
      if domain.isEmpty then [] else [("domain", .text domain)] := by
  cases hdomain : domain.isEmpty <;>
    simp [Report.make, Report.note, Category.circumstances, Json.isBlank, Json.setKey, hdomain]

/-- An answer with a value gives nothing else. -/
theorem gives_of_value {a : Answer} {entries : List (String × Json)}
    (value : a.value depth = .ok (.object entries)) :
    ¬ (Reply.answer a).GivesTooDeep depth ∧
      ∀ v, (Reply.answer a).Gives depth v → ∃ entries, v = .object entries := by
  refine ⟨fun ⟨_, e, he, _⟩ => ?_, fun v ⟨_, hvalue⟩ => ?_⟩
  · rw [value] at he
    cases he
  · rw [value, Except.ok.injEq] at hvalue
    exact ⟨entries, hvalue.symm⟩

/-- Only the faults of an answer that is nested too deep and of a value that is no object name no
domain. -/
theorem Reply.Decides.namesDomain_iff (h : reply.Decides depth domain o) :
    FailsOnly (Failure.NamesDomain domain) o ↔
      ¬ reply.GivesTooDeep depth ∧ ∀ v, reply.Gives depth v → ∃ entries, v = .object entries := by
  have hproblem : ∀ (p : Problem) (message : String),
      p.report = .make .authentication message [("domain", .text domain)] →
      FailsOnly (Failure.NamesDomain domain) (.error (.problem p) : Outcome Json) := by
    intro p message hp
    refine failsOnly_error_iff.mpr ⟨p, rfl, ?_⟩
    rw [hp]
    exact ⟨rfl, context_of_domain message domain⟩
  have hfault : ∀ f, ¬ FailsOnly (Failure.NamesDomain domain)
      (.error (.fault f) : Outcome Json) := by
    intro f
    rw [failsOnly_error_iff]
    rintro ⟨p, hp, -⟩
    cases hp
  cases h with
  | lost reason => exact iff_of_true (hproblem _ _ rfl) ⟨id, fun v hv => hv.elim⟩
  | refused failure =>
    refine iff_of_true (hproblem _ _ rfl) ⟨fun ⟨hsuccess, _⟩ => ?_, fun v ⟨hsuccess, _⟩ => ?_⟩
    all_goals
      rw [failure] at hsuccess
      cases hsuccess
  | unread success unread =>
    refine iff_of_true (hproblem _ _ rfl) ⟨fun ⟨_, e, he, inObject, hdeep⟩ => ?_,
      fun v ⟨_, hvalue⟩ => ?_⟩
    · rw [unread, hdeep] at he
      cases he
    · rw [unread] at hvalue
      cases hvalue
  | nested success deep =>
    exact iff_of_false (hfault _) fun h => h.1 ⟨success, _, deep, _, rfl⟩
  | shapeless success value shape =>
    refine iff_of_false (hfault _) fun h => ?_
    obtain ⟨entries, hentries⟩ := h.2 _ ⟨success, value⟩
    exact shape entries hentries
  | blank success value token => exact iff_of_true (hproblem _ _ rfl) (gives_of_value value)
  | granted success value token => exact iff_of_true (failsOnly_ok _) (gives_of_value value)

theorem Reply.Decides.filled (h : reply.Decides depth domain (.ok token)) :
    token.isBlank = false := by
  cases h with
  | granted success value token => exact token

/-- **What a sign-in does and how it ends.** -/
structure SignsIn (s s' : Session) (email password : Json) (o : Outcome Json) : Prop where
  signedIn : SignedIn s s' email password o
  decides : s.lastReply.Decides s.depth s.domain o
  /-- No blank token is given. -/
  filled : ∀ token, o = .ok token → token.isBlank = false
  /-- All that is not told as a problem of authentication is the fault of an answer that is nested
  too deep, or of a value that is no object. -/
  told : FailsOnly (Failure.NamesDomain s.domain) o ↔ ¬ s.lastReply.GivesTooDeep s.depth ∧
    ∀ v, s.lastReply.Gives s.depth v → ∃ entries, v = .object entries

/-- **When a sign-in fails as it is meant to.** Whatever the email, the password and the replies:
just if the last answer, unless it is a failure, is not nested too deep, and its value, if it has
one, is an object. -/
theorem signIn_told_iff (email password : Json) (s : Session) :
    SignsIn s ((signIn email password).run s).1 email password
      ((signIn email password).run s).2.outcome := by
  have hsigned := signedIn_of_ends (Task.ends_run (signIn email password) s)
  have hdecides := decides_verdict s.depth s.domain s.lastReply
  rw [← hsigned.outcome] at hdecides
  refine ⟨hsigned, hdecides, fun token htoken => ?_, hdecides.namesDomain_iff⟩
  rw [htoken] at hdecides
  exact hdecides.filled

/-- The server that answers with a list has no token for anyone, and the fault of asking the list
for one is passed on. -/
theorem not_namesDomain_list : ¬ FailsOnly (Failure.NamesDomain listSession.domain)
    ((signIn (.text "a@b.c") (.text "pw")).run listSession).2.outcome := by
  have hfault : ((signIn (.text "a@b.c") (.text "pw")).run listSession).2.outcome =
      .error (.fault (.noMember (.list []) "get")) := rfl
  rw [hfault, failsOnly_error_iff]
  rintro ⟨p, hp, -⟩
  cases hp

end Server

end SchemaModels
