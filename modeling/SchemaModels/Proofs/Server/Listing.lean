import SchemaModels.Proofs.Failure
import SchemaModels.Server.Listing

/-!
# Listings

A listing asks for one page after the other. `Listed take path s n o` says how far it gets without
mention of the loop: the pages before the `n`-th are taken in and others follow each of them, and
the `n`-th is the last one or fails. `list_spec` is the run of the loop: exactly these `n` requests
are sent.

A listing fails with what its pages fail with (`Listed.failsOnly_iff`). An answer with a value can
be a page just if the value is one (`IsPage`), so what ends a listing is a request that fails, an
answer that is nested too deep to be read (`Reply.IsTooDeep`), a value that is no page
(`takePage_isFailed_iff`), or an item that is not accepted. The faults of a value that is no page
are of two families; those of a reply that is nested too deep are of a third, which no one is
prepared for (`takePage_within_iff`).
-/

namespace SchemaModels

/-! ## Taking values apart -/

/-- The families of the faults of a value that is taken apart and has not the shape for it. -/
def Fault.shapeFamilies : List Fault.Family := [.operand, .member]

namespace Json

/-- The value has something to go through. -/
def HasMembers : Json → Prop
  | .list _ | .text _ | .object _ => True
  | _ => False

theorem exists_members_iff {v : Json} : (∃ items, v.members = .ok items) ↔ v.HasMembers := by
  cases v <;> simp [members, HasMembers]

theorem failsOnly_members (v : Json) : FailsOnly (·.family ∈ Fault.shapeFamilies) v.members := by
  cases v <;> simp [members, FailsOnly, Fault.shapeFamilies, Fault.family]

theorem failsOnly_lookup (v : Json) (key : String) :
    FailsOnly (·.family ∈ Fault.shapeFamilies) (v.entry? key) := by
  cases v <;> simp [Json.entry?, FailsOnly, Fault.shapeFamilies, Fault.family]

theorem failsOnly_entry (v : Json) (key : String) :
    FailsOnly (·.family ∈ Fault.shapeFamilies) (v.entry key) :=
  failsOnly_map_iff.mpr (v.failsOnly_lookup key)

end Json

namespace Server

variable {α : Type} {take : Json → Except Fault α} {path url : String} {page n : Nat}
  {s s' : Session} {reply : Reply} {body : Json} {families : List Fault.Family} {depth : Nat}

/-! ## Pages -/

/-- **A value that is a page**: an object whose items can be gone through and whose total, unless it
is blank, is a number. Both can be missing. -/
def IsPage : Json → Prop
  | .object entries => (∀ v, entries.lookup "items" = some v → v.HasMembers) ∧
      ∀ v, entries.lookup "totalPages" = some v → v.isBlank = true ∨ v.number?.isSome = true
  | _ => False

theorem exists_itemsOf_iff {entries : List (String × Json)} :
    (∃ items, itemsOf (.object entries) = .ok items) ↔
      ∀ v, entries.lookup "items" = some v → v.HasMembers := by
  have hentry : Json.entry? (.object entries) "items" = .ok (entries.lookup "items") := rfl
  unfold itemsOf
  rw [hentry]
  cases entries.lookup "items" with
  | none => exact iff_of_true ⟨[], rfl⟩ (by simp)
  | some v =>
    simp only [Option.some.injEq, forall_eq']
    exact Json.exists_members_iff

/-- Whether the number of a page has reached a total. -/
def reaches (page : Nat) (total : Json) : Except Fault Bool :=
  match total.number? with
  | some (.inl n) => .ok (n ≤ page)
  | some (.inr x) => .ok (x.compareInt? page == some .gt || x.compareInt? page == some .eq)
  | none => .error (.notOrdered total)

/-- The total of an object; without one there is one page. -/
def totalOf (entries : List (String × Json)) : Json :=
  ((entries.lookup "totalPages").getD .null).orElse (.int 1)

theorem isLast_object (page : Nat) (entries : List (String × Json)) :
    isLast page (.object entries) = reaches page (totalOf entries) := rfl

theorem exists_reaches_iff {total : Json} :
    (∃ last, reaches page total = .ok last) ↔ total.number?.isSome = true := by
  unfold reaches
  rcases total.number? with _ | (n | x) <;> simp

theorem failsOnly_reaches (page : Nat) (total : Json) :
    FailsOnly (·.family ∈ Fault.shapeFamilies) (reaches page total) := by
  unfold reaches
  rcases total.number? with _ | (n | x) <;> simp [FailsOnly, Fault.shapeFamilies, Fault.family]

theorem isSome_number?_totalOf_iff {entries : List (String × Json)} :
    (totalOf entries).number?.isSome = true ↔
      ∀ v, entries.lookup "totalPages" = some v → v.isBlank = true ∨ v.number?.isSome = true := by
  unfold totalOf Json.orElse
  cases entries.lookup "totalPages" with
  | none => exact iff_of_true rfl (by simp)
  | some v =>
    simp only [Option.some.injEq, forall_eq', Option.getD_some]
    cases hblank : v.isBlank with
    | true => exact iff_of_true rfl (Or.inl rfl)
    | false => simp

/-- Whether a value is a page does not depend on the number of the page. -/
theorem isPage_iff (page : Nat) : IsPage body ↔
    (∃ items, itemsOf body = .ok items) ∧ ∃ last, isLast page body = .ok last := by
  cases body with
  | object entries =>
    rw [isLast_object, exists_reaches_iff, isSome_number?_totalOf_iff, exists_itemsOf_iff]
    exact Iff.rfl
  | _ => exact iff_of_false id fun h => by obtain ⟨⟨items, h⟩, -⟩ := h; cases h

theorem failsOnly_itemsOf (body : Json) :
    FailsOnly (·.family ∈ Fault.shapeFamilies) (itemsOf body) := by
  refine failsOnly_bind_iff.mpr ⟨body.failsOnly_lookup "items", fun items? _ => ?_⟩
  cases items? with
  | none => exact failsOnly_ok []
  | some v => exact v.failsOnly_members

theorem failsOnly_isLast (page : Nat) (body : Json) :
    FailsOnly (·.family ∈ Fault.shapeFamilies) (isLast page body) :=
  failsOnly_bind_iff.mpr ⟨body.failsOnly_entry "totalPages", fun v _ =>
    failsOnly_reaches page (v.orElse (.int 1))⟩

theorem mapError_eq_ok_iff {ε ε' β : Type} {f : ε → ε'} {x : Except ε β} {b : β} :
    x.mapError f = .ok b ↔ x = .ok b := by
  cases x <;> simp [Except.mapError]

/-- **A page that is taken in**: the answer has a value, and each of its items is accepted. -/
theorem takePage_eq_ok_iff {taken : List α} {last : Bool} :
    takePage take depth url page reply = .ok (taken, last) ↔ ∃ body records,
      reply.value depth url = .ok body ∧ itemsOf body = .ok records ∧
      List.Forall₂ (fun r x => take r = .ok x) records taken ∧ isLast page body = .ok last := by
  unfold takePage
  simp only [except_bind_eq_ok_iff, mapError_eq_ok_iff, except_mapM_eq_ok_iff, Except.ok.injEq,
    Prod.mk.injEq]
  constructor
  · rintro ⟨body, hbody, records, hrecords, taken', htaken, last', hlast, rfl, rfl⟩
    exact ⟨body, records, hbody, hrecords, htaken, hlast⟩
  · rintro ⟨body, records, hbody, hrecords, htaken, hlast⟩
    exact ⟨body, hbody, records, hrecords, taken, htaken, last, hlast, rfl, rfl⟩

/-- The fault in an interruption, if it is one, is of one of the families. -/
def Interruption.Within (families : List Fault.Family) (e : Interruption) : Prop :=
  ∀ f, e = .fault f → f.family ∈ families

theorem Interruption.unforeseen?_eq_none_iff {e : Interruption} :
    e.unforeseen? families = none ↔ e.Within families := by
  cases e with
  | failed reason => simp [unforeseen?, Within]
  | fault f => simp [unforeseen?, Within]

/-- An interruption that is a request that failed. -/
def Interruption.IsFailed (e : Interruption) : Prop := ∃ reason, e = .failed reason

theorem Interruption.IsFailed.within {e : Interruption} (h : e.IsFailed) : e.Within families := by
  obtain ⟨reason, rfl⟩ := h
  intro f hf
  cases hf

theorem failsOnly_fault_iff {x : Except Fault α} :
    FailsOnly Interruption.IsFailed (x.mapError .fault) ↔ ∃ a, x = .ok a := by
  rw [failsOnly_mapError_iff]
  refine failsOnly_iff_exists fun f _ h => ?_
  obtain ⟨reason, h⟩ := h
  cases h

/-- An answer that is nested too deep to be read. -/
def Interruption.IsTooDeep (e : Interruption) : Prop := ∃ inObject, e = .fault (.tooDeep inObject)

/-- **The reply is nested too deep**: it is an answer to be read, whose value has lists and objects
down to more levels than these. -/
def Reply.IsTooDeep (depth : Nat) (url : String) (reply : Reply) : Prop :=
  ∃ e, reply.value depth url = .error e ∧ e.IsTooDeep

theorem Interruption.IsTooDeep.not_within {e : Interruption} (h : e.IsTooDeep)
    (hdepth : Fault.Family.depth ∉ families) : ¬ e.Within families := by
  obtain ⟨inObject, rfl⟩ := h
  exact fun hwithin => hdepth (hwithin _ rfl)

theorem Interruption.IsTooDeep.not_isFailed {e : Interruption} (h : e.IsTooDeep) : ¬ e.IsFailed :=
  fun hfailed => h.not_within (List.not_mem_nil) hfailed.within

/-- Without a value an answer is one that failed, or nested too deep. -/
theorem Answer.value_error {a : Answer} {e : Interruption} (h : a.value depth = .error e) :
    e.IsFailed ∨ e.IsTooDeep := by
  unfold value at h
  split at h
  · cases h
  · cases h
    exact Or.inr ⟨_, rfl⟩
  · cases h
    exact Or.inl ⟨_, rfl⟩

theorem Reply.value_error {e : Interruption} (h : reply.value depth url = .error e) :
    e.IsFailed ∨ e.IsTooDeep := by
  cases reply with
  | lost reason =>
    cases h
    exact Or.inl ⟨reason, rfl⟩
  | answer a =>
    unfold Reply.value at h
    simp only at h
    split at h
    · cases h
      exact Or.inl ⟨_, rfl⟩
    · exact Answer.value_error h

/-- Only requests fail just if the reply is not nested too deep. -/
theorem failsOnly_value_iff :
    FailsOnly Interruption.IsFailed (reply.value depth url) ↔ ¬ reply.IsTooDeep depth url := by
  constructor
  · rintro h ⟨e, he, hdeep⟩
    exact hdeep.not_isFailed (h e he)
  · exact fun h e he => (Reply.value_error he).resolve_right fun hdeep => h ⟨e, he, hdeep⟩

/-- A page whose reply has no value is not taken in. -/
theorem takePage_error {e : Interruption} (h : reply.value depth url = .error e) :
    takePage take depth url page reply = .error e := by
  unfold takePage
  rw [h]
  rfl

/-- **What ends a page.** Unless it is nested too deep, that is a request that fails or a fault,
which is of the given families if those of a value that is no page and those that items are refused
for are. -/
theorem takePage_within_iff (hshape : Fault.shapeFamilies ⊆ families)
    (hdepth : Fault.Family.depth ∉ families)
    (htake : ∀ r, FailsOnly (·.family ∈ families) (take r)) :
    FailsOnly (Interruption.Within families) (takePage take depth url page reply) ↔
      ¬ reply.IsTooDeep depth url := by
  have hfault : ∀ {β : Type} {x : Except Fault β}, FailsOnly (·.family ∈ families) x →
      FailsOnly (Interruption.Within families) (x.mapError .fault) := fun h =>
    failsOnly_mapError_iff.mpr (h.mono fun f hf g hg => by cases hg; exact hf)
  constructor
  · rintro h ⟨e, hvalue, hdeep⟩
    exact hdeep.not_within hdepth (h e (takePage_error hvalue))
  intro hdeep
  refine failsOnly_bind_iff.mpr
    ⟨(failsOnly_value_iff.mpr hdeep).mono fun _ h => h.within, fun body _ => ?_⟩
  refine failsOnly_bind_iff.mpr
    ⟨hfault ((failsOnly_itemsOf body).mono fun _ h => hshape h), fun items _ => ?_⟩
  refine failsOnly_bind_iff.mpr
    ⟨hfault (failsOnly_mapM_iff.mpr fun r _ => htake r), fun taken _ => ?_⟩
  refine failsOnly_bind_iff.mpr
    ⟨hfault ((failsOnly_isLast page body).mono fun _ h => hshape h), fun last _ => ?_⟩
  exact failsOnly_ok _

/-- What ends a page, if it may be nested too deep. -/
theorem takePage_within_or (hshape : Fault.shapeFamilies ⊆ families)
    (hdepth : Fault.Family.depth ∉ families)
    (htake : ∀ r, FailsOnly (·.family ∈ families) (take r)) :
    FailsOnly (fun e => e.Within families ∨ e.IsTooDeep) (takePage take depth url page reply) := by
  by_cases hdeep : reply.IsTooDeep depth url
  · obtain ⟨e, he, hdeep⟩ := hdeep
    rw [takePage_error he, failsOnly_error_iff]
    exact Or.inr hdeep
  · exact ((takePage_within_iff hshape hdepth htake).mpr hdeep).mono fun _ => Or.inl

theorem mapM_ok (items : List Json) :
    items.mapM (fun v => (.ok v : Except Fault Json)) = .ok items :=
  except_mapM_eq_ok_iff.mpr (List.forall₂_same.mpr fun _ _ => rfl)

/-- Taking in a page whose items are all accepted. -/
theorem takePage_ok (depth : Nat) (url : String) (page : Nat) (reply : Reply) :
    takePage (.ok : Json → Except Fault Json) depth url page reply = (do
      let body ← reply.value depth url
      let items ← (itemsOf body).mapError .fault
      let last ← (isLast page body).mapError .fault
      .ok (items, last)) := by
  unfold takePage
  simp only [mapM_ok]
  rfl

/-- **A reply that can be dealt with**: it is not nested too deep, and its value, if it has one, is
a page. -/
structure Reply.Sound (depth : Nat) (url : String) (reply : Reply) : Prop where
  shallow : ¬ reply.IsTooDeep depth url
  page : ∀ body, reply.value depth url = .ok body → IsPage body

/-- Where every item is accepted, only requests fail just if every value is a page. -/
theorem takePage_isFailed_iff :
    FailsOnly Interruption.IsFailed
      (takePage (.ok : Json → Except Fault Json) depth url page reply) ↔
        reply.Sound depth url := by
  have hpage : ∀ body, FailsOnly Interruption.IsFailed (do
      let items ← (itemsOf body).mapError .fault
      let last ← (isLast page body).mapError .fault
      .ok (items, last)) ↔ IsPage body := by
    intro body
    rw [failsOnly_bind_iff, failsOnly_fault_iff, isPage_iff page]
    refine and_congr_right fun ⟨items, hitems⟩ => ?_
    simp only [mapError_eq_ok_iff, hitems, Except.ok.injEq, forall_eq', failsOnly_bind_iff,
      failsOnly_fault_iff, failsOnly_ok, implies_true, and_true]
  rw [takePage_ok, failsOnly_bind_iff, failsOnly_value_iff]
  simp only [hpage]
  exact ⟨fun ⟨hshallow, hpages⟩ => ⟨hshallow, hpages⟩, fun h => ⟨h.shallow, h.page⟩⟩

/-! ## The pages of a session -/

/-- The reply to the request after `k` others. -/
def Session.replyAt (s : Session) (k : Nat) : Reply := s.replies.getD k Session.silence

/-- What a listing from the page `first` on takes in of the page that is `k` further, and whether
that is the last one. -/
def Session.pageAt (s : Session) (take : Json → Except Fault α) (path : String) (first k : Nat) :
    Except Interruption (List α × Bool) :=
  takePage take s.depth (s.url path) (first + k) (s.replyAt k)

/-- The session once it has asked for `n` pages, from `first` on. -/
def Session.paged (s : Session) (path : String) (first n : Nat) : Session :=
  { s with
    requests := s.requests ++
      (List.range' first n).map fun k => s.request .get path (pageParameters k)
    replies := s.replies.drop n }

theorem Session.paged_one (s : Session) (path : String) (first : Nat) : s.paged path first 1 =
    s.sent (s.request .get path (pageParameters first)) s.replies.tail := by
  simp [paged, sent, List.range'_one, List.drop_one]

/-- Pages that are asked for one after the other. -/
theorem Session.paged_succ (s : Session) (path : String) (first n : Nat) :
    s.paged path first (n + 1) = (s.paged path first 1).paged path (first + 1) n := by
  simp [paged, List.range'_succ, request, url]

/-- The pages after the first. -/
theorem Session.pageAt_paged (s : Session) (take : Json → Except Fault α) (path : String)
    (first k : Nat) :
    (s.paged path first 1).pageAt take path (first + 1) k = s.pageAt take path first (k + 1) := by
  simp [pageAt, paged, replyAt, url, List.getD_eq_getElem?_getD, Nat.add_comm k 1, Nat.add_assoc]

/-- **How far a listing gets** from the page `first` on. The pages before the `n`-th are taken in,
and others follow each of them. The `n`-th is the last page, and all that was taken in is listed in
order; or it fails, and nothing is. -/
inductive Listed (take : Json → Except Fault α) (path : String) (first : Nat) (s : Session) :
    Nat → Except Interruption (List α) → Prop
  | complete {before : List (List α)} {last : List α}
      (taken : ∀ k (h : k < before.length), s.pageAt take path first k = .ok (before[k], false))
      (final : s.pageAt take path first before.length = .ok (last, true)) :
      Listed take path first s (before.length + 1) (.ok (before.flatten ++ last))
  | stopped {before : List (List α)} {e : Interruption}
      (taken : ∀ k (h : k < before.length), s.pageAt take path first k = .ok (before[k], false))
      (failed : s.pageAt take path first before.length = .error e) :
      Listed take path first s (before.length + 1) (.error e)

variable {first : Nat} {o : Except Interruption (List α)} {taken : List α}

/-- The first page is the last. -/
theorem Listed.single (h : s.pageAt take path first 0 = .ok (taken, true)) :
    Listed take path first s 1 (.ok taken) :=
  complete (fun _ hk => absurd hk (Nat.not_lt_zero _)) (show s.pageAt take path first
    ([] : List (List α)).length = .ok (taken, true) from h)

/-- The first page fails. -/
theorem Listed.failed {e : Interruption} (h : s.pageAt take path first 0 = .error e) :
    Listed take path first s 1 (.error e) :=
  stopped (fun _ hk => absurd hk (Nat.not_lt_zero _)) (show s.pageAt take path first
    ([] : List (List α)).length = .error e from h)

theorem taken_cons {before : List (List α)}
    (hpage : s.pageAt take path first 0 = .ok (taken, false))
    (h : ∀ k (hk : k < before.length),
      (s.paged path first 1).pageAt take path (first + 1) k = .ok (before[k], false)) :
    ∀ k (hk : k < (taken :: before).length),
      s.pageAt take path first k = .ok ((taken :: before)[k], false) := by
  intro k hk
  cases k with
  | zero => exact hpage
  | succ k =>
    rw [← s.pageAt_paged]
    exact h k (Nat.lt_of_succ_lt_succ hk)

/-- Others follow the first page. -/
theorem Listed.cons (hpage : s.pageAt take path first 0 = .ok (taken, false))
    (h : Listed take path (first + 1) (s.paged path first 1) n o) :
    Listed take path first s (n + 1) (o.map (taken ++ ·)) := by
  cases h with
  | @complete before last hbefore final =>
    rw [s.pageAt_paged] at final
    have hcomplete := Listed.complete (taken_cons hpage hbefore) final
    rwa [List.flatten_cons, List.append_assoc] at hcomplete
  | @stopped before e hbefore failed =>
    rw [s.pageAt_paged] at failed
    exact Listed.stopped (taken_cons hpage hbefore) failed

theorem listFrom_spec (replies : List Reply) (hreplies : s.replies = replies) :
    ∃ n o, Listed take path first s n o ∧
      listFrom take path first s replies = (s.paged path first n, o) := by
  -- One reply is taken for each page, so the induction is on the replies that are left; the page
  -- after the last of them is asked for too, and is lost.
  induction replies generalizing first s with
  | nil =>
    have hpage : s.pageAt take path first 0 = .error (.failed "no scripted response") := by
      unfold Session.pageAt Session.replyAt
      rw [hreplies]
      rfl
    refine ⟨1, _, .failed hpage, ?_⟩
    rw [s.paged_one, hreplies]
    rfl
  | cons reply left ih =>
    have hpage : s.pageAt take path first 0 =
        takePage take s.depth (s.url path) first reply := by
      unfold Session.pageAt Session.replyAt
      rw [hreplies]
      rfl
    have hsent : s.sent (s.request .get path (pageParameters first)) left =
        s.paged path first 1 := by
      rw [s.paged_one, hreplies, List.tail_cons]
    have hurl : (s.paged path first 1).url path = s.url path := rfl
    have hdepth : (s.paged path first 1).depth = s.depth := rfl
    rw [listFrom, hsent]
    simp only [hurl, hdepth]
    cases htake : takePage take s.depth (s.url path) first reply with
    | error e =>
      rw [htake] at hpage
      exact ⟨1, _, .failed hpage, rfl⟩
    | ok r =>
      obtain ⟨taken, last⟩ := r
      rw [htake] at hpage
      cases last with
      | true => exact ⟨1, _, .single hpage, rfl⟩
      | false =>
        have hleft : (s.paged path first 1).replies = left := by rw [← hsent]; rfl
        obtain ⟨n, o, hlisted, hlist⟩ := ih hleft
        refine ⟨n + 1, _, .cons hpage hlisted, ?_⟩
        simp only [hlist]
        rw [s.paged_succ path first n]

/-- **The run of a listing.** As many requests are sent as it gets far. -/
theorem list_spec (take : Json → Except Fault α) (path : String) (s : Session) :
    ∃ n o, Listed take path 1 s n o ∧ list take path s = (s.paged path 1 n, o) :=
  listFrom_spec s.replies rfl

/-- Pages that are taken in up to one that none follows are the same whoever looks. -/
theorem before_unique {before before' : List (List α)}
    (h : ∀ k (hk : k < before.length), s.pageAt take path first k = .ok (before[k], false))
    (h' : ∀ k (hk : k < before'.length), s.pageAt take path first k = .ok (before'[k], false))
    (hend : ∀ xs, s.pageAt take path first before.length ≠ .ok (xs, false))
    (hend' : ∀ xs, s.pageAt take path first before'.length ≠ .ok (xs, false)) :
    before = before' := by
  -- The shorter list ends at a page that none follows, and the longer one has taken it in as one
  -- that others follow.
  have hlength : before.length = before'.length := by
    rcases Nat.lt_trichotomy before.length before'.length with hlt | heq | hlt
    · exact absurd (h' _ hlt) (hend _)
    · exact heq
    · exact absurd (h _ hlt) (hend' _)
  refine List.ext_getElem hlength fun k hk hk' => ?_
  have hpages := (h k hk).symm.trans (h' k hk')
  rw [Except.ok.injEq, Prod.mk.injEq] at hpages
  exact hpages.1

/-- A listing gets only so far. -/
theorem Listed.unique {n' : Nat} {o' : Except Interruption (List α)}
    (h : Listed take path first s n o) (h' : Listed take path first s n' o') : n = n' ∧ o = o' := by
  cases h with
  | @complete before last taken final =>
    cases h' with
    | @complete before' last' taken' final' =>
      obtain rfl := before_unique taken taken' (by simp [final]) (by simp [final'])
      rw [final, Except.ok.injEq, Prod.mk.injEq] at final'
      rw [final'.1]
      exact ⟨rfl, rfl⟩
    | @stopped before' e' taken' failed' =>
      obtain rfl := before_unique taken taken' (by simp [final]) (by simp [failed'])
      rw [final] at failed'
      cases failed'
  | @stopped before e taken failed =>
    cases h' with
    | @complete before' last' taken' final' =>
      obtain rfl := before_unique taken taken' (by simp [failed]) (by simp [final'])
      rw [failed] at final'
      cases final'
    | @stopped before' e' taken' failed' =>
      obtain rfl := before_unique taken taken' (by simp [failed]) (by simp [failed'])
      rw [failed, Except.error.injEq] at failed'
      rw [failed']
      exact ⟨rfl, rfl⟩

/-- What a listing comes to. -/
theorem Listed.list_eq (h : Listed take path 1 s n o) :
    list take path s = (s.paged path 1 n, o) := by
  obtain ⟨n', o', h', hlist⟩ := list_spec take path s
  obtain ⟨rfl, rfl⟩ := h.unique h'
  exact hlist

/-! ## Items -/

/-- The records of a page that is taken in. -/
theorem exists_pageAt_ok {k : Nat} {last : Bool}
    (h : s.pageAt take path first k = .ok (taken, last)) :
    ∃ records, s.pageAt .ok path first k = .ok (records, last) ∧
      List.Forall₂ (fun r x => take r = .ok x) records taken := by
  obtain ⟨body, records, hbody, hrecords, htaken, hlast⟩ := takePage_eq_ok_iff.mp h
  refine ⟨records, takePage_eq_ok_iff.mpr ⟨body, records, hbody, hrecords, ?_, hlast⟩, htaken⟩
  exact List.forall₂_same.mpr fun _ _ => rfl

/-- The records of pages that are taken in. -/
theorem exists_rows {before : List (List α)}
    (h : ∀ k (hk : k < before.length), s.pageAt take path first k = .ok (before[k], false)) :
    ∃ rows : List (List Json), rows.length = before.length ∧
      (∀ k (hk : k < rows.length), s.pageAt .ok path first k = .ok (rows[k], false)) ∧
      List.Forall₂ (List.Forall₂ fun r x => take r = .ok x) rows before := by
  choose row hrow htaken using fun k : Fin before.length => exists_pageAt_ok (h k k.2)
  refine ⟨List.ofFn row, List.length_ofFn, fun k hk => ?_, List.forall₂_iff_get.mpr
    ⟨List.length_ofFn, fun k hk hk' => ?_⟩⟩
  · rw [List.getElem_ofFn]
    exact hrow ⟨k, by simpa using hk⟩
  · rw [List.get_eq_getElem, List.getElem_ofFn]
    exact htaken ⟨k, hk'⟩

/-- **A listing that succeeds** has taken in every record of its pages, in order. -/
theorem Listed.records (h : Listed take path first s n (.ok taken)) :
    ∃ records, Listed .ok path first s n (.ok records) ∧
      List.Forall₂ (fun r x => take r = .ok x) records taken := by
  cases h with
  | @complete before last hbefore final =>
    obtain ⟨rows, hlength, hrows, htaken⟩ := exists_rows hbefore
    obtain ⟨ending, hending, hendingtaken⟩ := exists_pageAt_ok final
    rw [← hlength] at hending ⊢
    exact ⟨_, .complete hrows hending, List.rel_append (List.rel_flatten htaken) hendingtaken⟩

/-- **What a listing fails with** is what its pages fail with, up to the one that ends it. -/
theorem Listed.failsOnly_iff {p : Interruption → Prop} (h : Listed take path first s n o) :
    FailsOnly p o ↔ ∀ k < n, FailsOnly p (s.pageAt take path first k) := by
  cases h with
  | @complete before last taken final =>
    refine iff_of_true (failsOnly_ok _) fun k hk => ?_
    rcases Nat.lt_succ_iff_lt_or_eq.mp hk with hk | rfl
    · rw [taken k hk]
      exact failsOnly_ok _
    · rw [final]
      exact failsOnly_ok _
  | @stopped before e taken failed =>
    constructor
    · intro he k hk
      rcases Nat.lt_succ_iff_lt_or_eq.mp hk with hk | rfl
      · rw [taken k hk]
        exact failsOnly_ok _
      · rw [failed]
        exact failsOnly_error_iff.mpr (failsOnly_error_iff.mp he)
    · intro hk
      have hlast := hk _ (Nat.lt_succ_self _)
      rw [failed] at hlast
      exact failsOnly_error_iff.mpr (failsOnly_error_iff.mp hlast)

/-- Where every item is accepted, a listing ends in nothing but a request that failed just if every
value that it gets is a page. -/
theorem Listed.isFailed_iff {listing : Except Interruption (List Json)}
    (h : Listed .ok path first s n listing) : FailsOnly Interruption.IsFailed listing ↔
      ∀ k < n, (s.replyAt k).Sound s.depth (s.url path) :=
  h.failsOnly_iff.trans (forall₂_congr fun _ _ => takePage_isFailed_iff)

/-- A listing fails with faults of the given families only, unless it comes to a reply that is
nested too deep. -/
theorem Listed.within_iff (hshape : Fault.shapeFamilies ⊆ families)
    (hdepth : Fault.Family.depth ∉ families)
    (htake : ∀ r, FailsOnly (·.family ∈ families) (take r)) (h : Listed take path first s n o) :
    FailsOnly (Interruption.Within families) o ↔
      ∀ k < n, ¬ (s.replyAt k).IsTooDeep s.depth (s.url path) :=
  h.failsOnly_iff.trans (forall₂_congr fun _ _ => takePage_within_iff hshape hdepth htake)

/-- A listing fails with a request that failed, a fault of the given families, or a reply that is
nested too deep. -/
theorem Listed.within_or {e : Interruption} (hshape : Fault.shapeFamilies ⊆ families)
    (hdepth : Fault.Family.depth ∉ families)
    (htake : ∀ r, FailsOnly (·.family ∈ families) (take r))
    (h : Listed take path first s n (.error e)) : e.Within families ∨ e.IsTooDeep :=
  h.failsOnly_iff.mpr (fun _ _ => takePage_within_or hshape hdepth htake) e rfl

end Server

end SchemaModels
