import SchemaModels.Proofs.Double
import SchemaModels.Proofs.Server.Collections

/-!
# Pages and their totals

What a listing does with pages as a server is meant to send them (`Reply.Carries`): a list of items,
and a total of pages that is a number, is null, or is left out, and that can be another one on each
page. A page is the last one if its number has reached its own total (`Page.IsLast`, by the value of
the total).

After pages that others follow (`Session.Precede`) a listing asks for the next one. If that is the
last, its items and those before it are all that is listed, in order; if no page comes, nothing is
(`lists_of_precede`). In both cases no further request is sent. Where each reply carries a page or
none, one of the two cases comes about (`exists_precede`). Collections are fetched from such a
listing (`fetchCollections_pages`).
-/

namespace SchemaModels.Server

variable {s : Session} {path url : String} {before : List Page} {number depth : Nat} {reply : Reply}

/-! ## Pages -/

/-- **A page**: its items, and the total of pages that comes with them. -/
structure Page where
  items : List Json
  total? : Option Json

/-- What a total can be: a number, null, or nothing at all. -/
def IsTotal : Option Json → Prop
  | none | some .null | some (.int _) | some (.float _) => True
  | _ => False

/-- The number of a page has reached a total, which is one if it is missing, null or zero. -/
def HasReached (number : Nat) : Option Json → Prop
  | some (.int n) => (if n = 0 then 1 else n) ≤ (number : Int)
  | some (.float x) => if x.isZero then 1 ≤ number else x.AtMost number
  | _ => 1 ≤ number

instance : DecidablePred IsTotal
  | none | some .null | some (.int _) | some (.float _) => isTrue trivial
  | some (.bool _) | some (.text _) | some (.list _) | some (.object _) => isFalse not_false

instance (number : Nat) : DecidablePred (HasReached number)
  | some (.int n) => inferInstanceAs (Decidable ((if n = 0 then 1 else n) ≤ (number : Int)))
  | some (.float x) =>
    inferInstanceAs (Decidable (if x.isZero then 1 ≤ number else x.AtMost number))
  | none | some .null | some (.bool _) | some (.text _) | some (.list _) | some (.object _) =>
    inferInstanceAs (Decidable (1 ≤ number))

/-- **The page of this number is the last one.** -/
def Page.IsLast (p : Page) (number : Nat) : Prop := HasReached number p.total?

/-- What there is of a page in an answer whose value is an object with a list of items. -/
def Reply.page? (depth : Nat) (url : String) (reply : Reply) : Option Page :=
  match reply.value depth url with
  | .ok (.object entries) =>
    match entries.lookup "items" with
    | some (.list items) => some ⟨items, entries.lookup "totalPages"⟩
    | _ => none
  | _ => none

/-- **The reply carries the page.** -/
def Reply.Carries (depth : Nat) (url : String) (reply : Reply) (p : Page) : Prop :=
  reply.page? depth url = some p ∧ IsTotal p.total?

/-- No page comes of the reply: a request has failed, the answer is nested too deep, or the value in
it is no page. -/
def Reply.CarriesNone (depth : Nat) (url : String) (reply : Reply) : Prop :=
  ∀ body, reply.value depth url = .ok body → ¬ IsPage body

theorem Reply.page?_eq_some_iff {p : Page} : reply.page? depth url = some p ↔ ∃ entries,
    reply.value depth url = .ok (.object entries) ∧ entries.lookup "items" = some (.list p.items) ∧
      entries.lookup "totalPages" = p.total? := by
  unfold page?
  constructor
  · intro h
    split at h
    · rename_i entries hvalue
      split at h
      · rename_i items hitems
        rw [Option.some.injEq] at h
        subst h
        exact ⟨entries, hvalue, hitems, rfl⟩
      · cases h
    · cases h
  · rintro ⟨entries, hvalue, hitems, htotal⟩
    simp only [hvalue, hitems, htotal]

/-! ## Taking in a page -/

theorem reaches_one : reaches number (.int 1) = .ok (decide (1 ≤ number)) := by
  simp [reaches, Json.number?]

/-- A number that is not zero is the total. -/
theorem orElse_of_not_blank {v default : Json} (h : v.isBlank = false) : v.orElse default = v := by
  rw [Json.orElse, h]
  rfl

theorem orElse_of_blank {v default : Json} (h : v.isBlank = true) : v.orElse default = default := by
  rw [Json.orElse, h]
  rfl

/-- **Whether a total is reached** is decided. -/
theorem exists_reaches (number : Nat) {total? : Option Json} (h : IsTotal total?) : ∃ last,
    reaches number ((total?.getD .null).orElse (.int 1)) = .ok last ∧
      (last = true ↔ HasReached number total?) := by
  have hone : ∀ v : Json, v.isBlank = true →
      reaches number (v.orElse (.int 1)) = .ok (decide (1 ≤ number)) := fun v hv => by
    rw [orElse_of_blank hv, reaches_one]
  cases total? with
  | none => exact ⟨_, hone .null rfl, decide_eq_true_iff⟩
  | some v =>
    cases v with
    | null => exact ⟨_, hone .null rfl, decide_eq_true_iff⟩
    | int n =>
      by_cases hn : n = 0
      · subst hn
        refine ⟨_, hone (.int 0) rfl, ?_⟩
        simp [HasReached]
      · have hblank : (Json.int n).isBlank = false := by simpa [Json.isBlank] using hn
        rw [Option.getD_some, orElse_of_not_blank hblank]
        refine ⟨_, rfl, ?_⟩
        simp [HasReached, hn]
    | float x =>
      cases hzero : x.isZero with
      | true =>
        refine ⟨_, hone (.float x) hzero, ?_⟩
        simp [HasReached, hzero]
      | false =>
        rw [Option.getD_some, orElse_of_not_blank (show (Json.float x).isBlank = false from hzero)]
        refine ⟨_, rfl, ?_⟩
        simp only [HasReached, hzero, Bool.false_eq_true, if_false]
        exact x.atMost_iff number
    | _ => exact absurd h not_false

/-- **A page is taken in** with all of its items. -/
theorem exists_takePage (number : Nat) {p : Page} (h : reply.Carries depth url p) : ∃ last,
    takePage (.ok : Json → Except Fault Json) depth url number reply = .ok (p.items, last) ∧
      (last = true ↔ p.IsLast number) := by
  obtain ⟨entries, hvalue, hitems, htotal⟩ := Reply.page?_eq_some_iff.mp h.1
  obtain ⟨last, hreaches, hlast⟩ := exists_reaches number h.2
  refine ⟨last, takePage_eq_ok_iff.mpr ⟨_, p.items, hvalue, ?_, ?_, ?_⟩, hlast⟩
  · unfold itemsOf
    rw [Json.lookup_object, hitems]
    rfl
  · exact List.forall₂_same.mpr fun _ _ => rfl
  · rw [isLast_object, totalOf, htotal]
    exact hreaches

/-- Nothing is taken in where no page comes. -/
theorem exists_takePage_error (number : Nat) (h : reply.CarriesNone depth url) :
    ∃ e, takePage (.ok : Json → Except Fault Json) depth url number reply = .error e := by
  cases htake : takePage (.ok : Json → Except Fault Json) depth url number reply with
  | error e => exact ⟨e, rfl⟩
  | ok r =>
    obtain ⟨taken, last⟩ := r
    obtain ⟨body, records, hbody, hrecords, -, hlast⟩ := takePage_eq_ok_iff.mp htake
    exact absurd ((isPage_iff number).mpr ⟨⟨records, hrecords⟩, last, hlast⟩) (h body hbody)

/-! ## Listings of pages -/

/-- **The first replies are pages that others follow.** -/
def Session.Precede (s : Session) (path : String) (before : List Page) : Prop :=
  ∀ k (h : k < before.length), (s.replyAt k).Carries s.depth (s.url path) before[k] ∧
    ¬ before[k].IsLast (k + 1)

/-- The request for a page. -/
def Session.pageRequest (s : Session) (path : String) (number : Nat) : Request where
  method := .get
  url := s.domain ++ path
  content := .object [("page", .int number), ("perPage", .int 200)]
  timeout := s.timeout
  authorization := s.authorization

/-- **The session has asked for `n` pages**, from the first on and one after the other. -/
structure Session.AskedPages (s s' : Session) (path : String) (n : Nat) : Prop where
  requests : s'.requests = s.requests ++ (List.range' 1 n).map (s.pageRequest path)
  replies : s'.replies = s.replies.drop n

theorem askedPages_paged (s : Session) (path : String) (n : Nat) :
    s.AskedPages (s.paged path 1 n) path n := ⟨rfl, rfl⟩

/-- The next page is the last one. -/
def Session.EndsWith (s : Session) (path : String) (before : List Page) (last : Page) : Prop :=
  (s.replyAt before.length).Carries s.depth (s.url path) last ∧ last.IsLast (before.length + 1)

/-- No page comes next. -/
def Session.BreaksOff (s : Session) (path : String) (before : List Page) : Prop :=
  (s.replyAt before.length).CarriesNone s.depth (s.url path)

/-- Once the network has no reply left, no page comes. -/
theorem not_carries_silence {p : Page} : ¬ (s.replyAt s.replies.length).Carries depth url p := by
  rintro ⟨hpage, -⟩
  rw [Session.replyAt, List.getD_eq_getElem?_getD, List.getElem?_eq_none le_rfl] at hpage
  cases hpage

/-- Where each reply carries a page or none, there are pages that others follow up to the last one
or up to where none comes. -/
theorem exists_precede
    (h : ∀ k, (∃ p, (s.replyAt k).Carries s.depth (s.url path) p) ∨
      (s.replyAt k).CarriesNone s.depth (s.url path)) :
    ∃ before, s.Precede path before ∧ ((∃ last, s.EndsWith path before last) ∨
      s.BreaksOff path before) := by
  classical
  -- The pages are those before the first reply that is not a page which others follow.
  have hend : ∃ n, ¬ ∃ p, (s.replyAt n).Carries s.depth (s.url path) p ∧ ¬ p.IsLast (n + 1) := by
    refine ⟨s.replies.length, ?_⟩
    rintro ⟨p, hcarries, -⟩
    exact not_carries_silence hcarries
  choose page hcarries hfollowed using fun k : Fin (Nat.find hend) =>
    not_not.mp (Nat.find_min hend k.2)
  have hlength : (List.ofFn page).length = Nat.find hend := List.length_ofFn
  refine ⟨List.ofFn page, fun k hk => ?_, ?_⟩
  · rw [List.getElem_ofFn]
    exact ⟨hcarries ⟨k, hlength ▸ hk⟩, hfollowed ⟨k, hlength ▸ hk⟩⟩
  · unfold Session.EndsWith Session.BreaksOff
    rw [hlength]
    refine (h (Nat.find hend)).imp_left fun ⟨last, hlast⟩ => ⟨last, hlast, ?_⟩
    by_contra hnot
    exact Nat.find_spec hend ⟨last, hlast, hnot⟩

namespace Session.Precede

variable {last : Page}

/-- The pages that others follow are taken in as such. -/
theorem pageAt_eq (h : s.Precede path before) : ∀ k (hk : k < (before.map Page.items).length),
    s.pageAt .ok path 1 k = .ok ((before.map Page.items)[k], false) := by
  intro k hk
  obtain ⟨hcarries, hfollowed⟩ := h k (by simpa using hk)
  obtain ⟨ends, htake, hends⟩ := exists_takePage (k + 1) hcarries
  have hfalse : ends = false := by
    rw [← Bool.not_eq_true, hends]
    exact hfollowed
  rw [List.getElem_map, Session.pageAt, Nat.add_comm 1 k, htake, hfalse]

/-- **A listing up to its last page** has the items of all pages. -/
theorem listed_complete (h : s.Precede path before) (hlast : s.EndsWith path before last) :
    Listed .ok path 1 s (before.length + 1) (.ok ((before ++ [last]).flatMap Page.items)) := by
  obtain ⟨ends, htake, hends⟩ := exists_takePage (before.length + 1) hlast.1
  rw [hends.mpr hlast.2] at htake
  have hfinal : s.pageAt .ok path 1 (before.map Page.items).length = .ok (last.items, true) := by
    rw [List.length_map, Session.pageAt, Nat.add_comm 1]
    exact htake
  have hlisted := Listed.complete h.pageAt_eq hfinal
  rwa [List.length_map, ← List.flatMap_def, ← List.flatMap_singleton Page.items last,
    ← List.flatMap_append] at hlisted

/-- A listing in which no page comes has nothing. -/
theorem listed_stopped {e : Interruption} (h : s.Precede path before)
    (he : takePage (.ok : Json → Except Fault Json) s.depth (s.url path) (before.length + 1)
      (s.replyAt before.length) = .error e) :
    Listed .ok path 1 s (before.length + 1) (.error e) := by
  have hfailed : s.pageAt .ok path 1 (before.map Page.items).length = .error e := by
    rw [List.length_map, Session.pageAt, Nat.add_comm 1]
    exact he
  have hlisted := Listed.stopped h.pageAt_eq hfailed
  rwa [List.length_map] at hlisted

end Session.Precede

/-! ## What comes of the pages -/

/-- What a listing comes to after pages that others follow. -/
structure Lists (s : Session) (path : String) (before : List Page) : Prop where
  complete : ∀ last, s.EndsWith path before last →
    s.AskedPages (list .ok path s).1 path (before.length + 1) ∧
      (list .ok path s).2 = .ok ((before ++ [last]).flatMap Page.items)
  stopped : s.BreaksOff path before →
    s.AskedPages (list .ok path s).1 path (before.length + 1) ∧
      ∃ e, (list .ok path s).2 = .error e

/-- What fetching collections comes to after pages that others follow. -/
structure Fetches (s : Session) (before : List Page) : Prop where
  complete : ∀ last, s.EndsWith collectionsPath before last →
    s.AskedPages (fetchCollections.run s).1 collectionsPath (before.length + 1) ∧
      ∀ cs, (fetchCollections.run s).2.outcome = .ok cs ↔
        List.Forall₂ (fun raw c => (Collection.ofJson raw).outcome = .ok c)
          ((before ++ [last]).flatMap Page.items) cs
  stopped : s.BreaksOff collectionsPath before →
    s.AskedPages (fetchCollections.run s).1 collectionsPath (before.length + 1) ∧
      ∀ cs, (fetchCollections.run s).2.outcome ≠ .ok cs
  /-- A request that fails is told with its reason. -/
  failed : ∀ reason,
    (s.replyAt before.length).value s.depth (s.url collectionsPath) = .error (.failed reason) →
      (fetchCollections.run s).2.outcome = .error (.problem (.collectionsNotFetched reason))

theorem collectionsOf_error_ne_ok (e : Interruption) (cs : List Collection) :
    collectionsOf (.error e) ≠ .ok cs := by
  simp only [collectionsOf]
  split <;> simp

theorem lists_of_precede (h : s.Precede path before) : Lists s path before where
  complete last hlast := by
    rw [(h.listed_complete hlast).list_eq]
    exact ⟨askedPages_paged _ _ _, rfl⟩
  stopped hnone := by
    obtain ⟨e, he⟩ := exists_takePage_error (before.length + 1) hnone
    rw [(h.listed_stopped he).list_eq]
    exact ⟨askedPages_paged _ _ _, e, rfl⟩

theorem fetches_of_precede (h : s.Precede collectionsPath before) : Fetches s before where
  complete last hlast := by
    obtain ⟨hsession, houtcome⟩ := ends_fetchCollections s
    rw [(h.listed_complete hlast).list_eq] at hsession houtcome
    rw [hsession, houtcome]
    exact ⟨askedPages_paged _ _ _, fun cs => Logged.outcome_mapM_eq_ok_iff⟩
  stopped hnone := by
    obtain ⟨e, he⟩ := exists_takePage_error (before.length + 1) hnone
    obtain ⟨hsession, houtcome⟩ := ends_fetchCollections s
    rw [(h.listed_stopped he).list_eq] at hsession houtcome
    rw [hsession, houtcome]
    exact ⟨askedPages_paged _ _ _, collectionsOf_error_ne_ok e⟩
  failed reason hreason := by
    rw [(ends_fetchCollections s).2, (h.listed_stopped (takePage_error hreason)).list_eq]
    rfl

/-- **Each page is asked for once, and none after the last**: a listing takes in all pages in order,
or nothing if one of them does not come; so do collections that are fetched. Replies that each carry
a page or none always are pages that others follow up to the last one, or up to one that does not
come. -/
theorem fetchCollections_pages (s : Session) (path : String) :
    (∀ before, s.Precede path before →
      Lists s path before ∧ (path = collectionsPath → Fetches s before)) ∧
    ((∀ k, (∃ p, (s.replyAt k).Carries s.depth (s.url path) p) ∨
        (s.replyAt k).CarriesNone s.depth (s.url path)) →
      ∃ before, s.Precede path before ∧
        ((∃ last, s.EndsWith path before last) ∨ s.BreaksOff path before)) := by
  refine ⟨fun before h => ⟨lists_of_precede h, ?_⟩, exists_precede⟩
  rintro rfl
  exact fetches_of_precede h

/-- A server that tells of three pages, and with the second one of two. -/
def shrinkingSession : Session :=
  .start "https://pb.example.com" (.int 30)
    [.answer { status := 200, reason := "", body :=
      "\x7b\"items\": [\x7b\"name\": \"posts\"\x7d], \"totalPages\": 3\x7d" },
     .answer { status := 200, reason := "", body :=
      "\x7b\"items\": [\x7b\"name\": \"tags\"\x7d], \"totalPages\": 2.0\x7d" }]

/-- Two pages are asked for, and their items are listed. -/
theorem fetchCollections_pages_shrinking : ∃ first last : Page,
    shrinkingSession.Precede collectionsPath [first] ∧
      shrinkingSession.EndsWith collectionsPath [first] last ∧
      shrinkingSession.AskedPages (fetchCollections.run shrinkingSession).1 collectionsPath 2 ∧
      (list .ok collectionsPath shrinkingSession).2 = .ok (first.items ++ last.items) := by
  have hfirst : (((shrinkingSession.replyAt 0).page? shrinkingSession.depth
      (shrinkingSession.url collectionsPath)).any
      fun p => decide (IsTotal p.total? ∧ ¬ HasReached 1 p.total?)) = true := by
    decide +kernel
  have hlast : (((shrinkingSession.replyAt 1).page? shrinkingSession.depth
      (shrinkingSession.url collectionsPath)).any
      fun p => decide (IsTotal p.total? ∧ HasReached 2 p.total?)) = true := by
    decide +kernel
  simp only [Option.any_eq_true, decide_eq_true_eq] at hfirst hlast
  obtain ⟨first, hfirst, htotal, hfollowed⟩ := hfirst
  obtain ⟨last, hlast, htotal', hreached⟩ := hlast
  have hprecede : shrinkingSession.Precede collectionsPath [first] := by
    intro k hk
    obtain rfl := Nat.lt_one_iff.mp hk
    exact ⟨⟨hfirst, htotal⟩, hfollowed⟩
  have hends : shrinkingSession.EndsWith collectionsPath [first] last :=
    ⟨⟨hlast, htotal'⟩, hreached⟩
  obtain ⟨hlists, hfetches⟩ := (fetchCollections_pages _ _).1 _ hprecede
  obtain ⟨hasked, -⟩ := (hfetches rfl).complete _ hends
  obtain ⟨-, hlisted⟩ := hlists.complete _ hends
  exact ⟨_, _, hprecede, hends, hasked, by simpa using hlisted⟩

end SchemaModels.Server
