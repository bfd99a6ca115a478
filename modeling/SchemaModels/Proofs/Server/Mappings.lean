import SchemaModels.Proofs.Expansion.Walk
import SchemaModels.Proofs.Server.Listing
import SchemaModels.Server.Fetch

/-!
# Fetched mappings

Fetching the mappings of a run is meant never to fail. Nearly all that can go wrong in a listing of
mappings is of the families of faults that a run gets over (`failsOnly_mapping`): either there is a
warning and there are no mappings, or each record of the listing declares one
(`fetchMappings_complete_iff`), and none of its names is blank (`fetchMappings_eq`). But for the
fault of an answer that is nested too deep there is no one prepared, and it is passed on
(`ends_fetchMappings_error`). Blank is all that is asked about names: a name can still be a number,
a list or an object, and whether a resolver gets along with such mappings is up to the walk that it
takes (`fetchMappings_harmless_iff`).
-/

namespace SchemaModels

/-! ## Reading what is nested -/

namespace Json

theorem Reader.value_brackets (size : Nat) {depth fuel : Nat} (hfuel : 2 * depth < fuel)
    (rest : List Char) :
    value size depth fuel (List.replicate (depth + 1) '[' ++ rest) = .error (.tooDeep false) := by
  -- Each list takes two rounds, one for itself and one for its first item.
  induction depth generalizing fuel with
  | zero =>
    obtain ⟨k, rfl⟩ : ∃ k, fuel = k + 1 := ⟨fuel - 1, by omega⟩
    rfl
  | succ depth ih =>
    obtain ⟨k, rfl⟩ : ∃ k, fuel = k + 2 := ⟨fuel - 2, by omega⟩
    have hitems : items size depth [] (k + 1) (List.replicate (depth + 1) '[' ++ rest) =
        .error (.tooDeep false) := by
      rw [items, ih (by omega)]
      rfl
    exact hitems

/-- **A text that opens more lists than there is room for** is not read, whatever follows. -/
theorem read_brackets (depth : Nat) (rest : List Char) :
    read (List.replicate (depth + 1) '[' ++ rest) depth = .error (.tooDeep false) := by
  have hfuel : 2 * depth < 2 * (List.replicate (depth + 1) '[' ++ rest).length + 2 := by
    rw [List.length_append, List.length_replicate]
    omega
  have hvalue := Reader.value_brackets (List.replicate (depth + 1) '[' ++ rest).length hfuel rest
  unfold read
  rw [List.replicate_succ, List.cons_append] at hvalue ⊢
  simp only
  have hspace : Reader.skipSpace ('[' :: (List.replicate depth '[' ++ rest)) =
      '[' :: (List.replicate depth '[' ++ rest) := rfl
  rw [hspace, hvalue]
  rfl

end Json

/-! ## Records -/

/-- None of the names in a mapping is blank. -/
structure Mapping.Filled (m : Mapping) : Prop where
  source : m.source.isBlank = false
  field : m.field.isBlank = false
  target : m.target.isBlank = false

/-- A record declares a mapping only if none of its names is blank. -/
theorem Mapping.filled_of_ofJson {record : Json} {m : Mapping} (h : ofJson record = .ok m) :
    m.Filled := by
  unfold ofJson at h
  obtain ⟨source, -, h⟩ := except_bind_eq_ok_iff.mp h
  obtain ⟨field, -, h⟩ := except_bind_eq_ok_iff.mp h
  obtain ⟨target, -, h⟩ := except_bind_eq_ok_iff.mp h
  simp only at h
  split at h
  · rename_i hmissing
    obtain ⟨single, -, h⟩ := except_bind_eq_ok_iff.mp h
    rw [Except.ok.injEq] at h
    subst h
    simp [requiredKeys, List.filter_eq_nil_iff] at hmissing
    exact ⟨hmissing.1, hmissing.2.1, hmissing.2.2⟩
  · obtain ⟨id, -, h⟩ := except_bind_eq_ok_iff.mp h
    cases h

namespace Server

variable {collection : String} {s : Session} {n : Nat}
  {listing : Except Interruption (List Mapping)}

/-! ## Listings of mappings -/

theorem shapeFamilies_subset : Fault.shapeFamilies ⊆ mappingFaults := by decide

/-- A record that declares no mapping is a fault that a run gets over. -/
theorem failsOnly_mapping (record : Json) :
    FailsOnly (·.family ∈ mappingFaults) (Mapping.ofJson record) := by
  have hentry : ∀ key, FailsOnly (·.family ∈ mappingFaults) (record.entry key) := fun key =>
    (record.failsOnly_entry key).mono fun _ h => shapeFamilies_subset h
  refine failsOnly_bind_iff.mpr ⟨hentry _, fun source _ => ?_⟩
  refine failsOnly_bind_iff.mpr ⟨hentry _, fun field _ => ?_⟩
  refine failsOnly_bind_iff.mpr ⟨hentry _, fun target _ => ?_⟩
  simp only
  split
  · exact failsOnly_bind_iff.mpr ⟨hentry _, fun single _ => failsOnly_ok _⟩
  · refine failsOnly_bind_iff.mpr
      ⟨(record.failsOnly_lookup "id").mono fun _ h => shapeFamilies_subset h, fun id _ => ?_⟩
    exact failsOnly_error_iff.mpr (by simp [Fault.family, mappingFaults])

theorem depth_not_mem_mappingFaults : Fault.Family.depth ∉ mappingFaults := by decide

/-- A listing of mappings that fails is one that a run gets over, or an answer is nested too
deep. -/
theorem Listed.within_or_isTooDeep {e : Interruption}
    (h : Listed Mapping.ofJson (recordsPath collection) 1 s n (.error e)) :
    e.Within mappingFaults ∨ e.IsTooDeep :=
  h.within_or shapeFamilies_subset depth_not_mem_mappingFaults failsOnly_mapping

/-- **The listing of the mappings comes to an answer that is nested too deep.** -/
def Session.MappingsTooDeep (s : Session) (collection : String) : Prop :=
  ∃ e, (list Mapping.ofJson (recordsPath collection) s).2 = .error e ∧ e.IsTooDeep

theorem Listed.not_isTooDeep {e : Interruption} (hshallow : ¬ s.MappingsTooDeep collection)
    (h : Listed Mapping.ofJson (recordsPath collection) 1 s n (.error e)) : ¬ e.IsTooDeep :=
  fun hdeep => hshallow ⟨e, by rw [h.list_eq], hdeep⟩

/-- That is a matter of the replies that the listing gets. -/
theorem Listed.not_mappingsTooDeep_iff
    (h : Listed Mapping.ofJson (recordsPath collection) 1 s n listing) :
    ¬ s.MappingsTooDeep collection ↔
      ∀ k < n, ¬ (s.replyAt k).IsTooDeep s.depth (s.url (recordsPath collection)) := by
  rw [← h.within_iff shapeFamilies_subset depth_not_mem_mappingFaults failsOnly_mapping]
  unfold Session.MappingsTooDeep
  rw [h.list_eq]
  cases listing with
  | ok ms => exact iff_of_true (by simp) (failsOnly_ok ms)
  | error e =>
    simp only [Except.error.injEq, exists_eq_left', failsOnly_error_iff]
    exact ⟨h.within_or_isTooDeep.resolve_right,
      fun hwithin hdeep => hdeep.not_within depth_not_mem_mappingFaults hwithin⟩

/-! ## Fetching -/

/-- The warning about a listing of mappings that fails. -/
def mappingWarning (collection : String) (e : Interruption) : String :=
  s!"Could not load expansion mappings from '{collection}': {e.message}. " ++
    "Continuing without expansions."

/-- What comes of a listing of mappings. -/
def conclude (collection : String) :
    Except Interruption (List Mapping) → Task Session (List Mapping)
  | .error e =>
    match e.unforeseen? mappingFaults with
    | some fault => Task.lift (Logged.ofChecked (.error fault))
    | none => do
      Task.note .warning (mappingWarning collection e)
      pure []
  | .ok mappings => do
    Task.note .info s!"Found {mappings.length} expansion mappings in '{collection}'"
    pure mappings

/-- Mappings are listed first; then nothing is sent anymore. -/
theorem run_fetchMappings (collection : String) (s : Session) : (fetchMappings collection).run s =
    (conclude collection (list Mapping.ofJson (recordsPath collection) s).2).run
      (list Mapping.ofJson (recordsPath collection) s).1 := by
  have hstages : fetchMappings collection = (Task.get >>= fun s =>
      Task.set (list Mapping.ofJson (recordsPath collection) s).1 >>= fun _ =>
        conclude collection (list Mapping.ofJson (recordsPath collection) s).2) := rfl
  have hget : (Task.get : Task Session Session).run s = (s, ⟨[], .ok s⟩) := rfl
  have hset : ∀ t : Session, (Task.set t).run s = (t, ⟨[], .ok ()⟩) := fun _ => rfl
  rw [hstages, Task.run_bind_ok hget, Task.run_bind_ok (hset _)]
  rfl

theorem state_fetchMappings (collection : String) (s : Session) :
    ((fetchMappings collection).run s).1 = (list Mapping.ofJson (recordsPath collection) s).1 := by
  rw [run_fetchMappings]
  cases (list Mapping.ofJson (recordsPath collection) s).2 with
  | ok ms => rfl
  | error e =>
    unfold conclude
    simp only
    cases e.unforeseen? mappingFaults <;> rfl

/-- Mappings that are all listed are fetched without a warning. -/
theorem warns_of_complete {ms : List Mapping}
    (h : Listed Mapping.ofJson (recordsPath collection) 1 s n (.ok ms)) :
    (fetchMappings collection).Warns s (s.paged (recordsPath collection) 1 n) ms [] := by
  unfold Task.Warns
  rw [run_fetchMappings, h.list_eq]
  exact ⟨rfl, rfl, rfl⟩

/-- A listing that fails is warned about, and no mappings are fetched. -/
theorem warns_of_stopped {e : Interruption}
    (h : Listed Mapping.ofJson (recordsPath collection) 1 s n (.error e)) (he : ¬ e.IsTooDeep) :
    (fetchMappings collection).Warns s (s.paged (recordsPath collection) 1 n) []
      [mappingWarning collection e] := by
  have hforeseen : e.unforeseen? mappingFaults = none :=
    Interruption.unforeseen?_eq_none_iff.mpr (h.within_or_isTooDeep.resolve_right he)
  unfold Task.Warns
  rw [run_fetchMappings, h.list_eq]
  unfold conclude
  simp only [hforeseen]
  exact ⟨rfl, rfl, rfl⟩

/-- The fault of an answer that is nested too deep is passed on. -/
theorem ends_of_tooDeep {inObject : Bool}
    (h : Listed Mapping.ofJson (recordsPath collection) 1 s n
      (.error (.fault (.tooDeep inObject)))) :
    (fetchMappings collection).Ends s (s.paged (recordsPath collection) 1 n)
      (.error (.fault (.tooDeep inObject))) := by
  unfold Task.Ends
  rw [run_fetchMappings, h.list_eq]
  exact ⟨rfl, rfl⟩

/-- If no answer is nested too deep, fetching mappings gives those of the listing, or none and a
warning. -/
theorem warns_fetchMappings (h : ¬ s.MappingsTooDeep collection) :
    ∃ ws, (fetchMappings collection).Warns s (list Mapping.ofJson (recordsPath collection) s).1
        ((list Mapping.ofJson (recordsPath collection) s).2.toOption.getD []) ws ∧
      ws.length = if (list Mapping.ofJson (recordsPath collection) s).2.toOption.isSome then 0
        else 1 := by
  obtain ⟨n, listing, hlisted, hlist⟩ := list_spec Mapping.ofJson (recordsPath collection) s
  cases listing with
  | ok ms =>
    rw [hlist]
    exact ⟨[], warns_of_complete hlisted, rfl⟩
  | error e =>
    rw [hlist]
    exact ⟨_, warns_of_stopped hlisted (hlisted.not_isTooDeep h), rfl⟩

/-- If one is, its fault is passed on. -/
theorem ends_fetchMappings_error (h : s.MappingsTooDeep collection) : ∃ inObject,
    (fetchMappings collection).Ends s (list Mapping.ofJson (recordsPath collection) s).1
      (.error (.fault (.tooDeep inObject))) := by
  obtain ⟨n, listing, hlisted, hlist⟩ := list_spec Mapping.ofJson (recordsPath collection) s
  obtain ⟨e, he, inObject, rfl⟩ := h
  rw [hlist] at he ⊢
  cases he
  exact ⟨inObject, ends_of_tooDeep hlisted⟩

/-- **What fetching mappings does**, if listing them gets as far as the `n`-th page. `s'` is the
session after it, and `l` what comes of it. -/
structure MappingsFetched (collection : String) (s s' : Session) (n : Nat)
    (listing : Except Interruption (List Mapping)) (l : Logged (List Mapping)) : Prop where
  listed : Listed Mapping.ofJson (recordsPath collection) 1 s n listing
  /-- Nothing is asked for after the page that ends the listing. -/
  session : s' = s.paged (recordsPath collection) 1 n
  /-- Each record of all pages declares a mapping, in their order, and there is no warning. -/
  complete : ∀ ms, listing = .ok ms → l.Warns ms [] ∧
    ∃ records, Listed .ok (recordsPath collection) 1 s n (.ok records) ∧
      List.Forall₂ (fun r m => Mapping.ofJson r = .ok m) records ms
  /-- A request that failed, a value that is no page or a record that declares no mapping leaves no
  mappings and one warning. -/
  stopped : ∀ e, listing = .error e → ¬ e.IsTooDeep → l.Warns [] [mappingWarning collection e]
  /-- The fault of an answer that is nested too deep is passed on. -/
  raised : ∀ inObject, listing = .error (.fault (.tooDeep inObject)) →
    l.outcome = .error (.fault (.tooDeep inObject))
  /-- There is nothing else that makes it fail. -/
  harmless : (∃ ms, l.outcome = .ok ms) ↔
    ∀ k < n, ¬ (s.replyAt k).IsTooDeep s.depth (s.url (recordsPath collection))

/-- **When fetching mappings is all or nothing.** Whatever the network replies: just if none of the
answers that the listing comes to is nested too deep. Then either the listing is complete, there is
no warning, and each record of its pages declares a mapping, in their order; or there is one warning
and no mapping, and the last request was that for the first page that could not be taken in. -/
theorem fetchMappings_complete_iff (collection : String) (s : Session) : ∃ n listing,
    MappingsFetched collection s ((fetchMappings collection).run s).1 n listing
      ((fetchMappings collection).run s).2 := by
  obtain ⟨n, listing, hlisted, hlist⟩ := list_spec Mapping.ofJson (recordsPath collection) s
  refine ⟨n, listing, hlisted, ?session, ?complete, ?stopped, ?raised, ?harmless⟩
  case session => rw [state_fetchMappings, hlist]
  case complete =>
    rintro ms rfl
    exact ⟨(warns_of_complete hlisted).2, hlisted.records⟩
  case stopped =>
    rintro e rfl he
    exact (warns_of_stopped hlisted he).2
  case raised =>
    rintro inObject rfl
    exact (ends_of_tooDeep hlisted).2
  case harmless =>
    rw [← hlisted.not_mappingsTooDeep_iff]
    constructor
    · rintro ⟨ms, hms⟩ hdeep
      obtain ⟨inObject, hends⟩ := ends_fetchMappings_error hdeep
      rw [hends.2] at hms
      cases hms
    · intro hdeep
      obtain ⟨ws, hwarns, -⟩ := warns_fetchMappings hdeep
      exact ⟨_, hwarns.2.1⟩

/-- The text of lists, each within the one before. -/
def nestedLists (n : Nat) : String := String.ofList (List.replicate n '[' ++ List.replicate n ']')

theorem read_nestedLists {depth n : Nat} (h : depth < n) :
    Json.read (nestedLists n).toList depth = .error (.tooDeep false) := by
  obtain ⟨k, rfl⟩ := Nat.exists_eq_add_of_lt h
  unfold nestedLists
  rw [String.toList_ofList, Nat.add_right_comm, ← List.replicate_append_replicate,
    List.append_assoc]
  exact Json.read_brackets depth _

/-- A successful answer whose body is nested too deep. -/
theorem Reply.value_of_read {depth : Nat} {url body : String} {inObject : Bool}
    (h : Json.read body.toList depth = .error (.tooDeep inObject)) :
    (Reply.answer { status := 200, reason := "", body }).value depth url =
      .error (.fault (.tooDeep inObject)) := by
  show Answer.value _ depth = _
  unfold Answer.value
  rw [h]

/-- A server that answers with a thousand lists, each within the one before. -/
def nestedSession : Session :=
  .start "https://pb.example.com" (.int 30)
    [.answer { status := 200, reason := "", body := nestedLists 1000 }]

/-- They are too many, and the fault of that is passed on. -/
theorem not_complete_nested :
    ((fetchMappings mappingCollection).run nestedSession).2.outcome =
      .error (.fault (.tooDeep false)) := by
  have hread : Json.read (nestedLists 1000).toList usualDepth = .error (.tooDeep false) :=
    read_nestedLists (by decide)
  have hpage : nestedSession.pageAt Mapping.ofJson (recordsPath mappingCollection) 1 0 =
      .error (.fault (.tooDeep false)) := takePage_error (Reply.value_of_read hread)
  exact (ends_of_tooDeep (.failed hpage)).2

/-! ## What becomes of fetched mappings -/

/-- Fetched mappings come with a warning and are none, or the listing of the records succeeds and
each of them declares a mapping without blank names. -/
theorem fetchMappings_eq (h : ¬ s.MappingsTooDeep collection) :
    ∃ s' ms ws, (fetchMappings collection).Warns s s' ms ws ∧
      ((ms = [] ∧ ws.length = 1) ∨
        (ws = [] ∧ ∃ records, list .ok (recordsPath collection) s = (s', .ok records) ∧
          List.Forall₂ (fun r m => Mapping.ofJson r = .ok m ∧ m.Filled) records ms)) := by
  obtain ⟨n, listing, hlisted, hlist⟩ := list_spec Mapping.ofJson (recordsPath collection) s
  cases listing with
  | error e =>
    exact ⟨_, [], _, warns_of_stopped hlisted (hlisted.not_isTooDeep h), Or.inl ⟨rfl, rfl⟩⟩
  | ok ms =>
    obtain ⟨records, hrecords, hms⟩ := hlisted.records
    refine ⟨_, ms, _, warns_of_complete hlisted, Or.inr ⟨rfl, records, hrecords.list_eq, ?_⟩⟩
    exact hms.imp fun r m hm => ⟨hm, Mapping.filled_of_ofJson hm⟩

/-- **When fetched mappings are harmless.** The fault of an answer that is nested too deep is passed
on. Otherwise fetching goes through whatever the server answers, and the mappings that it gives have
no blank names. Resolving them ends in nothing worse than a problem about relations just if no walk
meets a mapping with a name that is no text; it does if all names are texts. -/
theorem fetchMappings_harmless_iff (collection : String) (s : Session) :
    (s.MappingsTooDeep collection → ∃ s' inObject,
      (fetchMappings collection).Ends s s' (.error (.fault (.tooDeep inObject)))) ∧
    (¬ s.MappingsTooDeep collection → ∃ s' ms ws, (fetchMappings collection).Warns s s' ms ws ∧
      ((ms = [] ∧ ws.length = 1) ∨
        (ws = [] ∧ ∃ records, list .ok (recordsPath collection) s = (s', .ok records) ∧
          List.Forall₂ (fun r m => Mapping.ofJson r = .ok m ∧ m.Filled) records ms)) ∧
      (Resolver.Harmless ms ↔ Resolver.Readable ms) ∧
      ((∀ m ∈ ms, m.Textual) → Resolver.Harmless ms)) := by
  constructor
  · exact fun hdeep => ⟨_, ends_fetchMappings_error hdeep⟩
  · intro hshallow
    obtain ⟨s', ms, ws, hwarns, hms⟩ := fetchMappings_eq hshallow
    exact ⟨s', ms, ws, hwarns, hms, Resolver.harmless_iff, Resolver.harmless_of_textual⟩

/-- A server with one record of a mapping, whose field is a number. -/
def numeralSession : Session :=
  .start "https://pb.example.com" (.int 30)
    [.answer { status := 200, reason := "", body :=
      "\x7b\"items\": [\x7b\"source_collection\": \"posts\", \"source_field\": 5, " ++
        "\"target_collection\": \"posts\"\x7d]\x7d" }]

/-- The number is taken for the name of a field, and no resolver can make a member of it. -/
theorem not_harmless_numeral : ∃ s' ms,
    (fetchMappings mappingCollection).Warns numeralSession s' ms [] ∧
      (∃ m ∈ ms, m.field.same (.int 5) = true) ∧ ¬ Resolver.Harmless ms := by
  have hfetched : ((((fetchMappings mappingCollection).run numeralSession).2.outcome.toOption.getD
      []).head?.any fun m => m.source.same (.text "posts") && m.field.same (.int 5)) = true := by
    decide +kernel
  have hshallow : ¬ numeralSession.MappingsTooDeep mappingCollection := by
    intro hdeep
    obtain ⟨inObject, hends⟩ := ends_fetchMappings_error hdeep
    rw [hends.2] at hfetched
    cases hfetched
  obtain ⟨s', ms, ws, hwarns, hms⟩ := fetchMappings_eq hshallow
  rw [hwarns.2.1] at hfetched
  obtain ⟨m, hm, htest⟩ := (Option.any_eq_true _ _).mp hfetched
  rw [Bool.and_eq_true, Json.same_text_iff] at htest
  obtain ⟨hsource, hfield⟩ := htest
  obtain ⟨after, rfl⟩ : ∃ after, ms = m :: after := List.head?_eq_some_iff.mp hm
  rcases hms with ⟨hnil, -⟩ | ⟨rfl, -⟩
  · cases hnil
  refine ⟨s', m :: after, hwarns, ⟨m, List.mem_cons_self, hfield⟩, fun hharmless => ?_⟩
  have hwalk := (Resolver.harmless_iff.mp hharmless).walks "posts" [] m
    (after.filter (·.source.same (.text "posts")))
    (List.filter_cons_of_pos (by rw [hsource]; rfl)) Resolver.passable_nil
  rcases hwalk with htextual | ⟨n, hn, -⟩
  · obtain ⟨t, ht⟩ := htextual.field
    rw [ht] at hfield
    cases hfield
  · cases hn

end Server

end SchemaModels
