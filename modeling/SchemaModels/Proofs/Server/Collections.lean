import SchemaModels.Proofs.Server.Listing
import SchemaModels.Server.Fetch

/-!
# Fetched collections

Fetching collections is meant to fail with problems about the schema only. It does for requests that
fail, for collections and fields without names, and for select fields without values. It passes on
the faults of values that have not the shape for what is done with them, though: a page that is
none, a collection or field that is no object, options that are no object, or a number of related
records that is no number; and the fault of an answer that is nested too deep to be read.
`Collection.Readable` says of a collection that there is no such value in it as far as it is looked
at (`Collection.raises_ofJson_iff`), and `fetchCollections_told_iff` of a whole fetch.
-/

namespace SchemaModels

open Logged (Raises raises_bind_iff raises_ofChecked_bind_iff raises_mapM_iff)

/-- The value under a key; null if there is none. -/
def Json.under (key : String) (entries : List (String × Json)) : Json :=
  (entries.lookup key).getD .null

variable {entries : List (String × Json)} {key : String} {collection name rawType raw v : Json}

theorem Json.entry_object : Json.entry (.object entries) key = .ok (under key entries) := rfl

theorem Json.lookup_object : Json.entry? (.object entries) key = .ok (entries.lookup key) := rfl

/-! ## Fields -/

namespace Field

/-- **An option of a field**: it is beside the other entries, or else in the object under `options`,
which has no entries if there is a blank value in its place. -/
def HasOption (entries : List (String × Json)) (key : String) (v : Json) : Prop :=
  match entries.lookup key with
  | some w => v = w
  | none => ∃ options, (Json.under "options" entries).orElse (.object []) = .object options ∧
      v = Json.under key options

theorem option_eq_ok_iff : option (.object entries) key = .ok v ↔ HasOption entries key v := by
  unfold option HasOption
  rw [Json.lookup_object]
  cases entries.lookup key with
  | some w =>
    show (.ok w : Except Fault Json) = .ok v ↔ v = w
    rw [Except.ok.injEq, eq_comm]
  | none =>
    show ((Json.under "options" entries).orElse (.object [])).entry key = .ok v ↔ _
    cases (Json.under "options" entries).orElse (.object []) with
    | object options => simp [Json.entry_object, eq_comm]
    | _ => simp [Json.entry, Json.entry?]

/-- What a field of a kind has, so that what it carries can be read. -/
def Suits (entries : List (String × Json)) : FieldKind → Prop
  | .select => ∃ v, HasOption entries "values" v ∧ (v.isBlank = true ∨ v.HasMembers)
  | .relation => (∃ v, HasOption entries "maxSelect" v ∧ (v = .null ∨ ∃ n, v.toInteger = .ok n)) ∧
      ∃ v, HasOption entries "collectionId" v
  | _ => True

/-- **A field that can be read** as far as it is looked at: an object without a name, or one that
suits its kind. -/
def Readable : Json → Prop
  | .object entries => (Json.under "name" entries).isBlank = true ∨
      Suits entries (.ofJson (Json.under "type" entries))
  | _ => False

theorem exists_option_iff {p : Json → Prop} :
    (∃ v, option (.object entries) key = .ok v ∧ p v) ↔ ∃ v, HasOption entries key v ∧ p v :=
  exists_congr fun _ => and_congr_left' option_eq_ok_iff

/-- The values of a select field are given, or refused for being none, just if there is something to
go through. -/
theorem failsOnly_readValues_iff :
    FailsOnly (Failure.IsOf .introspection) (readValues (.object entries) collection name) ↔
      Suits entries .select := by
  have hvalues : ∀ v : Json, FailsOnly (Failure.IsOf .introspection)
      (if v.isBlank then .error (.problem (.valuelessSelect collection name))
        else (·.map Json.display) <$> Outcome.ofFault v.members) ↔
      v.isBlank = true ∨ v.HasMembers := by
    intro v
    split
    · rename_i hblank
      exact iff_of_true (failsOnly_error_iff.mpr ⟨_, rfl, rfl⟩) (Or.inl hblank)
    · rename_i hblank
      rw [failsOnly_map_iff, failsOnly_ofFault_iff (Failure.not_isOf_fault _),
        Json.exists_members_iff, or_iff_right hblank]
  unfold readValues
  rw [failsOnly_ofFault_bind_iff (Failure.not_isOf_fault _)]
  exact (exists_congr fun v => and_congr_right' (hvalues v)).trans exists_option_iff

/-- The extra part of a relation field is given just if the number of records that it points to is
left open or is a number. -/
theorem exists_readRelation_iff :
    (∃ extra, readRelation (.object entries) = .ok extra) ↔ Suits entries .relation := by
  -- The collection is looked up after the number, on either way to it.
  have hid : ∀ count : Option Int, (∃ extra, (do
      .ok (.relation count (← option (.object entries) "collectionId")) : Except Fault FieldExtra) =
        .ok extra) ↔ ∃ v, HasOption entries "collectionId" v := by
    intro count
    rw [exists_bind_eq_ok_iff]
    simp [option_eq_ok_iff]
  unfold readRelation Suits
  simp only [exists_bind_eq_ok_iff, option_eq_ok_iff]
  rw [← exists_and_right]
  refine exists_congr fun v => ?_
  rw [and_assoc]
  refine and_congr_right' ?_
  split
  · exact (hid none).trans (by simp)
  · rename_i hnull
    rw [exists_bind_eq_ok_iff, or_iff_right hnull]
    simp only [hid, except_map_eq_ok_iff, exists_and_right]
    exact and_congr_left' (by simp)

/-- What a field carries can be read just if the field suits its kind. -/
theorem raises_readExtra_iff (kind : FieldKind) :
    Raises (Failure.IsOf .introspection)
      (readExtra (.object entries) collection name rawType kind) ↔ Suits entries kind := by
  cases kind with
  | select => exact failsOnly_map_iff.trans failsOnly_readValues_iff
  | relation =>
    exact (failsOnly_ofFault_iff (Failure.not_isOf_fault _)).trans exists_readRelation_iff
  | unknown => exact iff_of_true (Logged.raises_of_ok rfl) trivial
  | _ => exact iff_of_true (Logged.raises_of_ok rfl) trivial

/-- **Reading a field** fails with problems about the schema only just if it can be read. -/
theorem raises_ofJson_iff :
    Raises (Failure.IsOf .introspection) (ofJson raw collection) ↔ Readable raw := by
  have hfault := Failure.not_isOf_fault .introspection
  unfold ofJson
  rw [raises_ofChecked_bind_iff hfault]
  cases raw with
  | object entries =>
    simp only [Json.entry_object, Except.ok.injEq, exists_eq_left', Readable]
    cases hblank : (Json.under "name" entries).isBlank with
    | true => exact iff_of_true (Logged.raises_refuse ⟨_, rfl, rfl⟩) (Or.inl rfl)
    | false =>
      simp only [Bool.false_eq_true, if_false, false_or, Logged.ofChecked_ok, pure_bind,
        raises_bind_iff, raises_readExtra_iff]
      exact and_iff_left fun _ _ => Logged.raises_pure _
  | _ => exact iff_of_false (by simp [Json.entry, Json.entry?]) not_false

end Field

/-! ## Collections -/

namespace Collection

/-- What the fields of a collection are under: the newer key, or the older one if there is nothing
under the newer. -/
def fieldsValue (entries : List (String × Json)) : Json :=
  match Json.under "fields" entries with
  | .null => (Json.under "schema" entries).orElse (.list [])
  | v => v

theorem rawFields_object : rawFields (.object entries) = (fieldsValue entries).members := by
  unfold rawFields fieldsValue
  rw [Json.entry_object]
  show (match Json.under "fields" entries with
    | .null => ((Json.under "schema" entries).orElse (.list [])).members
    | v => v.members) = _
  split <;> simp_all

/-- **A collection that can be read** as far as it is looked at: an object without a name, or one
with fields to go through, each of which can be read if those before it are accepted. -/
def Readable : Json → Prop
  | .object entries => (Json.under "name" entries).isBlank = true ∨
      ∃ fields, (fieldsValue entries).members = .ok fields ∧
        ∀ f, Reached (fun f => (Field.ofJson f (Json.under "name" entries)).outcome) fields f →
          Field.Readable f
  | _ => False

/-- **Reading a collection** fails with problems about the schema only just if it can be read. -/
theorem raises_ofJson_iff : Raises (Failure.IsOf .introspection) (ofJson raw) ↔ Readable raw := by
  have hfault := Failure.not_isOf_fault .introspection
  unfold ofJson
  rw [raises_ofChecked_bind_iff hfault]
  cases raw with
  | object entries =>
    simp only [Json.entry_object, Json.lookup_object, Except.ok.injEq, exists_eq_left',
      Logged.ofChecked_ok, pure_bind, Readable]
    cases hblank : (Json.under "name" entries).isBlank with
    | true => exact iff_of_true (Logged.raises_refuse ⟨_, rfl, rfl⟩) (Or.inl rfl)
    | false =>
      simp only [Bool.false_eq_true, if_false, false_or, rawFields_object,
        raises_ofChecked_bind_iff hfault, raises_bind_iff, raises_mapM_iff, Field.raises_ofJson_iff]
      refine exists_congr fun fields => and_congr_right' ?_
      exact and_iff_left fun _ _ => Logged.raises_pure _
  | _ => exact iff_of_false (by simp [Json.entry, Json.entry?]) not_false

end Collection

/-! ## Fetching -/

namespace Server

variable {s s' : Session} {n : Nat} {listing : Except Interruption (List Json)}

/-- What a listing of collections comes to. -/
def collectionsOf : Except Interruption (List Json) → Outcome (List Collection)
  | .error e =>
    match e.unforeseen? collectionFaults with
    | some fault => .error (.fault fault)
    | none => .error (.problem (.collectionsNotFetched e.message))
  | .ok items => (items.mapM (Collection.ofJson ·)).outcome

/-- What is done about a listing of collections. -/
def concludeCollections : Except Interruption (List Json) → Task Session (List Collection)
  | .error e =>
    match e.unforeseen? collectionFaults with
    | some fault => Task.lift (Logged.ofChecked (.error fault))
    | none => Task.refuse (.collectionsNotFetched e.message)
  | .ok items => do
    let collections ← Task.lift (items.mapM (Collection.ofJson ·))
    Task.note .info s!"Found {collections.length} collections"
    pure collections

theorem ends_concludeCollections (listing : Except Interruption (List Json)) (s : Session) :
    (concludeCollections listing).Ends s s (collectionsOf listing) := by
  cases listing with
  | error e =>
    simp only [concludeCollections, collectionsOf]
    cases e.unforeseen? collectionFaults <;> exact ⟨rfl, rfl⟩
  | ok items =>
    simp only [concludeCollections, collectionsOf]
    cases hitems : (items.mapM (Collection.ofJson ·)).outcome with
    | error e => exact Task.Ends.bind_error (Task.ends_lift_iff.mpr ⟨rfl, hitems⟩)
    | ok collections =>
      exact Task.Ends.bind (Task.ends_lift_iff.mpr ⟨rfl, hitems⟩)
        (Task.Ends.bind ⟨rfl, rfl⟩ ⟨rfl, rfl⟩)

/-- **How fetching collections ends.** They are listed; then nothing is sent anymore. -/
theorem ends_fetchCollections (s : Session) : fetchCollections.Ends s
    (list .ok collectionsPath s).1 (collectionsOf (list .ok collectionsPath s).2) := by
  have hstages : fetchCollections =
      (Task.note .info "Fetching collections from PocketBase..." >>= fun _ => Task.get >>= fun s =>
        Task.set (list .ok collectionsPath s).1 >>= fun _ =>
          concludeCollections (list .ok collectionsPath s).2) := rfl
  rw [hstages]
  exact Task.Ends.bind ⟨rfl, rfl⟩ (Task.Ends.bind ⟨rfl, rfl⟩
    (Task.Ends.bind ⟨rfl, rfl⟩ (ends_concludeCollections _ _)))

/-- Among the faults of a value that is no page there is none that is told as a problem. -/
theorem disjoint_shapeFamilies : ∀ family ∈ Fault.shapeFamilies, family ∉ collectionFaults := by
  decide

theorem depth_not_mem_collectionFaults : Fault.Family.depth ∉ collectionFaults := by decide

/-- **What is told of a listing** is a problem about the schema, just if no fault ended it and every
collection that is come to can be read. -/
theorem failsOnly_collectionsOf_iff (h : Listed .ok collectionsPath 1 s n listing) :
    FailsOnly (Failure.IsOf .introspection) (collectionsOf listing) ↔
      FailsOnly Interruption.IsFailed listing ∧ ∀ items, listing = .ok items →
        ∀ raw, Reached (fun raw => (Collection.ofJson raw).outcome) items raw →
          Collection.Readable raw := by
  cases listing with
  | ok items =>
    simp only [collectionsOf, Except.ok.injEq, forall_eq', failsOnly_ok, true_and,
      ← Collection.raises_ofJson_iff]
    exact raises_mapM_iff
  | error e =>
    simp only [collectionsOf, reduceCtorEq, false_implies, implies_true, and_true,
      failsOnly_error_iff]
    cases e with
    | failed reason => exact iff_of_true (failsOnly_error_iff.mpr ⟨_, rfl, rfl⟩) ⟨reason, rfl⟩
    | fault cause =>
      -- A page that is none, or nested too deep, is told only if its fault were one that is
      -- foreseen.
      have hfamily : cause.family ∉ collectionFaults := by
        rcases h.within_or (List.Subset.refl _) (by decide) (fun _ => failsOnly_ok _) with
          hshape | ⟨inObject, hdeep⟩
        · exact disjoint_shapeFamilies _ (hshape cause rfl)
        · cases hdeep
          exact depth_not_mem_collectionFaults
      have hunforeseen : (Interruption.fault cause).unforeseen? collectionFaults = some cause :=
        if_neg hfamily
      simp only [hunforeseen, failsOnly_error_iff]
      exact iff_of_false (Failure.not_isOf_fault _ _) fun ⟨_, hfailed⟩ => by cases hfailed

/-- **What fetching collections does**, if listing them gets as far as the `n`-th page. -/
structure CollectionsFetched (s s' : Session) (n : Nat) (listing : Except Interruption (List Json))
    (o : Outcome (List Collection)) : Prop where
  listed : Listed .ok collectionsPath 1 s n listing
  session : s' = s.paged collectionsPath 1 n
  /-- All collections are given, in the order of the server, or none is. -/
  given : ∀ cs, o = .ok cs ↔ ∃ items, listing = .ok items ∧
    List.Forall₂ (fun raw c => (Collection.ofJson raw).outcome = .ok c) items cs
  /-- A request that fails is told with its reason. -/
  failed : ∀ reason, listing = .error (.failed reason) →
    o = .error (.problem (.collectionsNotFetched reason))
  /-- All that is not told as a problem about the schema is the fault of an answer that is nested
  too deep, of a value that is no page, or of a collection that cannot be read. -/
  told : FailsOnly (Failure.IsOf .introspection) o ↔
    (∀ k < n, (s.replyAt k).Sound s.depth (s.url collectionsPath)) ∧
      ∀ items, listing = .ok items →
        ∀ raw, Reached (fun raw => (Collection.ofJson raw).outcome) items raw →
          Collection.Readable raw

/-- **When fetching collections fails as it is meant to.** Whatever the network replies: just if no
answer that it gets is nested too deep, every value in place of a page is one, and every collection
that it comes to can be read. -/
theorem fetchCollections_told_iff (s : Session) : ∃ n listing,
    CollectionsFetched s (fetchCollections.run s).1 n listing
      (fetchCollections.run s).2.outcome := by
  obtain ⟨n, listing, hlisted, hlist⟩ := list_spec .ok collectionsPath s
  have hends := ends_fetchCollections s
  rw [hlist] at hends
  refine ⟨n, listing, hlisted, hends.1, ?given, ?failed, ?told⟩
  all_goals rw [hends.2]
  case given =>
    intro cs
    cases listing with
    | ok items => simp [collectionsOf, Logged.outcome_mapM_eq_ok_iff]
    | error e =>
      simp only [collectionsOf]
      split <;> simp
  case failed =>
    rintro reason rfl
    rfl
  case told => rw [failsOnly_collectionsOf_iff hlisted, hlisted.isFailed_iff]

/-- A server that answers with a list in place of a page. -/
def listSession : Session :=
  .start "https://pb.example.com" (.int 30) [.answer { status := 200, reason := "", body := "[]" }]

/-- The list is asked for its items, and the fault of that is passed on. -/
theorem not_told_list :
    ¬ FailsOnly (Failure.IsOf .introspection) (fetchCollections.run listSession).2.outcome := by
  have hfault : (fetchCollections.run listSession).2.outcome =
      .error (.fault (.noMember (.list []) "get")) := rfl
  rw [hfault, failsOnly_error_iff]
  exact Failure.not_isOf_fault _ _

end Server

end SchemaModels
