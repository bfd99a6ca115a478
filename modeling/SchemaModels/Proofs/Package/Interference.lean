import SchemaModels.Proofs.Package.Alike

/-!
# Internal collections and foreign mappings do not interfere

A mapping is foreign to a request if its source is no collection that gets a module. Two requests
`MatchInPublic` if they differ in internal collections and in foreign mappings alone. Such requests
have the same modules, and their resolvers have the same mappings for each of them
(`mappingsFor_of_matchInPublic`); what a resolver knows beyond that is told in the reason for a
target without a model and nowhere else (`reasons`). `generate_matchInPublic`: the runs leave the
same disk, and succeed with the same files or fail together.
-/

namespace SchemaModels

/-! ## Checks on part of a list -/

variable {ε α : Type}

theorem except_filterAuxM_filter {p : α → Except ε Bool} {q : α → Bool} {xs : List α}
    (h : ∀ x ∈ xs, q x = false → p x = .ok false) (acc : List α) :
    (xs.filter q).filterAuxM p acc = xs.filterAuxM p acc := by
  induction xs generalizing acc with
  | nil => rfl
  | cons x xs ih =>
    obtain ⟨hx, hxs⟩ := List.forall_mem_cons.mp h
    rw [List.filterAuxM]
    cases hq : q x with
    | true =>
      rw [List.filter_cons_of_pos hq, List.filterAuxM]
      exact congrArg (p x >>= ·) (funext fun b => ih hxs _)
    | false =>
      rw [List.filter_cons_of_neg (by simp [hq]), hx hq]
      exact ih hxs acc

/-- A checked filter does not see what it would drop anyway. -/
theorem except_filterM_filter {p : α → Except ε Bool} {q : α → Bool} {xs : List α}
    (h : ∀ x ∈ xs, q x = false → p x = .ok false) : (xs.filter q).filterM p = xs.filterM p := by
  unfold List.filterM
  rw [except_filterAuxM_filter h]

/-- Checks do not see what passes them anyway. -/
theorem except_forM_filter {f : α → Except ε Unit} {q : α → Bool} {xs : List α}
    (h : ∀ x ∈ xs, q x = false → f x = .ok ()) : (xs.filter q).forM f = xs.forM f := by
  induction xs with
  | nil => rfl
  | cons x xs ih =>
    obtain ⟨hx, hxs⟩ := List.forall_mem_cons.mp h
    cases hq : q x with
    | true =>
      rw [List.filter_cons_of_pos hq]
      exact congrArg (f x >>= ·) (funext fun _ => ih hxs)
    | false =>
      rw [List.filter_cons_of_neg (by simp [hq]), ih hxs, List.forM, hx hq]
      rfl

namespace Package

open Files (Disk)

variable {a b request : Request} {cs : List Collection} {c : Collection} {m : Mapping}

/-! ## What is internal and what is foreign -/

/-- The collection is internal, and gets no module. -/
def Request.isInternal (request : Request) (c : Collection) : Bool :=
  (Package.isInternal request.internalPrefix c.name).toOption.getD false

/-- The source of the mapping is a value to look up, but no collection that gets a module. -/
def Request.isForeign (request : Request) (m : Mapping) : Bool :=
  (Resolver.lookupKey m.source).isOk &&
    !(request.collections.filter (!request.isInternal ·)).any fun c => m.source.same c.name

/-- **Requests that differ in internal collections and foreign mappings alone.** -/
structure MatchInPublic (a b : Request) : Prop where
  directory : a.directory = b.directory
  internalPrefix : a.internalPrefix = b.internalPrefix
  strict : a.strict = b.strict
  collections : a.collections.filter (!a.isInternal ·) = b.collections.filter (!b.isInternal ·)
  mappings : a.mappings.filter (!a.isForeign ·) = b.mappings.filter (!b.isForeign ·)

/-! ## Modules -/

/-- Looking for the collections with modules, a run does not see the internal ones. -/
theorem emitted_eq_filterM (request : Request) :
    emitted request = (request.collections.filter (!request.isInternal ·)).filterM fun c =>
      (!·) <$> Package.isInternal request.internalPrefix c.name := by
  refine (except_filterM_filter fun c _ hc => ?_).symm
  unfold Request.isInternal at hc
  cases hi : Package.isInternal request.internalPrefix c.name with
  | error f =>
    rw [hi] at hc
    cases hc
  | ok internal =>
    rw [hi] at hc
    cases internal with
    | false => cases hc
    | true => rfl

theorem emitted_of_matchInPublic (h : MatchInPublic a b) : emitted a = emitted b := by
  rw [emitted_eq_filterM a, emitted_eq_filterM b, h.collections, h.internalPrefix]

/-- A collection with a module is not internal. -/
theorem isInternal_of_emitted (hcs : emitted request = .ok cs) (hc : c ∈ cs) :
    c ∈ request.collections.filter (!request.isInternal ·) := by
  obtain ⟨-, hkept⟩ := except_filterM_eq_ok_iff.mp hcs
  rw [hkept, List.mem_filter] at hc
  refine List.mem_filter.mpr ⟨hc.1, ?_⟩
  have hpublic := hc.2
  unfold Request.isInternal
  cases hi : Package.isInternal request.internalPrefix c.name with
  | error f => rfl
  | ok internal =>
    rw [hi] at hpublic
    exact hpublic

/-! ## Mappings -/

/-- A mapping of a collection with a module is not foreign. -/
theorem isForeign_of_same (hcs : emitted request = .ok cs) (hc : c ∈ cs)
    (hm : m.source.same c.name = true) : request.isForeign m = false := by
  have hany : (request.collections.filter (!request.isInternal ·)).any
      (fun c => m.source.same c.name) = true :=
    List.any_eq_true.mpr ⟨c, isInternal_of_emitted hcs hc, hm⟩
  unfold Request.isForeign
  rw [hany]
  simp

/-- The mappings of such a collection are not foreign. -/
theorem filter_same_eq (hcs : emitted request = .ok cs) (hc : c ∈ cs) :
    request.mappings.filter (·.source.same c.name) =
      (request.mappings.filter (!request.isForeign ·)).filter (·.source.same c.name) := by
  rw [List.filter_filter]
  refine List.filter_congr fun m _ => ?_
  cases hm : m.source.same c.name with
  | false => rfl
  | true => rw [isForeign_of_same hcs hc hm]; rfl

/-- Checking the sources of mappings, a resolver does not see foreign ones. -/
theorem forM_mappings_eq (request : Request) :
    (request.mappings.forM fun m => discard (Resolver.lookupKey m.source)) =
      (request.mappings.filter (!request.isForeign ·)).forM fun m =>
        discard (Resolver.lookupKey m.source) := by
  refine (except_forM_filter fun m _ hm => ?_).symm
  unfold Request.isForeign at hm
  cases hkey : Resolver.lookupKey m.source with
  | error f =>
    rw [hkey] at hm
    cases hm
  | ok key => rfl

/-! ## What may differ -/

/-- **The reason for a target without a model** may differ, in a warning and in the refusal of a
strict run: the target is unknown, or has no model. -/
def reasons : Tolerance where
  warning w w' := w = w' ∨ ∃ m known known',
    w = (Problem.unresolvedTarget m known).report.message ++ "; emitting the reference anyway" ∧
      w' = (Problem.unresolvedTarget m known').report.message ++ "; emitting the reference anyway"
  failure e e' := e = e' ∨ ∃ m known known',
    e = .problem (.unresolvedTarget m known) ∧ e' = .problem (.unresolvedTarget m known')
  warning_refl _ := Or.inl rfl
  failure_refl _ := Or.inl rfl

theorem exchangeable_of_known {r s : Resolver} (hstrict : r.strict = s.strict)
    (hemitted : r.emitted = s.emitted) : r.Exchangeable reasons s where
  strict := hstrict
  emitted _ := by rw [hemitted]
  warning m := Or.inr ⟨m, _, _, rfl, rfl⟩
  failure m := Or.inr ⟨m, _, _, rfl, rfl⟩

theorem alike_newResolver (h : MatchInPublic a b) (hcs : emitted a = .ok cs) :
    Outcome.Alike reasons (Resolver.AgreeOn reasons cs) (Outcome.ofFault (newResolver a cs))
      (Outcome.ofFault (newResolver b cs)) := by
  have hcs' : emitted b = .ok cs := emitted_of_matchInPublic h ▸ hcs
  have hchecks := forM_mappings_eq a
  rw [h.mappings, ← forM_mappings_eq b] at hchecks
  unfold newResolver Resolver.make
  rw [hchecks]
  cases b.mappings.forM fun m => discard (Resolver.lookupKey m.source) with
  | error f => exact Or.inl rfl
  | ok _ =>
    refine ⟨exchangeable_of_known h.strict rfl, fun c hc => ?_⟩
    unfold Resolver.mappingsFor
    rw [filter_same_eq hcs hc, filter_same_eq hcs' hc, h.mappings]

theorem alike_of_matchInPublic (h : MatchInPublic a b) : a.Alike reasons b where
  directory := h.directory
  emitted := emitted_of_matchInPublic h
  resolvers _ hcs := alike_newResolver h hcs

/-! ## Runs -/

/-- **Internal collections and foreign mappings do not interfere.** On every disk, runs of two
requests that differ in these alone leave the same disk, and one succeeds iff the other does; then
they have written the same files, and report the same but for the reasons of unresolved targets. -/
theorem generate_matchInPublic (h : MatchInPublic a b) (d : Disk) :
    ((generate a).run d).1 = ((generate b).run d).1 ∧
      ((∃ d' report, (generate a).Ends d d' (.ok report)) ↔
        ∃ d' report, (generate b).Ends d d' (.ok report)) ∧
      (∀ d' d'' x y, (generate a).Ends d d' (.ok x) → (generate b).Ends d d'' (.ok y) →
        d' = d'' ∧ x.results = y.results ∧ x.aggregatorPath = y.aggregatorPath ∧
          reasons.Warnings x.warnings y.warnings) ∧
      reasons.Warnings (Log.warnings ((generate a).run d).2.entries)
        (Log.warnings ((generate b).run d).2.entries) := by
  have halike := alike_generate (alike_of_matchInPublic h)
  obtain ⟨hdisk, hlogged⟩ := halike d
  refine ⟨hdisk, halike.ends_ok_iff d, fun d' d'' x y hx hy => ?_, hlogged.warnings⟩
  obtain ⟨hd, hreport⟩ := halike.of_ends_ok hx hy
  exact ⟨hd, hreport.results, hreport.aggregatorPath, hreport.warnings⟩

/-- Posts with their authors, of whom the run knows nothing. -/
def authorsRun : Request where
  collections := [{ id := "posts", name := .text "posts", fields :=
    [{ name := .text "author", kind := .relation, extra := .relation (some 1) (.text "users") }] }]
  mappings := [⟨.text "posts", .text "author", true, .text "_users"⟩]
  directory := ["out"]

/-- The same posts, beside an internal collection of their authors and a mapping from it. -/
def internalAuthorsRun : Request where
  collections := { id := "users", name := .text "_users" } :: authorsRun.collections
  mappings := ⟨.text "_users", .text "friend", true, .text "posts"⟩ :: authorsRun.mappings
  directory := ["out"]

theorem generate_matchInPublic_authors : MatchInPublic authorsRun internalAuthorsRun ∧
    ∃ x y d', (generate authorsRun).Ends privateDisk d' (.ok x) ∧
      (generate internalAuthorsRun).Ends privateDisk d' (.ok y) ∧
        x.results = y.results ∧ x.warnings ≠ y.warnings ∧
          reasons.Warnings x.warnings y.warnings := by
  have hmatch : MatchInPublic authorsRun internalAuthorsRun := ⟨rfl, rfl, rfl, by rfl, by rfl⟩
  have hruns : (((generate authorsRun).run privateDisk).2.outcome.toOption.isSome = true ∧
      ((generate internalAuthorsRun).run privateDisk).2.outcome.toOption.isSome = true) ∧
      ((generate authorsRun).run privateDisk).2.outcome.toOption.map (·.warnings) ≠
        ((generate internalAuthorsRun).run privateDisk).2.outcome.toOption.map (·.warnings) := by
    decide +kernel
  obtain ⟨⟨hfirst, hsecond⟩, hdiffer⟩ := hruns
  obtain ⟨x, hx⟩ := Task.exists_ends_ok hfirst
  obtain ⟨y, hy⟩ := Task.exists_ends_ok hsecond
  rw [hx.2, hy.2] at hdiffer
  obtain ⟨-, -, hsame, -⟩ := generate_matchInPublic hmatch privateDisk
  obtain ⟨hd, hresults, -, hwarnings⟩ := hsame _ _ x y hx hy
  exact ⟨hmatch, x, y, _, hx, ⟨hd.symm, hy.2⟩, hresults,
    fun h => hdiffer (congrArg some h), hwarnings⟩

end Package

end SchemaModels
