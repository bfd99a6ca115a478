import SchemaModels.Proofs.Expansion.Walk
import SchemaModels.Proofs.Package.Reordering
import SchemaModels.Proofs.Package.Surface

/-!
# The order of collections and mappings

A run writes the same files and offers the same names in whatever order its collections and mappings
are given. `get?_of_reordered` has this of the files: what a path holds is that of the last file
there, which is the same in every order if it is the only one. `entryOf_perm` has it of the
aggregator, where a collection has the same import wherever it stands. `generate_reordered` puts
both together for two runs. `not_sameFiles_slashes` shows what the condition on paths is for: names
that differ in their slashes lead to one path, and planning does not see that.
-/

namespace SchemaModels

open Files (Path Disk)

namespace Package

variable {a b request : Request} {cs ds : List Collection} {r s : Resolver}

/-! ## Files -/

/-- A file that is alone at its path is found there in every order. -/
theorem lookup_perm {α : Type} {files files' : List (Path × α)} (h : files.Perm files') {p : Path}
    (hone : (files.map (·.1)).count p ≤ 1) : files.lookup p = files'.lookup p := by
  induction h with
  | nil => rfl
  | @cons f files files' _ ih =>
    obtain ⟨q, text⟩ := f
    rw [List.map_cons, List.count_cons] at hone
    rw [FileTree.lookup_cons_eq, FileTree.lookup_cons_eq, ih (by omega)]
  | swap f g files =>
    obtain ⟨q, text⟩ := f
    obtain ⟨q', text'⟩ := g
    simp only [FileTree.lookup_cons_eq]
    by_cases hq : p = q
    · by_cases hq' : p = q'
      · subst hq hq'
        simp at hone
      · rw [if_neg hq', if_neg hq']
    · rw [if_neg hq, if_neg hq]
  | trans h₁ _ ih₁ ih₂ =>
    exact (ih₁ hone).trans (ih₂ ((h₁.map _).count_eq p ▸ hone))

/-- The files of one package are those of the other. -/
theorem files_perm (h : Reordered a b) {drafted others : List Drafted} {geoPoint : ModelModule}
    {x y : Draft} (hx : DraftedFrom a cs r drafted geoPoint x)
    (hy : DraftedFrom b ds s others geoPoint y) (hperm : drafted.Perm others) :
    x.files.Perm y.files := by
  obtain ⟨code, hcode, hfiles⟩ := hx.files
  obtain ⟨code', hcode', hfiles'⟩ := hy.files
  rw [hcode, Except.ok.injEq] at hcode'
  rw [hfiles, hfiles', h.directory, hcode']
  exact (hperm.map _).append_right _

/-- Apart from the aggregator, what is found at a path depends on the files. -/
theorem lookup_order {x : Draft} {p : Path} (hp : p ≠ x.aggregator.1) :
    x.order.reverse.lookup p = (x.files.map fun f => (f.1, f.2.code)).reverse.lookup p := by
  rw [order_eq, List.reverse_append, List.reverse_singleton, List.singleton_append,
    FileTree.lookup_cons_eq, if_neg hp]

/-- **A path that one file at most is written to** holds the same after both runs. -/
theorem get?_of_reordered (h : Reordered a b) {drafted others : List Drafted}
    {geoPoint : ModelModule} {x y : Draft} (hx : DraftedFrom a cs r drafted geoPoint x)
    (hy : DraftedFrom b ds s others geoPoint y) (hperm : drafted.Perm others)
    {d d' d'' : Disk} {u v : RunReport} (hd : (writeDraft a cs x).Ends d d' (.ok u))
    (hd' : (writeDraft b ds y).Ends d d'' (.ok v)) {p : Path}
    (hp : p ≠ aggregatorPath a.directory) (hone : (targets a cs).count p ≤ 1) :
    d'.tree.get? p = d''.tree.get? p := by
  have hfiles := ((files_perm h hx hy hperm).map fun f => (f.1, f.2.code))
  have hpaths := map_fst_order (draft_eq_ok_iff.mpr ⟨r, drafted, geoPoint, hx⟩)
  have hcount : (((x.files.map fun f => (f.1, f.2.code)).reverse).map (·.1)).count p ≤ 1 := by
    rw [List.map_reverse, List.count_reverse]
    refine le_trans (List.Sublist.count_le p ?_) hone
    rw [← hpaths, order_eq, List.map_append]
    exact List.sublist_append_left _ _
  have hlookup := lookup_perm
    ((List.reverse_perm _).trans (hfiles.trans (List.reverse_perm _).symm)) hcount
  rw [get?_of_writeDraft hd, get?_of_writeDraft hd',
    lookup_order (by rw [hx.aggregator]; exact hp),
    lookup_order (by rw [hy.aggregator]; exact h.directory ▸ hp), hlookup]

/-! ## What is offered -/

/-- A class of the package that is not offered from it. -/
def LeftOut (modules : List ModelModule) (name : String) : Prop :=
  (∃ m ∈ modules, name ∈ m.exports) ∧ name ∉ offered (planExports modules).1

theorem exporters_perm {modules others : List ModelModule} (h : modules.Perm others)
    (name : String) : (exporters modules name).Perm (exporters others name) :=
  (h.filter _).map _

/-- What is left out is what several modules define. -/
theorem leftOut_iff {modules : List ModelModule} (h : RunModules r cs modules) {name : String} :
    LeftOut modules name ↔ 1 < (exporters modules name).length := by
  have hoffered := offered_planExports fun m hm => (h.defined hm).1
  have hmem : name ∈ offered (planExports modules).1 ↔
      (∃ m ∈ modules, name ∈ m.exports) ∧ (exporters modules name).length = 1 := by
    rw [hoffered, List.mem_flatMap]
    simp only [List.mem_filter, decide_eq_true_eq]
    exact ⟨fun ⟨m, hm, hn, hone⟩ => ⟨⟨m, hm, hn⟩, hone⟩,
      fun ⟨⟨m, hm, hn⟩, hone⟩ => ⟨m, hm, hn, hone⟩⟩
  have hdefined : (∃ m ∈ modules, name ∈ m.exports) ↔ 0 < (exporters modules name).length := by
    rw [exporters, List.length_map, List.length_filter_pos_iff]
    simp
  rw [LeftOut, hmem, hdefined]
  omega

/-- What is offered from a module, when these are all modules. -/
def entry (modules : List ModelModule) (m : ModelModule) : String × List String :=
  (m.name, m.exports.filter fun n => decide ((exporters modules n).length = 1))

/-- What is offered from the module of a collection. -/
def entryOf (r : Resolver) (modules : List ModelModule) (c : Collection) : String × List String :=
  match (ModelModule.build c (some r)).outcome with
  | .ok (m, _) => entry modules m
  | .error _ => ("", [])

theorem entry_perm {modules others : List ModelModule} (h : modules.Perm others) :
    entry modules = entry others := by
  funext m
  unfold entry
  simp only [(exporters_perm h _).length_eq]

/-- A collection's module is offered in the same way, wherever the others stand. -/
theorem entryOf_perm {modules others : List ModelModule} (h : modules.Perm others)
    (hagree : r.AgreeOn anyFailure cs s) {c : Collection} (hc : c ∈ cs) :
    entryOf r modules c = entryOf s others c := by
  have hbuild := build_eq_ok_iff_of_agreeOn hagree hc
  unfold entryOf
  rw [entry_perm h]
  cases hr : (ModelModule.build c (some r)).outcome with
  | ok built => rw [(hbuild built).mp hr]
  | error e =>
    cases hs : (ModelModule.build c (some s)).outcome with
    | ok built =>
      rw [(hbuild built).mpr hs] at hr
      cases hr
    | error f => rfl

/-- What a run offers, module by module. -/
theorem planExports_entries {modules : List ModelModule} (h : RunModules r cs modules) :
    ∃ point, ModelModule.geoPoint = .ok point ∧
      (planExports modules).1 = cs.map (entryOf r modules) ++ [entry modules point] := by
  obtain ⟨shared, -, -, hplan⟩ := planExports_eq fun m hm => (h.defined hm).1
  obtain ⟨built, point, hbuilt, hpoint, hmodules⟩ := h
  refine ⟨point, hpoint, ?_⟩
  have hentries : cs.map (entryOf r modules) = built.map (entry modules) := by
    clear hmodules hplan
    induction hbuilt with
    | nil => rfl
    | @cons c m cs built hc _ ih =>
      obtain ⟨ws, hbuild⟩ := hc
      rw [List.map_cons, List.map_cons, ih, entryOf, hbuild]
  rw [hplan, hentries]
  conv_lhs => rw [hmodules]
  rw [List.map_append, List.map_singleton, ← hmodules]
  rfl

/-! ## The run -/

/-- **What two runs have in common** if their requests differ in order alone. -/
structure SameButOrder (a b : Request) (cs ds : List Collection) (modules others : List ModelModule)
    (d d' : Disk) : Prop where
  collections : cs.Perm ds
  /-- Apart from the aggregator, a file that shares its path with no other is the same. -/
  files : ∀ p, p ≠ aggregatorPath a.directory → (targets a cs).count p ≤ 1 →
    d.tree.get? p = d'.tree.get? p
  leftOut : ∀ name, LeftOut modules name ↔ LeftOut others name
  /-- Each collection has one import in both aggregators, in the order of the collections. -/
  imports : ∃ (import_ : Collection → String × List String) (last : String × List String),
    (planExports modules).1 = cs.map import_ ++ [last] ∧
      (planExports others).1 = ds.map import_ ++ [last]
  aggregator : d.text? (aggregatorPath a.directory) =
    some (aggregatorText (planExports modules).1)
  aggregator' : d'.text? (aggregatorPath b.directory) =
    some (aggregatorText (planExports others).1)

/-- Both runs succeed, and have done the same but for the order. -/
theorem sameButOrder_of_ends (h : Reordered a b) {d d' d'' : Disk} {x y : RunReport}
    (hx : (generate a).Ends d d' (.ok x)) (hy : (generate b).Ends d d'' (.ok y)) :
    ∃ cs ds modules others, planning a = .ok cs ∧ planning b = .ok ds ∧
      modulesOf a = .ok modules ∧ modulesOf b = .ok others ∧
        SameButOrder a b cs ds modules others d' d'' := by
  obtain ⟨cs, d₁, u, hcs, hremove, hu, hwrite⟩ := generate_stages_iff.mp hx
  obtain ⟨ds, d₂, v, hds, hremove', hv, hwrite'⟩ := generate_stages_iff.mp hy
  obtain ⟨ds, hds', hperm⟩ := h.planning hcs
  rw [hds, Except.ok.injEq] at hds'
  subst hds'
  -- the package of the second run is the one that the first run leads to
  obtain ⟨r, drafted, geoPoint, hfrom⟩ := draft_eq_ok_iff.mp hu
  obtain ⟨s, others, v', hfrom', hdrafted, hagree⟩ :=
    h.drafted hperm hfrom
  have hv' := draft_eq_ok_iff.mpr ⟨s, others, geoPoint, hfrom'⟩
  rw [hv, Except.ok.injEq] at hv'
  subst hv'
  have hremoved : d₁ = d₂ := by
    rw [← hremove.1, ← hremove'.1, h.directory]
  subst hremoved
  have hmodules := runModules_of_drafted hfrom
  have hothers := runModules_of_drafted hfrom'
  have hsame : (drafted.map (·.1.1) ++ [geoPoint]).Perm (others.map (·.1.1) ++ [geoPoint]) :=
    (hdrafted.map _).append_right _
  obtain ⟨htext, -⟩ := text?_aggregator hwrite
  obtain ⟨htext', -⟩ := text?_aggregator hwrite'
  rw [hfrom.aggregator] at htext
  rw [hfrom'.aggregator] at htext'
  refine ⟨cs, ds, _, _, hcs, hds, modulesOf_eq_ok hcs hfrom.resolving hmodules,
    modulesOf_eq_ok hds hfrom'.resolving hothers, hperm, fun p hp hone =>
      get?_of_reordered h hfrom hfrom' hdrafted hwrite hwrite' hp hone, fun name => ?_, ?_, htext,
      htext'⟩
  · rw [leftOut_iff hmodules, leftOut_iff hothers, (exporters_perm hsame name).length_eq]
  · obtain ⟨point, hpoint, hentries⟩ := planExports_entries hmodules
    obtain ⟨point', hpoint', hentries'⟩ := planExports_entries hothers
    rw [hpoint, Except.ok.injEq] at hpoint'
    subst hpoint'
    refine ⟨_, _, hentries, hentries'.trans ?_⟩
    rw [entry_perm hsame, List.append_left_inj]
    exact List.map_congr_left fun c hc =>
      (entryOf_perm hsame hagree (hperm.mem_iff.mpr hc)).symm

/-- Requests for the same collections in the same order are alike. -/
theorem Reordered.alike (h : Reordered a b) (hsame : a.collections = b.collections) :
    a.Alike anyFailure b := by
  have hemitted : Package.emitted a = Package.emitted b := by
    unfold Package.emitted
    rw [hsame, h.internalPrefix]
  refine ⟨h.directory, hemitted, fun cs _ => ?_⟩
  cases hr : Package.newResolver a cs with
  | ok r =>
    obtain ⟨s, hs, hagree⟩ := h.newResolver (List.Perm.refl cs) hr
    rw [hs]
    exact hagree
  | error f =>
    cases hs : Package.newResolver b cs with
    | ok s =>
      obtain ⟨r, hr', -⟩ := h.symm.newResolver (List.Perm.refl cs) hs
      rw [hr'] at hr
      cases hr
    | error g => exact trivial

/-- **The order of collections and mappings does not matter.** On every disk, the runs of two
requests that differ in order alone succeed together. Then they have left the same at every path
that no two files share, apart from the aggregators, which leave out the same names and offer the
others by the same imports. Without slashes in names no two files share a path. If only mappings
have changed places, the whole disk and the report are the same. -/
theorem generate_reordered (h : Reordered a b) (d : Disk) :
    ((∃ d' x, (generate a).Ends d d' (.ok x)) ↔ ∃ d' y, (generate b).Ends d d' (.ok y)) ∧
      ∀ d' d'' x y, (generate a).Ends d d' (.ok x) → (generate b).Ends d d'' (.ok y) →
        (∃ cs ds modules others, planning a = .ok cs ∧ planning b = .ok ds ∧
          modulesOf a = .ok modules ∧ modulesOf b = .ok others ∧
            SameButOrder a b cs ds modules others d' d'') ∧
        (Slashless a → ∀ p, p ≠ aggregatorPath a.directory →
          d'.tree.get? p = d''.tree.get? p) ∧
        (a.collections = b.collections → d' = d'' ∧ x = y) := by
  refine ⟨⟨fun ha => h.succeeds ha, fun hb => h.symm.succeeds hb⟩, fun d' d'' x y hx hy => ?_⟩
  have hsame := sameButOrder_of_ends h hx hy
  refine ⟨hsame, fun hs p hp => ?_, fun hcollections => ?_⟩
  · obtain ⟨cs, ds, modules, others, hcs, -, -, -, hboth⟩ := hsame
    exact hboth.files p hp (List.nodup_iff_count_le_one.mp (targets_nodup hs hcs) p)
  · obtain ⟨hd, hreport⟩ := (alike_generate (h.alike hcollections)).of_ends_ok hx hy
    obtain ⟨results, warnings, path⟩ := x
    obtain ⟨results', warnings', path'⟩ := y
    obtain ⟨hresults, hpath, hwarnings⟩ := hreport
    simp only at hresults hpath hwarnings
    rw [hresults, hpath, warnings_anyFailure hwarnings]
    exact ⟨hd, rfl⟩

/-- The library with its collections and its mappings the other way round. -/
def libraryRunReversed : Request :=
  { libraryRun with
    collections := libraryRun.collections.reverse, mappings := libraryRun.mappings.reverse }

theorem generate_reordered_library : Reordered libraryRun libraryRunReversed ∧
    ∃ d' d'' x y, (generate libraryRun).Ends emptyDisk d' (.ok x) ∧
      (generate libraryRunReversed).Ends emptyDisk d'' (.ok y) ∧
        ∃ cs ds modules others, modulesOf libraryRun = .ok modules ∧
          modulesOf libraryRunReversed = .ok others ∧
            SameButOrder libraryRun libraryRunReversed cs ds modules others d' d'' := by
  have hreordered : Reordered libraryRun libraryRunReversed := by
    refine ⟨rfl, rfl, rfl, (List.reverse_perm _).symm, (List.reverse_perm _).symm, fun source => ?_⟩
    by_cases hauthors : source = .text "authors"
    · subst hauthors
      rfl
    by_cases hbooks : source = .text "books"
    · subst hbooks
      rfl
    have hapart : ∀ name, source ≠ .text name → (Json.text name).same source = false :=
      fun name hne => by rwa [← Bool.not_eq_true, Json.text_same_iff]
    simp [libraryRun, libraryRunReversed, hapart _ hauthors, hapart _ hbooks]
  have hruns : ((generate libraryRun).run emptyDisk).2.outcome.toOption.isSome = true := by
    decide +kernel
  obtain ⟨hsucceeds, hsame⟩ := generate_reordered hreordered emptyDisk
  obtain ⟨x, hx⟩ := Task.exists_ends_ok hruns
  obtain ⟨d'', y, hy⟩ := hsucceeds.mp ⟨_, x, hx⟩
  obtain ⟨⟨cs, ds, modules, others, -, -, hmodules, hothers, hboth⟩, -, -⟩ := hsame _ d'' x y hx hy
  exact ⟨hreordered, _, d'', x, y, hx, hy, cs, ds, modules, others, hmodules, hothers, hboth⟩

/-- Collections whose modules have different names and one path. -/
def slashRun (collections : List String) : Request where
  collections := collections.map fun name => { id := name, name := .text name, fields :=
    [{ name := .text "title", kind := .text, required := true }] }
  mappings := []
  directory := ["out"]

/-- A disk with a directory in that of the package. -/
def nestedDisk : Disk where
  tree := ⟨[(["out"], .directory), (["out", "a"], .directory)]⟩

/-- **Files can depend on the order**: two modules that go to one path overwrite each other, and the
one whose collection comes last stays. -/
theorem not_sameFiles_slashes : Reordered (slashRun ["a/b", "a//b"]) (slashRun ["a//b", "a/b"]) ∧
    ∃ d' d'' x y,
      (generate (slashRun ["a/b", "a//b"])).Ends nestedDisk d' (.ok x) ∧
      (generate (slashRun ["a//b", "a/b"])).Ends nestedDisk d'' (.ok y) ∧
        modulePath ["out"] (Naming.moduleName "a/b") = ["out", "a", "b_data.py"] ∧
        modulePath ["out"] (Naming.moduleName "a//b") = ["out", "a", "b_data.py"] ∧
        d'.text? ["out", "a", "b_data.py"] ≠ d''.text? ["out", "a", "b_data.py"] := by
  have hreordered : Reordered (slashRun ["a/b", "a//b"]) (slashRun ["a//b", "a/b"]) :=
    ⟨rfl, rfl, rfl, List.Perm.swap _ _ _, List.Perm.refl _, fun _ => rfl⟩
  have hruns : (((generate (slashRun ["a/b", "a//b"])).run nestedDisk).2.outcome.toOption.isSome ∧
      ((generate (slashRun ["a//b", "a/b"])).run nestedDisk).2.outcome.toOption.isSome) ∧
      ((generate (slashRun ["a/b", "a//b"])).run nestedDisk).1.text? ["out", "a", "b_data.py"] ≠
        ((generate (slashRun ["a//b", "a/b"])).run nestedDisk).1.text?
          ["out", "a", "b_data.py"] := by
    decide +kernel
  obtain ⟨⟨hfirst, hsecond⟩, htexts⟩ := hruns
  obtain ⟨x, hx⟩ := Task.exists_ends_ok hfirst
  obtain ⟨y, hy⟩ := Task.exists_ends_ok hsecond
  exact ⟨hreordered, _, _, x, y, hx, hy, by decide, by decide, htexts⟩

end Package

end SchemaModels
