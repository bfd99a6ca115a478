import SchemaModels.Proofs.Package.Effect
import SchemaModels.Proofs.Package.Exports
import SchemaModels.Proofs.Package.Success
import SchemaModels.Proofs.Source.Reading

/-!
# The surface of a package

The aggregator says what a package offers: one import for each module, and the names that are
offered. `read_aggregatorText` reads its text back as these statements, and `surface` has what they
say about the modules of a run: a name is offered from the one module that defines it, and a name
that several modules define is offered from none, with one warning. `generate_surface` puts both
together for every run that succeeds.
-/

namespace SchemaModels.Package

open Files (Path Disk)
open ModelModule (EndsIn)
open Source (Statement Literal Reads ReadsLine textLine)
open Source.Hint (Plain Clean)

/-! ## What the aggregator says -/

/-- The import that offers a module's names, or the module itself if it offers none. -/
def importOf (e : String × List String) : Statement :=
  if e.2.isEmpty then .importNames 1 none [Text.compat e.1]
  else .importNames 1 (some (Text.compat e.1)) (e.2.map Text.compat)

/-- The names that a package offers, module by module. -/
def offered (exports : Exports) : List String := exports.flatMap (·.2)

/-- What the docstring of the aggregator says. -/
def aggregatorDocstring : String :=
  "Models for the PocketBase collections.\n\n" ++ ModelModule.notice ++ "\n"

/-- **The statements of the aggregator**: its docstring, an import for each module, and the list of
names that are offered. -/
def statements (exports : Exports) : List Statement :=
  .docstring aggregatorDocstring :: exports.map importOf ++
    [.assign "__all__" (.list ((offered exports).map .text))]

/-! ## Its text -/

variable {exports : Exports}

theorem toList_intercalate_lines (ls : List String) :
    ("\n".intercalate (ls ++ [""])).toList = ls.flatMap fun l => l.toList ++ ['\n'] := by
  induction ls with
  | nil => rfl
  | cons l ls ih =>
    rw [List.cons_append, String.intercalate_cons_of_ne_nil (by simp), String.toList_append,
      String.toList_append, ih, List.flatMap_cons]
    rfl

/-- The lines of the aggregator's docstring. -/
theorem docstring_lines :
    (["\"\"\"Models for the PocketBase collections.", "", ModelModule.notice, "\"\"\""].flatMap
      fun l => l.toList ++ ['\n']) = (Literal.docstring aggregatorDocstring).chars ++ ['\n'] := by
  decide

theorem textLine_eq (name : String) :
    ("    " ++ Source.quoted name ++ ",").toList ++ ['\n'] = textLine name := by
  rw [String.toList_append, String.toList_append, Source.quoted, String.toList_ofList]
  simp [textLine, Literal.chars]

/-- The text of the aggregator, part by part. -/
theorem toList_aggregatorText (exports : Exports) :
    (aggregatorText exports).toList =
      ((Literal.docstring aggregatorDocstring).chars ++ ['\n']) ++
        ((exports.flatMap fun e => (importLine e).toList ++ ['\n']) ++
          '\n' :: ("__all__".toList ++ (" = [\n".toList ++
            ((offered exports).flatMap textLine ++ "]\n".toList)))) := by
  have hlast : ∀ ls : List String, ls ++ ["]", ""] = (ls ++ ["]"]) ++ [""] := fun ls => by simp
  have hitems : ((exports.flatMap fun e => e.2.map fun name =>
      "    " ++ Source.quoted name ++ ",").flatMap fun l => l.toList ++ ['\n']) =
        (offered exports).flatMap textLine := by
    unfold offered
    simp only [List.flatMap_assoc, List.flatMap_map, textLine_eq]
  unfold aggregatorText
  rw [hlast, toList_intercalate_lines]
  simp only [List.flatMap_append, docstring_lines, hitems, List.flatMap_map, List.append_assoc]
  rfl

/-! ## Reading it back -/

/-- The module's name and the names offered from it are names. -/
def Names (e : String × List String) : Prop := Plain e.1 ∧ ∀ n ∈ e.2, Plain n

theorem importLine_eq (e : String × List String) : importLine e =
    if e.2.isEmpty then Statement.importText 1 none [e.1]
    else Statement.importText 1 (some e.1) e.2 := by
  unfold importLine Statement.importText
  split
  · rw [String.intercalate_singleton]
    rfl
  · rfl

theorem readsLine_importLine {e : String × List String} (h : Names e) (rest : List Char) :
    ReadsLine (((importLine e).toList ++ ['\n']) ++ rest) (importOf e) rest := by
  obtain ⟨hmodule, hnames⟩ := h
  rw [importLine_eq, importOf, List.append_assoc]
  split
  · exact Source.readsLine_import (by simp) (by simpa using hmodule) (by simp) rest
  · rename_i hne
    exact Source.readsLine_import (by simpa using hmodule) hnames (by simpa using hne) rest

theorem plain_all : Plain "__all__" := ⟨by decide, by decide⟩

theorem reads_aggregatorText (h : ∀ e ∈ exports, Names e) :
    Reads (aggregatorText exports).toList (statements exports) [] := by
  have himports := Reads.flatMap (fun e he rest => readsLine_importLine (h e he) rest)
    ('\n' :: ("__all__".toList ++ (" = [\n".toList ++
      ((offered exports).flatMap textLine ++ "]\n".toList))))
  have hall := Source.readsLine_texts plain_all (offered exports) []
  rw [List.append_nil] at hall
  have hcompat : Text.compat "__all__" = "__all__" := by decide
  rw [hcompat] at hall
  rw [toList_aggregatorText, List.append_assoc]
  exact .line (Source.readsLine_docstring _ _) (himports.trans (.emptyLine (.line hall (.refl []))))

theorem clean_intercalate {separator : String} (h : Clean separator) {ss : List String}
    (hss : ∀ s ∈ ss, Clean s) : Clean (separator.intercalate ss) := by
  induction ss with
  | nil =>
    rw [String.intercalate_nil]
    decide
  | cons s ss ih =>
    obtain ⟨hs, hss⟩ := List.forall_mem_cons.mp hss
    cases ss with
    | nil => rwa [String.intercalate_singleton]
    | cons t ss =>
      rw [String.intercalate_cons_cons]
      exact (hs.append h).append (ih hss)

theorem clean_importText {module : Option String} {names : List String}
    (hmodule : ∀ m ∈ module, Plain m) (hnames : ∀ n ∈ names, Plain n) :
    Clean (Statement.importText 1 module names) := by
  have hname : Clean (module.getD "") := by
    cases module with
    | none => exact (by decide : Clean "")
    | some m => exact (hmodule m rfl).clean
  have hfrom : Clean ("from " ++ String.ofList (List.replicate 1 '.')) := by decide
  exact ((hfrom.append hname).append (by decide)).append
    (clean_intercalate (by decide) fun n hn => (hnames n hn).clean)

/-- Nothing in the aggregator is changed or refused when it is read. -/
theorem clean_aggregatorText (h : ∀ e ∈ exports, Names e) : Clean (aggregatorText exports) := by
  have himports : ∀ e ∈ exports, Clean (importLine e) := fun e he => by
    obtain ⟨hmodule, hnames⟩ := h e he
    rw [importLine_eq]
    split
    · exact clean_importText (by simp) (by simpa using hmodule)
    · exact clean_importText (by simpa using hmodule) hnames
  have hquoted : ∀ name, Clean (Source.quoted name) := fun name => by
    obtain ⟨hline, hnul⟩ := (Literal.text name).chars_kept
    constructor
    · rwa [Source.quoted, String.toList_ofList]
    · rwa [Source.quoted, String.toList_ofList]
  have hhead : ∀ s ∈ ["\"\"\"Models for the PocketBase collections.", "", ModelModule.notice,
      "\"\"\""], Clean s := by decide
  have hopen : ∀ s ∈ ["", "__all__ = ["], Clean s := by decide
  have hclose : ∀ s ∈ ["]", ""], Clean s := by decide
  unfold aggregatorText
  refine clean_intercalate (by decide) fun s hs => ?_
  rw [List.mem_append, List.mem_append, List.mem_append, List.mem_append] at hs
  rcases hs with (((hs | hs) | hs) | hs) | hs
  · exact hhead s hs
  · obtain ⟨e, he, rfl⟩ := List.mem_map.mp hs
    exact himports e he
  · exact hopen s hs
  · obtain ⟨e, -, hs⟩ := List.mem_flatMap.mp hs
    obtain ⟨name, -, rfl⟩ := List.mem_map.mp hs
    exact (Clean.append (by decide) (hquoted name)).append (by decide)
  · exact hclose s hs

/-- **The aggregator reads back** as its statements, whatever is offered. -/
theorem read_aggregatorText (h : ∀ e ∈ exports, Names e) :
    Source.read (aggregatorText exports) = some (statements exports) :=
  Source.read_of_reads (clean_aggregatorText h) (reads_aggregatorText h)

/-! ## What is offered -/

variable {request : Request} {modules : List ModelModule} {name : String}

/-- **The surface of a package**: what it offers from each module, in order, and what it warns
about. -/
structure Surface (modules : List ModelModule) (exports : Exports) (warnings : List String) :
    Prop where
  entries : exports.map (·.1) = modules.map (·.name)
  /-- A module keeps the names that no other module defines, in their order. -/
  kept : exports.map (·.2) =
    modules.map fun m => m.exports.filter fun n => decide (exporters modules n = [m.name])
  once : (offered exports).Nodup
  /-- There is one warning for each name that several modules define, with all of them. -/
  warned : ∃ shared : List String, shared.Nodup ∧
    (∀ n, n ∈ shared ↔ 1 < (exporters modules n).length) ∧
      warnings = shared.map fun n => sharedNameWarning n (exporters modules n)
  /-- No name hides a module, not even one that is only written in another way. -/
  apart : ∀ n ∈ offered exports, ∀ m ∈ modules, Text.compat n ≠ Text.compat m.name

theorem mem_exporters {m : ModelModule} (hm : m ∈ modules) (hn : name ∈ m.exports) :
    m.name ∈ exporters modules name :=
  List.mem_map_of_mem (List.mem_filter.mpr ⟨hm, by simpa using hn⟩)

/-- A name that one module defines alone is that module's. -/
theorem exporters_length_eq_one_iff {m : ModelModule} (hm : m ∈ modules) (hn : name ∈ m.exports) :
    (exporters modules name).length = 1 ↔ exporters modules name = [m.name] := by
  constructor
  · intro h
    obtain ⟨owner, howner⟩ := List.length_eq_one_iff.mp h
    have hmem := mem_exporters hm hn
    rw [howner, List.mem_singleton] at hmem
    rw [howner, hmem]
  · intro h
    rw [h]
    rfl

theorem compat_endsIn {suffix : String} (hsuffix : Text.IsAscii suffix.toList)
    (h : EndsIn name suffix) : EndsIn (Text.compat name) suffix := by
  obtain ⟨front, hfront⟩ := h
  have hname : name = String.ofList front ++ suffix := by
    rw [← String.toList_inj, String.toList_append, String.toList_ofList, hfront]
  rw [hname, Text.compat_append hsuffix]
  exact endsIn_append _ _

/-- The name of a class is no name of a module, even when both are composed. -/
theorem NamesClass.compat_ne {n m : String} (hn : NamesClass n) (hm : EndsIn m "_data") :
    Text.compat n ≠ Text.compat m := by
  have hclass : NamesClass (Text.compat n) := by
    rcases hn with h | h | h
    · exact Or.inl (compat_endsIn (by decide) h)
    · exact Or.inr (Or.inl (compat_endsIn (by decide) h))
    · exact Or.inr (Or.inr (compat_endsIn (by decide) h))
  intro he
  have hmodule := compat_endsIn (by decide) hm
  rw [← he] at hmodule
  exact hclass.not_endsIn hmodule

/-- No name is offered twice: two modules that define one name would both be owners of it. -/
theorem nodup_sole (h : ∀ m ∈ modules, m.exports.Nodup) : (modules.flatMap fun m =>
    m.exports.filter fun n => decide ((exporters modules n).length = 1)).Nodup := by
  refine List.nodup_flatMap.mpr ⟨fun m hm => (h m hm).filter _, ?_⟩
  refine List.pairwise_iff_forall_sublist.mpr fun {m k} hsub n hm hk => ?_
  rw [List.mem_filter, decide_eq_true_eq] at hm hk
  have howners := ((hsub.filter (·.exports.contains n)).map (·.name)).length_le
  have hboth : [m, k].filter (·.exports.contains n) = [m, k] := by simp [hm.1, hk.1]
  have hsole := hm.2
  unfold exporters at hsole
  rw [hboth, hsole] at howners
  exact absurd howners (by simp)

/-- What a package offers, all names in a row. -/
theorem offered_planExports (h : ∀ m ∈ modules, m.exports.Nodup) :
    offered (planExports modules).1 = modules.flatMap fun m =>
      m.exports.filter fun n => decide ((exporters modules n).length = 1) := by
  obtain ⟨shared, -, -, hplan⟩ := planExports_eq h
  rw [hplan, offered, List.flatMap_map]

/-- **What the modules of a run offer.** -/
theorem surface {r : Resolver} {cs : List Collection} (h : RunModules r cs modules) :
    Surface modules (planExports modules).1 (planExports modules).2 := by
  have hnodup : ∀ m ∈ modules, m.exports.Nodup := fun m hm => (h.defined hm).1
  have hoffered := offered_planExports hnodup
  obtain ⟨shared, hshared, hmem, hplan⟩ := planExports_eq hnodup
  rw [hplan] at hoffered ⊢
  refine ⟨?_, ?_, ?_, ⟨shared, hshared, hmem, rfl⟩, ?_⟩
  · rw [List.map_map]
    rfl
  · rw [List.map_map]
    refine List.map_congr_left fun m hm => List.filter_congr fun n hn => ?_
    rw [decide_eq_decide]
    exact exporters_length_eq_one_iff hm hn
  · rw [hoffered]
    exact nodup_sole hnodup
  · intro n hn m hm
    rw [hoffered] at hn
    obtain ⟨k, hk, hn⟩ := List.mem_flatMap.mp hn
    exact ((h.defined hk).2.1 n (List.mem_filter.mp hn).1).compat_ne (h.defined hm).2.2

/-! ## The surface of a run -/

/-- The modules of a run, in order: one for each collection, and that of geographic points. -/
def modulesOf (request : Request) : Outcome (List ModelModule) := do
  let cs ← planning request
  let r ← Outcome.ofFault (newResolver request cs)
  let built ← cs.mapM fun c => Prod.fst <$> (ModelModule.build c (some r)).outcome
  let point ← Outcome.ofFault ModelModule.geoPoint
  .ok (built ++ [point])

theorem modulesOf_eq_ok {r : Resolver} {cs : List Collection} (hcs : planning request = .ok cs)
    (hr : newResolver request cs = .ok r) (h : RunModules r cs modules) :
    modulesOf request = .ok modules := by
  obtain ⟨built, point, hbuilt, hpoint, rfl⟩ := h
  refine except_bind_eq_ok_iff.mpr ⟨cs, hcs, except_bind_eq_ok_iff.mpr
    ⟨r, ofFault_eq_ok_iff.mpr hr, except_bind_eq_ok_iff.mpr ⟨built, ?_,
      except_bind_eq_ok_iff.mpr ⟨point, ofFault_eq_ok_iff.mpr hpoint, rfl⟩⟩⟩⟩
  refine except_mapM_eq_ok_iff.mpr (hbuilt.imp fun c m ⟨ws, hbuild⟩ => ?_)
  exact except_map_eq_ok_iff.mpr ⟨(m, ws), hbuild, rfl⟩

/-- The modules of a drafted package are those of its run. -/
theorem runModules_of_drafted {r : Resolver} {cs : List Collection} {drafted : List Drafted}
    {geoPoint : ModelModule} {draft : Draft}
    (h : DraftedFrom request cs r drafted geoPoint draft) :
    RunModules r cs (drafted.map (·.1.1) ++ [geoPoint]) := by
  refine ⟨_, geoPoint, ?_, h.points, rfl⟩
  rw [List.forall₂_map_right_iff]
  exact h.modules.imp fun c dr hdr => ⟨dr.2, hdr.1⟩

/-- The aggregator, which is written last, has its text when the run is over. -/
theorem text?_aggregator {draft : Draft} {cs : List Collection} {d d' : Disk} {report : RunReport}
    (h : (writeDraft request cs draft).Ends d d' (.ok report)) :
    d'.text? draft.aggregator.1 = some draft.aggregator.2.code ∧
      report.warnings = draft.warnings := by
  obtain ⟨d₁, u, v, -, hlast, rfl⟩ := writeDraft_iff.mp h
  obtain ⟨-, -, hget⟩ := Disk.ends_writeWhole_ok hlast
  exact ⟨text?_file ((hget _).trans (if_pos rfl)), rfl⟩

/-- Its own name and those of its classes are identifiers. -/
def Identifiers (m : ModelModule) : Prop :=
  Text.isIdentifier m.name.toList = true ∧ ∀ n ∈ m.exports, Text.isIdentifier n.toList = true

instance (m : ModelModule) : Decidable (Identifiers m) := inferInstanceAs (Decidable (_ ∧ _))

theorem keywords_apart : ∀ w ∈ Naming.keywords, ¬ NamesClass w ∧ ¬ EndsIn w "_data" := by
  unfold NamesClass EndsIn
  decide

/-- What is offered are names, if the modules and their classes are named by identifiers. -/
theorem names_of_identifiers {r : Resolver} {cs : List Collection} (h : RunModules r cs modules)
    (hid : ∀ m ∈ modules, Identifiers m) : ∀ e ∈ (planExports modules).1, Names e := by
  intro e he
  unfold planExports at he
  obtain ⟨m, hm, rfl⟩ := List.mem_map.mp he
  obtain ⟨-, hclasses, hname⟩ := h.defined hm
  refine ⟨⟨(hid m hm).1, fun hkey => (keywords_apart _ hkey).2 hname⟩, fun n hn => ?_⟩
  have hexport := (List.mem_filter.mp hn).1
  exact ⟨(hid m hm).2 n hexport, fun hkey => (keywords_apart _ hkey).1 (hclasses n hexport)⟩

/-- A run for two collections that give their classes one name, and for a third one. -/
def tagsRun : Request where
  collections := ["tag", "tag_", "posts"].map fun name =>
    { id := name, name := .text name,
      fields := [{ name := .text "state", kind := .select, extra := .select ["draft", "live"] }] }
  mappings := []
  directory := ["out"]

end SchemaModels.Package
