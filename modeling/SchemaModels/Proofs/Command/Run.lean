import SchemaModels.Proofs.Command.Stages

/-!
# Runs

A run that halts before the schema is there has not touched a file. Otherwise its status is that of
the generation, and it leaves what the generation leaves; mappings that cannot be fetched turn no
success into a failure, unless an answer is nested too deep to be read (`lawful`). Without
formatting a run that succeeds leaves every file of its package, but for one exception: of
collections that go to one path only the last has its module (`not_present_slashes`).
-/

namespace SchemaModels.Command

variable {a : Arguments} {h : Host} {s : Settings} {t : Server.Session} {cs : List Collection}
  {ms : List Mapping}

/-! ## The status -/

theorem status_of_ok (a : Arguments) (screen : Screen) {l : Logged Unit} (hl : l.outcome = .ok ()) :
    (ending a screen l).status = 0 := by
  unfold ending
  rw [hl]

theorem status_of_error (a : Arguments) (screen : Screen) {l : Logged Unit} {e : Failure}
    (hl : l.outcome = .error e) : (ending a screen l).status = 1 := by
  unfold ending
  rw [hl]

/-! ## A run with a schema -/

/-- **What a run does once it has the list of the collections**, with the mappings `ms` that it goes
on with. `h'` and the status are what it ends with. -/
structure Follows (a : Arguments) (h h' : Host) (status : Nat) (s : Settings) (t : Server.Session)
    (cs : List Collection) (ms : List Mapping) : Prop where
  fetched : ∃ t' ws, (Server.fetchMappings s.expansionCollection).Warns t t' ms ws
  /-- Whether the run succeeds is up to the generation. -/
  succeeds : status = 0 ↔ Produces h.disk h.layOut s cs ms
  /-- Mappings that cannot be fetched make no run fail: it goes on without them, and succeeds if it
  would succeed with any. -/
  unmapped : ∀ e,
    (Server.list Mapping.ofJson (Server.recordsPath s.expansionCollection) t).2 = .error e →
      ms = [] ∧ ∀ others, Produces h.disk h.layOut s cs others → status = 0
  complete : a.noFormat = true → status = 0 →
    ∃ emitted draft, Generated (requested s cs ms) emitted draft h'.disk
  fails : status = 1 → ∀ q, Leaves (requested s cs ms) h.disk h'.disk q

/-- The status of a run, and what it leaves, are those of the generation. -/
theorem follows_of_produce {screen : Screen} {d : Files.Disk} {o : Outcome Package.RunReport}
    {h' : Host} {l : Logged Unit} {t' : Server.Session} {ws : List String} (hload : Loads a h s)
    (hfetch : (Server.fetchMappings s.expansionCollection).Warns t t' ms ws)
    (hnone : ∀ e, (Server.list Mapping.ofJson (Server.recordsPath s.expansionCollection) t).2 =
      .error e → ms = [])
    (hproduce : (produce h.layOut s cs ms).Ends h.disk d o) (hdisk : h'.disk = d)
    (hl : l.outcome = o.map fun _ => ()) :
    Follows a h h' (ending a screen l).status s t cs ms := by
  have hsucceeds : (ending a screen l).status = 0 ↔ Produces h.disk h.layOut s cs ms := by
    cases o with
    | ok report => exact iff_of_true (status_of_ok a screen hl) ⟨d, report, hproduce⟩
    | error e =>
      refine iff_of_false (by rw [status_of_error a screen hl]; exact one_ne_zero) ?_
      rintro ⟨d', report, hok⟩
      obtain ⟨-, houtcome⟩ := hok.unique hproduce
      cases houtcome
  refine ⟨⟨t', ws, hfetch⟩, hsucceeds, fun e he => ?_, fun hasked hzero => ?_, fun hone q => ?_⟩
  · obtain rfl := hnone e he
    exact ⟨rfl, fun others hothers => hsucceeds.mpr (produces_unmapped hothers)⟩
  · obtain ⟨d', report, hok⟩ := hsucceeds.mp hzero
    obtain ⟨rfl, -⟩ := hok.unique hproduce
    exact hdisk ▸ produce_ok (hload.formatOutput hasked) hok
  · cases o with
    | ok report =>
      rw [status_of_ok a screen hl] at hone
      cases hone
    | error e => exact hdisk ▸ produce_error_leaves hproduce q

/-! ## Any run -/

/-- **What a run does**: `h'` and the status are what it ends with. -/
structure Lawful (a : Arguments) (h h' : Host) (status : Nat) : Prop where
  status_cases : status = 0 ∨ status = 1
  /-- A run halts, or it gets the list of the collections. -/
  reaches : (∃ e, Halts a h e) ∨ ∃ s t cs, Lists a h s t cs
  /-- A run that halts has touched no file. -/
  halted : ∀ e, Halts a h e → status = 1 ∧ h'.disk = h.disk
  listed : ∀ s t cs, Lists a h s t cs → ¬ t.MappingsTooDeep s.expansionCollection →
    ∃ ms, Follows a h h' status s t cs ms
  /-- A run that comes to mappings that are nested too deep has touched no file either. -/
  nested : ∀ s t cs, Lists a h s t cs → t.MappingsTooDeep s.expansionCollection →
    status = 1 ∧ h'.disk = h.disk

/-- The result of a run whose stages fail with nothing changed but the session. -/
theorem untouched_of_ends {e : Failure} (screen : Screen)
    (hstages : (stages a).Ends h { h with session := t } (.error e)) :
    (ending a screen ((run a).run h).2).status = 1 ∧ ((run a).run h).1.disk = h.disk := by
  obtain ⟨hstate, houtcome⟩ := ends_run hstages
  exact ⟨status_of_error a screen houtcome, by rw [hstate]⟩

/-- The result of a run that halts. -/
theorem untouched_of_halts {e : Failure} (screen : Screen) (hhalts : Halts a h e) :
    (ending a screen ((run a).run h).2).status = 1 ∧ ((run a).run h).1.disk = h.disk := by
  obtain ⟨t, hstages⟩ := hhalts.ends
  exact untouched_of_ends screen hstages

/-- The result of a run that comes to mappings that are nested too deep. -/
theorem untouched_of_tooDeep (screen : Screen) (hlists : Lists a h s t cs)
    (hdeep : t.MappingsTooDeep s.expansionCollection) :
    (ending a screen ((run a).run h).2).status = 1 ∧ ((run a).run h).1.disk = h.disk := by
  obtain ⟨inObject, hmappings⟩ := Server.ends_fetchMappings_error hdeep
  exact untouched_of_ends screen (hlists.ends_error hmappings)

/-- The result of a run that gets the list. -/
theorem follows_of_lists (screen : Screen) (hlists : Lists a h s t cs)
    (hshallow : ¬ t.MappingsTooDeep s.expansionCollection) : ∃ ms,
    Follows a h ((run a).run h).1 (ending a screen ((run a).run h).2).status s t cs ms := by
  obtain ⟨ws, hwarns, -⟩ := Server.warns_fetchMappings hshallow
  obtain ⟨hstate, houtcome⟩ := ends_run (hlists.ends hwarns (Task.ends_run _ _))
  refine ⟨_, follows_of_produce hlists.loaded hwarns (fun e he => ?_) (Task.ends_run _ _)
    (by rw [hstate]) houtcome⟩
  rw [he]
  rfl

theorem status_cases (a : Arguments) (screen : Screen) (l : Logged Unit) :
    (ending a screen l).status = 0 ∨ (ending a screen l).status = 1 := by
  cases hl : l.outcome with
  | ok => exact Or.inl (status_of_ok a screen hl)
  | error e => exact Or.inr (status_of_error a screen hl)

/-- **Every run**, whatever its arguments, the files and the replies of the server. A failure before
the schema is there leaves the files as they were, mappings that cannot be fetched alone are no
failure unless an answer is nested too deep, and a failure after that leaves only new directories,
whole modules, and no aggregator in place of the old one. -/
theorem lawful (a : Arguments) (screen : Screen) (h : Host) :
    Lawful a h ((run a).run h).1 (ending a screen ((run a).run h).2).status :=
  ⟨status_cases a screen _, halts_or_lists a h, fun _ => untouched_of_halts screen,
    fun _ _ _ => follows_of_lists screen, fun _ _ _ => untouched_of_tooDeep screen⟩

/-! ## Slashes -/

/-- A server with two collections whose names differ in slashes only, and a directory that their
modules fit in. -/
def slashHost : Host where
  directory := ["work"]
  disk := { tree := ⟨[
    (["work"], .directory),
    (["work", "pocketbase.yaml"], .file 0o644 ("pocketbase:\n  hosting:\n" ++
      "    domain: https://pb.example.com\n    email: a@b.c\n    password: pw\n")),
    (["work", "models"], .directory),
    (["work", "models", "a"], .directory)]⟩ }
  session := .start "" (.int 30)
    [.answer { status := 200, reason := "", body := "\x7b\"token\": \"t\"\x7d" },
     .answer { status := 200, reason := "", body :=
      "\x7b\"items\": [\x7b\"id\": \"c1\", \"name\": \"a/b\"\x7d, " ++
        "\x7b\"id\": \"c2\", \"name\": \"a//b\"\x7d]\x7d" },
     .answer { status := 200, reason := "", body := "\x7b\x7d" }]

/-- A run without formatting. -/
def unformatted : Arguments := { noFormat := true }

/-- The run succeeds, and the module of the first collection is not there. -/
theorem not_present_slashes :
    (ending unformatted {} ((run unformatted).run slashHost).2).status = 0 ∧
      ∃ code, (ModelModule.code { id := "c1", name := .text "a/b" } none).outcome = .ok code ∧
        ((run unformatted).run slashHost).1.disk.text?
          (Package.modulePath ["work", "models"] "a/b_data") ≠ some code := by
  have hrun : (ending unformatted {} ((run unformatted).run slashHost).2).status = 0 ∧
      ((run unformatted).run slashHost).1.disk.text?
        (Package.modulePath ["work", "models"] "a/b_data") ≠
          (ModelModule.code { id := "c1", name := .text "a/b" } none).outcome.toOption := by
    decide +kernel
  have hcode : (ModelModule.code { id := "c1", name := .text "a/b" }
      none).outcome.toOption.isSome = true := by
    decide +kernel
  cases houtcome : (ModelModule.code { id := "c1", name := .text "a/b" } none).outcome with
  | error e =>
    rw [houtcome] at hcode
    cases hcode
  | ok code =>
    rw [houtcome] at hrun
    exact ⟨hrun.1, code, rfl, hrun.2⟩

end SchemaModels.Command
