import SchemaModels.Command.Ending
import SchemaModels.Proofs.Command.Generate
import SchemaModels.Proofs.Server.Session
import SchemaModels.Proofs.Settings.Load

/-!
# The stages of a run

Headings and last words fail nowhere and change nothing, so a run ends as its stages do
(`ends_run`). Loading the settings changes nothing either, and what is fetched changes the session
only. `Halts` and `Lists` say how far a run gets before it touches a file, and one of the two holds
(`halts_or_lists`).
-/

namespace SchemaModels.Command

open Package (RunReport)

variable {a : Arguments} {h h' : Host} {s : Settings} {t t' : Server.Session}
  {cs : List Collection} {ms : List Mapping}

/-! ## Headings and last words -/

theorem ends_head (title : String) (h : Host) : (head title).Ends h h (.ok ()) :=
  Task.ends_forM_ok fun _ _ => ⟨rfl, rfl⟩

theorem ends_conclude (s : Settings) (report : RunReport) (h : Host) :
    (conclude s report).Ends h h (.ok ()) := by
  unfold conclude
  refine Task.Ends.bind (Task.ends_forM_ok fun _ _ => ⟨rfl, rfl⟩) ?_
  split
  · exact Task.Ends.bind ⟨rfl, rfl⟩ ⟨rfl, rfl⟩
  · exact ⟨rfl, rfl⟩

/-- What a run does. -/
def stages (a : Arguments) : Task Host RunReport := do
  let s ← loadSettings a
  let (collections, mappings) ← fetchSchema s
  generate s collections mappings

/-- A run from its first heading on. -/
def headed (a : Arguments) : Task Host Unit := do
  head "Configuration"
  let s ← loadSettings a
  head "PocketBase Schema"
  let (collections, mappings) ← fetchSchema s
  head "Model Generation"
  let report ← generate s collections mappings
  head "Completion"
  conclude s report

theorem ends_headed {o : Outcome RunReport} (hstages : (stages a).Ends h h' o) :
    (headed a).Ends h h' (o.map fun _ => ()) := by
  refine (ends_head _ h).bind ?_
  cases o with
  | ok report =>
    obtain ⟨s, h₁, hload, hstages⟩ := Task.ends_bind_ok_iff.mp hstages
    obtain ⟨⟨cs, ms⟩, h₂, hfetch, hgenerate⟩ := Task.ends_bind_ok_iff.mp hstages
    exact hload.bind ((ends_head _ h₁).bind (hfetch.bind ((ends_head _ h₂).bind
      (hgenerate.bind ((ends_head _ h').bind (ends_conclude s report h'))))))
  | error e =>
    rcases Task.ends_bind_error_iff.mp hstages with hload | ⟨s, h₁, hload, hstages⟩
    · exact hload.bind_error
    refine hload.bind ((ends_head _ h₁).bind ?_)
    rcases Task.ends_bind_error_iff.mp hstages with hfetch | ⟨⟨cs, ms⟩, h₂, hfetch, hgenerate⟩
    · exact hfetch.bind_error
    · exact hfetch.bind ((ends_head _ h₂).bind hgenerate.bind_error)

/-- **A run ends as its stages do.** -/
theorem ends_run {o : Outcome RunReport} (hstages : (stages a).Ends h h' o) :
    (run a).Ends h h' (o.map fun _ => ()) := by
  have hrun : run a = if a.verbose then
      Task.note .debug "Verbose mode enabled. DEBUG level logging activated." >>= fun _ => headed a
    else headed a := rfl
  rw [hrun]
  split
  · exact Task.Ends.bind ⟨rfl, rfl⟩ (ends_headed hstages)
  · exact ends_headed hstages

/-! ## Settings -/

theorem ends_loadSettings (a : Arguments) (h : Host) : (loadSettings a).Ends h h
    (Settings.load h.directory a.config (h.content a.config) a.overrides).outcome := by
  refine Task.Ends.bind ⟨rfl, rfl⟩ ?_
  cases hload : (Settings.load h.directory a.config (h.content a.config) a.overrides).outcome with
  | ok s =>
    exact Task.Ends.bind (Task.ends_lift_iff.mpr ⟨rfl, hload⟩)
      (Task.Ends.bind ⟨rfl, rfl⟩ ⟨rfl, rfl⟩)
  | error e => exact Task.Ends.bind_error (Task.ends_lift_iff.mpr ⟨rfl, hload⟩)

/-- The settings that a run loads. -/
def Loads (a : Arguments) (h : Host) (s : Settings) : Prop := (loadSettings a).Ends h h (.ok s)

/-- Without formatting there is none, whatever the file says. -/
theorem Loads.formatOutput (hload : Loads a h s) (hasked : a.noFormat = true) :
    s.formatOutput = false := by
  obtain ⟨-, hloaded⟩ := hload.unique (ends_loadSettings a h)
  refine Settings.formatOutput_of_load ?_ hloaded.symm
  unfold Arguments.overrides
  rw [hasked]
  rfl

/-! ## The schema -/

/-- The session that a run begins. -/
def Host.begun (h : Host) (s : Settings) : Server.Session :=
  .start s.hosting.domain s.requestTimeout h.session.replies h.session.depth

/-- Signing in with the account in the settings. -/
def enter (s : Settings) : Task Server.Session Json :=
  Server.signIn (.text s.hosting.email) (.text s.hosting.password)

/-- **A run that ends before anything is generated**: its settings cannot be loaded, it is not let
in, or there is no list of the collections. -/
inductive Halts (a : Arguments) (h : Host) (e : Failure) : Prop
  | unloaded (failed : (loadSettings a).Ends h h (.error e))
  | turnedAway (s : Settings) (loaded : Loads a h s) (t : Server.Session)
      (failed : (enter s).Ends (h.begun s) t (.error e))
  | unlisted (s : Settings) (loaded : Loads a h s) (t t' : Server.Session) (token : Json)
      (entered : (enter s).Ends (h.begun s) t (.ok token))
      (failed : Server.fetchCollections.Ends t t' (.error e))

/-- A run that gets the list of the collections. -/
structure Lists (a : Arguments) (h : Host) (s : Settings) (t : Server.Session)
    (cs : List Collection) : Prop where
  loaded : Loads a h s
  listed : ∃ token t₁, (enter s).Ends (h.begun s) t₁ (.ok token) ∧
    Server.fetchCollections.Ends t₁ t (.ok cs)

/-- There is no third way. -/
theorem halts_or_lists (a : Arguments) (h : Host) :
    (∃ e, Halts a h e) ∨ ∃ s t cs, Lists a h s t cs := by
  have hload := ends_loadSettings a h
  cases hsettings :
    (Settings.load h.directory a.config (h.content a.config) a.overrides).outcome with
  | error e => exact Or.inl ⟨e, .unloaded (hsettings ▸ hload)⟩
  | ok s =>
    rw [hsettings] at hload
    have henter := Task.ends_run (enter s) (h.begun s)
    generalize ((enter s).run (h.begun s)).1 = t₁ at henter
    cases hsign : ((enter s).run (h.begun s)).2.outcome with
    | error e => exact Or.inl ⟨e, .turnedAway s hload t₁ (hsign ▸ henter)⟩
    | ok token =>
      rw [hsign] at henter
      have hfetch := Task.ends_run Server.fetchCollections t₁
      generalize (Server.fetchCollections.run t₁).1 = t at hfetch
      cases hlist : (Server.fetchCollections.run t₁).2.outcome with
      | error e => exact Or.inl ⟨e, .unlisted s hload t₁ t token henter (hlist ▸ hfetch)⟩
      | ok cs => exact Or.inr ⟨s, t, cs, hload, token, t₁, henter, hlist ▸ hfetch⟩

/-- What is asked of the server. -/
def conversation (s : Settings) : Task Server.Session (List Collection × List Mapping) := do
  discard (enter s)
  let collections ← Server.fetchCollections
  let mappings ← Server.fetchMappings s.expansionCollection
  pure (collections, mappings)

theorem ends_discard_enter {token : Json} (h : (enter s).Ends t t' (.ok token)) :
    (discard (enter s) : Task Server.Session Unit).Ends t t' (.ok ()) :=
  Task.ends_discard_ok_iff.mpr ⟨token, h⟩

/-- Fetching the schema concerns the session only. -/
theorem ends_fetchSchema {o : Outcome (List Collection × List Mapping)}
    (hends : (conversation s).Ends (h.begun s) t o) :
    (fetchSchema s).Ends h { h with session := t } o := by
  have hconnect : (connect s).Ends h { h with session := h.begun s } (.ok ()) :=
    Task.ends_zoom_iff.mpr ⟨h.begun s, Task.Ends.bind ⟨rfl, rfl⟩ ⟨rfl, rfl⟩, rfl⟩
  exact hconnect.bind (Task.ends_zoom_iff.mpr ⟨t, hends, rfl⟩)

/-- **A run that halts** has changed the session at most. -/
theorem Halts.ends {e : Failure} (hhalts : Halts a h e) :
    ∃ t, (stages a).Ends h { h with session := t } (.error e) := by
  cases hhalts with
  | unloaded failed => exact ⟨h.session, failed.bind_error⟩
  | turnedAway s loaded t failed =>
    have hconversation : (conversation s).Ends (h.begun s) t (.error e) :=
      (Task.ends_discard_error_iff.mpr failed).bind_error
    exact ⟨t, loaded.bind (ends_fetchSchema hconversation).bind_error⟩
  | unlisted s loaded t t' token entered failed =>
    have hconversation : (conversation s).Ends (h.begun s) t' (.error e) :=
      (ends_discard_enter entered).bind failed.bind_error
    exact ⟨t', loaded.bind (ends_fetchSchema hconversation).bind_error⟩

/-- **A run whose mappings cannot be fetched** for a fault has changed the session at most. -/
theorem Lists.ends_error {e : Failure} (hlists : Lists a h s t cs)
    (hmappings : (Server.fetchMappings s.expansionCollection).Ends t t' (.error e)) :
    (stages a).Ends h { h with session := t' } (.error e) := by
  obtain ⟨token, t₁, hsign, hfetch⟩ := hlists.listed
  have hconversation : (conversation s).Ends (h.begun s) t' (.error e) :=
    (ends_discard_enter hsign).bind (hfetch.bind hmappings.bind_error)
  exact hlists.loaded.bind (ends_fetchSchema hconversation).bind_error

/-- **A run that gets the list** ends as the generation with the mappings that it has fetched. -/
theorem Lists.ends {ws : List String} {d' : Files.Disk} {o : Outcome RunReport}
    (hlists : Lists a h s t cs)
    (hmappings : (Server.fetchMappings s.expansionCollection).Warns t t' ms ws)
    (hproduce : (produce h.layOut s cs ms).Ends h.disk d' o) :
    (stages a).Ends h { h with disk := d', session := t' } o := by
  obtain ⟨token, t₁, hsign, hfetch⟩ := hlists.listed
  have hconversation : (conversation s).Ends (h.begun s) t' (.ok (cs, ms)) :=
    (ends_discard_enter hsign).bind
      (hfetch.bind (hmappings.ends.bind ⟨rfl, rfl⟩))
  exact hlists.loaded.bind ((ends_fetchSchema hconversation).bind
    (ends_generate_iff.mpr ⟨d', hproduce, rfl⟩))

end SchemaModels.Command
