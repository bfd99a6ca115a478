import SchemaModels.Proofs.Task
import SchemaModels.Settings.Load

/-!
# Settings that are overridden

A check of settings goes through when each of its parts does (`checkSection_eq_valid_iff`), so that
every setting can be traced to the entry which it was read from. What the command line gives takes
the place of what the file says (`lookup_overridden`): a run that is told not to format does not,
whatever stands in its file (`formatOutput_of_load`).
-/

namespace SchemaModels

open Yaml (Value)

variable {α β : Type}

/-! ## Entries -/

theorem Json.lookup_setKey (key k : String) (v : α) (entries : List (String × α)) :
    (setKey key v entries).lookup k = if k = key then some v else entries.lookup k := by
  induction entries with
  | nil =>
    rw [setKey, List.lookup_cons]
    split <;> simp_all
  | cons e entries ih =>
    rw [setKey]
    by_cases hkey : e.1 = key
    · rw [if_pos hkey, List.lookup_cons, List.lookup_cons, hkey]
      split <;> simp_all
    · rw [if_neg hkey, List.lookup_cons, List.lookup_cons, ih]
      split <;> simp_all

/-- Of the entries that are set one after the other the last one of a key stays. -/
theorem Json.lookup_foldl_setKey (k : String) (given entries : List (String × α)) :
    (given.foldl (fun es (key, v) => setKey key v es) entries).lookup k =
      (given.reverse.lookup k).or (entries.lookup k) := by
  induction given generalizing entries with
  | nil => rfl
  | cons e given ih =>
    have hone : [e].lookup k = if k = e.1 then some e.2 else none := by
      rw [List.lookup_cons]
      split <;> simp_all
    rw [List.foldl_cons, ih, lookup_setKey, List.reverse_cons, List.lookup_append, Option.or_assoc,
      hone]
    split <;> rfl

/-! ## Checks -/

namespace Checked

theorem seq_eq_valid_iff {f : Checked (α → β)} {x : Checked α} {b : β} :
    f <*> x = .valid b ↔ ∃ g a, f = .valid g ∧ x = .valid a ∧ g a = b := by
  cases f <;> cases x <;> simp [Seq.seq, Checked.seq]

theorem map_eq_valid_iff {g : α → β} {x : Checked α} {b : β} :
    g <$> x = .valid b ↔ ∃ a, x = .valid a ∧ g a = b := by
  cases x <;> simp [Functor.map, Checked.seq]

theorem ofExcept_eq_valid_iff {location : List String} {x : Except Complaint.Cause α} {a : α} :
    ofExcept location x = .valid a ↔ x = .ok a := by
  cases x <;> simp [ofExcept]

end Checked

namespace Settings

/-- **Settings are valid** when each of them is; those that are not given have their defaults. -/
theorem checkSection_eq_valid_iff {location : List String} {entries : List (String × Value)}
    {s : Settings} : checkSection location entries = .valid s ↔
      (nested location entries "hosting" "HostingSettings" checkHosting) = .valid s.hosting ∧
      setting location entries "output_directory" (some "./models") asWord =
        .valid s.outputDirectory ∧
      setting location entries "expansion_collection" (some "_expansions") asWord =
        .valid s.expansionCollection ∧
      setting location entries "internal_prefix" (some "_") asText = .valid s.internalPrefix ∧
      setting location entries "strict_expansions" (some false) asTruth =
        .valid s.strictExpansions ∧
      setting location entries "format_output" (some true) asTruth = .valid s.formatOutput ∧
      setting location entries "request_timeout" (some (.int 30)) asSeconds =
        .valid s.requestTimeout := by
  unfold checkSection
  simp only [Checked.seq_eq_valid_iff, Checked.map_eq_valid_iff]
  constructor
  · rintro ⟨_, _, ⟨_, _, ⟨_, _, ⟨_, _, ⟨_, _, ⟨_, _, ⟨_, h₁, rfl⟩, h₂, rfl⟩, h₃, rfl⟩, h₄, rfl⟩, h₅,
      rfl⟩, h₆, rfl⟩, h₇, rfl⟩
    exact ⟨h₁, h₂, h₃, h₄, h₅, h₆, h₇⟩
  · rintro ⟨h₁, h₂, h₃, h₄, h₅, h₆, h₇⟩
    exact ⟨_, _, ⟨_, _, ⟨_, _, ⟨_, _, ⟨_, _, ⟨_, _, ⟨_, h₁, rfl⟩, h₂, rfl⟩, h₃, rfl⟩, h₄, rfl⟩, h₅,
      rfl⟩, h₆, rfl⟩, h₇, rfl⟩

/-- A setting that is given is what is read from its entry. -/
theorem setting_eq_valid {outer : List String} {entries : List (String × Value)} {name : String}
    {v : Value} (h : entries.lookup name = some v) {default : Option α}
    {read : Value → Except Complaint.Cause α} {a : α} :
    setting outer entries name default read = .valid a ↔ read v = .ok a := by
  unfold setting
  rw [h]
  exact Checked.ofExcept_eq_valid_iff

/-- The settings of a configuration are those of its section. -/
theorem check_eq_valid {entries inner : List (String × Value)} {s : Settings}
    (hinner : entries.lookup "pocketbase" = some (.mapping inner))
    (h : check (.mapping entries) = .valid s) : checkSection ["pocketbase"] inner = .valid s := by
  have hcheck : check (.mapping entries) = nested [] entries "pocketbase" "PocketBaseSettings"
      checkSection := rfl
  rw [hcheck, nested, hinner] at h
  exact h

theorem validate_eq_ok {v : Value} {path : Option String} {s : Settings}
    (h : (validate v path).outcome = .ok s) : check v = .valid s := by
  unfold validate at h
  split at h
  · rename_i settings hcheck
    obtain ⟨-, -, h⟩ := Logged.outcome_bind_eq_ok.mp h
    cases h
    exact hcheck
  · obtain ⟨-, -, h⟩ := Logged.outcome_bind_eq_ok.mp h
    cases h

/-! ## Loading -/

/-- The entries of a section once the settings of the command line are set. -/
def Overrides.over (o : Overrides) (inner : List (String × Value)) : List (String × Value) :=
  o.entries.foldl (fun es (k, v) => Json.setKey k v es) inner

/-- What the command line gives takes the place of what the file says. -/
theorem lookup_overridden (o : Overrides) (inner : List (String × Value)) (k : String) :
    (o.over inner).lookup k = (o.entries.reverse.lookup k).or (inner.lookup k) :=
  Json.lookup_foldl_setKey k o.entries inner

/-- The last part of loading: what has been read is checked. -/
def conclude (directory : Files.Path) (path : String) (entries inner : List (String × Value)) :
    Logged Settings := do
  Logged.note .info "Validating configuration..."
  let settings ← validate (.mapping (Json.setKey "pocketbase" (.mapping inner) entries)) (some path)
  let settings ← Logged.ofOutcome (settle directory settings)
  Logged.note .info "Configuration loaded and validated successfully."
  pure settings

theorem conclude_eq_ok {directory : Files.Path} {path : String}
    {entries inner : List (String × Value)} {s : Settings}
    (h : (conclude directory path entries inner).outcome = .ok s) :
    ∃ s₀, checkSection ["pocketbase"] inner = .valid s₀ ∧ settle directory s₀ = .ok s := by
  obtain ⟨-, -, h⟩ := Logged.outcome_bind_eq_ok.mp h
  obtain ⟨s₀, hvalid, h⟩ := Logged.outcome_bind_eq_ok.mp h
  obtain ⟨s₁, hsettle, h⟩ := Logged.outcome_bind_eq_ok.mp h
  obtain ⟨-, -, h⟩ := Logged.outcome_bind_eq_ok.mp h
  cases h
  have hinner := Json.lookup_setKey "pocketbase" "pocketbase" (Value.mapping inner) entries
  rw [if_pos rfl] at hinner
  exact ⟨s₀, check_eq_valid hinner (validate_eq_ok hvalid), hsettle⟩

/-- **Loaded settings** are those of the file with the overrides set, up to the path to the output
directory. -/
theorem load_eq_ok {directory : Files.Path} {path : String} {content : Option ByteArray}
    {o : Overrides} {s : Settings} (h : (load directory path content o).outcome = .ok s) :
    ∃ entries inner s₀, readFile path content = .ok (entries, inner) ∧
      checkSection ["pocketbase"] (o.over inner) = .valid s₀ ∧ settle directory s₀ = .ok s := by
  obtain ⟨⟨entries, inner⟩, hread, h⟩ := Logged.outcome_bind_eq_ok.mp h
  obtain ⟨-, -, h⟩ := Logged.outcome_bind_eq_ok.mp h
  have hrest : (conclude directory path entries (o.over inner)).outcome = .ok s := by
    simp only at h
    split at h
    · obtain ⟨-, -, h⟩ := Logged.outcome_bind_eq_ok.mp h
      exact h
    · exact h
  obtain ⟨s₀, hcheck, hsettle⟩ := conclude_eq_ok hrest
  exact ⟨entries, inner, s₀, hread, hcheck, hsettle⟩

theorem formatOutput_of_settle {directory : Files.Path} {s₀ s : Settings}
    (h : settle directory s₀ = .ok s) : s.formatOutput = s₀.formatOutput := by
  unfold settle at h
  split at h
  · cases h
  · cases h
    rfl

/-- **Settings that are told not to format** do not, whatever the file says. -/
theorem formatOutput_of_load {directory : Files.Path} {path : String} {content : Option ByteArray}
    {o : Overrides} {s : Settings} (hgiven : o.noFormat.isBlank = false)
    (h : (load directory path content o).outcome = .ok s) : s.formatOutput = false := by
  obtain ⟨entries, inner, s₀, -, hcheck, hsettle⟩ := load_eq_ok h
  have hlast : o.entries.reverse.lookup "format_output" = some (.bool false) := by
    unfold Overrides.entries
    rw [hgiven, List.reverse_append]
    rfl
  have hlookup : (o.over inner).lookup "format_output" = some (.bool false) := by
    rw [lookup_overridden, hlast, Option.some_or]
  obtain ⟨-, -, -, -, -, hformat, -⟩ := checkSection_eq_valid_iff.mp hcheck
  rw [setting_eq_valid hlookup, asTruth, Except.ok.injEq] at hformat
  rw [formatOutput_of_settle hsettle, ← hformat]

end Settings

end SchemaModels
