import SchemaModels.Proofs.Settings.Load
import SchemaModels.Proofs.Failure
import SchemaModels.Proofs.Yaml.Value

/-!
# How loading settings fails

Loading is meant to give checked settings, or to fail with a problem of the configuration. A file
that is missing, that is no YAML, or that has not the mappings it should have is such a problem, and
so are settings that are refused. What is passed on instead are faults: bytes that are no text,
escapes and scalars that stand for nothing (`Passes`, `Passes.origin`), and a path to the output
directory that the system would cut off (`CutPath`). `load_told_iff` says that loading fails as it
is meant to just if it meets none of them.
-/

namespace SchemaModels.Settings

open Yaml (Value)

variable {directory : Files.Path} {path : String} {content : Option ByteArray} {o : Overrides}
  {bytes : ByteArray} {text : String} {f : Fault} {s : Settings}
  {entries inner : List (String × Value)}

/-! ## Reading the file -/

/-- The file is a mapping with a section for the server. -/
def Holds (bytes : ByteArray) (entries inner : List (String × Value)) : Prop :=
  ∃ text, String.fromUTF8? bytes = some text ∧
    Yaml.read (unifyBreaks text.toList) = .ok (.mapping entries) ∧
    entries.lookup "pocketbase" = some (.mapping inner)

/-- **A fault that a file has**: its bytes are no text, or its text has no value. -/
inductive Passes (bytes : ByteArray) : Fault → Prop
  | undecodable (bad : String.fromUTF8? bytes = none) : Passes bytes .undecodable
  | valueless {text : String} {f : Fault} (decoded : String.fromUTF8? bytes = some text)
      (unread : Yaml.read (unifyBreaks text.toList) = .error (.fault f)) : Passes bytes f

/-- **What a fault of a file comes from**: bytes that are no text, the number of an escape, or a
scalar of the document that stands for nothing. -/
inductive Origin (bytes : ByteArray) (f : Fault) : Prop
  | bytes (bad : String.fromUTF8? bytes = none) (fault : f = .undecodable)
  | escape {text : String} (decoded : String.fromUTF8? bytes = some text)
      (stop : Yaml.Token.ofText (unifyBreaks text.toList) = .error (.fault f))
      (number : ∃ n, Yaml.Scalar.character? n = .error (.fault f))
  | scalar {text : String} {n : Yaml.Node} (decoded : String.fromUTF8? bytes = some text)
      (document : Yaml.IsDocument (unifyBreaks text.toList) n) (rejected : n.Rejects (.fault f))

theorem Passes.origin (h : Passes bytes f) : Origin bytes f := by
  cases h with
  | undecodable bad => exact .bytes bad rfl
  | valueless decoded unread =>
    rcases Yaml.failsOnly_read _ _ unread with
      hmalformed | ⟨stop, number⟩ | ⟨n, document, rejected⟩
    · exact absurd hmalformed (Yaml.Error.not_isMalformed_fault f)
    · exact .escape decoded stop number
    · exact .scalar decoded document rejected

theorem holds_iff (decoded : String.fromUTF8? bytes = some text) : Holds bytes entries inner ↔
    Yaml.read (unifyBreaks text.toList) = .ok (.mapping entries) ∧
      entries.lookup "pocketbase" = some (.mapping inner) := by
  simp [Holds, decoded]

theorem passes_iff (decoded : String.fromUTF8? bytes = some text) :
    Passes bytes f ↔ Yaml.read (unifyBreaks text.toList) = .error (.fault f) := by
  constructor
  · intro h
    cases h with
    | undecodable bad => rw [decoded] at bad; cases bad
    | valueless decoded' unread =>
      rw [decoded, Option.some.injEq] at decoded'
      rwa [decoded']
  · exact .valueless decoded

/-- **What reading a file comes to**: its mapping with the section for the server, a fault that it
has, or a problem of the configuration. -/
structure FileRead (content : Option ByteArray)
    (out : Outcome (List (String × Value) × List (String × Value))) : Prop where
  given : ∀ entries inner, out = .ok (entries, inner) ↔
    ∃ bytes, content = some bytes ∧ Holds bytes entries inner
  passed : ∀ f, out = .error (.fault f) ↔ ∃ bytes, content = some bytes ∧ Passes bytes f
  told : ∀ p, out = .error (.problem p) → p.report.category = .configuration

theorem passes_undecodable_iff (bad : String.fromUTF8? bytes = none) :
    Passes bytes f ↔ f = .undecodable := by
  constructor
  · intro h
    cases h with
    | undecodable => rfl
    | valueless decoded => rw [bad] at decoded; cases decoded
  · rintro rfl
    exact .undecodable bad

/-- A file that is a text is read as the text is. -/
theorem fileRead_decoded (path : String) (decoded : String.fromUTF8? bytes = some text) :
    FileRead (some bytes) (readFile path (some bytes)) := by
  unfold readFile
  simp only [decoded]
  split
  · rename_i reason hread
    exact ⟨by simp [holds_iff decoded, hread], by simp [passes_iff decoded, hread],
      fun p h => by cases h; rfl⟩
  · rename_i f hread
    exact ⟨by simp [holds_iff decoded, hread], by simp [passes_iff decoded, hread],
      fun p h => by cases h⟩
  · rename_i entries hread
    split
    · rename_i inner hinner
      refine ⟨fun es is => ?_, by simp [passes_iff decoded, hread], fun p h => by cases h⟩
      simp only [Option.some.injEq, exists_eq_left', holds_iff decoded, hread, Except.ok.injEq,
        Value.mapping.injEq, Prod.mk.injEq]
      refine and_congr_right fun hes => ?_
      rw [← hes, hinner, Option.some.injEq, Value.mapping.injEq]
    · rename_i hinner
      refine ⟨fun es is => ?_, by simp [passes_iff decoded, hread], fun p h => by cases h; rfl⟩
      simp only [reduceCtorEq, Option.some.injEq, exists_eq_left', holds_iff decoded, hread,
        Except.ok.injEq, Value.mapping.injEq, false_iff, not_and]
      rintro rfl
      exact hinner is
  · rename_i v hno hread
    refine ⟨fun es is => ?_, by simp [passes_iff decoded, hread], fun p h => by cases h; rfl⟩
    simp only [reduceCtorEq, Option.some.injEq, exists_eq_left', holds_iff decoded, hread,
      Except.ok.injEq, false_iff, not_and]
    exact fun hv => absurd hv (hno es)

theorem fileRead_readFile (path : String) (content : Option ByteArray) :
    FileRead content (readFile path content) := by
  cases content with
  | none => exact ⟨by simp [readFile], by simp [readFile], fun p h => by cases h; rfl⟩
  | some bytes =>
    cases hdecode : String.fromUTF8? bytes with
    | none =>
      have hread : readFile path (some bytes) = .error (.fault .undecodable) := by
        simp [readFile, hdecode]
      rw [hread]
      refine ⟨?_, ?_, fun p h => by cases h⟩
      · simp [Holds, hdecode]
      · simp [passes_undecodable_iff hdecode, eq_comm]
    | some text => exact fileRead_decoded path hdecode

/-! ## Checking what is read -/

/-- What the check of a configuration comes to. -/
def verdict (path : String) : Checked Settings → Outcome Settings
  | .valid s => .ok s
  | .invalid complaints => .error (.problem (.configurationInvalid complaints (some path)))

theorem outcome_validate (v : Value) (path : String) :
    (validate v (some path)).outcome = verdict path (check v) := by
  unfold validate verdict
  cases check v with
  | valid s => rfl
  | invalid complaints => rfl

theorem verdict_eq_ok_iff {c : Checked Settings} : verdict path c = .ok s ↔ c = .valid s := by
  cases c <;> simp [verdict]

/-- Settings that are refused are a problem of the configuration. -/
theorem told_verdict (path : String) (c : Checked Settings) :
    FailsOnly (Failure.IsOf .configuration) (verdict path c) := by
  cases c with
  | valid s => exact failsOnly_ok s
  | invalid complaints => exact failsOnly_error_iff.mpr ⟨_, rfl, rfl⟩

/-! ## The output directory -/

/-- The path to the output directory holds the character that ends it for the system. -/
def CutPath (s : Settings) : Prop := Char.ofNat 0 ∈ s.outputDirectory.toList

/-- The settings with an absolute path to the output directory. -/
def settled (directory : Files.Path) (s : Settings) : Settings :=
  { s with outputDirectory := Files.Path.text (Files.Path.resolve directory s.outputDirectory) }

theorem settle_eq_ok_iff {s' : Settings} :
    settle directory s = .ok s' ↔ ¬ s.CutPath ∧ settled directory s = s' := by
  unfold settle CutPath settled
  split <;> simp_all

theorem told_settle_iff :
    FailsOnly (Failure.IsOf .configuration) (settle directory s) ↔ ¬ s.CutPath := by
  unfold settle CutPath
  split
  · rename_i hcut
    exact iff_of_false (fun h => Failure.not_isOf_fault _ _ (failsOnly_error_iff.mp h))
      (not_not_intro (List.contains_iff_mem.mp hcut))
  · rename_i hcut
    exact iff_of_true (failsOnly_ok _) fun h => hcut (List.contains_iff_mem.mpr h)

/-! ## Loading -/

/-- The configuration that is checked: that of the file with the settings of the command line. -/
def Overrides.configuration (o : Overrides) (entries inner : List (String × Value)) : Value :=
  .mapping (Json.setKey "pocketbase" (.mapping (o.over inner)) entries)

/-- **Loading in three stages**: the file is read, what it holds is checked, and the path to the
output directory is settled. -/
theorem outcome_conclude (directory : Files.Path) (path : String)
    (entries inner : List (String × Value)) : (conclude directory path entries inner).outcome =
      verdict path (check (.mapping (Json.setKey "pocketbase" (.mapping inner) entries))) >>=
        settle directory := by
  unfold conclude
  simp only [Logged.outcome_bind, Logged.outcome_note, outcome_validate, Logged.outcome_ofOutcome,
    Logged.outcome_pure]
  exact bind_congr fun s => bind_pure (settle directory s)

theorem outcome_load (directory : Files.Path) (path : String) (content : Option ByteArray)
    (o : Overrides) : (load directory path content o).outcome =
      readFile path content >>= fun (entries, inner) =>
        verdict path (check (o.configuration entries inner)) >>= settle directory := by
  unfold load
  rw [Logged.outcome_bind]
  refine bind_congr ?_
  rintro ⟨entries, inner⟩
  refine Eq.trans ?_ (outcome_conclude directory path entries (o.over inner))
  simp only [Logged.outcome_bind, Logged.outcome_note]
  -- Whether there is something to override makes a difference for the log only.
  show (ite _ _ _ : Logged Settings).outcome = _
  split
  · rfl
  · rfl

/-- **What loading comes to**, given what the file is read as. -/
structure Loaded (directory : Files.Path) (content : Option ByteArray) (o : Overrides)
    (read : Outcome (List (String × Value) × List (String × Value))) (out : Outcome Settings) :
    Prop where
  file : FileRead content read
  /-- The settings are those that were checked, up to the path to the output directory. -/
  given : ∀ s', out = .ok s' ↔ ∃ entries inner s, read = .ok (entries, inner) ∧
    check (o.configuration entries inner) = .valid s ∧ ¬ s.CutPath ∧ settled directory s = s'
  /-- All that is not told as a problem of the configuration is a fault of the file, or of the path
  to the output directory. -/
  told : FailsOnly (Failure.IsOf .configuration) out ↔
    (∀ bytes f, content = some bytes → ¬ Passes bytes f) ∧
      ∀ entries inner s, read = .ok (entries, inner) →
        check (o.configuration entries inner) = .valid s → ¬ s.CutPath
  /-- Where the faults of the file come from. -/
  origin : ∀ bytes f, content = some bytes → Passes bytes f → Origin bytes f

theorem FileRead.told_iff {out : Outcome (List (String × Value) × List (String × Value))}
    (h : FileRead content out) : FailsOnly (Failure.IsOf .configuration) out ↔
      ∀ bytes f, content = some bytes → ¬ Passes bytes f := by
  constructor
  · intro htold bytes f hbytes hpasses
    exact Failure.not_isOf_fault _ _ (htold _ ((h.passed f).mpr ⟨bytes, hbytes, hpasses⟩))
  · rintro hnone (p | f) he
    · exact ⟨p, rfl, h.told p he⟩
    · obtain ⟨bytes, hbytes, hpasses⟩ := (h.passed f).mp he
      exact absurd hpasses (hnone bytes f hbytes)

/-- **When loading settings fails as it is meant to.** Whatever the file holds and the command line
gives: just if the file has no fault, and its settings, if they are valid, have no path that is cut
off. -/
theorem load_told_iff (directory : Files.Path) (path : String) (content : Option ByteArray)
    (o : Overrides) : Loaded directory content o (readFile path content)
      (load directory path content o).outcome := by
  have hread := fileRead_readFile path content
  rw [outcome_load]
  refine ⟨hread, ?given, ?told, fun bytes f _ h => h.origin⟩
  case given =>
    intro s'
    simp only [except_bind_eq_ok_iff, Prod.exists, verdict_eq_ok_iff, settle_eq_ok_iff,
      exists_and_left]
  case told =>
    rw [failsOnly_bind_iff, hread.told_iff]
    refine and_congr_right' ?_
    simp only [Prod.forall, failsOnly_bind_iff, told_verdict, true_and, verdict_eq_ok_iff,
      told_settle_iff]
    exact forall₂_congr fun _ _ => forall_comm

/-- A text with a date in a month that there is not. -/
def misdated : String := "pocketbase:\n  when: 2024-13-01\n"

/-- It has no value: the date is of the right form and yet unfit. -/
theorem passes_misdated : ∃ f, Passes misdated.toUTF8 f ∧ f.family = .value := by
  have hdecoded : String.fromUTF8? misdated.toUTF8 = some misdated := by
    simp [String.fromUTF8?, String.fromUTF8, String.toUTF8, misdated.isValidUTF8]
  have hread : (match Yaml.read (unifyBreaks misdated.toList) with
      | .ok _ => false
      | .error (.malformed _) => false
      | .error (.fault f) => f.family == .value) = true := by decide +kernel
  split at hread
  · cases hread
  · cases hread
  · rename_i f hfault
    exact ⟨f, .valueless hdecoded hfault, eq_of_beq hread⟩

/-- The fault of the date is passed on. -/
theorem not_told_misdated : ¬ FailsOnly (Failure.IsOf .configuration)
    (load [] "pocketbase.yaml" (some misdated.toUTF8) {}).outcome := by
  obtain ⟨f, hpasses, -⟩ := passes_misdated
  have hfile := fileRead_readFile "pocketbase.yaml" (some misdated.toUTF8)
  have hread := (hfile.passed f).mpr ⟨_, rfl, hpasses⟩
  rw [outcome_load, hread]
  exact fun h => Failure.not_isOf_fault _ _ (h _ rfl)

end SchemaModels.Settings
