import SchemaModels.Proofs.Settings.Load
import SchemaModels.Proofs.Text.Blank
import SchemaModels.Server.Session

/-!
# The domain of a server

A domain is trimmed, its scheme is looked at, and slashes at its end are dropped, in this order.
What is stored of it has never a slash at its end, so a session takes it as it is. The rest of what
a normal domain is (`Normal`: with a scheme, trimmed, and stored unchanged if it is given again)
holds just if the given text names a host (`NamesHost`): after the scheme stands something whose
last character is no blank, and then slashes only. The slashes that are dropped can be those of the
scheme itself, and can uncover blanks.
-/

namespace SchemaModels.Settings

open Yaml (Value)
open Text (Trimmed isBlank)

variable {s d : String} {v : Value} {cs : List Char}

/-- The ways to reach a server. -/
def schemes : List (List Char) := ["http://".toList, "https://".toList]

/-- The text says how to reach a server. -/
def HasScheme (cs : List Char) : Prop := ∃ scheme ∈ schemes, scheme <+: cs

/-- **The text names a host**: what stands between a scheme and slashes at the end is something that
does not end in a blank. -/
def NamesHost (cs : List Char) : Prop :=
  ∃ scheme ∈ schemes, ∃ host last slashes, cs = scheme ++ host ++ [last] ++ slashes ∧
    (last ≠ '/' ∧ isBlank last = false) ∧ ∀ c ∈ slashes, c = '/'

/-- **A domain in normal form.** -/
structure Normal (d : String) : Prop where
  scheme : HasScheme d.toList
  trimmed : Trimmed d.toList
  slash : d.toList.getLast? ≠ some '/'
  /-- It is accepted, and stored as it is. -/
  again : asDomain (.text d) = .ok d

/-- The text without slashes at its end. -/
def unslashed (cs : List Char) : List Char := cs.rdropWhile (· == '/')

theorem hasScheme_iff : HasScheme cs ↔
    ("http://".toList.isPrefixOf cs || "https://".toList.isPrefixOf cs) = true := by
  unfold HasScheme schemes
  simp only [List.exists_mem_cons_iff, List.not_mem_nil, false_and, exists_false, or_false,
    Bool.or_eq_true, List.isPrefixOf_iff_prefix]

theorem normalDomain_eq_ok_iff : normalDomain s = .ok d ↔
    HasScheme (Text.trim s).toList ∧ d.toList = unslashed (Text.trim s).toList := by
  have hstored : d.toList = unslashed (Text.trim s).toList ↔
      String.ofList (Text.dropTrailing (· == '/') (Text.trim s).toList) = d := by
    rw [eq_comm, ← String.toList_inj, String.toList_ofList]
    exact Iff.rfl
  unfold normalDomain
  simp only
  rw [hasScheme_iff, hstored]
  split
  · simp_all
  · simp_all

theorem asWord_eq_ok_iff : asWord v = .ok s ↔ asText v = .ok s ∧ s ≠ "" := by
  unfold asWord
  rw [except_bind_eq_ok_iff]
  constructor
  · rintro ⟨t, ht, h⟩
    split at h
    · cases h
    · cases h
      simp_all
  · rintro ⟨ht, hne⟩
    exact ⟨s, ht, by simp [hne]⟩

/-- **What is stored** of a domain that is accepted: the trimmed text without slashes at its end. -/
theorem asDomain_eq_ok_iff : asDomain v = .ok d ↔ ∃ s, asText v = .ok s ∧ s ≠ "" ∧
    HasScheme (Text.trim s).toList ∧ d.toList = unslashed (Text.trim s).toList := by
  unfold asDomain
  simp only [except_bind_eq_ok_iff, asWord_eq_ok_iff, normalDomain_eq_ok_iff, and_assoc]

theorem getLast?_unslashed : (unslashed cs).getLast? ≠ some '/' := by
  intro h
  simpa using Text.getLast?_rdropWhile h

theorem unslashed_of_back (h : cs.getLast? ≠ some '/') : unslashed cs = cs := by
  refine Text.rdropWhile_of_back fun c hc => ?_
  rw [beq_eq_false_iff_ne]
  rintro rfl
  exact h hc

/-! ## Texts that name a host -/

/-- A domain that is its own normal form but for being given again is so altogether. -/
theorem normal_of_trimmed (hscheme : HasScheme d.toList) (htrimmed : Trimmed d.toList)
    (hslash : d.toList.getLast? ≠ some '/') : Normal d := by
  refine ⟨hscheme, htrimmed, hslash, asDomain_eq_ok_iff.mpr ⟨d, rfl, ?_, ?_, ?_⟩⟩
  · rintro rfl
    obtain ⟨scheme, hmem, hbegins⟩ := hscheme
    rw [String.toList_empty, List.prefix_nil] at hbegins
    rw [hbegins] at hmem
    exact absurd hmem (by decide)
  · rwa [Text.trim_eq_self_iff.mpr htrimmed]
  · rw [Text.trim_eq_self_iff.mpr htrimmed, unslashed_of_back hslash]

/-- A domain that is stored as it is when it is given is in normal form. -/
theorem normal_of_again (h : asDomain (.text d) = .ok d) : Normal d := by
  obtain ⟨s, hs, -, hscheme, hd⟩ := asDomain_eq_ok_iff.mp h
  obtain rfl : d = s := Except.ok.inj hs
  -- Both steps only take characters away, so neither has taken any.
  have hle : d.toList.Sublist (Text.trim d).toList := by
    rw [hd]
    exact (List.rdropWhile_prefix _ _).sublist
  have htrim : Text.trim d = d := String.toList_inj.mp ((Text.trim_sublist d).antisymm hle)
  rw [htrim] at hscheme hd
  refine normal_of_trimmed hscheme (Text.trim_eq_self_iff.mp htrim) ?_
  rw [hd]
  exact getLast?_unslashed

theorem getLast?_scheme : ∀ scheme ∈ schemes, scheme.getLast? = some '/' := by decide

/-- Of a text that names a host, everything up to the host is left. -/
theorem unslashed_of_namesHost (h : NamesHost cs) : HasScheme (unslashed cs) ∧
    ∀ c, (unslashed cs).getLast? = some c → isBlank c = false := by
  obtain ⟨scheme, hscheme, host, last, slashes, rfl, ⟨hslash, hblank⟩, hslashes⟩ := h
  have hunslashed : unslashed (scheme ++ host ++ [last] ++ slashes) = scheme ++ host ++ [last] := by
    refine Text.rdropWhile_append_of_back (fun c hc => ?_) fun c hc => by simp [hslashes c hc]
    rw [List.getLast?_concat, Option.some.injEq] at hc
    rw [← hc, beq_eq_false_iff_ne]
    exact hslash
  rw [hunslashed]
  refine ⟨⟨scheme, hscheme, by simp [List.append_assoc]⟩, fun c hc => ?_⟩
  rw [List.getLast?_concat, Option.some.injEq] at hc
  rwa [← hc]

/-- A text of which something with a scheme and no blank at its end is left names a host. -/
theorem namesHost_of_unslashed (hscheme : HasScheme (unslashed cs))
    (hback : ∀ c, (unslashed cs).getLast? = some c → isBlank c = false) : NamesHost cs := by
  obtain ⟨scheme, hmem, rest, hrest⟩ := hscheme
  -- The scheme ends in a slash, and what is left of the text does not.
  rcases List.eq_nil_or_concat rest with rfl | ⟨host, last, rfl⟩
  · have hslash : (unslashed cs).getLast? = some '/' := by
      rw [← hrest, List.append_nil]
      exact getLast?_scheme scheme hmem
    exact absurd hslash getLast?_unslashed
  · rw [List.concat_eq_append, ← List.append_assoc] at hrest
    have hlast : (unslashed cs).getLast? = some last := by rw [← hrest, List.getLast?_concat]
    refine ⟨scheme, hmem, host, last, cs.rtakeWhile (· == '/'), ?_, ⟨?_, hback last hlast⟩, ?_⟩
    · have hsplit := List.rdropWhile_append_rtakeWhile (p := (· == '/')) (l := cs)
      rw [hrest]
      exact hsplit.symm
    · rintro rfl
      exact getLast?_unslashed hlast
    · intro c hc
      simpa using List.mem_rtakeWhile_imp hc

/-- **What is stored is normal** just if the given text names a host. -/
theorem asDomain_normal_iff (hs : asText v = .ok s) (h : asDomain v = .ok d) :
    Normal d ↔ NamesHost (Text.trim s).toList := by
  obtain ⟨s', hs', -, -, hd⟩ := asDomain_eq_ok_iff.mp h
  obtain rfl : s = s' := by rwa [hs, Except.ok.injEq] at hs'
  constructor
  · intro hnormal
    refine namesHost_of_unslashed ?_ ?_
    · rw [← hd]
      exact hnormal.scheme
    · rw [← hd]
      exact hnormal.trimmed.back
  · intro hhost
    obtain ⟨hscheme, hback⟩ := unslashed_of_namesHost hhost
    rw [← hd] at hscheme hback
    refine normal_of_trimmed hscheme ⟨fun c hc => ?_, hback⟩ ?_
    · rw [hd] at hc
      exact (Text.trimmed_trim s).front c (Text.head?_of_rdropWhile hc)
    · rw [hd]
      exact getLast?_unslashed

/-! ## Settings with a domain -/

variable {location : List String} {entries : List (String × Value)} {h : Hosting}

theorem exists_of_setting {outer : List String} {name : String} {α : Type}
    {read : Value → Except Complaint.Cause α} {a : α}
    (h : setting outer entries name none read = .valid a) :
    ∃ v, entries.lookup name = some v ∧ read v = .ok a := by
  cases hlookup : entries.lookup name with
  | some v => exact ⟨v, rfl, (setting_eq_valid hlookup).mp h⟩
  | none =>
    unfold setting at h
    rw [hlookup] at h
    cases h

theorem checkHosting_eq_valid_iff : checkHosting location entries = .valid h ↔
    setting location entries "domain" none asDomain = .valid h.domain ∧
      setting location entries "email" none asWord = .valid h.email ∧
      setting location entries "password" none asWord = .valid h.password := by
  unfold checkHosting
  simp only [Checked.seq_eq_valid_iff, Checked.map_eq_valid_iff]
  constructor
  · rintro ⟨_, _, ⟨_, _, ⟨_, h₁, rfl⟩, h₂, rfl⟩, h₃, rfl⟩
    exact ⟨h₁, h₂, h₃⟩
  · rintro ⟨h₁, h₂, h₃⟩
    exact ⟨_, _, ⟨_, _, ⟨_, h₁, rfl⟩, h₂, rfl⟩, h₃, rfl⟩

/-- The settings with another domain. -/
def withDomain (entries : List (String × Value)) (d : String) : List (String × Value) :=
  Json.setKey "domain" (.text d) entries

theorem setting_withDomain {α : Type} {name : String} {default : Option α}
    {read : Value → Except Complaint.Cause α} (hname : name ≠ "domain") :
    setting location (withDomain entries d) name default read =
      setting location entries name default read := by
  unfold setting withDomain
  rw [Json.lookup_setKey, if_neg hname]

/-- A domain that is stored as it is makes no difference to the settings that it is stored in. -/
theorem checkHosting_withDomain (hvalid : checkHosting location entries = .valid h) :
    checkHosting location (withDomain entries h.domain) = .valid h ↔
      asDomain (.text h.domain) = .ok h.domain := by
  obtain ⟨-, hemail, hpassword⟩ := checkHosting_eq_valid_iff.mp hvalid
  have hlookup : (withDomain entries h.domain).lookup "domain" = some (.text h.domain) := by
    unfold withDomain
    rw [Json.lookup_setKey, if_pos rfl]
  rw [checkHosting_eq_valid_iff, setting_eq_valid hlookup, setting_withDomain (by decide),
    setting_withDomain (by decide)]
  exact and_iff_left ⟨hemail, hpassword⟩

/-- **What is stored for a given domain.** -/
structure Stored (location : List String) (entries : List (String × Value)) (h : Hosting)
    (given : String) : Prop where
  accepted : HasScheme (Text.trim given).toList
  /-- No slash is at the end, so a session with this domain takes it as it is. -/
  slash : h.domain.toList.getLast? ≠ some '/'
  session : ∀ timeout replies, (Server.Session.start h.domain timeout replies).domain = h.domain
  /-- The settings are checked to the same if they are given with what is stored. -/
  again : checkHosting location (withDomain entries h.domain) = .valid h ↔
    NamesHost (Text.trim given).toList
  normal : Normal h.domain ↔ NamesHost (Text.trim given).toList

/-- **When a domain is normalised once and for all**: of all domains that are accepted, those that
name a host. -/
theorem checkHosting_normal_iff (hvalid : checkHosting location entries = .valid h) :
    ∃ v given, entries.lookup "domain" = some v ∧ asText v = .ok given ∧
      Stored location entries h given := by
  obtain ⟨v, hlookup, hdomain⟩ := exists_of_setting (checkHosting_eq_valid_iff.mp hvalid).1
  obtain ⟨given, hgiven, -, hscheme, hd⟩ := asDomain_eq_ok_iff.mp hdomain
  have hslash : h.domain.toList.getLast? ≠ some '/' := by
    rw [hd]
    exact getLast?_unslashed
  have hnormal := asDomain_normal_iff hgiven hdomain
  refine ⟨v, given, hlookup, hgiven, hscheme, hslash, fun timeout replies => ?_, ?_, hnormal⟩
  · show String.ofList (unslashed h.domain.toList) = h.domain
    rw [unslashed_of_back hslash, String.ofList_toList]
  · rw [checkHosting_withDomain hvalid, ← hnormal]
    exact ⟨normal_of_again, Normal.again⟩

/-- The settings of a server at a domain. -/
def serverAt (domain : String) : List (String × Value) :=
  [("domain", .text domain), ("email", .text "a@b.c"), ("password", .text "pw")]

theorem checkHosting_normal_iff_slashes :
    checkHosting [] (serverAt " https://pb.example.com// ") =
        .valid ⟨"https://pb.example.com", "a@b.c", "pw"⟩ ∧
      ∃ v given, (serverAt " https://pb.example.com// ").lookup "domain" = some v ∧
        asText v = .ok given ∧ Stored [] (serverAt " https://pb.example.com// ")
          ⟨"https://pb.example.com", "a@b.c", "pw"⟩ given := by
  have hvalid : checkHosting [] (serverAt " https://pb.example.com// ") =
      .valid ⟨"https://pb.example.com", "a@b.c", "pw"⟩ := rfl
  exact ⟨hvalid, checkHosting_normal_iff hvalid⟩

/-- The slashes of a scheme without a host are dropped, and what is left is none. -/
theorem not_normal_schemeOnly :
    ∃ h, checkHosting [] (serverAt "http://") = .valid h ∧ ¬ Normal h.domain := by
  refine ⟨⟨"http:", "a@b.c", "pw"⟩, rfl, fun hnormal => ?_⟩
  obtain ⟨scheme, hscheme, hbegins⟩ := hnormal.scheme
  have hnone : ∀ scheme ∈ schemes, ¬ scheme <+: "http:".toList := by decide
  exact hnone scheme hscheme hbegins

end SchemaModels.Settings
