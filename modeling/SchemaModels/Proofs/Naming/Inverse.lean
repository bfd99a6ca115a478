import SchemaModels.Proofs.Naming.Legal
import SchemaModels.Proofs.Naming.Letters

/-!
# Snake case and camel case are inverse on ordinary names

`identifier` leaves the underscores of a name out and `snakeCase` puts them back, but only where a
capital follows a small letter or a digit. So it puts them all back if no part behind the first has
another spelling than its own, and none between two others is a lone letter, which would stand as a
capital next to a capital: `snakeCase_identifier` says so of every `Ordinary` list of parts.
Ordinary names that give one member are therefore one name (`eq_of_memberName`): a member name has
an underscore only at the end, where it tells it from a reserved name.
-/

namespace SchemaModels.Naming

open Text (IsAscii IsWordly)

/-! ## Ordinary names -/

/-- A part of a name: a small letter, then small letters and digits. -/
structure IsPart (cs : List Char) : Prop where
  head : ∃ c ∈ cs.head?, IsSmall c
  all : ∀ c ∈ cs, isSmallOrDigit c = true

instance : (cs : List Char) → Decidable (IsPart cs)
  | [] => isFalse fun h => by simpa using h.head
  | c :: cs => decidable_of_iff (IsSmall c ∧ ∀ d ∈ c :: cs, isSmallOrDigit d = true)
      ⟨fun h => ⟨⟨c, rfl, h.1⟩, h.2⟩, fun h => ⟨by simpa using h.head, h.all⟩⟩

/-- **Ordinary parts.** None behind the first is a spelling of "date time", and those between the
first and the last have two characters at least. -/
structure Ordinary (parts : List String) : Prop where
  nonempty : parts ≠ []
  made : ∀ p ∈ parts, IsPart p.toList
  spelled : ∀ p ∈ parts.tail, p ≠ "datetime"
  long : ∀ p ∈ parts.tail.dropLast, 2 ≤ p.length

/-- The name is joined from ordinary parts. -/
def IsOrdinary (name : String) : Prop := ∃ parts, Ordinary parts ∧ name = "_".intercalate parts

variable {c : Char} {cs : List Char} {s : String} {parts : List String}

/-- What holds of small letters and digits. -/
theorem of_smallOrDigit (h : isSmallOrDigit c = true) :
    IsWordly c ∧ c ≠ '_' ∧ isCapital c = false ∧ c.toLower = c := by
  have hascii : c.toNat < 128 := by
    simp only [isSmallOrDigit, Bool.or_eq_true, Bool.and_eq_true, decide_eq_true_eq] at h
    rcases h with ⟨-, h⟩ | ⟨-, h⟩
    · exact Nat.lt_of_le_of_lt h (by decide)
    · exact Nat.lt_of_le_of_lt h (by decide)
  revert h
  exact Text.forall_ascii hascii (by decide)

/-- What holds of the capital of a small letter. -/
theorem of_toUpper_small (h : IsSmall c) :
    c.toNat < 128 ∧ isCapital c.toUpper = true ∧ c.toUpper.toLower = c := by
  have hascii : c.toNat < 128 := Nat.lt_of_le_of_lt h.2 (by decide)
  revert h
  exact Text.forall_ascii hascii (by decide)

/-- A part and the part with its first letter in upper case. -/
theorem IsPart.raised (h : IsPart cs) : ∃ c ds, cs = c :: ds ∧ IsSmall c ∧
    (∀ d ∈ ds, isSmallOrDigit d = true) ∧ raised cs = c.toUpper :: ds := by
  obtain ⟨c, hc, hsmall⟩ := h.head
  cases cs with
  | nil => cases hc
  | cons d ds =>
    rw [List.head?_cons, Option.mem_some_iff] at hc
    subst hc
    refine ⟨d, ds, rfl, hsmall, (List.forall_mem_cons.mp h.all).2, ?_⟩
    unfold Naming.raised Text.upperChar
    simp [(of_toUpper_small hsmall).1]

theorem IsPart.free (h : IsPart cs) : '_' ∉ cs := fun hmem =>
  (of_smallOrDigit (h.all _ hmem)).2.1 rfl

/-- A part has one spelling of "date time" at most. -/
theorem IsPart.not_mem_dateTimeSpellings (h : IsPart s.toList) (hs : s ≠ "datetime") :
    s ∉ dateTimeSpellings := by
  have hspellings : ∀ w ∈ dateTimeSpellings,
      w = "datetime" ∨ w.toList.all isSmallOrDigit = false := by decide
  intro hmem
  rcases hspellings s hmem with heq | hno
  · exact hs heq
  · rw [List.all_eq_true.mpr h.all] at hno
    cases hno

/-! ## Joining -/

theorem pieces_append_underscore (h : '_' ∉ cs) (ds : List Char) :
    pieces (cs ++ '_' :: ds) = cs :: pieces ds := by
  induction cs with
  | nil => rw [List.nil_append, pieces, if_pos rfl]
  | cons c cs ih =>
    rw [List.mem_cons, not_or] at h
    rw [List.cons_append, pieces, if_neg (Ne.symm h.1), ih h.2]

/-- The pieces of a name are its parts. -/
theorem pieces_intercalate (hne : parts ≠ []) (h : ∀ p ∈ parts, '_' ∉ p.toList) :
    pieces ("_".intercalate parts).toList = parts.map String.toList := by
  induction parts with
  | nil => exact absurd rfl hne
  | cons p ps ih =>
    obtain ⟨hp, hps⟩ := List.forall_mem_cons.mp h
    cases ps with
    | nil => exact pieces_of_free hp
    | cons q qs =>
      rw [String.intercalate_cons_cons, String.toList_append, String.toList_append,
        List.append_assoc]
      exact (pieces_append_underscore hp _).trans
        (congrArg (p.toList :: ·) (ih (List.cons_ne_nil q qs) hps))

/-- **A name is joined** with the first letter of every part but the first in upper case. -/
theorem toList_identifier_intercalate {p : String} {ps : List String} (h : Ordinary (p :: ps)) :
    (identifier ("_".intercalate (p :: ps))).toList =
      p.toList ++ ps.flatMap fun q => raised q.toList := by
  have hpieces := pieces_intercalate h.nonempty fun q hq => (h.made q hq).free
  have hfilter : (pieces ("_".intercalate (p :: ps)).toList).filter (!·.isEmpty) =
      p.toList :: ps.map String.toList := by
    rw [hpieces, List.map_cons]
    refine List.filter_eq_self.mpr fun cs hcs => ?_
    obtain ⟨q, hq, rfl⟩ := List.mem_map.mp (List.map_cons ▸ hcs : cs ∈ (p :: ps).map String.toList)
    obtain ⟨c, ds, heq, -⟩ := (h.made q hq).raised
    rw [heq]
    rfl
  rw [toList_identifier, joined, hfilter, row, List.flatMap_cons, String.toList_ofList]
  refine congrArg (p.toList ++ ·) ?_
  rw [List.map_map, List.flatMap_map]
  refine List.flatMap_congr fun q hq => ?_
  have hspelling := (h.made q (List.mem_cons_of_mem p hq)).not_mem_dateTimeSpellings
    (h.spelled q hq)
  simp only [Function.comp_apply, String.ofList_toList]
  exact toList_capitalized hspelling

/-! ## Putting underscores back -/

/-- Before a capital that follows a small letter or a digit there is an underscore put. -/
theorem separate_append {a b : Char} {body : List Char} (rest : List Char)
    (hbody : ∀ c ∈ body, isSmallOrDigit c = true)
    (hlast : isSmallOrDigit ((a :: body).getLast (List.cons_ne_nil a body)) = true)
    (hb : isCapital b = true) :
    separate (a :: body ++ b :: rest) = a :: body ++ '_' :: separate (b :: rest) := by
  induction body generalizing a with
  | nil =>
    have ha : isSmallOrDigit a = true := hlast
    rw [List.singleton_append, separate, ha, hb]
    rfl
  | cons d ds ih =>
    obtain ⟨hd, hds⟩ := List.forall_mem_cons.mp hbody
    rw [List.getLast_cons (List.cons_ne_nil d ds)] at hlast
    rw [List.cons_append, List.cons_append, separate, (of_smallOrDigit hd).2.2.1, Bool.and_false,
      if_neg Bool.false_ne_true, ← List.cons_append, ih hds hlast]
    rfl

theorem separate_of_body {a : Char} {body : List Char}
    (hbody : ∀ c ∈ body, isSmallOrDigit c = true) : separate (a :: body) = a :: body := by
  cases body with
  | nil => rfl
  | cons d ds =>
    rw [separate, (of_smallOrDigit (hbody d List.mem_cons_self)).2.2.1, Bool.and_false,
      if_neg Bool.false_ne_true, separate_of_no_capital]
    exact fun c hc => (of_smallOrDigit (hbody c hc)).2.2.1

theorem last_smallOrDigit {a : Char} {body : List Char} (hne : body ≠ [])
    (hbody : ∀ c ∈ body, isSmallOrDigit c = true) :
    isSmallOrDigit ((a :: body).getLast (List.cons_ne_nil a body)) = true := by
  rw [List.getLast_cons hne]
  exact hbody _ (List.getLast_mem hne)

/-- **Underscores are put back** before each of the parts. The part before may begin with a capital,
if something follows in it. -/
theorem separate_parts {a : Char} {body : List Char} {ps : List (List Char)}
    (hbody : ∀ c ∈ body, isSmallOrDigit c = true) (hps : ∀ p ∈ ps, IsPart p)
    (hlast : ps ≠ [] → isSmallOrDigit ((a :: body).getLast (List.cons_ne_nil a body)) = true)
    (hlong : ∀ p ∈ ps.dropLast, 2 ≤ p.length) :
    separate (a :: body ++ ps.flatMap raised) =
      a :: body ++ ps.flatMap fun p => '_' :: raised p := by
  induction ps generalizing a body with
  | nil =>
    rw [List.flatMap_nil, List.flatMap_nil, List.append_nil]
    exact separate_of_body hbody
  | cons p ps ih =>
    obtain ⟨hp, hrest⟩ := List.forall_mem_cons.mp hps
    obtain ⟨c, ds, rfl, hc, hds, hraised⟩ := hp.raised
    have hnext : ps ≠ [] →
        isSmallOrDigit ((c.toUpper :: ds).getLast (List.cons_ne_nil _ ds)) = true := by
      intro hne
      rw [List.dropLast_cons_of_ne_nil hne] at hlong
      have hlen := hlong _ List.mem_cons_self
      exact last_smallOrDigit (by rintro rfl; simp at hlen) hds
    have hlong' : ∀ q ∈ ps.dropLast, 2 ≤ q.length := by
      intro q hq
      refine hlong q ?_
      rw [List.dropLast_cons_of_ne_nil (by rintro rfl; cases hq)]
      exact List.mem_cons_of_mem _ hq
    calc separate (a :: body ++ ((c :: ds) :: ps).flatMap raised)
      _ = separate (a :: body ++ c.toUpper :: (ds ++ ps.flatMap raised)) := by
        rw [List.flatMap_cons, hraised]
        rfl
      _ = a :: body ++ '_' :: separate (c.toUpper :: ds ++ ps.flatMap raised) :=
        separate_append _ hbody (hlast (List.cons_ne_nil _ ps)) (of_toUpper_small hc).2.1
      _ = a :: body ++ ((c :: ds) :: ps).flatMap fun p => '_' :: raised p := by
        rw [ih hds hrest hnext hlong', List.flatMap_cons, hraised]
        rfl

/-! ## The inverse -/

theorem toList_intercalate (p : String) (ps : List String) :
    ("_".intercalate (p :: ps)).toList = p.toList ++ ps.flatMap fun q => '_' :: q.toList := by
  induction ps generalizing p with
  | nil => exact (List.append_nil p.toList).symm
  | cons q qs ih =>
    rw [String.intercalate_cons_cons, String.toList_append, String.toList_append, ih,
      List.append_assoc]
    rfl

theorem IsPart.map_toLower (h : IsPart cs) : cs.map Char.toLower = cs :=
  (List.map_congr_left fun c hc => (of_smallOrDigit (h.all c hc)).2.2.2).trans (List.map_id cs)

theorem IsPart.map_toLower_raised (h : IsPart cs) :
    (Naming.raised cs).map Char.toLower = cs := by
  have hlower := h.map_toLower
  obtain ⟨c, ds, rfl, hc, hds, hraised⟩ := h.raised
  rw [List.map_cons, List.cons.injEq] at hlower
  rw [hraised, List.map_cons, (of_toUpper_small hc).2.2, hlower.2]

/-- The characters of an ordinary name. -/
theorem Ordinary.characters (h : Ordinary parts) (hc : c ∈ ("_".intercalate parts).toList) :
    IsWordly c := by
  obtain ⟨p, ps, rfl⟩ := List.exists_cons_of_ne_nil h.nonempty
  have hpart : ∀ q ∈ p :: ps, ∀ c ∈ q.toList, IsWordly c := fun q hq c hc =>
    (of_smallOrDigit ((h.made q hq).all c hc)).1
  rw [toList_intercalate, List.mem_append, List.mem_flatMap] at hc
  rcases hc with hc | ⟨q, hq, hc⟩
  · exact hpart p List.mem_cons_self c hc
  · rcases List.mem_cons.mp hc with rfl | hc
    · decide
    · exact hpart q (List.mem_cons_of_mem p hq) c hc

/-- **Snake case and camel case are inverse** on ordinary names. -/
theorem snakeCase_identifier (h : Ordinary parts) :
    snakeCase (identifier ("_".intercalate parts)) = "_".intercalate parts := by
  have hascii : IsAscii (identifier ("_".intercalate parts)).toList :=
    ascii_of_wordly (all_identifier kept_wordly fun c hc => h.characters hc)
  rw [← String.toList_inj, toList_snakeCase hascii]
  obtain ⟨p, ps, rfl⟩ := List.exists_cons_of_ne_nil h.nonempty
  have hp := h.made p List.mem_cons_self
  obtain ⟨a, body, hsplit, ha, hbody, -⟩ := hp.raised
  have hrest : ∀ q ∈ ps.map String.toList, IsPart q := by
    intro q hq
    obtain ⟨t, ht, rfl⟩ := List.mem_map.mp hq
    exact h.made t (List.mem_cons_of_mem p ht)
  have hlast : ps.map String.toList ≠ [] →
      isSmallOrDigit ((a :: body).getLast (List.cons_ne_nil a body)) = true := by
    intro _
    refine hp.all _ ?_
    rw [hsplit]
    exact List.getLast_mem _
  have hlong : ∀ q ∈ (ps.map String.toList).dropLast, 2 ≤ q.length := by
    intro q hq
    rw [← List.map_dropLast] at hq
    obtain ⟨t, ht, rfl⟩ := List.mem_map.mp hq
    exact h.long t ht
  have hseparate := separate_parts hbody hrest hlast hlong
  rw [List.flatMap_map, List.flatMap_map, ← hsplit] at hseparate
  rw [toList_identifier_intercalate h, hseparate, List.map_append, hp.map_toLower,
    List.map_flatMap, toList_intercalate]
  refine congrArg (p.toList ++ ·) (List.flatMap_congr fun q hq => ?_)
  rw [List.map_cons, (h.made q (List.mem_cons_of_mem p hq)).map_toLower_raised]
  rfl

example : snakeCase (identifier "author_name2_x") = "author_name2_x" := by decide +kernel

/-- Where a capital meets a capital, the way back is lost. -/
example : snakeCase (identifier "author_x_name") = "author_xname" := by decide +kernel

/-! ## Members -/

/-- A word that tells itself from the reserved names is known by what it is told from. -/
theorem Word.inj {v w : String} (hv : Word v) (hw : Word w)
    (h : (if v ∈ reserved then v ++ "_" else v) = if w ∈ reserved then w ++ "_" else w) :
    v = w := by
  have hends : ∀ u : String, '_' ∈ (u ++ "_").toList := fun u => by
    rw [String.toList_append]
    exact List.mem_append_right _ (by decide)
  split at h <;> split at h
  · have htexts := congrArg String.toList h
    rw [String.toList_append, String.toList_append] at htexts
    exact String.toList_inj.mp (List.append_cancel_right htexts)
  · exact absurd (h ▸ hends v) hw.free
  · exact absurd (h ▸ hends w) hv.free
  · exact h

/-- The member name of an ordinary name is the name joined, with an underscore if that is
reserved. -/
theorem Ordinary.nameStem_eq (h : Ordinary parts) :
    nameStem "field" "f" ("_".intercalate parts) = identifier ("_".intercalate parts) := by
  have hcharacters : ∀ c ∈ ("_".intercalate parts).toList, IsWordly c := fun c hc => h.characters hc
  have htext : identifierText ("_".intercalate parts) = "_".intercalate parts := by
    have hkeep : (("_".intercalate parts).toList.map fun c =>
        if Text.isIdentifierPart c then c else '_') = ("_".intercalate parts).toList :=
      (List.map_congr_left fun c hc => if_pos (Text.part_of_wordly (hcharacters c hc))).trans
        (List.map_id _)
    rw [identifierText, Text.compatChars_ascii (ascii_of_wordly hcharacters), hkeep,
      String.ofList_toList]
  obtain ⟨p, ps, rfl⟩ := List.exists_cons_of_ne_nil h.nonempty
  obtain ⟨c, ds, hp, hc, -⟩ := (h.made p List.mem_cons_self).raised
  have hhead : (identifier ("_".intercalate (p :: ps))).toList.head? = some c := by
    rw [toList_identifier_intercalate h, hp]
    rfl
  have hbegins : beginsIdentifier (identifier ("_".intercalate (p :: ps))) = true :=
    beginsIdentifier_iff.mpr ⟨c, hhead, Text.start_of_letter (Or.inr (Or.inl hc))⟩
  have hempty : (identifier ("_".intercalate (p :: ps))).isEmpty = false := by
    rw [Bool.eq_false_iff, ne_eq, String.isEmpty_iff]
    intro hnil
    rw [hnil] at hhead
    cases hhead
  unfold nameStem
  simp only [htext, hempty, hbegins, if_true, Bool.false_eq_true, if_false]

/-- **Ordinary names of one member are one name**, reserved or not. -/
theorem eq_of_memberName {a b : String} (ha : IsOrdinary a) (hb : IsOrdinary b)
    (h : memberName a = memberName b) : a = b := by
  obtain ⟨parts, hparts, rfl⟩ := ha
  obtain ⟨parts', hparts', rfl⟩ := hb
  have hfield : Word "field" := ⟨by decide, by decide⟩
  have hlead : Word "f" := ⟨by decide, by decide⟩
  unfold memberName at h
  rw [safeIdentifier_eq_nameStem (by decide), safeIdentifier_eq_nameStem (by decide)] at h
  have hstems := (word_nameStem hfield hlead _).inj (word_nameStem hfield hlead _) h
  rw [hparts.nameStem_eq, hparts'.nameStem_eq] at hstems
  rw [← snakeCase_identifier hparts, hstems, snakeCase_identifier hparts']

end SchemaModels.Naming
