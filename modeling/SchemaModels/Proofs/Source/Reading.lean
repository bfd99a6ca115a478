import SchemaModels.Proofs.Source.Words
import SchemaModels.Source.Readable

/-!
# Reading statements

`read` takes a source apart into its lines and reads each as a statement: a docstring, an import
from the package that the source lies in, or a list of texts under a name. Names come out in their
composed form. Anything else is refused.

`Reads cs ss rest` says that a text begins with lines that read as these statements. Each form of a
statement has a lemma for its text: `readsLine_docstring`, `readsLine_import`, `readsLine_texts`.
`read_of_reads` has it for a whole source.
-/

namespace SchemaModels.Source

open Hint (Token Place Splits Plain Ends tokens unifyLineEnds Clean)

/-! ## The reader -/

/-- The words of each line. What follows the last line end must be empty. -/
def wordLines (line : List Token) : List Token → Option (List (List Token))
  | [] => if line.isEmpty then some [] else none
  | .lineEnd :: rest => (line :: ·) <$> wordLines [] rest
  | t :: rest => wordLines (line ++ [t]) rest

/-- Names with commas between them. -/
def readNames : List Token → Option (List String)
  | [.name n] => some [n]
  | .name n :: .sign "," :: rest => (n :: ·) <$> readNames rest
  | _ => none

/-- Texts up to the closing bracket; a comma may come after the last one. -/
def readTexts : List Token → Option (List String)
  | [.sign "]"] => some []
  | [.text s, .sign "]"] => some [s]
  | .text s :: .sign "," :: rest => (s :: ·) <$> readTexts rest
  | _ => none

/-- The statement that a line is. -/
def readLine : List Token → Option Statement
  | [.text s] => some (.docstring s)
  | .keyword "from" :: .sign "." :: .keyword "import" :: rest =>
    .importNames 1 none <$> readNames rest
  | .keyword "from" :: .sign "." :: .name m :: .keyword "import" :: rest =>
    .importNames 1 (some m) <$> readNames rest
  | .name target :: .sign "=" :: .sign "[" :: rest =>
    (fun texts => .assign target (.list (texts.map .text))) <$> readTexts rest
  | _ => none

/-- The statements of a source. No source holds a NUL. -/
def read (source : String) : Option (List Statement) :=
  if source.toList.contains (Char.ofNat 0) then none
  else (wordLines [] (tokens (unifyLineEnds source.toList))).bind (·.mapM readLine)

/-! ## Lines -/

/-- A text begins with a line that reads as a statement. -/
def ReadsLine (cs : List Char) (s : Statement) (rest : List Char) : Prop :=
  ∃ words, Token.lineEnd ∉ words ∧ readLine words = some s ∧
    Splits ⟨[], true, cs⟩ (words ++ [.lineEnd]) ⟨[], true, rest⟩

/-- **A text begins with lines that read as these statements**, empty lines apart. -/
inductive Reads : List Char → List Statement → List Char → Prop
  | refl (cs : List Char) : Reads cs [] cs
  | line {cs mid rest : List Char} {s : Statement} {ss : List Statement} :
      ReadsLine cs s mid → Reads mid ss rest → Reads cs (s :: ss) rest
  | emptyLine {mid rest : List Char} {ss : List Statement} :
      Reads mid ss rest → Reads ('\n' :: mid) ss rest

theorem Reads.trans {cs mid rest : List Char} {ss us : List Statement} (h : Reads cs ss mid)
    (h' : Reads mid us rest) : Reads cs (ss ++ us) rest := by
  induction h with
  | refl _ => exact h'
  | line hline _ ih => exact .line hline (ih h')
  | emptyLine _ ih => exact .emptyLine (ih h')

/-- Texts that read as one statement each read as all of them. -/
theorem Reads.flatMap {α : Type} {text : α → List Char} {statement : α → Statement} {xs : List α}
    (h : ∀ x ∈ xs, ∀ rest, ReadsLine (text x ++ rest) (statement x) rest) (rest : List Char) :
    Reads (xs.flatMap text ++ rest) (xs.map statement) rest := by
  induction xs with
  | nil => exact .refl rest
  | cons x xs ih =>
    rw [List.flatMap_cons, List.append_assoc]
    obtain ⟨hx, hxs⟩ := List.forall_mem_cons.mp h
    exact .line (hx _) (ih hxs)

theorem wordLines_append {words : List Token} (h : Token.lineEnd ∉ words) (line rest : List Token) :
    wordLines line (words ++ .lineEnd :: rest) = ((line ++ words) :: ·) <$> wordLines [] rest := by
  induction words generalizing line with
  | nil =>
    rw [List.nil_append, List.append_nil, wordLines]
  | cons t words ih =>
    rw [List.mem_cons, not_or] at h
    rw [List.cons_append, wordLines, ih h.2, List.append_assoc]
    · rfl
    · exact fun ht => h.1 ht.symm

/-- The words of a text that reads as statements are those of lines that do. -/
theorem Reads.splits {cs rest : List Char} {ss : List Statement} (h : Reads cs ss rest) :
    ∃ words, Splits ⟨[], true, cs⟩ words ⟨[], true, rest⟩ ∧
      (wordLines [] words).bind (·.mapM readLine) = some ss := by
  induction h with
  | refl cs => exact ⟨[], .refl _, rfl⟩
  | @line cs mid rest s ss hline _ ih =>
    obtain ⟨line, hfree, hread, hsplits⟩ := hline
    obtain ⟨words, hwords, hlines⟩ := ih
    refine ⟨line ++ [.lineEnd] ++ words, hsplits.trans hwords, ?_⟩
    obtain ⟨lines, hlines, hss⟩ := Option.bind_eq_some_iff.mp hlines
    rw [List.append_assoc, List.singleton_append, wordLines_append hfree, hlines]
    simp [hread, hss]
  | emptyLine _ ih =>
    obtain ⟨words, hwords, hlines⟩ := ih
    exact ⟨words, Hint.splits_emptyLine.trans hwords, hlines⟩

/-- **A source reads as statements** if its text does. -/
theorem read_of_reads {source : String} {ss : List Statement} (hclean : Clean source)
    (h : Reads source.toList ss []) : read source = some ss := by
  obtain ⟨words, hwords, hlines⟩ := h.splits
  have hnul : ¬ source.toList.contains (Char.ofNat 0) = true := by simpa using hclean.nul
  unfold read
  rw [if_neg hnul, Hint.unifyLineEnds_eq hclean.line, Hint.tokens_of_splits hwords, hlines]

/-! ## Imports -/

open Hint (splits_name splits_keyword splits_blank splits_comma splits_word ends_cons isNameStart
  isNameCharacter isGap word signs)

theorem ends_blank {rest : List Char} : Ends (' ' :: rest) := ends_cons (by decide)

theorem ends_lineEnd {rest : List Char} : Ends ('\n' :: rest) := ends_cons (by decide)

/-- A name begins with a character that begins names. -/
theorem head_of_plain {s : String} (h : Plain s) :
    ∃ c cs, s.toList = c :: cs ∧ isNameStart c = true := by
  have hid := h.identifier
  cases hs : s.toList with
  | nil =>
    rw [hs] at hid
    cases hid
  | cons c cs =>
    rw [hs, Text.isIdentifier, Bool.and_eq_true] at hid
    exact ⟨c, cs, rfl, Hint.isNameStart_of_start hid.1⟩

/-- **An identifier reads as one name.** -/
theorem isName_of_plain {s : String} (h : Plain s) : isName s = true := by
  obtain ⟨c, cs, hs, hc⟩ := head_of_plain h
  have hindent : isIndent c = false := by
    have hall : ∀ d, isIndent d = true → isNameStart d = false := by
      intro d hd
      simp only [isIndent, Bool.or_eq_true, beq_iff_eq] at hd
      rcases hd with (rfl | rfl) | rfl
      · decide
      · decide
      · decide
    cases hd : isIndent c with
    | false => rfl
    | true =>
      rw [hall c hd] at hc
      cases hc
  have hkept : s.toList.dropWhile isIndent = s.toList := by
    rw [hs, List.dropWhile_cons_of_neg (by simp [hindent])]
  have hcomment : '#' ∉ s.toList := fun hmem =>
    absurd (Hint.isNameCharacter_of_isIdentifier h.identifier _ hmem) (by decide)
  unfold isName
  rw [hkept, String.ofList_toList, Hint.parse_plain h]
  simpa using hcomment

/-- No blank begins a name. -/
theorem isGap_of_plain {s : String} (h : Plain s) {rest : List Char} {d : Char}
    (hd : (s.toList ++ rest).head? = some d) : isGap d = false := by
  obtain ⟨c, cs, hs, hc⟩ := head_of_plain h
  rw [hs, List.cons_append, List.head?_cons, Option.some.injEq] at hd
  exact hd ▸ (Hint.plain_start hc).2.2.2.2.2

theorem isDigit_of_start {c : Char} (h : isNameStart c = true) : c.isDigit = false := by
  by_cases hlt : c.toNat < 128
  · have hc : isNameStart c = true → c.isDigit = false := Text.forall_ascii hlt (by decide)
    exact hc h
  · simp only [Char.isDigit, Bool.and_eq_false_iff, decide_eq_false_iff_not]
    refine Or.inr fun hle => hlt ?_
    have hle : c.toNat ≤ 57 := hle
    omega

/-- A dot is one word before a blank and before a name. -/
theorem splits_dot {stack : List String} {fresh : Bool} {c : Char} {rest : List Char}
    (hc : c = ' ' ∨ isNameStart c = true) :
    Splits ⟨stack, fresh, '.' :: c :: rest⟩ [.sign "."] ⟨stack, false, c :: rest⟩ := by
  have hne : '.' ≠ c ∧ c.isDigit = false := by
    rcases hc with rfl | hc
    · decide
    · refine ⟨?_, isDigit_of_start hc⟩
      rintro rfl
      exact absurd hc (by decide)
  have hword : word ('.' :: c :: rest) = .ok (.sign ".", c :: rest) := by
    have hfind : signs.find? (fun s => s.toList.isPrefixOf ('.' :: c :: rest)) = some "." := by
      simp [signs, List.isPrefixOf, hne.1]
    unfold word
    simp [hne.2, hfind, isNameStart, String.length]
  exact splits_word [] (by decide) hword rfl

/-- The words of names with commas between them. -/
def nameWords : List String → List Token
  | [] => []
  | [n] => [.name (Text.compat n)]
  | n :: ns => .name (Text.compat n) :: .sign "," :: nameWords ns

theorem readNames_nameWords {names : List String} (hne : names ≠ []) :
    readNames (nameWords names) = some (names.map Text.compat) := by
  induction names with
  | nil => exact absurd rfl hne
  | cons n names ih =>
    cases names with
    | nil => rfl
    | cons k names =>
      rw [nameWords, readNames, ih (List.cons_ne_nil k names)]
      · rfl
      · exact List.cons_ne_nil k names

theorem lineEnd_not_mem_nameWords (names : List String) : Token.lineEnd ∉ nameWords names := by
  induction names with
  | nil => exact List.not_mem_nil
  | cons n names ih =>
    cases names with
    | nil => simp [nameWords]
    | cons k names => simpa [nameWords] using ih

/-- Names with commas between them begin with a name. -/
theorem isGap_of_names {names : List String} (h : ∀ n ∈ names, Plain n) (hne : names ≠ [])
    {rest : List Char} {d : Char}
    (hd : ((", ".intercalate names).toList ++ rest).head? = some d) : isGap d = false := by
  cases names with
  | nil => exact absurd rfl hne
  | cons n names =>
    have hn := h n List.mem_cons_self
    cases names with
    | nil =>
      rw [String.intercalate_singleton] at hd
      exact isGap_of_plain hn hd
    | cons k names =>
      rw [String.intercalate_cons_cons, String.append_assoc, String.toList_append,
        List.append_assoc] at hd
      exact isGap_of_plain hn hd

/-- Names with commas between them are split into these words. -/
theorem splits_names {names : List String} (h : ∀ n ∈ names, Plain n) (hne : names ≠ [])
    {rest : List Char} :
    Splits ⟨[], false, (", ".intercalate names).toList ++ '\n' :: rest⟩ (nameWords names)
      ⟨[], false, '\n' :: rest⟩ := by
  induction names with
  | nil => exact absurd rfl hne
  | cons n names ih =>
    obtain ⟨hn, hnames⟩ := List.forall_mem_cons.mp h
    cases names with
    | nil =>
      rw [String.intercalate_singleton]
      exact splits_name hn ends_lineEnd
    | cons k names =>
      have hmore := List.cons_ne_nil k names
      rw [String.intercalate_cons_cons, String.toList_append, String.toList_append]
      simp only [List.append_assoc]
      rw [nameWords]
      · exact ((splits_name hn (ends_cons (by decide))).trans splits_comma).trans
          ((splits_blank fun d hd => isGap_of_names hnames hmore hd).trans (ih hnames hmore))
      · exact hmore

/-- The words of an import from a module of the package, or from the package itself. -/
def importWords (module : Option String) (names : List String) : List Token :=
  [.keyword "from", .sign "."] ++ (module.toList.map fun m => .name (Text.compat m)) ++
    .keyword "import" :: nameWords names

/-- An import begins with its first word and a dot after it. -/
theorem splits_from {rest : List Char} :
    Splits ⟨[], true, "from".toList ++ ' ' :: '.' :: rest⟩ [.keyword "from"]
      ⟨[], false, '.' :: rest⟩ :=
  (splits_keyword (by decide) (by decide) (by decide) ends_blank).trans
    (splits_blank fun d hd => by cases hd; decide)

/-- A module's name follows the dot. -/
theorem splits_dotName {m : String} (hm : Plain m) {rest : List Char} :
    Splits ⟨[], false, '.' :: (m.toList ++ ' ' :: rest)⟩ [.sign ".", .name (Text.compat m)]
      ⟨[], false, ' ' :: rest⟩ := by
  obtain ⟨c, cs, hcs, hc⟩ := head_of_plain hm
  have hdot := @splits_dot [] false c (cs ++ ' ' :: rest) (Or.inr hc)
  rw [← List.cons_append, ← hcs] at hdot
  exact hdot.trans (splits_name hm ends_blank)

/-- An import ends with the names that it takes. -/
theorem splits_importNames {names : List String} (hnames : ∀ n ∈ names, Plain n) (hne : names ≠ [])
    {rest : List Char} :
    Splits ⟨[], false, ' ' :: ("import".toList ++ ' ' :: ((", ".intercalate names).toList ++
        '\n' :: rest))⟩
      (.keyword "import" :: (nameWords names ++ [.lineEnd])) ⟨[], true, rest⟩ := by
  have himport : Splits ⟨[], false, ' ' :: ("import".toList ++ ' ' ::
      ((", ".intercalate names).toList ++ '\n' :: rest))⟩ [.keyword "import"]
      ⟨[], false, ' ' :: ((", ".intercalate names).toList ++ '\n' :: rest)⟩ :=
    (splits_blank fun d hd => by cases hd; decide).trans
      (splits_keyword (by decide) (by decide) (by decide) ends_blank)
  exact himport.trans ((splits_blank fun d hd => isGap_of_names hnames hne hd).trans
    ((splits_names hnames hne).trans Hint.splits_lineEnd))

/-- **An import from the package** reads as what it says. -/
theorem readsLine_import {module : Option String} {names : List String}
    (hmodule : ∀ m ∈ module, Plain m) (hnames : ∀ n ∈ names, Plain n) (hne : names ≠ [])
    (rest : List Char) :
    ReadsLine ((Statement.importText 1 module names).toList ++ '\n' :: rest)
      (.importNames 1 (module.map Text.compat) (names.map Text.compat)) rest := by
  refine ⟨importWords module names, ?_, ?_, ?_⟩
  · cases module with
    | none => simpa [importWords] using lineEnd_not_mem_nameWords names
    | some m => simpa [importWords] using lineEnd_not_mem_nameWords names
  · cases module with
    | none => simp [importWords, readLine, readNames_nameWords hne]
    | some m => simp [importWords, readLine, readNames_nameWords hne]
  · cases module with
    | none =>
      have htext : (Statement.importText 1 none names).toList ++ '\n' :: rest =
          "from".toList ++ ' ' :: '.' :: ' ' :: ("import".toList ++ ' ' ::
            ((", ".intercalate names).toList ++ '\n' :: rest)) := by
        simp [Statement.importText]
      rw [htext]
      exact splits_from.trans ((splits_dot (Or.inl rfl)).trans (splits_importNames hnames hne))
    | some m =>
      have htext : (Statement.importText 1 (some m) names).toList ++ '\n' :: rest =
          "from".toList ++ ' ' :: '.' :: (m.toList ++ ' ' :: ("import".toList ++ ' ' ::
            ((", ".intercalate names).toList ++ '\n' :: rest))) := by
        simp [Statement.importText]
      rw [htext]
      exact splits_from.trans
        ((splits_dotName (hmodule m rfl)).trans (splits_importNames hnames hne))

/-! ## Docstrings and texts -/

/-- **A docstring** reads as its text. -/
theorem readsLine_docstring (s : String) (rest : List Char) :
    ReadsLine ((Literal.docstring s).chars ++ '\n' :: rest) (.docstring s) rest :=
  ⟨[.text s], by simp, rfl, (Hint.splits_literal (.docstring s) (by simp [Opens])).trans
    Hint.splits_lineEnd⟩

/-- A text on a line of its own inside a list. -/
def textLine (s : String) : List Char :=
  "    ".toList ++ ((Literal.text s).chars ++ [',', '\n'])

/-- The words of texts with a comma after each. -/
def textWords (texts : List String) : List Token :=
  texts.flatMap fun s => [.text s, .sign ","]

theorem readTexts_textWords (texts : List String) :
    readTexts (textWords texts ++ [.sign "]"]) = some texts := by
  induction texts with
  | nil => rfl
  | cons s texts ih =>
    show readTexts (.text s :: .sign "," :: (textWords texts ++ [.sign "]"])) = _
    rw [readTexts, ih]
    rfl

/-- Texts on lines of their own are split into these words. -/
theorem splits_texts (texts : List String) (rest : List Char) :
    Splits ⟨["]"], false, texts.flatMap textLine ++ rest⟩ (textWords texts)
      ⟨["]"], false, rest⟩ := by
  induction texts with
  | nil => exact .refl _
  | cons s texts ih =>
    obtain ⟨q, cs, hq, hchars⟩ := (Literal.text s).chars_eq_cons
    have hgap : ∀ {more : List Char} d, ((Literal.text s).chars ++ more).head? = some d →
        isGap d = false := fun d hd => by
      rw [hchars, List.cons_append, List.head?_cons, Option.some.injEq] at hd
      subst hd
      rcases hq with rfl | rfl
      · rfl
      · rfl
    rw [List.flatMap_cons, textLine]
    simp only [List.append_assoc]
    exact (Hint.splits_gap _ (by decide) hgap).trans
      ((Hint.splits_literal _ (by simp [Opens])).trans
      (splits_comma.trans (Hint.splits_break.trans ih)))

/-- **A list of texts under a name** reads as these texts. -/
theorem readsLine_texts {target : String} (h : Plain target) (texts : List String)
    (rest : List Char) :
    ReadsLine (target.toList ++
      (" = [\n".toList ++ (texts.flatMap textLine ++ ("]\n".toList ++ rest))))
      (.assign (Text.compat target) (.list (texts.map .text))) rest := by
  refine ⟨.name (Text.compat target) :: .sign "=" :: .sign "[" :: (textWords texts ++ [.sign "]"]),
    ?_, ?_, ?_⟩
  · simp [textWords]
  · simp [readLine, readTexts_textWords]
  · have hassign : ∀ {cs : List Char}, Splits ⟨[], false, " = [\n".toList ++ cs⟩
        [.sign "=", .sign "["] ⟨["]"], false, cs⟩ :=
      (splits_blank fun d hd => by cases hd; decide).trans
        ((Hint.splits_sign (c := '=') (by decide) rfl rfl).trans
          ((splits_blank fun d hd => by cases hd; decide).trans
            ((Hint.splits_open Hint.room_nil).trans Hint.splits_break)))
    have hclose : Splits ⟨["]"], false, "]\n".toList ++ rest⟩ [.sign "]", .lineEnd]
        ⟨[], true, rest⟩ := Hint.splits_close.trans Hint.splits_lineEnd
    have htexts := (splits_texts texts _).trans hclose
    rw [List.cons_append, List.cons_append, List.cons_append, List.append_assoc]
    exact (splits_name h ends_blank).trans (hassign.trans htexts)

end SchemaModels.Source
