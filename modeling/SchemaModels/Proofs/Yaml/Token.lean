import SchemaModels.Proofs.Failure
import SchemaModels.Yaml.Token

/-!
# Failures of the reader

A text that is no YAML is told as such. There is one thing more that reading its tokens can stop at:
an escape in double quotes whose number no character has (`stopped_ofText`). Everything else that is
read in front of a value, and every other kind of scalar, can only be malformed.
-/

namespace SchemaModels.Yaml

variable {α β : Type}

/-- The text is told to be no YAML. -/
def Error.IsMalformed (e : Error) : Prop := ∃ reason, e = .malformed reason

theorem Error.not_isMalformed_fault (f : Fault) : ¬ IsMalformed (.fault f) := by
  rintro ⟨reason, h⟩
  cases h

/-- The number of an escape has no character, and this is how asking for it fails. -/
def Error.IsNoCharacter (e : Error) : Prop := ∃ n, Scalar.character? n = .error e

/-- What reading tokens can stop at. -/
def Error.StopsReader (e : Error) : Prop := e.IsMalformed ∨ e.IsNoCharacter

theorem malformed (reason : String) :
    FailsOnly Error.IsMalformed (.error (.malformed reason) : Except Error α) :=
  failsOnly_error_iff.mpr ⟨reason, rfl⟩

theorem stopped_of_malformed {x : Except Error α} (h : FailsOnly Error.IsMalformed x) :
    FailsOnly Error.StopsReader x :=
  h.mono fun _ => Or.inl

theorem malformed_endLine (c : Cursor) : FailsOnly Error.IsMalformed c.endLine := by
  unfold Cursor.endLine
  exact (failsOnly_ok _).ite (malformed _)

/-! ## Texts in quotes -/

namespace Scalar

theorem malformed_quotedBreaks (steps : Nat) (c : Cursor) :
    FailsOnly Error.IsMalformed (quotedBreaks steps c) := by
  induction steps generalizing c with
  | zero => exact failsOnly_ok _
  | succ steps ih =>
    unfold quotedBreaks
    refine (malformed _).ite ?_
    dsimp only
    split
    · exact failsOnly_ok _
    · exact ((ih _).bind fun _ => failsOnly_ok _).ite (failsOnly_ok _)

theorem malformed_quotedGap (c : Cursor) : FailsOnly Error.IsMalformed (quotedGap c) := by
  unfold quotedGap
  dsimp only
  split
  · exact malformed _
  · exact ((malformed_quotedBreaks _ _).bind fun _ => failsOnly_ok _).ite (failsOnly_ok _)

theorem stopped_escape (c : Cursor) : FailsOnly Error.StopsReader (escape c) := by
  unfold escape
  split
  · exact stopped_of_malformed (malformed _)
  · split
    · exact failsOnly_ok _
    · split
      · exact stopped_of_malformed (malformed _)
      · rename_i n _
        exact FailsOnly.bind (fun _ h => Or.inr ⟨n, h⟩) fun _ => failsOnly_ok _
    · exact stopped_of_malformed
        (((malformed_quotedBreaks _ _).bind fun _ => failsOnly_ok _).ite (malformed _))

theorem stopped_quotedFrom (double : Bool) (steps : Nat) (c : Cursor) :
    FailsOnly Error.StopsReader (quotedFrom double steps c) := by
  induction steps generalizing c with
  | zero => exact stopped_of_malformed (malformed _)
  | succ steps ih =>
    have hmore : ∀ {β : Type} (c : Cursor) (f : List (Option Char) × Cursor → β),
        FailsOnly Error.StopsReader (quotedFrom double steps c >>= fun a => .ok (f a)) :=
      fun c _ => (ih c).bind fun _ => failsOnly_ok _
    unfold quotedFrom
    split
    · exact stopped_of_malformed (malformed _)
    · refine .ite ?gap <| .ite ?quote <| .ite ?ending <| .ite ?backslash ?other
      case gap => exact (stopped_of_malformed (malformed_quotedGap _)).bind fun _ => hmore _ _
      case quote => exact hmore _ _
      case ending => exact failsOnly_ok _
      case backslash => exact (stopped_escape _).bind fun _ => hmore _ _
      case other => exact hmore _ _

theorem stopped_quoted (double : Bool) (c : Cursor) :
    FailsOnly Error.StopsReader (quoted double c) :=
  (stopped_quotedFrom _ _ _).bind fun _ => failsOnly_ok _

/-! ## Blocks of lines -/

theorem malformed_increment? (c : Cursor) : FailsOnly Error.IsMalformed (increment? c) := by
  unfold increment?
  split
  · exact (malformed _).ite ((failsOnly_ok _).ite (failsOnly_ok _))
  · exact failsOnly_ok _

theorem malformed_blockHead (c : Cursor) : FailsOnly Error.IsMalformed (blockHead c) := by
  unfold blockHead
  split
  · exact (malformed_increment? _).bind fun _ => failsOnly_ok _
  · refine (malformed_increment? _).bind fun _ => ?_
    split
    · exact failsOnly_ok _
    · split <;> exact failsOnly_ok _

theorem malformed_block (folded : Bool) (outer : Int) (c : Cursor) :
    FailsOnly Error.IsMalformed (block folded outer c) := by
  refine (malformed_blockHead _).bind ?_
  rintro ⟨_, _, _⟩
  exact (malformed _).ite ((malformed_endLine _).bind fun _ => failsOnly_ok _)

end Scalar

/-! ## What stands in front -/

namespace Property

theorem malformed_anchorName (c : Cursor) : FailsOnly Error.IsMalformed (anchorName c) := by
  unfold anchorName
  exact (malformed _).ite ((failsOnly_ok _).ite (malformed _))

theorem malformed_percentBytes (steps : Nat) (c : Cursor) :
    FailsOnly Error.IsMalformed (percentBytes steps c) := by
  induction steps generalizing c with
  | zero => exact failsOnly_ok _
  | succ steps ih =>
    unfold percentBytes
    refine FailsOnly.ite ?_ (failsOnly_ok _)
    split
    · exact malformed _
    · exact (ih _).bind fun _ => failsOnly_ok _

theorem malformed_tagChars (steps : Nat) (c : Cursor) :
    FailsOnly Error.IsMalformed (tagChars steps c) := by
  induction steps generalizing c with
  | zero => exact failsOnly_ok _
  | succ steps ih =>
    unfold tagChars
    split
    · exact failsOnly_ok _
    · refine .ite ?percent <| .ite ?plain (failsOnly_ok _)
      case percent =>
        refine (malformed_percentBytes _ _).bind ?_
        rintro ⟨bytes, _⟩
        dsimp only
        split
        · exact malformed _
        · exact (ih _).bind fun _ => failsOnly_ok _
      case plain => exact (ih _).bind fun _ => failsOnly_ok _

theorem malformed_tagText (c : Cursor) : FailsOnly Error.IsMalformed (tagText c) := by
  refine (malformed_tagChars _ _).bind ?_
  rintro ⟨_, _⟩
  exact (malformed _).ite (failsOnly_ok _)

theorem malformed_handle (c : Cursor) : FailsOnly Error.IsMalformed (handle c) := by
  unfold handle
  exact (malformed _).ite ((failsOnly_ok _).ite ((failsOnly_ok _).ite (malformed _)))

theorem malformed_tag (c : Cursor) : FailsOnly Error.IsMalformed (tag c) := by
  have hend : ∀ t c, FailsOnly Error.IsMalformed (if endsPart (Cursor.head c) then .ok (t, c)
      else .error (.malformed "expected ' ' after a tag") : Except Error (WrittenTag × Cursor)) :=
    fun _ _ => (failsOnly_ok _).ite (malformed _)
  unfold tag
  dsimp only
  split
  · refine (malformed_tagText _).bind ?_
    rintro ⟨_, _⟩
    exact .ite (hend _ _) ((malformed _).bind fun _ => hend _ _)
  · refine .ite (hend _ _) (.ite ?named ?unnamed)
    case named =>
      exact (malformed_handle _).bind fun _ => (malformed_tagText _).bind fun _ => hend _ _
    case unnamed => exact (malformed_tagText _).bind fun _ => hend _ _

theorem malformed_versionNumber (c : Cursor) : FailsOnly Error.IsMalformed (versionNumber c) := by
  unfold versionNumber
  exact (malformed _).ite (failsOnly_ok _)

theorem malformed_version (c : Cursor) : FailsOnly Error.IsMalformed (version c) := by
  refine (malformed_versionNumber _).bind ?_
  rintro ⟨_, _⟩
  refine (malformed _).ite ?_
  exact (malformed_versionNumber _).bind fun _ => (failsOnly_ok _).ite (malformed _)

theorem malformed_tagDirective (c : Cursor) : FailsOnly Error.IsMalformed (tagDirective c) := by
  refine (malformed_handle _).bind ?_
  rintro ⟨_, _⟩
  refine (malformed _).ite ?_
  exact (malformed_tagText _).bind fun _ => (failsOnly_ok _).ite (malformed _)

theorem malformed_directive (c : Cursor) : FailsOnly Error.IsMalformed (directive c) := by
  unfold directive
  refine (malformed _).ite ((malformed _).ite ?_)
  split
  · exact (malformed_version _).bind fun _ => (malformed_endLine _).bind fun _ => failsOnly_ok _
  · exact (malformed_tagDirective _).bind fun _ =>
      (malformed_endLine _).bind fun _ => failsOnly_ok _
  · exact (malformed_endLine _).bind fun _ => failsOnly_ok _

end Property

/-! ## Tokens -/

namespace Scan

variable {s : Scan} {t : Token}

theorem malformed_dropStale (s : Scan) : FailsOnly Error.IsMalformed s.dropStale := by
  unfold dropStale
  exact (malformed _).ite (failsOnly_ok _)

theorem malformed_dropKey (s : Scan) : FailsOnly Error.IsMalformed s.dropKey := by
  unfold dropKey
  split
  · exact failsOnly_ok _
  · exact (malformed _).ite (failsOnly_ok _)

theorem malformed_saveKey (s : Scan) : FailsOnly Error.IsMalformed s.saveKey := by
  unfold saveKey
  exact ((malformed_dropKey _).bind fun _ => failsOnly_ok _).ite (failsOnly_ok _)

theorem malformed_endDocument (s : Scan) : FailsOnly Error.IsMalformed s.endDocument :=
  (malformed_dropKey _).bind fun _ => failsOnly_ok _

theorem malformed_openBracket (t : Token) (s : Scan) :
    FailsOnly Error.IsMalformed (s.openBracket t) :=
  (malformed_saveKey _).bind fun _ => failsOnly_ok _

theorem malformed_closeBracket (t : Token) (s : Scan) :
    FailsOnly Error.IsMalformed (s.closeBracket t) :=
  (malformed_dropKey _).bind fun _ => (malformed _).ite (failsOnly_ok _)

theorem malformed_comma (s : Scan) : FailsOnly Error.IsMalformed s.comma :=
  (malformed_dropKey _).bind fun _ => failsOnly_ok _

theorem malformed_item (s : Scan) : FailsOnly Error.IsMalformed s.item := by
  unfold item
  exact (malformed _).ite ((malformed_dropKey _).bind fun _ => failsOnly_ok _)

theorem malformed_explicitKey (s : Scan) : FailsOnly Error.IsMalformed s.explicitKey := by
  unfold explicitKey
  exact (malformed _).ite ((malformed_dropKey _).bind fun _ => failsOnly_ok _)

theorem malformed_value (s : Scan) : FailsOnly Error.IsMalformed s.value := by
  unfold value
  split
  · exact failsOnly_ok _
  · exact (malformed _).ite (failsOnly_ok _)

theorem malformed_plain (s : Scan) : FailsOnly Error.IsMalformed s.plain :=
  (malformed_saveKey _).bind fun _ => failsOnly_ok _

theorem malformed_block (folded : Bool) (s : Scan) : FailsOnly Error.IsMalformed (s.block folded) :=
  (malformed_dropKey _).bind fun _ => (Scalar.malformed_block _ _ _).bind fun _ => failsOnly_ok _

/-- A token that may begin a key stops the reader as reading it does. -/
theorem stopped_word {read : Cursor → Except Error (Token × Cursor)}
    (h : ∀ c, FailsOnly Error.StopsReader (read c)) (s : Scan) :
    FailsOnly Error.StopsReader (s.word read) :=
  (stopped_of_malformed (malformed_saveKey _)).bind fun _ => (h _).bind fun _ => failsOnly_ok _

theorem stopped_word_map {read : Cursor → Except Error α} {f : α → Token × Cursor}
    (h : ∀ c, FailsOnly Error.StopsReader (read c)) (s : Scan) :
    FailsOnly Error.StopsReader (s.word fun c => f <$> read c) :=
  stopped_word (fun c => failsOnly_map_iff.mpr (h c)) s

/-- **One token**: whichever it is, it is malformed or asks for a character that there is not. -/
theorem stopped_fetch (x : Char) (s : Scan) : FailsOnly Error.StopsReader (s.fetch x) := by
  have hmark : ∀ (t : Token) (c : Cursor), FailsOnly Error.StopsReader
      (s.endDocument >>= fun s => .ok ((s.add t).moveTo c)) := fun t c =>
    stopped_of_malformed ((malformed_endDocument s).bind fun _ => failsOnly_ok _)
  unfold fetch
  refine .ite ?directive <| .ite (hmark _ _) <| .ite (hmark _ _) <|
    .ite (stopped_of_malformed (malformed_openBracket _ _)) <|
    .ite (stopped_of_malformed (malformed_openBracket _ _)) <|
    .ite (stopped_of_malformed (malformed_closeBracket _ _)) <|
    .ite (stopped_of_malformed (malformed_closeBracket _ _)) <|
    .ite (stopped_of_malformed (malformed_comma _)) <|
    .ite (stopped_of_malformed (malformed_item _)) <|
    .ite (stopped_of_malformed (malformed_explicitKey _)) <|
    .ite (stopped_of_malformed (malformed_value _)) <|
    .ite (stopped_word_map (fun _ => stopped_of_malformed (Property.malformed_anchorName _)) _) <|
    .ite (stopped_word_map (fun _ => stopped_of_malformed (Property.malformed_anchorName _)) _) <|
    .ite (stopped_word_map (fun _ => stopped_of_malformed (Property.malformed_tag _)) _) <|
    .ite (stopped_of_malformed (malformed_block _ _)) <|
    .ite (stopped_of_malformed (malformed_block _ _)) <|
    .ite (stopped_word_map (Scalar.stopped_quoted false) _) <|
    .ite (stopped_word_map (Scalar.stopped_quoted true) _) <|
    .ite (stopped_of_malformed (malformed_plain _)) (stopped_of_malformed (malformed _))
  case directive =>
    exact stopped_of_malformed ((malformed_endDocument _).bind fun _ =>
      (Property.malformed_directive _).bind fun _ => failsOnly_ok _)

theorem stopped_run (steps : Nat) (s : Scan) : FailsOnly Error.StopsReader (run steps s) := by
  induction steps generalizing s with
  | zero => exact failsOnly_ok _
  | succ steps ih =>
    refine (stopped_of_malformed (malformed_dropStale _)).bind fun _ => ?_
    dsimp only
    split
    · exact (stopped_of_malformed (malformed_endDocument _)).bind fun _ => failsOnly_ok _
    · exact (stopped_fetch _ _).bind fun _ => ih _

end Scan

/-- **Reading tokens** stops at what is malformed, or at an escape that no character has. -/
theorem stopped_ofText (cs : List Char) : FailsOnly Error.StopsReader (Token.ofText cs) := by
  unfold Token.ofText
  exact (Scan.stopped_run _ _).ite (stopped_of_malformed (malformed _))

end SchemaModels.Yaml
