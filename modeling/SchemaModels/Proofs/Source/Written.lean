import SchemaModels.Proofs.Source.Literal
import SchemaModels.Source.Statement

/-!
# Texts in the source

`literals` lists the string literals and docstrings of expressions and statements, in the order of
their text. `Written cs ls` says that a text is made of code with these literals in it, each
followed by something that does not go on with a quote; then every one of them reads back where it
stands (`Written.reads`). The printer writes every syntax tree so (`Expr.written_render`,
`Statement.written_source`): by induction over the tree, with one case for each constructor.
-/

namespace SchemaModels.Source

open Hint (literal)

/-- A string literal in the source: an ordinary one, or a docstring. -/
inductive Literal where
  | text (s : String)
  | docstring (s : String)
  deriving DecidableEq

namespace Literal

/-- The text that the literal stands for. -/
def value : Literal → String
  | text s | docstring s => s

/-- How the literal is written. -/
def chars : Literal → List Char
  | text s => quotedChars s.toList
  | docstring s => docstringChars s.toList

/-- A literal begins with a quote. -/
theorem chars_eq_cons (l : Literal) : ∃ q cs, IsQuote q ∧ l.chars = q :: cs := by
  cases l with
  | text s => exact ⟨_, _, isQuote_quoteFor _, rfl⟩
  | docstring s =>
    rcases docstringChars_cases s.toList with h | ⟨q, hq, -, h⟩
    · exact ⟨_, _, isQuote_quoteFor _, h⟩
    · exact ⟨_, _, hq, h⟩

theorem chars_ne_nil (l : Literal) : l.chars ≠ [] := by
  obtain ⟨q, cs, -, h⟩ := l.chars_eq_cons
  rw [h]
  exact List.cons_ne_nil q cs

/-- A literal reads back as its text where no quote follows. -/
theorem literal_chars (l : Literal) {rest : List Char} (h : rest.head? ≠ some '\'') :
    Hint.literal false (l.chars ++ rest) = .ok (.text l.value, rest) := by
  cases l with
  | text s => rw [chars, literal_quotedChars fun _ => h, String.ofList_toList]; rfl
  | docstring s => rw [chars, literal_docstringChars, String.ofList_toList]; rfl

/-- A literal holds nothing that reading a file would change or refuse. -/
theorem chars_kept (l : Literal) : '\r' ∉ l.chars ∧ Char.ofNat 0 ∉ l.chars := by
  have hkept : ∀ d ∈ l.chars, d = '\n' ∨ d = '\t' ∨ Text.isPrintable d = true := fun d hd => by
    cases l with
    | text s => exact Or.inr (Or.inr (printable_quotedChars hd))
    | docstring s => exact printable_docstringChars hd
  constructor
  · exact fun h => absurd (hkept _ h) (by decide)
  · exact fun h => absurd (hkept _ h) (by decide)

end Literal

/-! ## The literals of a syntax tree -/

namespace Expr

mutual

/-- The literals of an expression. -/
def literals : Expr → List Literal
  | .text s => [.text s]
  | .attribute value _ => literals value
  | .call func args keywords =>
    literals func ++ (literalsOfItems args ++ literalsOfKeywords keywords)
  | .subscript value index => literals value ++ literals index
  | .slice lower upper step =>
    literalsOfOption lower ++ (literalsOfOption upper ++ literalsOfOption step)
  | .starred value => literals value
  | .list items | .tuple items | .set items | .junction _ items => literalsOfItems items
  | .dict entries => literalsOfEntries entries
  | .unary _ operand => literals operand
  | .binary _ left right => literals left ++ literals right
  | .compare left rest => literals left ++ literalsOfComparisons rest
  | .ternary test yes no => literals yes ++ (literals test ++ literals no)
  | .named _ value => literals value
  | .name _ | .bool _ | .none | .ellipsis | .int _ | .float _ | .imaginary _ => []

def literalsOfOption : Option Expr → List Literal
  | some e => literals e
  | .none => []

def literalsOfItems : List Expr → List Literal
  | [] => []
  | e :: es => literals e ++ literalsOfItems es

def literalsOfKeywords : List (Option String × Expr) → List Literal
  | [] => []
  | (_, e) :: rest => literals e ++ literalsOfKeywords rest

def literalsOfEntries : List (Option Expr × Expr) → List Literal
  | [] => []
  | (k, e) :: rest => literalsOfOption k ++ (literals e ++ literalsOfEntries rest)

def literalsOfComparisons : List (Comparison × Expr) → List Literal
  | [] => []
  | (_, e) :: rest => literals e ++ literalsOfComparisons rest

end

theorem literalsOfItems_eq (es : List Expr) : literalsOfItems es = es.flatMap literals := by
  induction es with
  | nil => rfl
  | cons e es ih => rw [literalsOfItems, List.flatMap_cons, ih]

theorem literalsOfKeywords_eq (kws : List (Option String × Expr)) :
    literalsOfKeywords kws = kws.flatMap fun k => literals k.2 := by
  induction kws with
  | nil => rfl
  | cons k kws ih => rw [literalsOfKeywords, List.flatMap_cons, ih]

/-- A name with dots has no literals. -/
theorem literals_dotted (s : String) : (dotted s).literals = [] := by
  have hattributes : ∀ (parts : List (List Char)) (e : Expr),
      (parts.foldl (fun e attr => .attribute e (String.ofList attr)) e).literals = e.literals := by
    intro parts
    induction parts with
    | nil => exact fun _ => rfl
    | cons p parts ih => exact fun e => ih (.attribute e (String.ofList p))
  unfold dotted
  split
  · rfl
  · exact hattributes _ _

end Expr

namespace Statement

mutual

/-- The literals of a statement. -/
def literals : Statement → List Literal
  | .docstring s => [.docstring s]
  | .importModule _ | .importNames _ _ _ => []
  | .expression e | .assign _ e | .give e => e.literals
  | .declare _ hint value => hint.literals ++ Expr.literalsOfOption value
  | .function _ params returns decorators body =>
    decorators.flatMap Expr.literals ++ (params.flatMap (Expr.literalsOfOption ·.2) ++
      (Expr.literalsOfOption returns ++ literalsOf body))
  | .classDef _ bases body => bases.flatMap Expr.literals ++ literalsOf body

def literalsOf : List Statement → List Literal
  | [] => []
  | s :: rest => literals s ++ literalsOf rest

end

theorem literalsOf_eq_flatMap (ss : List Statement) : literalsOf ss = ss.flatMap literals := by
  induction ss with
  | nil => rfl
  | cons s ss ih => rw [literalsOf, List.flatMap_cons, ih]

end Statement

/-! ## Texts that are made of code and literals -/

/-- What follows is no quote that would belong to a literal before it. -/
def Opens (cs : List Char) : Prop := cs.head? ≠ some '\''

/-- **A text made of code and of the given literals**, in this order. -/
inductive Written : List Char → List Literal → Prop
  | nil : Written [] []
  | code (c : Char) {cs : List Char} {ls : List Literal} : Written cs ls → Written (c :: cs) ls
  | literal (l : Literal) {cs : List Char} {ls : List Literal} : Opens cs → Written cs ls →
      Written (l.chars ++ cs) (l :: ls)

instance (cs : List Char) : Decidable (Opens cs) := inferInstanceAs (Decidable (_ ≠ _))

theorem opens_of_append {cs ds : List Char} (h : Opens (cs ++ ds)) : Opens cs := by
  cases cs with
  | nil => simp [Opens]
  | cons c cs => exact h

theorem opens_append {cs ds : List Char} (h : Opens cs) (h' : Opens ds) : Opens (cs ++ ds) := by
  cases cs with
  | nil => exact h'
  | cons c cs => exact h

theorem opens_append_of_ne {cs ds : List Char} (h : Opens cs) (hne : cs ≠ []) :
    Opens (cs ++ ds) := by
  cases cs with
  | nil => exact absurd rfl hne
  | cons c cs => exact h

namespace Written

variable {cs ds : List Char} {ls ks : List Literal}

/-- **Every literal reads back where it stands**, and leaves what follows it. -/
theorem reads (h : Written cs ls) : ∀ {before after : List Literal} {l : Literal},
    ls = before ++ l :: after → ∃ front rest, cs = front ++ (l.chars ++ rest) ∧
      Written front before ∧ Hint.literal false (l.chars ++ rest) = .ok (.text l.value, rest) ∧
        Written rest after := by
  induction h with
  | nil =>
    intro before after l hl
    cases before <;> cases hl
  | code c _ ih =>
    intro before after l hl
    obtain ⟨front, rest, rfl, hfront, hread, hrest⟩ := ih hl
    exact ⟨c :: front, rest, rfl, .code c hfront, hread, hrest⟩
  | @literal k cs ls hopens hcs ih =>
    intro before after l hl
    cases before with
    | nil =>
      obtain ⟨rfl, rfl⟩ := List.cons.inj hl
      exact ⟨[], cs, rfl, .nil, k.literal_chars hopens, hcs⟩
    | cons b before =>
      obtain ⟨rfl, hls⟩ := List.cons.inj hl
      obtain ⟨front, rest, rfl, hfront, hread, hrest⟩ := ih hls
      exact ⟨k.chars ++ front, rest, by rw [List.append_assoc],
        .literal k (opens_of_append hopens) hfront, hread, hrest⟩

theorem eq_nil_of_nil (h : Written [] ls) : ls = [] := by
  generalize hcs : [] = cs at h
  cases h with
  | nil => rfl
  | code c _ => cases hcs
  | literal l _ _ => exact absurd (List.append_eq_nil_iff.mp hcs.symm).1 l.chars_ne_nil

theorem of_literal (l : Literal) : Written l.chars [l] := by
  have h := Written.literal l (by decide : Opens []) .nil
  rwa [List.append_nil] at h

theorem code_append (code : List Char) (h : Written cs ls) : Written (code ++ cs) ls := by
  induction code with
  | nil => exact h
  | cons c code ih => exact .code c ih

theorem append (h : Written cs ls) (h' : Written ds ks) (hopens : Opens ds) :
    Written (cs ++ ds) (ls ++ ks) := by
  induction h with
  | nil => exact h'
  | code c _ ih => exact .code c ih
  | @literal l cs ls hcs _ ih =>
    rw [List.append_assoc, List.cons_append]
    exact .literal l (opens_append hcs hopens) ih

/-! Texts are put together from strings. -/

variable {s t : String}

theorem code_left (s : String) (h : Written t.toList ls) : Written (s ++ t).toList ls := by
  rw [String.toList_append]
  exact h.code_append s.toList

theorem of_code (s : String) : Written s.toList [] := by
  have h := code_append s.toList .nil
  rwa [List.append_nil] at h

/-- Code that begins with no quote goes on after any text. -/
theorem code_right (h : Written s.toList ls) (t : String) (hopens : Opens t.toList) :
    Written (s ++ t).toList ls := by
  have h' := h.append (of_code t) hopens
  rwa [List.append_nil, ← String.toList_append] at h'

/-- A text between brackets, or other code around it. -/
theorem enclosed (h : Written s.toList ls) (left right : String) (hopens : Opens right.toList) :
    Written (left ++ (s ++ right)).toList ls :=
  (h.code_right right hopens).code_left left

/-- Two texts, the second of which begins with no quote. -/
theorem followed (h : Written s.toList ls) (h' : Written t.toList ks) (hopens : Opens t.toList) :
    Written (s ++ t).toList (ls ++ ks) := by
  rw [String.toList_append]
  exact h.append h' hopens

/-- Two texts with code between them. -/
theorem between (h : Written s.toList ls) (h' : Written t.toList ks) (code : String)
    (hopens : Opens code.toList) (hne : code ≠ "") :
    Written (s ++ (code ++ t)).toList (ls ++ ks) := by
  rw [String.toList_append]
  refine h.append (h'.code_left code) ?_
  rw [String.toList_append]
  cases hcode : code.toList with
  | nil => exact absurd (String.toList_eq_nil_iff.mp hcode) hne
  | cons c cs =>
    rw [hcode] at hopens
    exact hopens

end Written

/-- Texts one by one, each with its literals. -/
inductive WrittenEach : List String → List Literal → Prop
  | nil : WrittenEach [] []
  | cons {s : String} {ss : List String} {ls ks : List Literal} : Written s.toList ls →
      WrittenEach ss ks → WrittenEach (s :: ss) (ls ++ ks)

namespace WrittenEach

variable {ss ts : List String} {ls ks : List Literal}

theorem append (h : WrittenEach ss ls) (h' : WrittenEach ts ks) :
    WrittenEach (ss ++ ts) (ls ++ ks) := by
  induction h with
  | nil => exact h'
  | cons hs _ ih =>
    rw [List.append_assoc]
    exact .cons hs ih

/-- One text alone. -/
theorem single (h : Written s.toList ls) : WrittenEach [s] ls := by
  have hone := WrittenEach.cons h .nil
  rwa [List.append_nil] at hone

/-- An empty text has no literals. -/
theorem blank (h : WrittenEach ss ls) : WrittenEach ("" :: ss) ls := by
  have hempty : Written "".toList [] := .nil
  exact .cons hempty h

/-- With separators between them they are one text. -/
theorem join (h : WrittenEach ss ls) (separator : String) (hopens : Opens separator.toList)
    (hne : separator ≠ "") : Written (separator.intercalate ss).toList ls := by
  induction h with
  | nil => exact .nil
  | @cons s ss ls ks hs hss ih =>
    cases ss with
    | nil =>
      cases hss
      rw [String.intercalate_singleton, List.append_nil]
      exact hs
    | cons t ts =>
      rw [String.intercalate_cons_cons, String.append_assoc]
      exact hs.between ih separator hopens hne

end WrittenEach

/-! ## The printer -/

namespace Expr

theorem written_wrap {own asked : Strength} {s : String} {ls : List Literal}
    (h : Written s.toList ls) : Written (wrap own asked s).toList ls := by
  unfold wrap
  split
  · rw [String.append_assoc]
    exact h.enclosed "(" ")" (by decide)
  · exact h

theorem written_commaItems {ss : List String} {ls : List Literal} (h : WrittenEach ss ls) :
    Written (commaItems ss).toList ls := by
  unfold commaItems
  split
  · cases h with
    | cons hs hnil =>
      cases hnil
      rw [List.append_nil]
      exact hs.code_right "," (by decide)
  · exact h.join _ (by decide) (by decide)

theorem opens_comparisons (rest : List (Comparison × Expr)) :
    Opens (renderComparisons rest).toList := by
  cases rest with
  | nil => decide
  | cons a rest =>
    rw [renderComparisons]
    simp only [String.append_assoc, String.toList_append]
    exact opens_append_of_ne (by decide) (by decide)

mutual

/-- **An expression is written with its literals.** -/
theorem written_render (asked : Strength) :
    ∀ e : Expr, Written (render asked e).toList e.literals
  | .name id => by rw [render, literals]; exact .of_code _
  | .text s => by
    rw [render, literals, quoted, String.toList_ofList]
    exact .of_literal (.text s)
  | .bool b => by rw [render, literals]; exact .of_code _
  | .none => by rw [render, literals]; exact .of_code _
  | .ellipsis => by rw [render, literals]; exact .of_code _
  | .int n => by rw [render, literals]; exact .of_code _
  | .float x => by rw [render, literals]; exact .of_code _
  | .imaginary x => by rw [render, literals]; exact .of_code _
  | .attribute value attr => by
    rw [render, literals, String.append_assoc]
    refine (written_render .atom value).code_right _ ?_
    rw [String.toList_append]
    split
    · exact opens_append_of_ne (by decide) (by decide)
    · exact opens_append_of_ne (by decide) (by decide)
  | .call func args keywords => by
    rw [render, literals]
    simp only [String.append_assoc]
    have hitems := ((written_items .ternary args).append (written_keywords keywords)).join
      ", " (by decide) (by decide)
    exact (written_render .atom func).between
      (hitems.code_right ")" (by decide)) "("
      (by decide) (by decide)
  | .subscript value index => by
    rw [render.eq_def, literals]
    simp only [String.append_assoc]
    refine (written_render .atom value).between (Written.code_right ?_ "]" (by decide)) "["
      (by decide) (by decide)
    split
    · exact written_commaItems (written_items .ternary _)
    · exact written_render .ternary index
  | .slice lower upper step => by
    rw [render.eq_def, literals]
    simp only [String.append_assoc]
    refine (written_optional lower).between ((written_optional upper).followed ?_ ?_) ":"
      (by decide) (by decide)
    · match step with
      | some e => rw [literalsOfOption]; exact (written_render .ternary e).code_left ":"
      | .none => exact .nil
    · match step with
      | some e => rw [String.toList_append]; exact opens_append_of_ne (by decide) (by decide)
      | .none => decide
  | .starred value => by
    rw [render, literals]
    exact (written_render .bitOr value).code_left "*"
  | .list items => by
    rw [render, literals, String.append_assoc]
    have hitems := (written_items .ternary items).join ", " (by decide) (by decide)
    exact hitems.enclosed "[" "]" (by decide)
  | .tuple items => by
    rw [render, literals]
    have hitems := written_commaItems (written_items .ternary items)
    split
    · rw [String.append_assoc]
      exact hitems.enclosed "(" ")" (by decide)
    · exact hitems
  | .set items => by
    rw [render, literals]
    have hitems := (written_items .ternary items).join ", " (by decide) (by decide)
    match items with
    | [] => exact .of_code _
    | e :: es =>
      rw [String.append_assoc]
      exact hitems.enclosed "\x7b" "\x7d" (by decide)
  | .dict entries => by
    rw [render, literals, String.append_assoc]
    have hentries := (written_entries entries).join ", " (by decide) (by decide)
    exact hentries.enclosed "\x7b" "\x7d" (by decide)
  | .unary op operand => by
    rw [render, literals]
    exact written_wrap ((written_render op.strength operand).code_left op.sign)
  | .binary op left right => by
    rw [render, literals]
    simp only [String.append_assoc]
    exact written_wrap ((written_render _ left).between
      (((written_render _ right).code_left " ").code_left op.sign) " " (by decide) (by decide))
  | .junction conjunctive operands => by
    rw [render, literals]
    refine written_wrap ((written_rising _ operands).join _ ?_ ?_)
    · cases conjunctive <;> decide
    · cases conjunctive <;> decide
  | .compare left rest => by
    rw [render, literals]
    exact written_wrap ((written_render _ left).followed (written_comparisons rest)
      (opens_comparisons rest))
  | .ternary test yes no => by
    rw [render, literals]
    simp only [String.append_assoc]
    exact written_wrap ((written_render _ yes).between ((written_render _ test).between
      (written_render _ no) " else " (by decide) (by decide)) " if " (by decide) (by decide))
  | .named target value => by
    rw [render, literals, String.append_assoc]
    exact written_wrap (((written_render _ value).code_left " := ").code_left target)

theorem written_optional : ∀ e : Option Expr,
    Written (renderOptional e).toList (literalsOfOption e)
  | some e => by rw [renderOptional, literalsOfOption]; exact written_render .ternary e
  | .none => by rw [renderOptional, literalsOfOption]; exact .nil

theorem written_items (asked : Strength) : ∀ es : List Expr,
    WrittenEach (renderItems asked es) (literalsOfItems es)
  | [] => .nil
  | e :: es => .cons (written_render asked e) (written_items asked es)

theorem written_rising (s : Strength) : ∀ es : List Expr,
    WrittenEach (renderRising s es) (literalsOfItems es)
  | [] => .nil
  | e :: es => .cons (written_render s.next e) (written_rising s.next es)

theorem written_keywords : ∀ kws : List (Option String × Expr),
    WrittenEach (renderKeywords kws) (literalsOfKeywords kws)
  | [] => .nil
  | (some k, e) :: rest => by
    rw [renderKeywords, literalsOfKeywords]
    exact .cons ((written_render .ternary e).code_left _) (written_keywords rest)
  | (.none, e) :: rest => by
    rw [renderKeywords, literalsOfKeywords]
    exact .cons ((written_render .ternary e).code_left _) (written_keywords rest)

theorem written_entries : ∀ entries : List (Option Expr × Expr),
    WrittenEach (renderEntries entries) (literalsOfEntries entries)
  | [] => .nil
  | (some k, e) :: rest => by
    rw [renderEntries, literalsOfEntries, literalsOfOption, ← List.append_assoc,
      String.append_assoc]
    exact .cons ((written_render .ternary k).between (written_render .ternary e) ": "
      (by decide) (by decide)) (written_entries rest)
  | (.none, e) :: rest => by
    rw [renderEntries, literalsOfEntries, literalsOfOption, List.nil_append]
    exact .cons ((written_render .bitOr e).code_left _) (written_entries rest)

theorem written_comparisons : ∀ rest : List (Comparison × Expr),
    Written (renderComparisons rest).toList (literalsOfComparisons rest)
  | [] => .nil
  | (op, e) :: rest => by
    rw [renderComparisons, literalsOfComparisons]
    simp only [String.append_assoc]
    exact ((((written_render _ e).followed (written_comparisons rest)
      (opens_comparisons rest)).code_left " ").code_left op.sign).code_left " "

end

end Expr

namespace Statement

theorem written_indented {level : Nat} {s : String} {ls : List Literal} (h : Written s.toList ls) :
    Written (indented level s).toList ls :=
  h.code_left _

theorem written_expressions (es : List Expr) :
    WrittenEach (es.map Expr.source) (es.flatMap Expr.literals) := by
  induction es with
  | nil => exact .nil
  | cons e es ih => exact .cons (Expr.written_render _ e) ih

theorem written_decorators (level : Nat) (ds : List Expr) :
    WrittenEach (ds.map fun d => indented level ("@" ++ d.source)) (ds.flatMap Expr.literals) := by
  induction ds with
  | nil => exact .nil
  | cons d ds ih =>
    exact .cons (written_indented ((Expr.written_render _ d).code_left "@")) ih

theorem written_parameters (ps : List (String × Option Expr)) :
    WrittenEach (ps.map parameter) (ps.flatMap (Expr.literalsOfOption ·.2)) := by
  induction ps with
  | nil => exact .nil
  | cons p ps ih =>
    obtain ⟨name, hint?⟩ := p
    refine .cons ?_ ih
    cases hint? with
    | none => exact .of_code name
    | some hint =>
      simp only [parameter, Expr.literalsOfOption, String.append_assoc]
      exact ((Expr.written_render _ hint).code_left ": ").code_left name

/-- What may follow something that has been written, after the given code. -/
theorem written_suffix (code : String) (e? : Option Expr) :
    Written (match e? with
      | some e => code ++ e.source
      | none => "").toList (Expr.literalsOfOption e?) := by
  cases e? with
  | none => exact .nil
  | some e => exact (Expr.written_render _ e).code_left code

theorem opens_suffix {code : String} (h : Opens code.toList) (hne : code.toList ≠ [])
    (e? : Option Expr) : Opens (match e? with
      | some e => code ++ e.source
      | none => "").toList := by
  cases e? with
  | none => exact (by decide : Opens "".toList)
  | some e =>
    rw [String.toList_append]
    exact opens_append_of_ne h hne

mutual

/-- **A statement is written with its literals**, line by line. -/
theorem written_lines (level : Nat) : ∀ s : Statement, WrittenEach (lines level s) s.literals
  | .docstring s => by
    rw [lines, literals]
    refine .single (written_indented ?_)
    rw [Source.docstring, String.toList_ofList]
    exact .of_literal (.docstring s)
  | .expression e => by
    rw [lines, literals]
    exact .single (written_indented (Expr.written_render _ e))
  | .importModule name => by
    rw [lines, literals]
    exact .single (.of_code _)
  | .importNames up module names => by
    rw [lines, literals]
    exact .single (.of_code _)
  | .assign target value => by
    rw [lines, literals, String.append_assoc]
    exact .single (written_indented (((Expr.written_render _ value).code_left " = ").code_left _))
  | .declare target hint value => by
    rw [lines.eq_def, literals]
    simp only [String.append_assoc]
    exact .single (written_indented ((((Expr.written_render _ hint).followed
      (written_suffix " = " value) (opens_suffix (by decide) (by decide) value)).code_left
        ": ").code_left target))
  | .give value => by
    rw [lines, literals]
    exact .single (written_indented ((Expr.written_render _ value).code_left "return "))
  | .function name params returns decorators body => by
    rw [lines.eq_def, literals]
    simp only [String.append_assoc]
    have hparams := (written_parameters params).join ", " (by decide) (by decide)
    have hend := (written_suffix " -> " returns).code_right ":" (by decide)
    have hhead := (hparams.between hend ")" (by decide) (by decide)).code_left "("
    refine .blank ((written_decorators level decorators).append ?_)
    rw [← List.append_assoc]
    exact .cons (written_indented ((hhead.code_left name).code_left "def "))
      (written_blockLines (level + 1) body)
  | .classDef name bases body => by
    rw [lines, literals]
    simp only [String.append_assoc]
    refine .blank (.cons (written_indented (Written.code_left _
      (Written.code_left name (Written.code_right ?_ ":" (by decide)))))
        (written_blockLines (level + 1) body))
    cases bases with
    | nil => exact .nil
    | cons b bs =>
      have hbases := (written_expressions (b :: bs)).join ", " (by decide) (by decide)
      exact hbases.enclosed "(" ")" (by decide)

theorem written_blockLines (level : Nat) :
    ∀ ss : List Statement, WrittenEach (blockLines level ss) (literalsOf ss)
  | [] => .nil
  | s :: ss => (written_lines level s).append (written_blockLines level ss)

end

/-- **The source of statements is written with their literals.** -/
theorem written_source (ss : List Statement) : Written (source ss).toList (literalsOf ss) := by
  have h := written_blockLines 0 ss
  unfold source
  split
  · rename_i rest hlines
    rw [hlines] at h
    generalize literalsOf ss = ls at h
    cases h with
    | cons hempty hrest =>
      rw [Written.eq_nil_of_nil hempty]
      exact hrest.join _ (by decide) (by decide)
  · exact h.join _ (by decide) (by decide)

end Statement

end SchemaModels.Source
