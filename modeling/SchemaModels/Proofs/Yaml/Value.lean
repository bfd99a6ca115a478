import SchemaModels.Proofs.Yaml.Node
import SchemaModels.Yaml.Value

/-!
# Faults of values

A document that is put together can still have no value, since one of its scalars says what there is
not: a day, a number, a word for true or false. `failsOnly_read` traces each fault of reading a text
to such a scalar, or to an escape in double quotes. Merging brings in scalars of the same document
only (`merging_yields`).
-/

namespace SchemaModels.Yaml

variable {α β : Type} {q : Error → Prop}

/-! ## Scalars of a node -/

/-- A scalar that is written in a node. -/
inductive Node.HasScalar : Node → Tag → Option String → Prop
  | scalar {tag : Tag} {s : Option String} : HasScalar (.scalar tag s) tag s
  | item {tag t : Tag} {s : Option String} {items : List Node} {n : Node} :
      n ∈ items → HasScalar n tag s → HasScalar (.sequence t items) tag s
  | key {tag t : Tag} {s : Option String} {entries : List (Node × Node)} {e : Node × Node} :
      e ∈ entries → HasScalar e.1 tag s → HasScalar (.mapping t entries) tag s
  | value {tag t : Tag} {s : Option String} {entries : List (Node × Node)} {e : Node × Node} :
      e ∈ entries → HasScalar e.2 tag s → HasScalar (.mapping t entries) tag s
  /-- A mapping that stands for the scalar under `=` gives it its own tag. -/
  | default {t : Tag} {s : Option String} {entries : List (Node × Node)} :
      default? entries = some s → HasScalar (.mapping t entries) t s

/-- A scalar in a node has no value, for this reason. -/
def Node.Rejects (n : Node) (e : Error) : Prop :=
  ∃ tag s, n.HasScalar tag s ∧ Value.ofScalar tag s = .error e

/-- Whatever the scalars of a node fail with is of the kind. -/
def Node.Fails (q : Error → Prop) (n : Node) : Prop :=
  ∀ tag s, n.HasScalar tag s → FailsOnly q (Value.ofScalar tag s)

/-- The scalars of an entry fail as those of a node. -/
def EntryFails (q : Error → Prop) (e : Node × Node) : Prop := e.1.Fails q ∧ e.2.Fails q

theorem Node.Fails.item {t : Tag} {items : List Node} (h : (Node.sequence t items).Fails q) :
    ∀ n ∈ items, n.Fails q :=
  fun _ hn tag s hs => h tag s (.item hn hs)

theorem Node.Fails.entry {t : Tag} {entries : List (Node × Node)}
    (h : (Node.mapping t entries).Fails q) : ∀ e ∈ entries, EntryFails q e :=
  fun _ he => ⟨fun tag s hs => h tag s (.key he hs), fun tag s hs => h tag s (.value he hs)⟩

/-- A scalar that is a text has a value. -/
theorem fails_text (s : Option String) : (Node.scalar .str s).Fails q := by
  rintro tag _ ⟨⟩
  exact failsOnly_ok _

/-! ## Merging -/

/-- What is given has a property, and all that can fail is malformed. -/
def Yields (P : α → Prop) (x : Except Error α) : Prop :=
  FailsOnly Error.IsMalformed x ∧ ∀ a, x = .ok a → P a

theorem yields_ok {P : α → Prop} {a : α} (h : P a) : Yields P (.ok a) :=
  ⟨failsOnly_ok a, fun _ ha => by cases ha; exact h⟩

theorem yields_malformed {P : α → Prop} (reason : String) :
    Yields P (.error (.malformed reason)) :=
  ⟨malformed reason, fun _ ha => by cases ha⟩

theorem Yields.bind {P : α → Prop} {Q : β → Prop} {x : Except Error α}
    {f : α → Except Error β} (hx : Yields P x) (hf : ∀ a, P a → Yields Q (f a)) :
    Yields Q (x >>= f) := by
  cases x with
  | error e =>
    obtain ⟨reason, rfl⟩ := hx.1 e rfl
    exact yields_malformed reason
  | ok a => exact hf a (hx.2 a rfl)

theorem Yields.map {P : α → Prop} {Q : β → Prop} {x : Except Error α} {g : α → β}
    (hx : Yields P x) (hg : ∀ a, P a → Q (g a)) : Yields Q (g <$> x) := by
  cases x with
  | error e =>
    obtain ⟨reason, rfl⟩ := hx.1 e rfl
    exact yields_malformed reason
  | ok a => exact yields_ok (hg a (hx.2 a rfl))

/-- The entries of both parts of a mapping. -/
def PartsFail (q : Error → Prop) (parts : List (Node × Node) × List (Node × Node)) : Prop :=
  (∀ e ∈ parts.1, EntryFails q e) ∧ ∀ e ∈ parts.2, EntryFails q e

/-- **Merging brings in no other scalars**: the entries of a mapping, own and merged, fail as its
scalars do. -/
theorem merging_yields (q : Error → Prop) :
    (∀ n : Node, n.Fails q → Yields (∀ e ∈ ·, EntryFails q e) n.mergedInto) ∧
      (∀ ns : List Node, (∀ n ∈ ns, n.Fails q) →
        Yields (∀ es ∈ ·, ∀ e ∈ es, EntryFails q e) (mergedParts ns)) ∧
      ∀ es : List (Node × Node), (∀ e ∈ es, EntryFails q e) →
        Yields (PartsFail q) (divide es) := by
  refine Node.mergedInto.mutual_induct _ _ _ ?mapping ?sequence ?other ?noParts ?part ?noMapping
    ?nil ?merge ?value ?own
  case mapping =>
    intro tag entries ih h
    rw [Node.mergedInto]
    exact (ih h.entry).map fun parts hparts => List.forall_mem_append.mpr hparts
  case sequence =>
    intro tag items ih h
    rw [Node.mergedInto]
    refine (ih h.item).map fun parts hparts e he => ?_
    obtain ⟨es, hes, he⟩ := List.mem_flatten.mp he
    exact hparts es (List.mem_reverse.mp hes) e he
  case other =>
    intro n hmapping hsequence h
    rw [Node.mergedInto]
    · exact yields_malformed _
    · exact hmapping
    · exact hsequence
  case noParts =>
    intro h
    rw [mergedParts]
    exact yields_ok (by simp)
  case part =>
    intro ns tag entries ihentries ihns h
    obtain ⟨hn, hns⟩ := List.forall_mem_cons.mp h
    rw [mergedParts]
    refine (ihentries hn.entry).bind fun parts hparts => ?_
    refine (ihns hns).bind fun rest hrest => yields_ok ?_
    exact List.forall_mem_cons.mpr ⟨List.forall_mem_append.mpr hparts, hrest⟩
  case noMapping =>
    intro n ns hmapping h
    rw [mergedParts]
    · exact yields_malformed _
    · exact hmapping
  case nil =>
    intro h
    rw [divide]
    exact yields_ok (by simp [PartsFail])
  case merge =>
    intro k v es hk ihv ihes h
    obtain ⟨he, hes⟩ := List.forall_mem_cons.mp h
    rw [divide.eq_def]
    simp only [hk]
    refine (ihv he.2).bind fun added hadded => (ihes hes).bind fun parts hparts => yields_ok ?_
    exact ⟨List.forall_mem_append.mpr ⟨hadded, hparts.1⟩, hparts.2⟩
  case value =>
    intro k v es hk ihes h
    obtain ⟨he, hes⟩ := List.forall_mem_cons.mp h
    rw [divide.eq_def]
    simp only [hk]
    refine (ihes hes).bind fun parts hparts => yields_ok ⟨hparts.1, ?_⟩
    refine List.forall_mem_cons.mpr ⟨⟨?_, he.2⟩, hparts.2⟩
    split
    · exact fails_text _
    · exact he.1
  case own =>
    intro k v es hmerge hvalue ihes h
    obtain ⟨he, hes⟩ := List.forall_mem_cons.mp h
    rw [divide.eq_def]
    dsimp only
    split
    · exact absurd ‹_› hmerge
    · exact absurd ‹_› hvalue
    · refine (ihes hes).bind fun parts hparts => yields_ok ⟨hparts.1, ?_⟩
      exact List.forall_mem_cons.mpr ⟨he, hparts.2⟩

/-! ## Values of nodes -/

/-- The fault of a flaw is of the kind. -/
def Flaw.Of (q : Error → Prop) (f : Flaw) : Prop := q f.error

theorem failsOnly_both {p : Flaw → Prop} {x : Except Flaw α} {y : Except Flaw β}
    (hx : FailsOnly p x) (hy : FailsOnly p y) : FailsOnly p (both x y) := by
  unfold both
  split
  · exact failsOnly_ok _
  · exact failsOnly_error_iff.mpr (hx _ rfl)
  · exact failsOnly_error_iff.mpr (hy _ rfl)
  · rw [failsOnly_error_iff]
    split
    · exact hy _ rfl
    · exact hx _ rfl

theorem failsOnly_inRow {p : Flaw → Prop} {xs : List (Except Flaw α)}
    (h : ∀ x ∈ xs, FailsOnly p x) : FailsOnly p (inRow xs) := by
  induction xs with
  | nil => exact failsOnly_ok _
  | cons x xs ih =>
    obtain ⟨hx, hxs⟩ := List.forall_mem_cons.mp h
    exact failsOnly_map_iff.mpr (failsOnly_both hx (ih hxs))

section

variable (hq : ∀ reason, q (.malformed reason))

include hq

theorem failsOnly_keyOf (level : Nat) {n : Node} (h : n.Fails q) :
    FailsOnly (Flaw.Of q) (keyOf level n) := by
  unfold keyOf
  split
  · rename_i tag s
    split
    · exact failsOnly_ok _
    · exact failsOnly_ok _
    · rename_i e he
      exact failsOnly_error_iff.mpr (h tag s .scalar e he)
  · exact failsOnly_error_iff.mpr (hq _)

/-- The value of a mapping fails as its keys and values do. -/
theorem failsOnly_entries {make : Node → Except Flaw Value}
    (hmake : ∀ n, n.Fails q → FailsOnly (Flaw.Of q) (make n)) (level : Nat)
    {entries : List (Node × Node)} (h : ∀ e ∈ entries, EntryFails q e) :
    FailsOnly (Flaw.Of q) (match divide entries with
      | .error e => .error ⟨level, e⟩
      | .ok (merged, own) => Value.ofEntries <$> inRow ((merged ++ own).map fun (k, v) =>
          both (keyOf level k) (make v))) := by
  obtain ⟨hfails, hparts⟩ := (merging_yields q).2.2 entries h
  split
  · rename_i e he
    obtain ⟨reason, rfl⟩ := hfails e he
    exact failsOnly_error_iff.mpr (hq reason)
  · rename_i merged own hdivide
    refine failsOnly_map_iff.mpr (failsOnly_inRow (List.forall_mem_map.mpr fun e he => ?_))
    obtain ⟨hk, hv⟩ := List.forall_mem_append.mpr (hparts _ hdivide) e he
    exact failsOnly_both (failsOnly_keyOf hq level hk) (hmake e.2 hv)

/-- A pair fails as its key and its value do. -/
theorem failsOnly_pair {make : Node → Except Flaw Value}
    (hmake : ∀ n, n.Fails q → FailsOnly (Flaw.Of q) (make n)) (level : Nat) {n : Node}
    (h : n.Fails q) : FailsOnly (Flaw.Of q) (match n with
      | .mapping _ [(k, v)] => (fun (k, v) => Value.list [k, v]) <$> both (make k) (make v)
      | _ => .error ⟨level, .malformed "expected a single mapping item"⟩) := by
  split
  · obtain ⟨hk, hv⟩ := h.entry _ (List.mem_singleton_self _)
    exact failsOnly_map_iff.mpr (failsOnly_both (hmake _ hk) (hmake _ hv))
  · exact failsOnly_error_iff.mpr (hq _)

/-- **Making the value of a node** fails as making the values of its scalars does, or because the
document is malformed. -/
theorem failsOnly_ofNode (steps level : Nat) {n : Node} (h : n.Fails q) :
    FailsOnly (Flaw.Of q) (Value.ofNode steps level n) := by
  have hmalformed : ∀ {β : Type} (level : Nat) (reason : String),
      FailsOnly (Flaw.Of q) (.error ⟨level, .malformed reason⟩ : Except Flaw β) :=
    fun _ reason => failsOnly_error_iff.mpr (hq reason)
  induction steps generalizing level n with
  | zero => exact failsOnly_ok _
  | succ steps ih =>
    have hmake : ∀ n, n.Fails q → FailsOnly (Flaw.Of q) (Value.ofNode steps (level + 1) n) :=
      fun _ => ih (level + 1)
    cases n with
    | within isMapping => exact failsOnly_ok _
    | scalar tag s =>
      rw [Value.ofNode]
      exact (hmalformed _ _).ite (failsOnly_mapError_iff.mpr (h tag s .scalar))
    | sequence tag items =>
      have hpairs := List.forall_mem_map.mpr fun n hn =>
        failsOnly_pair hq hmake (level + 1) (h.item n hn)
      rw [Value.ofNode.eq_def]
      dsimp only
      split
      · refine failsOnly_map_iff.mpr (failsOnly_inRow (List.forall_mem_map.mpr fun n hn => ?_))
        exact hmake n (h.item n hn)
      · exact failsOnly_map_iff.mpr (failsOnly_inRow hpairs)
      · exact failsOnly_map_iff.mpr (failsOnly_inRow hpairs)
      all_goals exact hmalformed _ _
    | mapping tag entries =>
      have hvalue := failsOnly_entries hq hmake (level + 1) h.entry
      rw [Value.ofNode.eq_def]
      dsimp only
      split
      · exact hvalue
      · exact failsOnly_map_iff.mpr hvalue
      · exact hmalformed _ _
      · exact hmalformed _ _
      · exact hmalformed _ _
      · split
        · rename_i s hs
          exact failsOnly_mapError_iff.mpr (h tag s (.default hs))
        · exact hmalformed _ _

end

/-! ## Texts -/

/-- The document that a text holds. -/
def IsDocument (cs : List Char) (n : Node) : Prop :=
  ∃ ts, Token.ofText cs = .ok ts ∧ Node.ofTokens? ts = .ok (some n)

/-- **Why a text has no value**: it is malformed, reading it stops at an escape for a character that
there is not, or its document has a scalar without a value. -/
def Valueless (cs : List Char) (e : Error) : Prop :=
  e.IsMalformed ∨ (Token.ofText cs = .error e ∧ e.IsNoCharacter) ∨
    ∃ n, IsDocument cs n ∧ n.Rejects e

theorem failsOnly_read (cs : List Char) : FailsOnly (Valueless cs) (read cs) := by
  have hmalformed : ∀ {e : Error}, e.IsMalformed → Valueless cs e := Or.inl
  refine failsOnly_bind_iff.mpr ⟨fun e he => ?tokens, fun ts hts => ?_⟩
  case tokens => exact (stopped_ofText cs e he).imp_right fun h => Or.inl ⟨he, h⟩
  refine failsOnly_bind_iff.mpr ⟨(malformed_ofTokens ts).mono fun _ => hmalformed, fun o ho => ?_⟩
  cases o with
  | none => exact failsOnly_ok _
  | some n =>
    have hscalars : n.Fails (Valueless cs) :=
      fun tag s hs e he => Or.inr (Or.inr ⟨n, ⟨ts, hts, ho⟩, tag, s, hs, he⟩)
    exact failsOnly_mapError_iff.mpr
      (failsOnly_ofNode (fun reason => hmalformed ⟨reason, rfl⟩) _ _ hscalars)

end SchemaModels.Yaml
