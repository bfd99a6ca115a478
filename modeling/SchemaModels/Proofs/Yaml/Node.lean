import SchemaModels.Proofs.Yaml.Token
import SchemaModels.Yaml.Node

/-!
# Failures of documents

Tokens that make up no document are told as a malformed text, and nothing else can fail while they
are put together (`malformed_ofTokens`). The functions that read nodes call each other with fewer
and fewer steps, so what holds of all of them is shown by induction on the steps (`Refuses.all`).
-/

namespace SchemaModels.Yaml

namespace Reading

variable {α β : Type} {steps : Nat} {read : Reading → Result}

theorem malformed_unexpected (what : String) :
    FailsOnly Error.IsMalformed (unexpected what : Except Error α) :=
  malformed _

theorem malformed_tagName (r : Reading) (t : WrittenTag) :
    FailsOnly Error.IsMalformed (r.tagName t) := by
  unfold tagName
  split
  · exact failsOnly_ok _
  · split
    · exact failsOnly_ok _
    · exact malformed _

theorem malformed_properties (r : Reading) : FailsOnly Error.IsMalformed r.properties := by
  unfold properties
  split
  · exact (malformed_tagName _ _).bind fun _ => failsOnly_ok _
  · exact (malformed_tagName _ _).bind fun _ => failsOnly_ok _
  · exact failsOnly_ok _
  · exact (malformed_tagName _ _).bind fun _ => failsOnly_ok _
  · exact failsOnly_ok _

theorem malformed_name (p : Properties) (n : Node) (r : Reading) :
    FailsOnly Error.IsMalformed (name p n r) := by
  unfold name
  split
  · exact failsOnly_ok _
  · split
    · exact malformed _
    · exact failsOnly_ok _

/-- The parts of a node are read once the node has its name. -/
theorem malformed_named {parts : Reading → Except Error α} {f : α → Except Error β}
    (h : ∀ r, FailsOnly Error.IsMalformed (parts r)) (hf : ∀ a, FailsOnly Error.IsMalformed (f a))
    (p : Properties) (n : Node) (r : Reading) :
    FailsOnly Error.IsMalformed (name p n r >>= fun r => parts r >>= f) :=
  (malformed_name p n r).bind fun _ => (h _).bind hf

theorem malformed_emptyAt (stops : List Token) (h : ∀ r, FailsOnly Error.IsMalformed (read r))
    (r : Reading) : FailsOnly Error.IsMalformed (r.emptyAt stops read) :=
  (failsOnly_ok _).ite (h r)

theorem malformed_afterColon (stops : List Token) (h : ∀ r, FailsOnly Error.IsMalformed (read r))
    (r : Reading) : FailsOnly Error.IsMalformed (r.afterColon stops read) := by
  unfold afterColon
  split
  · exact malformed_emptyAt stops h _
  · exact failsOnly_ok _

/-! ## Nodes -/

/-- With so many steps the functions that read nodes refuse what is malformed, and fail with nothing
else. -/
structure Refuses (steps : Nat) : Prop where
  node : ∀ block bare r, FailsOnly Error.IsMalformed (node block bare steps r)
  blockItems : ∀ r, FailsOnly Error.IsMalformed (blockItems steps r)
  bareItems : ∀ r, FailsOnly Error.IsMalformed (bareItems steps r)
  blockEntries : ∀ r, FailsOnly Error.IsMalformed (blockEntries steps r)
  flowItems : ∀ first r, FailsOnly Error.IsMalformed (flowItems first steps r)
  flowItem : ∀ r, FailsOnly Error.IsMalformed (flowItem steps r)
  flowEntries : ∀ first r, FailsOnly Error.IsMalformed (flowEntries first steps r)
  flowEntry : ∀ r, FailsOnly Error.IsMalformed (flowEntry steps r)

namespace Refuses

theorem node_succ (h : Refuses steps) (block bare : Bool) (r : Reading) :
    FailsOnly Error.IsMalformed (Reading.node block bare (steps + 1) r) := by
  unfold Reading.node
  split
  · split
    · exact failsOnly_ok _
    · exact malformed _
  · refine (malformed_properties _).bind ?_
    rintro ⟨p, r⟩
    dsimp only
    split
    · exact malformed_named h.bareItems (fun _ => failsOnly_ok _) _ _ _
    · exact (malformed_name _ _ _).bind fun _ => failsOnly_ok _
    · exact malformed_named (h.flowItems true) (fun _ => failsOnly_ok _) _ _ _
    · exact malformed_named (h.flowEntries true) (fun _ => failsOnly_ok _) _ _ _
    · exact malformed_named h.blockItems (fun _ => failsOnly_ok _) _ _ _
    · exact malformed_named h.blockEntries (fun _ => failsOnly_ok _) _ _ _
    · refine .ite ?_ (malformed_unexpected _)
      exact (malformed_name _ _ _).bind fun _ => failsOnly_ok _

theorem blockItems_succ (h : Refuses steps) (r : Reading) :
    FailsOnly Error.IsMalformed (Reading.blockItems (steps + 1) r) := by
  unfold Reading.blockItems
  split
  · exact (malformed_emptyAt _ (h.node true false) _).bind fun _ =>
      (h.blockItems _).bind fun _ => failsOnly_ok _
  · exact failsOnly_ok _
  · exact malformed_unexpected _

theorem bareItems_succ (h : Refuses steps) (r : Reading) :
    FailsOnly Error.IsMalformed (Reading.bareItems (steps + 1) r) := by
  unfold Reading.bareItems
  split
  · exact (malformed_emptyAt _ (h.node true false) _).bind fun _ =>
      (h.bareItems _).bind fun _ => failsOnly_ok _
  · exact failsOnly_ok _

theorem blockEntries_succ (h : Refuses steps) (r : Reading) :
    FailsOnly Error.IsMalformed (Reading.blockEntries (steps + 1) r) := by
  unfold Reading.blockEntries
  split
  · exact (malformed_emptyAt _ (h.node true true) _).bind fun _ =>
      (malformed_afterColon _ (h.node true true) _).bind fun _ =>
        (h.blockEntries _).bind fun _ => failsOnly_ok _
  · exact failsOnly_ok _
  · exact malformed_unexpected _

theorem flowItems_succ (h : Refuses steps) (first : Bool) (r : Reading) :
    FailsOnly Error.IsMalformed (Reading.flowItems first (steps + 1) r) := by
  unfold Reading.flowItems
  split
  · exact failsOnly_ok _
  · exact failsOnly_ok _
  · exact (h.flowItem _).bind fun _ => (h.flowItems _ _).bind fun _ => failsOnly_ok _
  · exact (h.flowItem _).bind fun _ => (h.flowItems _ _).bind fun _ => failsOnly_ok _
  · exact malformed_unexpected _

theorem flowItem_succ (h : Refuses steps) (r : Reading) :
    FailsOnly Error.IsMalformed (Reading.flowItem (steps + 1) r) := by
  unfold Reading.flowItem
  split
  · exact (malformed_emptyAt _ (h.node false false) _).bind fun _ =>
      (malformed_afterColon _ (h.node false false) _).bind fun _ => failsOnly_ok _
  · exact h.node _ _ _

theorem flowEntries_succ (h : Refuses steps) (first : Bool) (r : Reading) :
    FailsOnly Error.IsMalformed (Reading.flowEntries first (steps + 1) r) := by
  unfold Reading.flowEntries
  split
  · exact failsOnly_ok _
  · exact failsOnly_ok _
  · exact (h.flowEntry _).bind fun _ => (h.flowEntries _ _).bind fun _ => failsOnly_ok _
  · exact (h.flowEntry _).bind fun _ => (h.flowEntries _ _).bind fun _ => failsOnly_ok _
  · exact malformed_unexpected _

theorem flowEntry_succ (h : Refuses steps) (r : Reading) :
    FailsOnly Error.IsMalformed (Reading.flowEntry (steps + 1) r) := by
  unfold Reading.flowEntry
  split
  · exact (malformed_emptyAt _ (h.node false false) _).bind fun _ =>
      (malformed_afterColon _ (h.node false false) _).bind fun _ => failsOnly_ok _
  · exact (h.node _ _ _).bind fun _ => failsOnly_ok _

/-- **Reading nodes** fails only with what is malformed, however many steps there are. -/
theorem all (steps : Nat) : Refuses steps := by
  induction steps with
  | zero =>
    refine ⟨fun _ _ _ => ?_, fun _ => ?_, fun _ => ?_, fun _ => ?_, fun _ _ => ?_, fun _ => ?_,
      fun _ _ => ?_, fun _ => ?_⟩
    all_goals exact malformed_unexpected _
  | succ steps h =>
    exact ⟨h.node_succ, h.blockItems_succ, h.bareItems_succ, h.blockEntries_succ,
      h.flowItems_succ, h.flowItem_succ, h.flowEntries_succ, h.flowEntry_succ⟩

end Refuses

/-! ## Documents -/

theorem malformed_directives (versioned : Bool) (handles : List (String × String))
    (ts : List Token) : FailsOnly Error.IsMalformed (directives versioned handles ts) := by
  fun_induction directives versioned handles ts with
  | case1 => exact malformed _
  | case2 => exact malformed _
  | case3 _ _ _ _ _ _ _ ih => exact ih
  | case4 => exact malformed _
  | case5 _ _ _ _ _ _ ih => exact ih
  | case6 _ _ _ ih => exact ih
  | case7 => exact failsOnly_ok _

theorem malformed_close (n : Node) (r : Reading) : FailsOnly Error.IsMalformed (close n r) :=
  (failsOnly_ok _).ite (malformed _)

theorem malformed_marked (ts : List Token) : FailsOnly Error.IsMalformed (marked ts) := by
  refine (malformed_directives _ _ _).bind ?_
  rintro ⟨handles, ts⟩
  dsimp only
  split
  · refine (malformed_close _ _).ite ?_
    exact ((Refuses.all _).node _ _ _).bind fun _ => malformed_close _ _
  · exact malformed_unexpected _

end Reading

/-- **Tokens that make up no document** are told as a malformed text. -/
theorem malformed_ofTokens (ts : List Token) : FailsOnly Error.IsMalformed (Node.ofTokens? ts) := by
  unfold Node.ofTokens?
  split
  · exact failsOnly_ok _
  · exact failsOnly_map_iff.mpr (Reading.malformed_marked _)
  · exact failsOnly_map_iff.mpr (Reading.malformed_marked _)
  · exact ((Reading.Refuses.all _).node _ _ _).bind fun _ =>
      failsOnly_map_iff.mpr (Reading.malformed_close _ _)

end SchemaModels.Yaml
