import SchemaModels.Proofs.Alike
import SchemaModels.Proofs.Module.Build

/-!
# Resolvers that stand for each other

A resolver looks at its mappings through the one source that it resolves, and at its collections to
see whether a target has a model and, if it has none, to say why. `Exchangeable T r s` says that two
resolvers agree on which targets have a model and that `T` tolerates how they speak of those without
one. Then every collection whose mappings they agree on resolves alike (`alike_resolve`), and its
module is built alike (`ModelModule.alike_build`).
-/

namespace SchemaModels

variable {T : Tolerance} {r s : Resolver} {c : Collection}

namespace Resolver

/-- **Resolvers that stand for each other**, up to what they say of targets without a model. -/
structure Exchangeable (T : Tolerance) (r s : Resolver) : Prop where
  strict : r.strict = s.strict
  emitted : ∀ target, isAmong r.emitted target = isAmong s.emitted target
  warning : ∀ m, T.warning (r.targetWarning m) (s.targetWarning m)
  failure : ∀ m, T.failure (.problem (.unresolvedTarget m (isAmong r.known m.target)))
    (.problem (.unresolvedTarget m (isAmong s.known m.target)))

open Logged (Alike alike_bind_of_eq alike_pure alike_refl)

theorem alike_warn {w w' : String} (h : T.warning w w') : Alike T T.Warnings (warn w) (warn w') :=
  ⟨List.Forall₂.cons h List.Forall₂.nil, List.Forall₂.cons h List.Forall₂.nil⟩

/-- A target is checked alike. -/
theorem alike_check (h : Exchangeable T r s) (m : Mapping) :
    Alike T T.Warnings (r.check c m) (s.check c m) := by
  rw [check_eq, check_eq]
  refine alike_bind_of_eq fun field => ?_
  unfold checkTarget
  refine alike_bind_of_eq fun target => ?_
  rw [h.emitted, h.strict]
  split
  · exact alike_pure (Tolerance.warnings_refl field)
  · split
    · exact ⟨Tolerance.warnings_nil, h.failure m⟩
    · exact (alike_warn (h.warning m)).bind fun ws ws' hws =>
        alike_pure ((Tolerance.warnings_refl field).append hws)

/-- So are the mappings of a collection, one after the other. -/
theorem alike_members (h : Exchangeable T r s) (sourceModule : String)
    (seen : List (Mapping × String)) (ms : List Mapping) :
    Alike T T.Told (r.members c sourceModule seen ms) (s.members c sourceModule seen ms) := by
  induction ms generalizing seen with
  | nil => exact alike_pure ⟨rfl, Tolerance.warnings_nil⟩
  | cons m ms ih =>
    rw [members, members]
    refine alike_bind_of_eq fun rawName => ?_
    simp only
    split
    · split
      · refine alike_bind_of_eq fun ws => (ih seen).bind ?_
        rintro ⟨fields, more⟩ ⟨_, more'⟩ ⟨rfl, hmore⟩
        exact alike_pure ⟨rfl, (Tolerance.warnings_refl ws).append hmore⟩
      · exact ⟨Tolerance.warnings_nil, T.failure_refl _⟩
    · refine (alike_check h m).bind fun ws ws' hws => alike_bind_of_eq fun target => (ih _).bind ?_
      rintro ⟨fields, more⟩ ⟨_, more'⟩ ⟨rfl, hmore⟩
      exact alike_pure ⟨rfl, hws.append hmore⟩

theorem lookupKey_eq_ok {v key : Json} (h : lookupKey v = .ok key) : key = v := by
  cases v <;> cases h <;> rfl

/-- **A collection resolves alike**, if the resolvers agree on its mappings. -/
theorem alike_resolve (h : Exchangeable T r s) (hc : r.mappingsFor c.name = s.mappingsFor c.name) :
    Alike T T.Told (r.resolve c) (s.resolve c) := by
  unfold resolve
  cases hkey : lookupKey c.name with
  | error f => exact ⟨Tolerance.warnings_nil, T.failure_refl _⟩
  | ok key =>
    have hlook : Alike T (fun a b => a = c.name ∧ b = c.name)
        (Logged.ofChecked (.ok key)) (Logged.ofChecked (.ok key)) :=
      ⟨Tolerance.warnings_nil, lookupKey_eq_ok hkey, lookupKey_eq_ok hkey⟩
    refine hlook.bind ?_
    rintro _ _ ⟨rfl, rfl⟩
    rw [hc]
    split
    · exact alike_pure ⟨rfl, Tolerance.warnings_nil⟩
    · refine alike_bind_of_eq fun name => (alike_members h _ [] _).bind ?_
      rintro ⟨fields, ws⟩ ⟨_, ws'⟩ ⟨rfl, hws⟩
      exact alike_bind_of_eq fun _ => alike_pure ⟨rfl, hws⟩

end Resolver

namespace ModelModule

open Logged (Alike alike_bind_of_eq alike_pure)

/-- **The module of a collection is built alike**, if the resolvers agree on its mappings. -/
theorem alike_build (h : r.Exchangeable T s) (hc : r.mappingsFor c.name = s.mappingsFor c.name) :
    Alike T T.Told (build c (some r)) (build c (some s)) := by
  unfold build
  refine alike_bind_of_eq fun _ => alike_bind_of_eq fun enums => alike_bind_of_eq fun _ =>
    alike_bind_of_eq fun _ => alike_bind_of_eq fun fieldMembers =>
      (Resolver.alike_resolve h hc).bind ?_
  rintro ⟨expand?, ws⟩ ⟨_, ws'⟩ ⟨rfl, hws⟩
  exact alike_bind_of_eq fun _ => alike_bind_of_eq fun name => alike_bind_of_eq fun imports =>
    alike_pure ⟨rfl, hws⟩

end ModelModule

end SchemaModels
