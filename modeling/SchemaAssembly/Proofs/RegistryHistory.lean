import SchemaAssembly.Proofs.Registration
import Mathlib.Data.List.Nodup

/-! A registry after any run of registrations and closings. What is registered before the first closing counts: of the
types of one name the last one, at the place of the first. The names of the built-in scalars always stand for these,
whatever is registered. -/

namespace SchemaAssembly

namespace Assoc

theorem values_eq_filterMap {α : Type} {m : Assoc α} (h : (keys m).Nodup) : values m = (keys m).filterMap (get? m) := by
  induction m with
  | nil => rfl
  | cons e rest ih =>
    obtain ⟨hn, hrest⟩ := List.nodup_cons.1 h
    have hfirst : get? (e :: rest) e.1 = some e.2 := by simp [get?_cons]
    have hlater : ∀ k ∈ keys rest, get? (e :: rest) k = get? rest k := by
      intro k hk
      have hne : e.1 ≠ k := fun heq => hn (heq ▸ hk)
      rw [get?_cons, if_neg hne]
    change e.2 :: values rest = (e.1 :: keys rest).filterMap (get? (e :: rest))
    rw [List.filterMap_cons_some hfirst, List.filterMap_congr hlater, ih hrest]

end Assoc

/-- What can be done with a registry. -/
inductive RegistryStep where
  | register (k : TypeKey)
  | close

namespace RegistryStep

/-- The registry after a step. A registration that is refused leaves it as it is. -/
def perform (r : Registry) : RegistryStep → Registry
  | register k => (r.register k).result.toOption.getD r
  | close => r.close

def performAll (r : Registry) (run : List RegistryStep) : Registry :=
  run.foldl perform r

/-- The types that are registered before the first closing. -/
def accepted : List RegistryStep → List TypeKey
  | register k :: run => k :: accepted run
  | _ => []

variable {r : Registry} {run : List RegistryStep}

theorem perform_sealed (h : r.isSealed) (step : RegistryStep) : step.perform r = r := by
  cases step with
  | register k =>
    rw [perform, Registry.register_sealed h]
    rfl
  | close =>
    rcases r with ⟨types, isSealed⟩
    simp only at h
    rw [perform, Registry.close, h]

theorem perform_register (h : r.isSealed = false) (k : TypeKey) :
    perform r (register k) = { r with types := r.types.insert k.name k } := by
  rw [perform, Registry.register_open h]
  rfl

theorem performAll_append (r : Registry) (run run' : List RegistryStep) :
    performAll r (run ++ run') = performAll (performAll r run) run' :=
  List.foldl_append

theorem performAll_sealed (h : r.isSealed) (run : List RegistryStep) : performAll r run = r := by
  induction run with
  | nil => rfl
  | cons step run ih =>
    change performAll (step.perform r) run = r
    rw [perform_sealed h, ih]

/-- A run on an open registry registers what comes before the first closing, and nothing after it. -/
theorem performAll_open (h : r.isSealed = false) (run : List RegistryStep) :
    (performAll r run).types = (r.registerAll (accepted run)).types ∧
      ((performAll r run).isSealed ↔ close ∈ run) := by
  induction run generalizing r with
  | nil => simp [performAll, accepted, Registry.registerAll, h]
  | cons step run ih =>
    cases step with
    | register k =>
      have hrest := ih (r := { r with types := r.types.insert k.name k }) h
      change (performAll (perform r (register k)) run).types = _ ∧ ((performAll (perform r (register k)) run).isSealed ↔ _)
      rw [perform_register h]
      refine ⟨hrest.1, hrest.2.trans ?_⟩
      simp
    | close =>
      change (performAll r.close run).types = _ ∧ ((performAll r.close run).isSealed ↔ _)
      rw [performAll_sealed rfl]
      simp [Registry.close, accepted, Registry.registerAll]

end RegistryStep

namespace Registry

/-- Every type is under its own name, and no name comes twice. -/
structure WellNamed (r : Registry) : Prop where
  distinct : r.types.keys.Nodup
  named : ∀ n k, r.types.get? n = some k → k.name = n

namespace WellNamed

theorem empty : WellNamed {} where
  distinct := List.nodup_nil
  named := by
    intro n k hk
    cases hk

variable {r : Registry} {k : TypeKey}

theorem get?_of_mem (h : r.WellNamed) (hk : k ∈ r.types.values) : r.types.get? k.name = some k := by
  obtain ⟨⟨n, k⟩, hmem, rfl⟩ := List.mem_map.1 hk
  have hget := Assoc.get?_of_mem h.distinct hmem
  rw [h.named n k hget]
  exact hget

theorem nodup_values (h : r.WellNamed) : r.types.values.Nodup := by
  have hnames : r.types.values.map (·.name) = r.types.keys := by
    unfold Assoc.values Assoc.keys
    rw [List.map_map]
    refine List.map_congr_left fun e he => ?_
    exact h.named e.1 e.2 (Assoc.get?_of_mem h.distinct he)
  exact List.Nodup.of_map (·.name) (hnames ▸ h.distinct)

theorem perform (h : r.WellNamed) (step : RegistryStep) : (step.perform r).WellNamed := by
  cases step with
  | close => exact ⟨h.distinct, h.named⟩
  | register k =>
    cases hsealed : r.isSealed with
    | true =>
      rw [RegistryStep.perform_sealed hsealed]
      exact h
    | false =>
      rw [RegistryStep.perform_register hsealed]
      refine ⟨Assoc.nodup_keys_insert _ _ _ h.distinct, fun n k' hk' => ?_⟩
      rw [Assoc.get?_insert] at hk'
      split at hk'
      · next hname =>
        cases hk'
        exact hname
      · exact h.named n k' hk'

/-- Whatever is done with a registry, its types stay under their own names. -/
theorem performAll (h : r.WellNamed) (run : List RegistryStep) : (RegistryStep.performAll r run).WellNamed := by
  induction run generalizing r with
  | nil => exact h
  | cons step run ih => exact ih (h.perform step)

end WellNamed

/-- Types that are registered in order are written under their names one after the other. -/
theorem types_registerAll (r : Registry) (ks : List TypeKey) :
    (r.registerAll ks).types = Assoc.merge r.types (ks.map fun k => (k.name, k)) := by
  unfold registerAll Assoc.merge
  rw [List.foldl_map]

/-- Each name comes once, where it was registered first. -/
theorem keys_registerAll (ks : List TypeKey) :
    (registerAll {} ks).types.keys = (ks.map (·.name)).eraseDups := by
  have hnames : Assoc.keys (ks.map fun k => (k.name, k)) = ks.map (·.name) := by simp [Assoc.keys]
  rw [types_registerAll, Assoc.keys_merge, hnames]
  simp [Assoc.keys, List.removeAll]

variable {r : Registry} {n : String} {k : TypeKey}

theorem resolve_builtin (h : builtinScalars.get? n = some k) : r.resolve n = .ok k := by
  unfold resolve find?
  rw [h]

theorem resolve_registered (hn : builtinScalars.get? n = none) (h : r.types.get? n = some k) : r.resolve n = .ok k := by
  unfold resolve find?
  simp only [hn, h]

theorem resolve_unknown (hn : builtinScalars.get? n = none) (h : r.types.get? n = none) :
    r.resolve n = .error (.typeNotFound (.text n)) := by
  unfold resolve find?
  simp only [hn, h]

theorem contains_iff_resolve : r.contains n ↔ ∃ k, r.resolve n = .ok k := by
  rw [contains_eq_isSome_find?]
  unfold resolve
  cases r.find? n <;> simp

/-- Whatever is done with a new registry, in whatever order: a name of a built-in scalar gives the scalar, any other name
the last type that was registered under it before the registry was closed, and a name without one is not found. All views
of the registry agree on that: a name is in it exactly if it is found, and it lists the registered names once each, in the
order in which they came first, with their last types. -/
theorem last_write_wins (run : List RegistryStep) :
    let r := RegistryStep.performAll {} run
    let ks := RegistryStep.accepted run
    (∀ n, r.resolve n =
      match builtinScalars.get? n, lastNamed? ks n with
      | some k, _ => .ok k
      | none, some k => .ok k
      | none, none => .error (.typeNotFound (.text n))) ∧
    (∀ n, r.contains n ↔ ∃ k, r.resolve n = .ok k) ∧
    r.types.keys = (ks.map (·.name)).eraseDups ∧
    r.types.values = (ks.map (·.name)).eraseDups.filterMap (lastNamed? ks) ∧
    r.types.length = (ks.map (·.name)).eraseDups.length ∧
    (∀ k ∈ r.types.values, k.name ∉ builtinScalars.keys → r.resolve k.name = .ok k) ∧
    ∀ k, (r.register k).result = .error (.typeSealed k.name) ↔ .close ∈ run := by
  intro r ks
  obtain ⟨htypes, hsealed⟩ := RegistryStep.performAll_open (r := {}) rfl run
  have hget (n : String) : r.types.get? n = lastNamed? ks n := by
    rw [htypes, get?_registerAll_empty]
  have hkeys : r.types.keys = (ks.map (·.name)).eraseDups := by rw [htypes, keys_registerAll]
  have hnamed : r.WellNamed := WellNamed.empty.performAll run
  have hvalues : r.types.values = (ks.map (·.name)).eraseDups.filterMap (lastNamed? ks) := by
    rw [Assoc.values_eq_filterMap hnamed.distinct, hkeys]
    exact List.filterMap_congr fun n _ => hget n
  refine ⟨fun n => ?resolve, fun n => contains_iff_resolve, hkeys, hvalues, ?length, fun k hk hname => ?listed, fun k => ?closed⟩
  case resolve =>
    cases hbuiltin : builtinScalars.get? n with
    | some k => exact resolve_builtin hbuiltin
    | none =>
      cases hlast : lastNamed? ks n with
      | some k => exact resolve_registered hbuiltin ((hget n).trans hlast)
      | none => exact resolve_unknown hbuiltin ((hget n).trans hlast)
  case length =>
    rw [← hkeys]
    simp [Assoc.keys]
  case listed => exact resolve_registered ((Assoc.get?_eq_none_iff _ _).2 hname) (hnamed.get?_of_mem hk)
  case closed =>
    rw [← hsealed]
    cases h : r.isSealed with
    | true => exact iff_of_true (register_sealed h k) rfl
    | false =>
      rw [register_open h]
      simp

end Registry

end SchemaAssembly
