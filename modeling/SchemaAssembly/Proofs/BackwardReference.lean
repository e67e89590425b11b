import SchemaAssembly.Proofs.KnownRoots

/-! A loader refers to conversions that are done, and to no others. Whatever is done with a loader keeps that, as long as
no type is handed over that is yet to come. So all services that are built from a sealed loader have one schema. -/

namespace SchemaAssembly

theorem TypeKey.isUntil_builtin {k : TypeKey} (h : k ∈ builtinScalars.values) (g : Nat) : k.isUntil g := by
  have horigin : ∀ k ∈ builtinScalars.values, k.origin = .builtin := by decide
  unfold isUntil
  rw [horigin k h]

theorem SchemaType.mem_references {t : NamedType} {k : TypeKey} (h : k ∈ (ofNamed t).mentions) : k ∈ t.references := by
  rcases List.mem_append.1 h with habove | hfield
  · rcases List.mem_append.1 habove with hinterface | hmember
    · exact List.mem_append_left _ (List.mem_append_right _ hinterface)
    · exact List.mem_append_right _ hmember
  · obtain ⟨f, hf, hk⟩ := List.mem_flatMap.1 hfield
    obtain ⟨g, hg, rfl⟩ := List.mem_map.1 hf
    obtain rfl := List.mem_singleton.1 hk
    exact NamedType.mem_references_of_field hg

namespace Loader
variable {u : Universe} {l : Loader} {items : List TypeItem} {r : Resolver}

/-- What is registered belongs to conversions that are done, and converted types refer to such. -/
structure Backward (l : Loader) : Prop where
  registered : ∀ k ∈ l.registry.types.values, k.isUntil l.generation
  converted : ∀ t ∈ l.converted, ∀ k ∈ t.references, k.isUntil l.generation

/-- No type of a conversion that is yet to come is handed over. -/
def GivesBack (l : Loader) (items : List TypeItem) : Prop :=
  ∀ k, .known k ∈ items → k.isUntil l.generation

theorem mem_values_registerKeys {announce : Bool} {g : Registry} {keys : List (Except Failure TypeKey)} {k : TypeKey}
    (h : k ∈ (registerKeys announce g keys).state.types.values) : k ∈ g.types.values ∨ .ok k ∈ keys := by
  induction keys generalizing g with
  | nil => exact .inl h
  | cons key keys ih =>
    cases key with
    | error e => exact .inl h
    | ok k' =>
      cases hk : (g.register k').result with
      | error e =>
        simp only [registerKeys, hk] at h
        exact .inl h
      | ok g' =>
        rw [(registerKeys_step hk announce keys).1] at h
        rcases ih h with hvalues | hlater
        · cases hsealed : g.isSealed with
          | true => cases (Registry.register_sealed hsealed k').symm.trans hk
          | false =>
            cases (Registry.register_open hsealed k').symm.trans hk
            rcases Assoc.mem_values_insert hvalues with rfl | hvalues
            · exact .inr List.mem_cons_self
            · exact .inl hvalues
        · exact .inr (List.mem_cons_of_mem _ hlater)

theorem mem_of_keyOf {types : List NamedType} {k : TypeKey} (h : .ok k ∈ items.map (l.keyOf u types)) :
    .known k ∈ items ∨ k ∈ types.map (·.key) := by
  obtain ⟨item, hitem, hkey⟩ := List.mem_map.1 h
  cases item with
  | known k' =>
    cases hkey
    exact .inl hitem
  | cls c => exact .inr (mem_of_keyOf_cls hkey)
  | other v => cases hkey

theorem Backward.convertBatch (h : l.Backward) {types : List NamedType}
    (hc : (l.convertBatch u items).logged.result = .ok types) :
    (l.convertBatch u items).state.Backward ∧ l.generation ≤ (l.convertBatch u items).state.generation ∧
      ∀ t ∈ types, t.key.isUntil (l.convertBatch u items).state.generation := by
  cases hany : items.any (isExposed u) with
  | false =>
    rw [convertBatch_of_none hany] at hc ⊢
    cases hc
    exact ⟨h, Nat.le_refl _, by simp⟩
  | true =>
    obtain ⟨hstate, hclosed, -⟩ := convertBatch_closed hany hc
    rw [hstate]
    have hlater {k : TypeKey} (hk : k.isUntil l.generation) : k.isUntil (l.generation + 1) :=
      TypeKey.isUntil_mono (Nat.le_succ _) hk
    have hfresh (t : NamedType) (ht : t ∈ types) : t.key.isUntil (l.generation + 1) := by
      unfold TypeKey.isUntil
      rw [hclosed.fresh t ht]
      exact decide_eq_true (Nat.le_refl _)
    refine ⟨⟨fun k hk => hlater (h.registered k hk), fun t ht k hk => ?_⟩, Nat.le_succ _, hfresh⟩
    rcases List.mem_append.1 ht with hold | hnew
    · exact hlater (h.converted t hold k hk)
    · rcases hclosed.closed t hnew k hk with hscalar | hown
      · exact TypeKey.isUntil_builtin hscalar _
      · obtain ⟨t', ht', rfl⟩ := List.mem_map.1 hown
        exact hfresh t' ht'

theorem Backward.registerTypes (h : l.Backward) (hitems : l.GivesBack items) :
    (l.registerTypes u items).state.Backward := by
  cases hc : (l.convertBatch u items).logged.result with
  | error e =>
    rw [(registerTypes_of_unconverted hc).1]
    exact h
  | ok types =>
    obtain ⟨hbatch, hle, htypes⟩ := h.convertBatch hc
    have hgiven : ∀ k ∈ (registerKeys true l.registry (items.map (l.keyOf u types))).state.types.values,
        k.isUntil (l.convertBatch u items).state.generation := by
      intro k hk
      rcases mem_values_registerKeys hk with hold | hnew
      · exact TypeKey.isUntil_mono hle (h.registered k hold)
      · rcases mem_of_keyOf hnew with hknown | htype
        · exact TypeKey.isUntil_mono hle (hitems k hknown)
        · obtain ⟨t, ht, rfl⟩ := List.mem_map.1 htype
          exact htypes t ht
    unfold Loader.registerTypes
    simp only [hc]
    split
    · exact ⟨hgiven, hbatch.converted⟩
    · refine ⟨fun k hk => ?_, hbatch.converted⟩
      rcases mem_values_registerKeys hk with hold | hnew
      · exact hgiven k hold
      · obtain ⟨t, ht, hkey⟩ := List.mem_map.1 hnew
        cases hkey
        exact htypes t ht

/-- No type that a resolver contributes is yet to come. -/
def ContributesBack (u : Universe) (l : Loader) (r : Resolver) : Prop :=
  ∀ items u', (contributed r).apply u = (.ok items, u') → l.GivesBack items

theorem Backward.makeExecutor (h : l.Backward) (hr : l.ContributesBack u r) : (l.makeExecutor u r).1.state.Backward := by
  unfold Loader.makeExecutor
  rcases hcontributed : (contributed r).apply u with ⟨f | items, u'⟩
  · exact h
  · dsimp only
    split
    · exact h
    · exact h.registerTypes (hr items u' hcontributed)

theorem Backward.registerResolver (h : l.Backward) (hr : l.ContributesBack u r) :
    (l.registerResolver u r).1.state.Backward := by
  cases hsealed : l.registry.isSealed with
  | true =>
    rw [registerResolver_sealed hsealed]
    exact h
  | false =>
    have hmade := h.makeExecutor hr
    rw [registerResolver_eq hsealed]
    dsimp only
    split
    · exact ⟨hmade.registered, hmade.converted⟩
    · exact hmade

end Loader

namespace LoaderStep

def GivesBack (s : Universe × Loader) : LoaderStep → Prop
  | types items => s.2.GivesBack items
  | resolver r | executor r => s.2.ContributesBack s.1 r
  | compile _ | lookup _ | build _ | close => True

/-- So do all steps of a run, where they come. -/
def AllGiveBack : Universe × Loader → List LoaderStep → Prop
  | _, [] => True
  | s, step :: run => step.GivesBack s ∧ AllGiveBack (step.perform s) run

theorem perform_backward {s : Universe × Loader} (h : s.2.Backward) {step : LoaderStep} (hstep : step.GivesBack s) :
    (step.perform s).2.Backward := by
  obtain ⟨u, l⟩ := s
  have hclose : l.close.Backward := ⟨h.registered, h.converted⟩
  cases step with
  | types items => exact h.registerTypes hstep
  | resolver r => exact h.registerResolver hstep
  | executor r => exact h.makeExecutor hstep
  | build config =>
    cases hassemble : (Service.assemble u l).result with
    | error f =>
      rw [perform, (Service.build_of_assemble_error hassemble config).1]
      exact h
    | ok schema =>
      rw [perform, (Service.build_of_assemble hassemble config).1]
      exact hclose
  | close => exact hclose
  | compile kind => exact h
  | lookup name => exact h

theorem performAll_backward {s : Universe × Loader} (h : s.2.Backward) {run : List LoaderStep}
    (hrun : AllGiveBack s run) : (performAll s run).2.Backward := by
  induction run generalizing s with
  | nil => exact h
  | cons step run ih =>
    obtain ⟨hstep, hrest⟩ := hrun
    exact ih (perform_backward h hstep) hrest

end LoaderStep

namespace Loader
variable {u : Universe} {l : Loader}

/-- What code refers to by itself is not yet to come: the types that are declared, and those that operations are declared
with. -/
structure DeclaresBack (u : Universe) (l : Loader) : Prop where
  types : ∀ t ∈ u.types, ∀ k ∈ t.references, k.isUntil l.generation
  returns : ∀ r ∈ l.executors, ∀ kind, ∀ d ∈ (l.context u r).declared kind, ∀ k, d.op.returns = .known k →
    k.isUntil l.generation

theorem Backward.isUntil_of_knows (h : l.Backward) {k : TypeKey} (hk : l.registry.Knows k) : k.isUntil l.generation := by
  rcases hk with hscalar | hresolve
  · exact TypeKey.isUntil_builtin hscalar _
  · cases hbuiltin : builtinScalars.get? k.name with
    | some k' =>
      rw [Registry.resolve_builtin hbuiltin] at hresolve
      cases hresolve
      exact TypeKey.isUntil_builtin (List.mem_map_of_mem (Assoc.mem_of_get? hbuiltin)) _
    | none =>
      cases hget : l.registry.types.get? k.name with
      | none =>
        rw [Registry.resolve_unknown hbuiltin hget] at hresolve
        cases hresolve
      | some k' =>
        rw [Registry.resolve_registered hbuiltin hget] at hresolve
        cases hresolve
        exact h.registered k (List.mem_map_of_mem (Assoc.mem_of_get? hget))

theorem Backward.refersBack (h : l.Backward) (hnamed : l.registry.WellNamed) (hdeclares : l.DeclaresBack u) :
    l.RefersBack u where
  registered := h.registered
  types t ht k hk := by
    have hk := SchemaType.mem_references hk
    unfold types at ht
    rcases List.mem_append.1 ht with ht | hspecified
    · rcases List.mem_append.1 ht with hdeclared | hconverted
      · exact hdeclares.types t hdeclared k hk
      · exact h.converted t hconverted k hk
    · have hnone : ∀ t ∈ Wire.specified, t.references = [] := by decide
      rw [hnone t hspecified] at hk
      cases hk
  fields u' hu kind fields hfields root k hk := by
    obtain ⟨f, hf, hk⟩ := List.mem_flatMap.1 ((List.mem_append.1 hk).resolve_left List.not_mem_nil)
    obtain ⟨e, he, rfl⟩ := List.mem_map.1 hf
    obtain ⟨hargs, hreturn⟩ := known_of_compiledFields hnamed hfields he
    rcases List.mem_cons.1 hk with rfl | harg
    · rcases hreturn with hknown | ⟨r, hr, d, hd, -, hreturns⟩
      · exact h.isUntil_of_knows hknown
      · rw [hu.eq_with] at hd
        exact hdeclares.returns r hr kind d hd _ hreturns
    · obtain ⟨a, ha, rfl⟩ := List.mem_map.1 harg
      exact h.isUntil_of_knows (hargs a ha)

end Loader

/-- A new loader with which something was done until it was sealed: all services that are built from it have the same
schema, whatever is done in between, unless code that is called changes definitions. -/
theorem LoaderStep.schema_unique {u : Universe} {converter : Converter} {config : Config} {run : List LoaderStep}
    (hrun : AllGiveBack (u, { config, converter }) run) (hsealed : (performAll (u, { config, converter }) run).2.registry.isSealed)
    (hdeclares : (performAll (u, { config, converter }) run).2.DeclaresBack (performAll (u, { config, converter }) run).1)
    {later later' : List LoaderStep} (hlater : KeepDefinitions (performAll (u, { config, converter }) run) later)
    (hlater' : KeepDefinitions (performAll (u, { config, converter }) run) later') {c c' : Option Config} {s s' : Service}
    (hs : (Service.build (performAll (performAll (u, { config, converter }) run) later).1
      (performAll (performAll (u, { config, converter }) run) later).2 c).logged.result = .ok s)
    (hs' : (Service.build (performAll (performAll (u, { config, converter }) run) later').1
      (performAll (performAll (u, { config, converter }) run) later').2 c').logged.result = .ok s') :
    s.schema = s'.schema := by
  have hempty : Loader.Backward { config, converter } := ⟨by rintro k ⟨⟩, by rintro t ⟨⟩⟩
  have hreachable : (performAll (u, { config, converter }) run).2.Reachable := ⟨u, converter, config, run, rfl⟩
  have hback := (performAll_backward hempty hrun).refersBack hreachable.wellNamed hdeclares
  exact hback.schema_unique (performAll_keeps _ hsealed later) (performAll_keeps _ hsealed later')
    (performAll_definitions _ hsealed hlater) (performAll_definitions _ hsealed hlater') hs hs'

end SchemaAssembly
