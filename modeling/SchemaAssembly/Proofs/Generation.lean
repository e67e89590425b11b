import SchemaAssembly.Proofs.ConversionClosure
import SchemaAssembly.Proofs.Registration

/-! A batch that brings an exposed class is converted together with all exposed classes known before, and all the types
that this gives are registered. So what a loader holds of exposed classes is of one generation, that of the conversion
last done, after any run of registrations. -/

namespace SchemaAssembly

theorem Conversion.Closed.lastNamed? {generation : Nat} {types : List NamedType} (h : Closed generation types)
    {t : NamedType} (ht : t ∈ types) : Registry.lastNamed? (types.map (·.key)) t.name = some t.key := by
  have hone : ∀ k ∈ types.map (·.key), ∀ k' ∈ types.map (·.key), k.name = k'.name → k = k' := by
    intro k hk k' hk' hname
    obtain ⟨t, ht, rfl⟩ := List.mem_map.1 hk
    obtain ⟨t', ht', rfl⟩ := List.mem_map.1 hk'
    rw [TypeKey.mk.injEq]
    exact ⟨hname, (h.fresh t ht).trans (h.fresh t' ht').symm⟩
  exact (Registry.lastNamed?_eq_some_iff hone).2 ⟨List.mem_map_of_mem ht, rfl⟩

namespace Loader

/-- The exposed classes of a batch. -/
def exposedIn (u : Universe) (items : List TypeItem) : List ClassRef :=
  items.flatMap fun
    | .cls c => if isExposed u (.cls c) then [c] else []
    | _ => []

theorem eraseDups_concat (cs : List ClassRef) (c : ClassRef) :
    (cs ++ [c]).eraseDups = if c ∈ cs then cs.eraseDups else cs.eraseDups ++ [c] := by
  rw [List.eraseDups_append]
  by_cases h : c ∈ cs <;> simp [List.removeAll, List.eraseDups_cons, h]

/-- The exposed classes of a batch come after those that are known, in order, each where it came first. -/
theorem extendExposed_eraseDups (u : Universe) (known : List ClassRef) (items : List TypeItem) :
    extendExposed u known.eraseDups items = (known ++ exposedIn u items).eraseDups := by
  induction items generalizing known with
  | nil => simp [extendExposed, exposedIn]
  | cons item items ih =>
    cases item with
    | cls c =>
      have hcons : exposedIn u (.cls c :: items) =
          (if isExposed u (.cls c) then [c] else []) ++ exposedIn u items := List.flatMap_cons
      have hknown :
          (if isExposed u (.cls c) ∧ c ∉ known.eraseDups then known.eraseDups ++ [c] else known.eraseDups) =
            (known ++ if isExposed u (.cls c) then [c] else []).eraseDups := by
        by_cases hc : isExposed u (.cls c)
        · by_cases hin : c ∈ known <;> simp [hc, hin, eraseDups_concat]
        · simp [hc]
      rw [extendExposed_cls, hknown, ih, hcons, List.append_assoc]
    | known k => exact ih known
    | other v => exact ih known

theorem convertBatch_of_none {u : Universe} {l : Loader} {items : List TypeItem}
    (h : items.any (isExposed u) = false) : l.convertBatch u items = ⟨l, return []⟩ := by
  unfold convertBatch
  rw [h, if_neg Bool.false_ne_true]

/-- A conversion gives closed types of the next generation, with those of all exposed classes. -/
theorem convertBatch_closed {u : Universe} {l : Loader} {items : List TypeItem} {types : List NamedType}
    (hany : items.any (isExposed u)) (h : (l.convertBatch u items).logged.result = .ok types) :
    (l.convertBatch u items).state =
      { l with
        exposed := extendExposed u l.exposed items
        converted := l.converted ++ types
        generation := l.generation + 1 } ∧
    Conversion.Closed (l.generation + 1) types ∧
    ∀ c ∈ extendExposed u l.exposed items, ∃ d, u.definition? c = some d ∧ d.name ∈ types.map (·.name) := by
  unfold convertBatch at h ⊢
  simp only [hany, if_true] at h ⊢
  split at h
  · cases h
  · split at h
    · next hrun =>
      simp only [hrun] at h
      cases h
    · next hrun =>
      simp only [hrun] at h
      cases h
      refine ⟨by simp only [*], l.converter.closed hrun, fun c hc => ?_⟩
      obtain ⟨d, hd, hin⟩ := l.converter.given hrun c (List.mem_map_of_mem hc)
      obtain ⟨t, ht, hkey⟩ := List.mem_map.1 hin
      exact ⟨d, hd, List.mem_map.2 ⟨t, ht, congrArg TypeKey.name hkey⟩⟩

/-- What registering a batch leaves if nothing is rejected: its items are registered in order, and then all types that
its conversion gave. -/
theorem registerTypes_ok {u : Universe} {l : Loader} {items : List TypeItem} {types : List NamedType}
    (hopen : l.registry.isSealed = false) (hc : (l.convertBatch u items).logged.result = .ok types)
    (h : (l.registerTypes u items).logged.result = .ok ()) :
    (l.registerTypes u items).state =
      { (l.convertBatch u items).state with
        registry :=
          (l.registry.registerAll (accepted (items.map (l.keyOf u types)))).registerAll (types.map (·.key)) } := by
  unfold registerTypes at h ⊢
  simp only [hc] at h ⊢
  cases hgiven : (registerKeys true l.registry (items.map (l.keyOf u types))).logged.result with
  | error e =>
    simp only [hgiven] at h
    cases h
  | ok _ =>
    have hreached : accepted (types.map fun t => .ok t.key) = types.map (·.key) := by
      clear hc h hgiven
      induction types with
      | nil => rfl
      | cons t ts ih => exact congrArg (t.key :: ·) ih
    have hopen' : (registerKeys true l.registry (items.map (l.keyOf u types))).state.isSealed = false :=
      (registerKeys_isSealed _ _ _).trans hopen
    have hstate := registerKeys_open hopen' false (types.map fun t => .ok t.key)
    rw [registerKeys_open hopen, hreached] at hstate
    simp only
    rw [registerKeys_open hopen, hstate]

theorem mem_of_keyOf_cls {u : Universe} {l : Loader} {types : List NamedType} {c : ClassRef} {k : TypeKey}
    (h : l.keyOf u types (.cls c) = .ok k) : k ∈ types.map (·.key) := by
  simp only [keyOf] at h
  split at h
  · split at h
    · next t ht =>
      cases h
      exact List.mem_map_of_mem (List.mem_of_find?_eq_some ht)
    · cases h
  · cases h

theorem mem_accepted {u : Universe} {l : Loader} {types : List NamedType} {items : List TypeItem} {k : TypeKey}
    (h : k ∈ accepted (items.map (l.keyOf u types))) : .known k ∈ items ∨ k ∈ types.map (·.key) := by
  induction items with
  | nil => cases h
  | cons item items ih =>
    rw [List.map_cons] at h
    cases hkey : l.keyOf u types item with
    | error e =>
      rw [hkey] at h
      cases h
    | ok k' =>
      rw [hkey, accepted, List.mem_cons] at h
      rcases h with rfl | h
      · cases item with
        | known k =>
          cases hkey
          exact .inl List.mem_cons_self
        | cls c => exact .inr (mem_of_keyOf_cls hkey)
        | other v => cases hkey
      · exact (ih h).imp_left (List.mem_cons_of_mem _)

theorem registerTypes_of_unconverted {u : Universe} {l : Loader} {items : List TypeItem} {e : Failure}
    (h : (l.convertBatch u items).logged.result = .error e) :
    (l.registerTypes u items).state = l ∧ (l.registerTypes u items).logged.result = .error e := by
  unfold registerTypes
  simp only [h, and_true]
  exact convertBatch_error h

theorem addContributor_of_unconverted {u : Universe} {l : Loader} {r : Resolver} {items : List TypeItem} {e : Failure}
    (h : (l.convertBatch u items).logged.result = .error e) : (l.addContributor u r items).state = l := by
  unfold addContributor
  cases hempty : items.isEmpty with
  | true =>
    rw [List.isEmpty_iff.1 hempty] at h
    cases h
  | false =>
    obtain ⟨hstate, hresult⟩ := registerTypes_of_unconverted h
    simp only [hresult, hstate, Bool.false_eq_true, if_false]

theorem addContributor_ok {u : Universe} {l : Loader} {r : Resolver} {items : List TypeItem}
    (h : (l.addContributor u r items).logged.result = .ok ()) :
    (l.registerTypes u items).logged.result = .ok () ∧ ∃ executors,
      (l.addContributor u r items).state = { (l.registerTypes u items).state with executors } := by
  unfold addContributor at h ⊢
  cases hempty : items.isEmpty with
  | true =>
    rw [List.isEmpty_iff.1 hempty]
    exact ⟨rfl, _, rfl⟩
  | false =>
    simp only [hempty, Bool.false_eq_true, if_false] at h ⊢
    cases hres : (l.registerTypes u items).logged.result with
    | error f =>
      simp only [hres] at h
      cases h
    | ok _ =>
      exact ⟨rfl, _, rfl⟩

end Loader

/-- A call that registers types or a resolver, in the universe that it meets. -/
inductive Registration where
  | types (defs : Universe) (items : List TypeItem)
  | resolver (defs : Universe) (r : Resolver)

/-- A conversion that succeeded: the universe that it met, the exposed classes that its batch brought, and the types of
all exposed classes known by then. -/
structure Converted where
  defs : Universe
  classes : List ClassRef
  types : List NamedType

def Converted.names (c : Converted) : List String :=
  c.types.map (·.name)

namespace Registration

def perform (l : Loader) : Registration → Outcome Loader Unit
  | .types u items => l.registerTypes u items
  | .resolver u r => (l.registerResolver u r).1

/-- The batch that is handed over, with the universe in which that happens. -/
def batch? : Registration → Option (Universe × List TypeItem)
  | .types u items => some (u, items)
  | .resolver u r =>
    match (Loader.contributed r).apply u with
    | (.ok items, u') => some (u', items)
    | (.error _, _) => none

def known (s : Registration) : List TypeKey :=
  (s.batch?.map fun b => b.2.filterMap fun | .known k => some k | _ => none).getD []

/-- The conversion that a registration leads to, if it brings an exposed class and the conversion succeeds. -/
def converted? (l : Loader) (s : Registration) : Option Converted :=
  s.batch?.bind fun b =>
    if b.2.any (Loader.isExposed b.1) then
      (l.convertBatch b.1 b.2).logged.result.toOption.map fun types => ⟨b.1, Loader.exposedIn b.1 b.2, types⟩
    else none

theorem converted?_of_batch {l : Loader} {s : Registration} {u : Universe} {items : List TypeItem}
    (hb : s.batch? = some (u, items)) :
    s.converted? l =
      if items.any (Loader.isExposed u) then
        (l.convertBatch u items).logged.result.toOption.map fun types => ⟨u, Loader.exposedIn u items, types⟩
      else none := by
  unfold converted?
  rw [hb]
  rfl

/-- The registration succeeds, or the classes of its batch cannot be converted. -/
def Settled (l : Loader) (s : Registration) : Prop :=
  (s.perform l).logged.result = .ok () ∨
    ∃ u items e, s.batch? = some (u, items) ∧ (l.convertBatch u items).logged.result = .error e

theorem mem_known {s : Registration} {u : Universe} {items : List TypeItem}
    (hb : s.batch? = some (u, items)) {k : TypeKey} (hk : .known k ∈ items) : k ∈ s.known := by
  unfold known
  rw [hb]
  exact List.mem_filterMap.2 ⟨_, hk, rfl⟩

theorem perform_resolver {u u' : Universe} {l : Loader} (hopen : l.registry.isSealed = false) {r : Resolver}
    {items : List TypeItem} (h : (Loader.contributed r).apply u = (.ok items, u')) :
    (Registration.resolver u r).perform l = l.addContributor u' r items := by
  simp only [perform, Loader.registerResolver, hopen, h, Bool.false_eq_true, if_false]

/-- The batch of a registration that succeeds is registered as a whole. -/
theorem succeeded_cases {l : Loader} {s : Registration} (hopen : l.registry.isSealed = false)
    (h : (s.perform l).logged.result = .ok ()) :
    ∃ u items types, s.batch? = some (u, items) ∧ (l.convertBatch u items).logged.result = .ok types ∧
      (l.registerTypes u items).logged.result = .ok () ∧
      ∃ executors, (s.perform l).state = { (l.registerTypes u items).state with executors } := by
  have hregistered {u : Universe} {items : List TypeItem} (h : (l.registerTypes u items).logged.result = .ok ()) :
      ∃ types, (l.convertBatch u items).logged.result = .ok types := by
    cases hc : (l.convertBatch u items).logged.result with
    | error e =>
      rw [(Loader.registerTypes_of_unconverted hc).2] at h
      cases h
    | ok types => exact ⟨types, rfl⟩
  cases s with
  | types u items =>
    obtain ⟨types, hc⟩ := hregistered h
    exact ⟨u, items, types, rfl, hc, h, _, rfl⟩
  | resolver u r =>
    rcases hcontributed : (Loader.contributed r).apply u with ⟨f | items, u'⟩
    · simp only [perform, Loader.registerResolver, hopen, hcontributed, Bool.false_eq_true, if_false] at h
      cases h
    · rw [perform_resolver hopen hcontributed] at h ⊢
      obtain ⟨hresult, hstate⟩ := Loader.addContributor_ok h
      obtain ⟨types, hc⟩ := hregistered hresult
      exact ⟨u', items, types, by simp only [batch?, hcontributed], hc, hresult, hstate⟩

/-- A registration that is settled changes nothing, or its batch is registered as a whole. -/
theorem settled_cases {l : Loader} {s : Registration} (hopen : l.registry.isSealed = false) (h : s.Settled l) :
    ((s.perform l).state = l ∧ s.converted? l = none) ∨
    ∃ u items types, s.batch? = some (u, items) ∧ (l.convertBatch u items).logged.result = .ok types ∧
      (l.registerTypes u items).logged.result = .ok () ∧
      ∃ executors, (s.perform l).state = { (l.registerTypes u items).state with executors } := by
  rcases h with h | ⟨u, items, e, hb, he⟩
  · exact .inr (succeeded_cases hopen h)
  · left
    have hnone : s.converted? l = none := by
      rw [converted?_of_batch hb, he]
      split <;> rfl
    cases s with
    | types u items =>
      cases hb
      exact ⟨(Loader.registerTypes_of_unconverted he).1, hnone⟩
    | resolver u₀ r =>
      rcases hcontributed : (Loader.contributed r).apply u₀ with ⟨f | items', u'⟩
      · simp only [batch?, hcontributed] at hb
        cases hb
      · simp only [batch?, hcontributed] at hb
        cases hb
        rw [perform_resolver hopen hcontributed]
        exact ⟨Loader.addContributor_of_unconverted he, hnone⟩

def performAll (l : Loader) (run : List Registration) : Loader :=
  run.foldl (fun l s => (s.perform l).state) l

/-- Every registration of a run is settled where it comes. -/
def AllSettled : Loader → List Registration → Prop
  | _, [] => True
  | l, s :: run => s.Settled l ∧ AllSettled (s.perform l).state run

/-- The conversions of a run that succeed, in order. -/
def conversions : Loader → List Registration → List Converted
  | _, [] => []
  | l, s :: run => (s.converted? l).toList ++ conversions (s.perform l).state run

end Registration

/-- All that a loader has of exposed classes comes from a conversion: it is of that generation and refers to nothing
else, each exposed class has its type there, and each type of it is what is registered under its name. -/
structure Converted.InForce (c : Converted) (l : Loader) : Prop where
  closed : Conversion.Closed l.generation c.types
  given : ∀ cls ∈ l.exposed, ∃ d, c.defs.definition? cls = some d ∧ d.name ∈ c.names
  registered : ∀ t ∈ c.types, l.registry.types.get? t.name = some t.key
  held : ∀ t ∈ c.types, t ∈ l.converted

/-- What holds all along a run: `cs` are the conversions so far, and `ks` the types that were handed over as such. -/
structure OneGeneration (ks : List TypeKey) (cs : List Converted) (l : Loader) : Prop where
  unsealed : l.registry.isSealed = false
  exposed : l.exposed = (cs.flatMap (·.classes)).eraseDups
  entries : ∀ n k, l.registry.types.get? n = some k →
    k.name = n ∧ (k ∈ ks ∨ ∃ c, cs.getLast? = some c ∧ k ∈ c.types.map (·.key))
  latest : ∀ c, cs.getLast? = some c → c.InForce l

namespace OneGeneration

theorem start (converter : Converter) (config : Config) : OneGeneration [] [] { config, converter } where
  unsealed := rfl
  exposed := rfl
  entries n k h := by cases h
  latest c h := by cases h

variable {ks : List TypeKey} {cs : List Converted} {l : Loader} {s : Registration}

theorem register (h : OneGeneration ks cs l) {u : Universe} {items : List TypeItem} (hb : s.batch? = some (u, items))
    (hany : items.any (Loader.isExposed u) = false) (hok : (l.registerTypes u items).logged.result = .ok ())
    (hapart : ∀ k ∈ s.known, ∀ c ∈ cs, k.name ∉ c.names) (executors : List Resolver) :
    OneGeneration (ks ++ s.known) cs { (l.registerTypes u items).state with executors } := by
  have hconvert := Loader.convertBatch_of_none (l := l) hany
  have hresult : (l.convertBatch u items).logged.result = .ok [] := by
    rw [hconvert]
    rfl
  have hstate := Loader.registerTypes_ok h.unsealed hresult hok
  rw [hconvert] at hstate
  have hknown {k : TypeKey} (hk : k ∈ Loader.accepted (items.map (l.keyOf u []))) : k ∈ s.known := by
    rcases Loader.mem_accepted hk with hk | hk
    · exact Registration.mem_known hb hk
    · cases hk
  rw [hstate]
  have hget (n : String) : ((l.registry.registerAll (Loader.accepted (items.map (l.keyOf u [])))).registerAll
      (List.map (·.key) ([] : List NamedType))).types.get? n =
        (Registry.lastNamed? (Loader.accepted (items.map (l.keyOf u []))) n).or (l.registry.types.get? n) :=
    Registry.get?_registerAll (l.registry.registerAll _) [] n |>.trans (Registry.get?_registerAll l.registry _ n)
  refine ⟨h.unsealed, h.exposed, fun n k hk => ?_, fun c hc => ?_⟩
  · rw [hget] at hk
    rcases Option.or_eq_some_iff.1 hk with hk | ⟨-, hk⟩
    · obtain ⟨hin, hname⟩ := Registry.lastNamed?_eq_some hk
      exact ⟨hname, .inl (List.mem_append_right _ (hknown hin))⟩
    · exact (h.entries n k hk).imp_right (Or.imp_left (List.mem_append_left _))
  · obtain ⟨hclosed, hgiven, hregistered, hheld⟩ := h.latest c hc
    refine ⟨hclosed, hgiven, fun t ht => ?_, hheld⟩
    have hnone : Registry.lastNamed? (Loader.accepted (items.map (l.keyOf u []))) t.name = none := by
      cases hlast : Registry.lastNamed? (Loader.accepted (items.map (l.keyOf u []))) t.name with
      | none => rfl
      | some k =>
        obtain ⟨hin, hname⟩ := Registry.lastNamed?_eq_some hlast
        have hclash : k.name ∈ c.names := List.mem_map.2 ⟨t, ht, hname.symm⟩
        exact absurd hclash (hapart k (hknown hin) c (List.mem_of_getLast? hc))
    rw [hget, hnone]
    exact hregistered t ht

/-- A conversion takes the place of the one before, whose types all come again. -/
theorem convert (h : OneGeneration ks cs l) {u : Universe} {items : List TypeItem} (hb : s.batch? = some (u, items))
    (hany : items.any (Loader.isExposed u)) {types : List NamedType}
    (hresult : (l.convertBatch u items).logged.result = .ok types)
    (hok : (l.registerTypes u items).logged.result = .ok ())
    (hgrow : ∀ c ∈ cs, c.names ⊆ types.map (·.name)) (executors : List Resolver) :
    OneGeneration (ks ++ s.known) (cs ++ [⟨u, Loader.exposedIn u items, types⟩])
      { (l.registerTypes u items).state with executors } := by
  obtain ⟨hconverted, hclosed, hgiven⟩ := Loader.convertBatch_closed hany hresult
  have hstate := Loader.registerTypes_ok h.unsealed hresult hok
  rw [hconverted] at hstate
  rw [hstate]
  have hlast {c : Converted} (hc : (cs ++ [(⟨u, Loader.exposedIn u items, types⟩ : Converted)]).getLast? = some c) :
      c = ⟨u, Loader.exposedIn u items, types⟩ := by
    rw [List.getLast?_concat] at hc
    exact (Option.some.inj hc).symm
  have hget (n : String) : ((l.registry.registerAll (Loader.accepted (items.map (l.keyOf u types)))).registerAll
      (types.map (·.key))).types.get? n = (Registry.lastNamed? (types.map (·.key)) n).or
        ((Registry.lastNamed? (Loader.accepted (items.map (l.keyOf u types))) n).or (l.registry.types.get? n)) := by
    rw [Registry.get?_registerAll, Registry.get?_registerAll]
  refine ⟨h.unsealed, ?_, fun n k hk => ?_, fun c hc => ?_⟩
  · rw [List.flatMap_append, List.flatMap_singleton, ← Loader.extendExposed_eraseDups, ← h.exposed]
  · have hnew (hk : k ∈ types.map (·.key)) :
        ∃ c : Converted, (cs ++ [(⟨u, Loader.exposedIn u items, types⟩ : Converted)]).getLast? = some c ∧
          k ∈ c.types.map (·.key) :=
      ⟨_, List.getLast?_concat, hk⟩
    rw [hget] at hk
    rcases Option.or_eq_some_iff.1 hk with hk | ⟨hnone, hk⟩
    · obtain ⟨hin, hname⟩ := Registry.lastNamed?_eq_some hk
      exact ⟨hname, .inr (hnew hin)⟩
    rcases Option.or_eq_some_iff.1 hk with hk | ⟨-, hk⟩
    · obtain ⟨hin, hname⟩ := Registry.lastNamed?_eq_some hk
      rcases Loader.mem_accepted hin with hin | hin
      · exact ⟨hname, .inl (List.mem_append_right _ (Registration.mem_known hb hin))⟩
      · exact ⟨hname, .inr (hnew hin)⟩
    · obtain ⟨hname, hks | ⟨c, hc, hin⟩⟩ := h.entries n k hk
      · exact ⟨hname, .inl (List.mem_append_left _ hks)⟩
      · -- an entry of the conversion before would have been replaced
        obtain ⟨t, ht, rfl⟩ := List.mem_map.1 hin
        have hagain : t.name ∈ types.map (·.name) := hgrow c (List.mem_of_getLast? hc) (List.mem_map_of_mem ht)
        have hsome : (Registry.lastNamed? (types.map (·.key)) n).isSome := by
          rw [Registry.lastNamed?_isSome_iff, List.map_map, ← hname]
          exact hagain
        rw [hnone] at hsome
        cases hsome
  · cases hlast hc
    refine ⟨hclosed, hgiven, fun t ht => ?_, fun t ht => List.mem_append_right _ ht⟩
    rw [hget, hclosed.lastNamed? ht]
    rfl

/-- What a settled registration keeps. -/
theorem step (h : OneGeneration ks cs l) (hs : s.Settled l)
    (hapart : ∀ k ∈ s.known, ∀ c ∈ cs, k.name ∉ c.names)
    (hgrow : ∀ c ∈ cs, ∀ c', s.converted? l = some c' → c.names ⊆ c'.names) :
    OneGeneration (ks ++ s.known) (cs ++ (s.converted? l).toList) (s.perform l).state := by
  rcases Registration.settled_cases h.unsealed hs with
    ⟨hstate, hnone⟩ | ⟨u, items, types, hb, hc, hok, executors, hstate⟩
  · rw [hstate, hnone, Option.toList_none, List.append_nil]
    exact { h with entries := fun n k hk => (h.entries n k hk).imp_right (Or.imp_left (List.mem_append_left _)) }
  · rw [hstate]
    cases hany : items.any (Loader.isExposed u) with
    | false =>
      have hnone : s.converted? l = none := by rw [Registration.converted?_of_batch hb, if_neg (by simp [hany])]
      rw [hnone, Option.toList_none, List.append_nil]
      exact h.register hb hany hok hapart executors
    | true =>
      have hsome : s.converted? l = some ⟨u, Loader.exposedIn u items, types⟩ := by
        rw [Registration.converted?_of_batch hb, if_pos hany, hc]
        rfl
      rw [hsome]
      exact h.convert hb hany hc hok (fun c hin => hgrow c hin _ hsome) executors

/-- What a run keeps, if no type that is handed over as such has the name of a converted one, and each conversion gives
the names of those before it again. -/
theorem run (h : OneGeneration ks cs l) {steps : List Registration} (hs : Registration.AllSettled l steps)
    (hapart : ∀ s ∈ steps, ∀ k ∈ s.known, ∀ c ∈ cs ++ Registration.conversions l steps, k.name ∉ c.names)
    (hgrow : (cs ++ Registration.conversions l steps).Pairwise fun c c' => c.names ⊆ c'.names) :
    OneGeneration (ks ++ steps.flatMap (·.known)) (cs ++ Registration.conversions l steps)
      (Registration.performAll l steps) := by
  induction steps generalizing ks cs l with
  | nil => simpa [Registration.conversions, Registration.performAll] using h
  | cons s steps ih =>
    obtain ⟨hfirst, hrest⟩ := hs
    rw [Registration.conversions, ← List.append_assoc] at hapart hgrow ⊢
    rw [List.flatMap_cons, ← List.append_assoc]
    have hstep := h.step hfirst (fun k hk c hc => hapart s List.mem_cons_self k hk c (by simp [hc]))
      fun c hc c' hc' => by
        have hpair := (List.pairwise_append.1 (List.pairwise_append.1 hgrow).1).2.2
        exact hpair c hc c' (by simp [hc'])
    exact ih hstep hrest (fun s' hs' => hapart s' (List.mem_cons_of_mem _ hs')) hgrow

end OneGeneration

theorem Converted.InForce.resolve {c : Converted} {l : Loader} (h : c.InForce l) {t : NamedType} (ht : t ∈ c.types)
    {f : FieldDef} (hf : f ∈ t.fields)
    (hname : f.type.base ∈ builtinScalars.values ∨ f.type.base.name ∉ builtinScalars.keys) :
    l.registry.resolve f.type.base.name = .ok f.type.base := by
  have hbuiltin : ∀ k ∈ builtinScalars.values, builtinScalars.get? k.name = some k := by decide
  have hfind : l.registry.find? f.type.base.name = some f.type.base := by
    unfold Registry.find?
    rcases hname with hin | hname
    · rw [hbuiltin _ hin]
    · rw [(Assoc.get?_eq_none_iff _ _).2 hname]
      rcases h.closed.closed t ht _ (NamedType.mem_references_of_field hf) with hin | hin
      · exact absurd ((Assoc.contains_iff _ _).1 (by rw [Assoc.contains, hbuiltin _ hin]; rfl)) hname
      · obtain ⟨t', ht', hkey⟩ := List.mem_map.1 hin
        have hregistered := h.registered t' ht'
        unfold NamedType.name at hregistered
        rwa [hkey] at hregistered
  unfold Registry.resolve
  rw [hfind]

/-- A run of registrations on a new loader. Each of them succeeds or could not be converted, no type that is handed over
as such has the name of a converted one, and a conversion gives the names of those before it again. -/
structure Registration.Orderly (converter : Converter) (config : Config) (steps : List Registration) : Prop where
  settled : AllSettled { config, converter } steps
  apart : ∀ s ∈ steps, ∀ k ∈ s.known, ∀ c ∈ conversions { config, converter } steps, k.name ∉ c.names
  growing : (conversions { config, converter } steps).Pairwise fun c c' => c.names ⊆ c'.names

/-- After an orderly run the exposed classes are those of the converted batches, each where it came first, and the last
conversion is in force: whatever is registered was handed over as such or comes from it. A field of one of its types
refers to what the registry has under the name, unless that is a name which the registry keeps for built-in scalars. -/
theorem Loader.registered_one_generation {converter : Converter} {config : Config} {steps : List Registration}
    (h : Registration.Orderly converter config steps) :
    (Registration.performAll { config, converter } steps).exposed =
        ((Registration.conversions { config, converter } steps).flatMap (·.classes)).eraseDups ∧
      (Registration.performAll { config, converter } steps).exposed.Nodup ∧
      ∀ c, (Registration.conversions { config, converter } steps).getLast? = some c →
        c.InForce (Registration.performAll { config, converter } steps) ∧
        (∀ n k, (Registration.performAll { config, converter } steps).registry.types.get? n = some k →
          (∃ s ∈ steps, k ∈ s.known) ∨ k ∈ c.types.map (·.key)) ∧
        ∀ t ∈ c.types, ∀ f ∈ t.fields,
          f.type.base ∈ builtinScalars.values ∨ f.type.base.name ∉ builtinScalars.keys →
            (Registration.performAll { config, converter } steps).registry.resolve f.type.base.name = .ok f.type.base := by
  have hrun := (OneGeneration.start converter config).run h.settled h.apart h.growing
  rw [List.nil_append, List.nil_append] at hrun
  refine ⟨hrun.exposed, hrun.exposed ▸ Conversion.nodup_eraseDups _, fun c hc => ?_⟩
  refine ⟨hrun.latest c hc, fun n k hk => ?_, fun t ht f hf => (hrun.latest c hc).resolve ht hf⟩
  obtain ⟨-, hknown | ⟨c', hc', hin⟩⟩ := hrun.entries n k hk
  · obtain ⟨s, hs, hk⟩ := List.mem_flatMap.1 hknown
    exact .inl ⟨s, hs, hk⟩
  · rw [hc] at hc'
    cases hc'
    exact .inr hin

namespace Directory

def personClass : ClassRef := .defined "app" "Person"
def houseClass : ClassRef := .defined "app" "House"
def filterClass : ClassRef := .defined "app" "Filter"
def resolverClass : ClassRef := .defined "app" "Houses"

def classes : Universe where
  classes := [
    { ref := personClass, lineage := [personClass, .builtin .object]
      definition := some { name := "Person", role := .type, fields := [("name", .cls (.builtin .str))] } },
    { ref := houseClass, lineage := [houseClass, .builtin .object]
      definition := some { name := "House", role := .type, fields := [("owner", .cls personClass)] } },
    { ref := filterClass, lineage := [filterClass, .builtin .object]
      definition := some { name := "Filter", role := .input, fields := [("name", .cls (.builtin .str))] } },
    { ref := resolverClass, lineage := [resolverClass, .builtin .resolver, .builtin .object]
      slots := [("get_types", .types (.items [.cls houseClass]))] }]

/-- A class, one that cannot be converted, and a resolver that brings a class which refers to the first. -/
def steps : List Registration := [
  .types classes [.cls personClass],
  .types classes [.cls filterClass],
  .resolver classes ⟨.object resolverClass [] (some (.resolver 0))⟩]

theorem orderly : Registration.Orderly .standard {} steps where
  settled := by
    refine ⟨.inl (Attempt.eq_ok_of_isOk (by decide +kernel) ()), .inr ?_,
      .inl (Attempt.eq_ok_of_isOk (by decide +kernel) ()), trivial⟩
    obtain ⟨e, he⟩ := Attempt.exists_error
      (x := (Loader.convertBatch classes (Registration.performAll {} (steps.take 1)) [.cls filterClass]).logged.result)
      (by decide +kernel)
    exact ⟨classes, [.cls filterClass], e, rfl, he⟩
  apart := by decide
  growing := by decide +kernel

end Directory

theorem Directory.house_in_force :
    Registration.Orderly .standard {} Directory.steps ∧
      (Registration.performAll {} Directory.steps).exposed = [Directory.personClass, Directory.houseClass] ∧
      ∃ c : Converted, c.names = ["House", "Person"] ∧ c.InForce (Registration.performAll {} Directory.steps) := by
  have hlast : (Registration.conversions {} Directory.steps).getLast?.map Converted.names = some ["House", "Person"] := by
    decide +kernel
  obtain ⟨c, hc, hnames⟩ := Option.map_eq_some_iff.1 hlast
  have hone := Loader.registered_one_generation Directory.orderly
  exact ⟨Directory.orderly, by decide +kernel, c, hnames, (hone.2.2 c hc).1⟩

namespace Shadowed

def intClass : ClassRef := .defined "app" "Weird"
def holderClass : ClassRef := .defined "app" "Holder"

/-- A class that is exposed under the short name of a built-in scalar, and one that refers to it. -/
def classes : Universe where
  classes := [
    { ref := intClass, lineage := [intClass, .builtin .object]
      definition := some { name := "int", role := .type, fields := [("x", .cls (.builtin .int))] } },
    { ref := holderClass, lineage := [holderClass, .builtin .object]
      definition := some { name := "Holder", role := .type, fields := [("weird", .cls intClass)] } }]

def steps : List Registration := [.types classes [.cls holderClass]]

def after : Loader :=
  Registration.performAll {} steps

theorem orderly : Registration.Orderly .standard {} steps where
  settled := ⟨.inl (Attempt.eq_ok_of_isOk (by decide +kernel) ()), trivial⟩
  apart := by decide
  growing := by decide +kernel

end Shadowed

/-- A field refers to a registered type that the registry does not return under its name. -/
theorem Shadowed.weird_not_returned :
    Registration.Orderly .standard {} Shadowed.steps ∧
      (∃ c ∈ Registration.conversions {} Shadowed.steps, ∃ t ∈ c.types, ∃ f ∈ t.fields,
        f.name = "weird" ∧ f.type.base = ⟨"int", .converted 1⟩) ∧
      Shadowed.after.registry.types.get? "int" = some ⟨"int", .converted 1⟩ ∧
      Shadowed.after.registry.resolve "int" = .ok Wire.int.key :=
  ⟨Shadowed.orderly, by decide +kernel, by decide +kernel, rfl⟩

end SchemaAssembly
