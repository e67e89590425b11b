import SchemaAssembly.Proofs.Attempt
import SchemaAssembly.Loader

/-! What is left behind by a registration that fails. The conversion of a batch either succeeds or changes nothing,
but the items of a batch are registered one after the other, so those before the first rejected one stay. -/

namespace SchemaAssembly

namespace Registry

def registerAll (r : Registry) (ks : List TypeKey) : Registry :=
  { r with types := ks.foldl (fun m k => Assoc.insert m k.name k) r.types }

def lastNamed? (ks : List TypeKey) (n : String) : Option TypeKey :=
  ks.reverse.find? (·.name = n)

theorem register_sealed {r : Registry} (h : r.isSealed) (k : TypeKey) :
    (r.register k).result = .error (.typeSealed k.name) := by
  unfold register
  rw [if_pos h]
  rfl

theorem register_open {r : Registry} (h : r.isSealed = false) (k : TypeKey) :
    (r.register k).result = .ok { r with types := r.types.insert k.name k } := by
  unfold register
  rw [h, if_neg Bool.false_ne_true]
  split <;> rfl

theorem lastNamed?_cons (k : TypeKey) (ks : List TypeKey) (n : String) :
    lastNamed? (k :: ks) n = (lastNamed? ks n).or (if k.name = n then some k else none) := by
  unfold lastNamed?
  rw [List.reverse_cons, List.find?_append, List.find?_singleton]
  simp

theorem lastNamed?_isSome_iff {ks : List TypeKey} {n : String} :
    (lastNamed? ks n).isSome ↔ n ∈ ks.map (·.name) := by
  simp [lastNamed?, List.find?_isSome]

theorem lastNamed?_eq_some {ks : List TypeKey} {n : String} {k : TypeKey} (h : lastNamed? ks n = some k) :
    k ∈ ks ∧ k.name = n := by
  unfold lastNamed? at h
  have hname := List.find?_some h
  exact ⟨List.mem_reverse.1 (List.mem_of_find?_eq_some h), of_decide_eq_true hname⟩

/-- Among types of which no two have one name, the last of a name is the one of that name. -/
theorem lastNamed?_eq_some_iff {ks : List TypeKey} (hone : ∀ k ∈ ks, ∀ k' ∈ ks, k.name = k'.name → k = k') {n : String}
    {k : TypeKey} : lastNamed? ks n = some k ↔ k ∈ ks ∧ k.name = n := by
  constructor
  · exact lastNamed?_eq_some
  · rintro ⟨hk, rfl⟩
    obtain ⟨k', hk'⟩ := Option.isSome_iff_exists.1 (lastNamed?_isSome_iff.2 (List.mem_map_of_mem (f := (·.name)) hk))
    obtain ⟨hin, hname⟩ := lastNamed?_eq_some hk'
    rw [hk', hone k' hin k hk hname]

theorem get?_registerAll (r : Registry) (ks : List TypeKey) (n : String) :
    (r.registerAll ks).types.get? n = (lastNamed? ks n).or (r.types.get? n) := by
  unfold registerAll
  generalize r.types = m
  induction ks generalizing m with
  | nil => rfl
  | cons k ks ih =>
    rw [List.foldl_cons, ih, lastNamed?_cons, Option.or_assoc, Assoc.get?_insert]
    split <;> rfl

theorem get?_registerAll_empty (ks : List TypeKey) (n : String) :
    (registerAll {} ks).types.get? n = lastNamed? ks n := by
  rw [get?_registerAll]
  exact Option.or_none

/-- What is registered under a name that comes again later makes no difference. -/
theorem foldl_insert_absorb {m : Assoc TypeKey} {k : TypeKey} {ks : List TypeKey} (hm : k.name ∈ m.keys)
    (hk : k.name ∈ ks.map (·.name)) :
    ks.foldl (fun m k => Assoc.insert m k.name k) (m.insert k.name k) =
      ks.foldl (fun m k => Assoc.insert m k.name k) m := by
  induction ks generalizing m with
  | nil => cases hk
  | cons k' ks ih =>
    rw [List.foldl_cons, List.foldl_cons]
    by_cases hname : k.name = k'.name
    · rw [← hname, Assoc.insert_insert]
    · have hm' : k.name ∈ (m.insert k'.name k').keys := by
        rw [Assoc.keys_insert]
        split
        · exact hm
        · exact List.mem_append_left _ hm
      rw [Assoc.insert_comm m k.name k'.name k k' hname hm, ih hm' ((List.mem_cons.1 hk).resolve_left hname)]

/-- Registering types changes nothing exactly if the registry holds the last of them for each of their names. -/
theorem registerAll_eq_self_iff {r : Registry} {ks : List TypeKey} :
    r.registerAll ks = r ↔ ∀ k ∈ ks, r.types.get? k.name = lastNamed? ks k.name := by
  constructor
  · intro h k hk
    have hget := get?_registerAll r ks k.name
    have hsome := lastNamed?_isSome_iff.2 (List.mem_map_of_mem hk)
    rw [h] at hget
    rw [hget, Option.or_of_isSome hsome]
  · intro h
    have htypes : ks.foldl (fun m k => Assoc.insert m k.name k) r.types = r.types := by
      induction ks with
      | nil => rfl
      | cons k ks ih =>
        obtain ⟨hk, hks⟩ := List.forall_mem_cons.1 h
        have hrest : ∀ k' ∈ ks, r.types.get? k'.name = lastNamed? ks k'.name := by
          intro k' hk'
          rw [hks k' hk', lastNamed?_cons, Option.or_of_isSome (lastNamed?_isSome_iff.2 (List.mem_map_of_mem hk'))]
        rw [List.foldl_cons]
        rw [lastNamed?_cons, if_pos rfl] at hk
        -- a type whose name comes again makes no difference, and any other one is there already
        by_cases hagain : k.name ∈ ks.map (·.name)
        · rw [foldl_insert_absorb ?_ hagain, ih hrest]
          rw [← Assoc.contains_iff, Assoc.contains, hk]
          simp
        · have hnone : lastNamed? ks k.name = none := by
            rw [← Option.not_isSome_iff_eq_none, lastNamed?_isSome_iff]
            exact hagain
          rw [hnone, Option.none_or] at hk
          rw [Assoc.insert_eq_self _ _ _ hk, ih hrest]
    rw [registerAll, htypes]

end Registry

namespace Loader

/-- The types of a batch before the first item that is rejected. -/
def accepted : List (Except Failure TypeKey) → List TypeKey
  | .ok k :: keys => k :: accepted keys
  | _ => []

/-- A step of a registration that succeeds leaves the rest to do. -/
theorem registerKeys_step {r r' : Registry} {k : TypeKey} (h : (r.register k).result = .ok r') (announce : Bool)
    (keys : List (Except Failure TypeKey)) :
    (registerKeys announce r (.ok k :: keys)).state = (registerKeys announce r' keys).state ∧
      (registerKeys announce r (.ok k :: keys)).logged.result = (registerKeys announce r' keys).logged.result := by
  simp only [registerKeys, h, and_self]

theorem registerKeys_sealed {r : Registry} (h : r.isSealed) (announce : Bool) (keys : List (Except Failure TypeKey)) :
    (registerKeys announce r keys).state = r ∧ ((registerKeys announce r keys).logged.result = .ok () → keys = []) := by
  cases keys with
  | nil => exact ⟨rfl, fun _ => rfl⟩
  | cons key keys =>
    cases key with
    | error e => exact ⟨rfl, fun c => by cases c⟩
    | ok k => simp [registerKeys, Registry.register_sealed h]

theorem registerKeys_open {r : Registry} (h : r.isSealed = false) (announce : Bool)
    (keys : List (Except Failure TypeKey)) : (registerKeys announce r keys).state = r.registerAll (accepted keys) := by
  induction keys generalizing r with
  | nil => rfl
  | cons key keys ih =>
    cases key with
    | error e => rfl
    | ok k =>
      rw [(registerKeys_step (Registry.register_open h k) announce keys).1]
      exact ih h

theorem registerKeys_known {r : Registry} (h : r.isSealed = false) (announce : Bool) (ks : List TypeKey) :
    (registerKeys announce r (ks.map .ok)).logged.result = .ok () := by
  induction ks generalizing r with
  | nil => rfl
  | cons k ks ih =>
    rw [List.map_cons, (registerKeys_step (Registry.register_open h k) announce _).2]
    exact ih h

theorem registerAll_isSealed (r : Registry) (ks : List TypeKey) : (r.registerAll ks).isSealed = r.isSealed := rfl

theorem registerKeys_isSealed (announce : Bool) (r : Registry) (keys : List (Except Failure TypeKey)) :
    (registerKeys announce r keys).state.isSealed = r.isSealed := by
  cases h : r.isSealed with
  | true => rw [(registerKeys_sealed h announce keys).1, h]
  | false => rw [registerKeys_open h, registerAll_isSealed, h]

theorem extendExposed_cls (u : Universe) (known : List ClassRef) (c : ClassRef) (items : List TypeItem) :
    extendExposed u known (.cls c :: items) =
      extendExposed u (if isExposed u (.cls c) ∧ c ∉ known then known ++ [c] else known) items := by
  simp [extendExposed]

theorem mem_extendExposed {u : Universe} {known : List ClassRef} {items : List TypeItem} {c : ClassRef} :
    c ∈ extendExposed u known items ↔ c ∈ known ∨ (.cls c ∈ items ∧ isExposed u (.cls c)) := by
  induction items generalizing known with
  | nil => simp [extendExposed]
  | cons item items ih =>
    cases item with
    | cls d =>
      rw [extendExposed_cls, ih, List.mem_cons, TypeItem.cls.injEq]
      split
      · next h =>
        rw [List.mem_append, List.mem_singleton]
        constructor
        · rintro ((hc | rfl) | ⟨hc, he⟩)
          · exact .inl hc
          · exact .inr ⟨.inl rfl, h.1⟩
          · exact .inr ⟨.inr hc, he⟩
        · rintro (hc | ⟨rfl | hc, he⟩)
          · exact .inl (.inl hc)
          · exact .inl (.inr rfl)
          · exact .inr ⟨hc, he⟩
      · next h =>
        constructor
        · rintro (hc | ⟨hc, he⟩)
          · exact .inl hc
          · exact .inr ⟨.inr hc, he⟩
        · rintro (hc | ⟨rfl | hc, he⟩)
          · exact .inl hc
          · exact .inl (Decidable.not_not.1 fun hnot => h ⟨he, hnot⟩)
          · exact .inr ⟨hc, he⟩
    | known k => simpa [extendExposed] using ih
    | other v => simpa [extendExposed] using ih

/-- The exposed classes stay the same exactly if a batch exposes none for the first time. -/
theorem extendExposed_eq_self_iff {u : Universe} {known : List ClassRef} {items : List TypeItem} :
    extendExposed u known items = known ↔ ∀ c, .cls c ∈ items → isExposed u (.cls c) → c ∈ known := by
  constructor
  · intro h c hc he
    rw [← h]
    exact mem_extendExposed.2 (.inr ⟨hc, he⟩)
  · intro h
    induction items with
    | nil => rfl
    | cons item items ih =>
      have hitems := ih fun c hc => h c (List.mem_cons_of_mem _ hc)
      cases item with
      | cls c =>
        have hnot : ¬ (isExposed u (.cls c) ∧ c ∉ known) := fun hn => hn.2 (h c List.mem_cons_self hn.1)
        rw [extendExposed_cls, if_neg hnot, hitems]
      | known k => exact hitems
      | other v => exact hitems

theorem extendExposed_of_none {u : Universe} {known : List ClassRef} {items : List TypeItem}
    (h : items.any (isExposed u) = false) : extendExposed u known items = known :=
  extendExposed_eq_self_iff.2 fun c hc he => by simp [List.any_eq_false.1 h _ hc] at he

theorem convertBatch_error {u : Universe} {l : Loader} {items : List TypeItem} {e : Failure}
    (h : (l.convertBatch u items).logged.result = .error e) : (l.convertBatch u items).state = l := by
  unfold convertBatch at h ⊢
  split
  · split
    · rfl
    · next hany _ hhash =>
      simp only [hany, hhash, if_true] at h ⊢
      split
      · rfl
      · next hrun =>
        simp only [hrun] at h
        cases h
  · rfl

theorem convertBatch_ok {u : Universe} {l : Loader} {items : List TypeItem} {converted : List NamedType}
    (h : (l.convertBatch u items).logged.result = .ok converted) :
    (l.convertBatch u items).state.registry = l.registry ∧ (l.convertBatch u items).state.executors = l.executors ∧
      (l.convertBatch u items).state.exposed = extendExposed u l.exposed items ∧
      (items = [] → converted = []) := by
  unfold convertBatch at h ⊢
  cases hany : items.any (isExposed u) with
  | false =>
    simp only [hany, Bool.false_eq_true, if_false] at h ⊢
    cases h
    exact ⟨trivial, trivial, (extendExposed_of_none hany).symm, fun _ => rfl⟩
  | true =>
    simp only [hany, if_true] at h ⊢
    split
    · next hhash =>
      simp only [hhash] at h
      cases h
    · next hhash =>
      simp only [hhash] at h
      split
      · next hrun =>
        simp only [hrun] at h
        cases h
      · refine ⟨rfl, rfl, rfl, fun hnil => ?_⟩
        rw [hnil] at hany
        cases hany

/-- The same registry, the same exposed classes and the same resolvers, in the same order. -/
structure Same (l l' : Loader) : Prop where
  registry : l.registry = l'.registry
  exposed : l.exposed = l'.exposed
  executors : l.executors = l'.executors

/-- What has to hold for a batch to leave nothing behind if it is rejected: either its classes cannot be converted, or
none of them is exposed for the first time, and what precedes the rejected item is registered already. -/
def LeavesNothing (u : Universe) (l : Loader) (items : List TypeItem) : Prop :=
  ∀ converted, (l.convertBatch u items).logged.result = .ok converted →
    (∀ c, .cls c ∈ items → isExposed u (.cls c) → c ∈ l.exposed) ∧
    (l.registry.isSealed ∨ ∀ k ∈ accepted (items.map (l.keyOf u converted)),
      l.registry.types.get? k.name = Registry.lastNamed? (accepted (items.map (l.keyOf u converted))) k.name)

/-- A batch that is rejected after its conversion is rejected at one of its own items. -/
theorem registerTypes_rejected {u : Universe} {l : Loader} {items : List TypeItem} {converted : List NamedType}
    {e : Failure} (hc : (l.convertBatch u items).logged.result = .ok converted)
    (h : (l.registerTypes u items).logged.result = .error e) :
    (l.registerTypes u items).state =
      { (l.convertBatch u items).state with
        registry := (registerKeys true l.registry (items.map (l.keyOf u converted))).state } := by
  unfold registerTypes at h ⊢
  simp only [hc] at h ⊢
  cases hgiven : (registerKeys true l.registry (items.map (l.keyOf u converted))).logged.result with
  | error f => rfl
  | ok _ =>
    -- what a conversion reaches is known, so that only a sealed registry could refuse it
    have hreached : (registerKeys false (registerKeys true l.registry (items.map (l.keyOf u converted))).state
        (converted.map fun t => .ok t.key)).logged.result = .ok () := by
      cases hs : l.registry.isSealed with
      | true =>
        have hnil := List.map_eq_nil_iff.1 ((registerKeys_sealed hs true _).2 hgiven)
        rw [(convertBatch_ok hc).2.2.2 hnil]
        rfl
      | false =>
        have hopen := (registerKeys_isSealed true l.registry (items.map (l.keyOf u converted))).trans hs
        have hknown := registerKeys_known hopen false (converted.map (·.key))
        rwa [List.map_map] at hknown
    simp only [hgiven, hreached] at h
    cases h

/-- What a rejected batch leaves behind. -/
theorem registerTypes_same_iff {u : Universe} {l : Loader} {items : List TypeItem} {e : Failure}
    (h : (l.registerTypes u items).logged.result = .error e) :
    Same (l.registerTypes u items).state l ↔ l.LeavesNothing u items := by
  cases hc : (l.convertBatch u items).logged.result with
  | error f =>
    have hstate : (l.registerTypes u items).state = l := by
      unfold registerTypes
      simp only [hc]
      exact convertBatch_error hc
    rw [hstate]
    refine iff_of_true ⟨rfl, rfl, rfl⟩ fun converted hok => ?_
    rw [hc] at hok
    cases hok
  | ok converted =>
    obtain ⟨-, hexecutors, hexposed, -⟩ := convertBatch_ok hc
    have hleaves : l.LeavesNothing u items ↔ (∀ c, .cls c ∈ items → isExposed u (.cls c) → c ∈ l.exposed) ∧
        (l.registry.isSealed ∨ ∀ k ∈ accepted (items.map (l.keyOf u converted)), l.registry.types.get? k.name =
          Registry.lastNamed? (accepted (items.map (l.keyOf u converted))) k.name) := by
      constructor
      · exact fun hl => hl converted hc
      · intro hl converted' hc'
        rw [hc] at hc'
        cases hc'
        exact hl
    have hregistry : (registerKeys true l.registry (items.map (l.keyOf u converted))).state = l.registry ↔
        l.registry.isSealed ∨ ∀ k ∈ accepted (items.map (l.keyOf u converted)), l.registry.types.get? k.name =
          Registry.lastNamed? (accepted (items.map (l.keyOf u converted))) k.name := by
      cases hs : l.registry.isSealed with
      | true => exact iff_of_true (registerKeys_sealed hs true _).1 (.inl rfl)
      | false => rw [registerKeys_open hs, Registry.registerAll_eq_self_iff, or_iff_right Bool.false_ne_true]
    rw [hleaves, ← hregistry, ← extendExposed_eq_self_iff, ← hexposed, registerTypes_rejected hc h]
    constructor
    · exact fun hsame => ⟨hsame.exposed, hsame.registry⟩
    · exact fun hsame => ⟨hsame.2, hsame.1, hexecutors⟩

theorem addContributor_error {u : Universe} {l : Loader} {r : Resolver} {items : List TypeItem} {e : Failure}
    (h : (l.addContributor u r items).logged.result = .error e) :
    (l.registerTypes u items).logged.result = .error e ∧
      (l.addContributor u r items).state = (l.registerTypes u items).state := by
  unfold addContributor at h ⊢
  cases hempty : items.isEmpty with
  | true =>
    simp only [hempty, if_true] at h
    cases h
  | false =>
    simp only [hempty, Bool.false_eq_true, if_false] at h ⊢
    cases hres : (l.registerTypes u items).logged.result with
    | error f =>
      simp only [hres] at h
      exact ⟨h, rfl⟩
    | ok _ =>
      simp only [hres] at h
      cases h

/-- What a rejected resolver leaves behind. -/
theorem registerResolver_same_iff {u : Universe} {l : Loader} {r : Resolver} {e : Failure}
    (h : (l.registerResolver u r).1.logged.result = .error e) :
    Same (l.registerResolver u r).1.state l ↔ l.registry.isSealed ∨
      ∀ items u', (contributed r).apply u = (.ok items, u') → l.LeavesNothing u' items := by
  unfold registerResolver at h ⊢
  cases hs : l.registry.isSealed with
  | true => exact iff_of_true ⟨rfl, rfl, rfl⟩ (.inl rfl)
  | false =>
    simp only [hs, Bool.false_eq_true, if_false, false_or] at h ⊢
    rcases hc : (contributed r).apply u with ⟨f | items, u'⟩
    · exact iff_of_true ⟨rfl, rfl, rfl⟩ fun items u' hok => by cases hok
    · simp only [hc] at h ⊢
      obtain ⟨hrejected, hstate⟩ := addContributor_error h
      rw [hstate, registerTypes_same_iff hrejected]
      constructor
      · intro hl items' u'' hok
        cases hok
        exact hl
      · exact fun hl => hl items u' rfl

/-- A registration that fails, of types or of a resolver, leaves the loader as it was exactly if the batch that was
rejected leaves nothing behind. -/
theorem failed_registration_same_iff (u : Universe) (l : Loader) :
    (∀ items e, (l.registerTypes u items).logged.result = .error e →
      (Same (l.registerTypes u items).state l ↔ l.LeavesNothing u items)) ∧
    ∀ r e, (l.registerResolver u r).1.logged.result = .error e →
      (Same (l.registerResolver u r).1.state l ↔ l.registry.isSealed ∨
        ∀ items u', (contributed r).apply u = (.ok items, u') → l.LeavesNothing u' items) :=
  ⟨fun _ _ h => registerTypes_same_iff h, fun _ _ h => registerResolver_same_iff h⟩

end Loader

namespace Mixed

def user : TypeKey := ⟨"User", .declared "User"⟩

def batch : List TypeItem := [.known user, .other (.int 7)]

def after : Outcome Loader Unit := Loader.registerTypes {} {} batch

theorem batch_rejected : after.logged.result = .error (.unregistrable (Loader.shownItem {} {} (.other (.int 7)))) := rfl

end Mixed

theorem Mixed.batch_same_iff :
    ∃ e, Mixed.after.logged.result = .error e ∧
      (Loader.Same Mixed.after.state {} ↔ Loader.LeavesNothing {} {} Mixed.batch) :=
  ⟨_, Mixed.batch_rejected, (Loader.failed_registration_same_iff {} {}).1 Mixed.batch _ Mixed.batch_rejected⟩

/-- The type before the rejected item stays registered. -/
theorem Mixed.user_stays :
    (∃ e, Mixed.after.logged.result = .error e) ∧ Mixed.after.state.registry.types = [("User", Mixed.user)] ∧
      ¬ Loader.Same Mixed.after.state {} :=
  ⟨⟨_, Mixed.batch_rejected⟩, rfl, fun h => by cases h.registry⟩

end SchemaAssembly
