import SchemaAssembly.Proofs.Generation

/-! Which of several types of one name a loader returns. A batch registers its items in order, and after them all types of
the conversion that it leads to. So a type that is handed over is returned under its name until a later item of that name
or a conversion takes the name. -/

namespace SchemaAssembly

def TypeItem.typeName? (u : Universe) : TypeItem → Option String
  | .known k => some k.name
  | .cls c => (u.definition? c).map (·.name)
  | .other _ => none

def TypeItem.known? : TypeItem → Option TypeKey
  | .known k => some k
  | _ => none

theorem Registration.known_eq {s : Registration} {u : Universe} {items : List TypeItem}
    (hb : s.batch? = some (u, items)) : s.known = items.filterMap TypeItem.known? := by
  unfold known
  rw [hb]
  exact List.filterMap_congr fun item _ => by cases item <;> rfl

def Converted.named? (c : Converted) (n : String) : Option TypeKey :=
  (c.types.find? (·.name = n)).map (·.key)

/-- The type of a name in the last of some conversions that has one. -/
def lastConverted? (cs : List Converted) (n : String) : Option TypeKey :=
  cs.reverse.findSome? (·.named? n)

theorem Converted.named?_isSome_iff {c : Converted} {n : String} : (c.named? n).isSome ↔ n ∈ c.names := by
  unfold named? names
  rw [Option.isSome_map, List.find?_isSome, List.mem_map]
  simp only [decide_eq_true_eq]

/-- A conversion before others counts if none of these has a type of the name. -/
theorem lastConverted?_toList_append (c? : Option Converted) (cs : List Converted) (n : String) :
    lastConverted? (c?.toList ++ cs) n = (lastConverted? cs n).or (c?.bind (·.named? n)) := by
  unfold lastConverted?
  rw [List.reverse_append, List.findSome?_append]
  cases c? with
  | none => rfl
  | some c =>
    rw [Option.toList_some, List.reverse_singleton, List.findSome?_singleton]
    rfl

/-- The last conversion counts if it has a type of the name. -/
theorem lastConverted?_of_getLast? {cs : List Converted} {c : Converted} (hc : cs.getLast? = some c) {n : String}
    {k : TypeKey} (hk : c.named? n = some k) : lastConverted? cs n = some k := by
  obtain ⟨rest, rfl⟩ := List.getLast?_eq_some_iff.1 hc
  unfold lastConverted?
  rw [List.reverse_append, List.reverse_singleton, List.singleton_append, List.findSome?_cons, hk]

/-- Of types of one generation, the last of a name is the first of that name. -/
theorem Conversion.Closed.lastNamed?_eq {generation : Nat} {types : List NamedType} (h : Closed generation types)
    (n : String) : Registry.lastNamed? (types.map (·.key)) n = (types.find? (·.name = n)).map (·.key) := by
  cases hfind : types.find? (·.name = n) with
  | some t =>
    have hname := List.find?_some hfind
    obtain rfl : t.name = n := of_decide_eq_true hname
    exact h.lastNamed? (List.mem_of_find?_eq_some hfind)
  | none =>
    rw [Option.map_none, ← Option.not_isSome_iff_eq_none, Registry.lastNamed?_isSome_iff, List.map_map, List.mem_map]
    rintro ⟨t, ht, rfl⟩
    exact absurd (decide_eq_true rfl) (List.find?_eq_none.1 hfind t ht)

namespace Loader

theorem registerKeys_ok {announce : Bool} {r : Registry} {keys : List (Except Failure TypeKey)}
    (h : (registerKeys announce r keys).logged.result = .ok ()) : ∀ key ∈ keys, ∃ k, key = .ok k := by
  induction keys generalizing r with
  | nil => exact fun key hkey => by cases hkey
  | cons key keys ih =>
    cases key with
    | error e => cases h
    | ok k =>
      cases hstep : (r.register k).result with
      | error e =>
        simp only [registerKeys, hstep] at h
        cases h
      | ok registered =>
        rw [(registerKeys_step hstep announce keys).2] at h
        exact List.forall_mem_cons.2 ⟨⟨k, rfl⟩, ih h⟩

theorem keys_of_registerTypes {u : Universe} {l : Loader} {types : List NamedType} {items : List TypeItem}
    (hc : (l.convertBatch u items).logged.result = .ok types) (h : (l.registerTypes u items).logged.result = .ok ()) :
    ∀ key ∈ items.map (l.keyOf u types), ∃ k, key = .ok k := by
  unfold registerTypes at h
  simp only [hc] at h
  cases hgiven : (registerKeys true l.registry (items.map (l.keyOf u types))).logged.result with
  | error e =>
    simp only [hgiven] at h
    cases h
  | ok done => exact registerKeys_ok hgiven

/-- Under a name that no type of the conversion has, the items of a batch register the types handed over as such. -/
theorem lastNamed?_accepted {u : Universe} {l : Loader} {types : List NamedType} {n : String}
    (hn : n ∉ types.map (·.name)) {items : List TypeItem} (hok : ∀ key ∈ items.map (l.keyOf u types), ∃ k, key = .ok k) :
    Registry.lastNamed? (accepted (items.map (l.keyOf u types))) n =
      Registry.lastNamed? (items.filterMap TypeItem.known?) n := by
  induction items with
  | nil => rfl
  | cons item items ih =>
    obtain ⟨⟨k, hk⟩, hrest⟩ := List.forall_mem_cons.1 hok
    rw [List.map_cons, hk, accepted, Registry.lastNamed?_cons, ih hrest]
    cases item with
    | known k' =>
      cases hk
      exact (Registry.lastNamed?_cons _ _ n).symm
    | cls c =>
      obtain ⟨t, ht, rfl⟩ := List.mem_map.1 (mem_of_keyOf_cls hk)
      have hname : t.key.name ≠ n := fun heq => hn (List.mem_map.2 ⟨t, ht, heq⟩)
      rw [if_neg hname, Option.or_none]
      rfl
    | other v => cases hk

end Loader

namespace Registration

def AllSucceed : Loader → List Registration → Prop
  | _, [] => True
  | l, s :: run => (s.perform l).logged.result = .ok () ∧ AllSucceed (s.perform l).state run

/-- The last item of a batch that stands for a type of a name. -/
def lastItem? (s : Registration) (n : String) : Option TypeItem :=
  s.batch?.bind fun b => b.2.reverse.find? fun item => item.typeName? b.1 = some n

variable {l : Loader} {s : Registration} {run : List Registration} {n : String}

theorem unsealed_perform (hopen : l.registry.isSealed = false) (h : (s.perform l).logged.result = .ok ()) :
    (s.perform l).state.registry.isSealed = false := by
  obtain ⟨u, items, types, -, hc, hok, executors, hstate⟩ := succeeded_cases hopen h
  rw [hstate, Loader.registerTypes_ok hopen hc hok]
  exact hopen

/-- What is registered under a name after a registration: a type of its conversion, or else the last type that is handed
over as such, or else what was registered before. -/
theorem get?_perform (hopen : l.registry.isSealed = false) (h : (s.perform l).logged.result = .ok ()) (n : String) :
    (s.perform l).state.registry.types.get? n = ((s.converted? l).bind (·.named? n)).or
      ((Registry.lastNamed? s.known n).or (l.registry.types.get? n)) := by
  obtain ⟨u, items, types, hb, hc, hok, executors, hstate⟩ := succeeded_cases hopen h
  have hconverted : Registry.lastNamed? (types.map (·.key)) n = (s.converted? l).bind (·.named? n) := by
    rw [converted?_of_batch hb, hc]
    cases hany : items.any (Loader.isExposed u) with
    | false =>
      rw [Loader.convertBatch_of_none hany] at hc
      cases hc
      rfl
    | true =>
      obtain ⟨-, hclosed, -⟩ := Loader.convertBatch_closed hany hc
      exact hclosed.lastNamed?_eq n
  rw [hstate, Loader.registerTypes_ok hopen hc hok]
  change Assoc.get? (Registry.registerAll _ _).types n = _
  rw [Registry.get?_registerAll, Registry.get?_registerAll, known_eq hb, hconverted]
  cases hnamed : (s.converted? l).bind (·.named? n) with
  | some k => rfl
  | none =>
    have hn : n ∉ types.map (·.name) := by
      rw [hnamed, ← Option.not_isSome_iff_eq_none, Registry.lastNamed?_isSome_iff, List.map_map] at hconverted
      exact hconverted
    rw [Loader.lastNamed?_accepted hn (Loader.keys_of_registerTypes hc hok)]

/-- After a run in which no type of a name is handed over as such, the last conversion that has one counts. -/
theorem get?_performAll (hopen : l.registry.isSealed = false) (h : AllSucceed l run)
    (hnone : ∀ s ∈ run, Registry.lastNamed? s.known n = none) :
    (performAll l run).registry.types.get? n = (lastConverted? (conversions l run) n).or (l.registry.types.get? n) := by
  induction run generalizing l with
  | nil => rfl
  | cons s run ih =>
    obtain ⟨hfirst, hrest⟩ := h
    obtain ⟨hs, hrun⟩ := List.forall_mem_cons.1 hnone
    have hstep := get?_perform hopen hfirst n
    rw [hs, Option.none_or] at hstep
    change (performAll (s.perform l).state run).registry.types.get? n = _
    rw [ih (unsealed_perform hopen hfirst) hrest hrun, hstep, ← Option.or_assoc, conversions,
      lastConverted?_toList_append]

theorem mem_exposed_perform (hopen : l.registry.isSealed = false) (h : (s.perform l).logged.result = .ok ())
    {c : ClassRef} (hc : c ∈ l.exposed ∨ ∃ b, s.batch? = some b ∧ .cls c ∈ b.2 ∧ Loader.isExposed b.1 (.cls c)) :
    c ∈ (s.perform l).state.exposed := by
  obtain ⟨u, items, types, hb, hconvert, hok, executors, hstate⟩ := succeeded_cases hopen h
  rw [hstate, Loader.registerTypes_ok hopen hconvert hok]
  change c ∈ (l.convertBatch u items).state.exposed
  rw [(Loader.convertBatch_ok hconvert).2.2.1, Loader.mem_extendExposed]
  refine hc.imp_right fun ⟨b, hb', hin⟩ => ?_
  rw [hb] at hb'
  cases hb'
  exact hin

theorem name_of_converted (hopen : l.registry.isSealed = false) (h : (s.perform l).logged.result = .ok ()) {c : ClassRef}
    (hc : c ∈ (s.perform l).state.exposed) {d : SchemaDefinition}
    (hd : ∀ b, s.batch? = some b → b.1.definition? c = some d) {converted : Converted}
    (hconverted : s.converted? l = some converted) : d.name ∈ converted.names := by
  obtain ⟨u, items, types, hb, hconvert, hok, executors, hstate⟩ := succeeded_cases hopen h
  rw [hstate, Loader.registerTypes_ok hopen hconvert hok] at hc
  change c ∈ (l.convertBatch u items).state.exposed at hc
  rw [(Loader.convertBatch_ok hconvert).2.2.1] at hc
  rw [converted?_of_batch hb] at hconverted
  cases hany : items.any (Loader.isExposed u) with
  | false =>
    rw [hany, if_neg Bool.false_ne_true] at hconverted
    cases hconverted
  | true =>
    rw [hany, if_pos rfl, hconvert] at hconverted
    cases hconverted
    obtain ⟨d', hd', hin⟩ := (Loader.convertBatch_closed hany hconvert).2.2 c hc
    rw [hd _ hb] at hd'
    cases hd'
    exact hin

theorem name_of_conversions (hopen : l.registry.isSealed = false) (h : AllSucceed l run) {c : ClassRef}
    (hc : c ∈ l.exposed) {d : SchemaDefinition} (hd : ∀ s ∈ run, ∀ b, s.batch? = some b → b.1.definition? c = some d) :
    ∀ converted ∈ conversions l run, d.name ∈ converted.names := by
  induction run generalizing l with
  | nil => exact fun converted hin => by cases hin
  | cons s run ih =>
    obtain ⟨hfirst, hrest⟩ := h
    obtain ⟨hs, hrun⟩ := List.forall_mem_cons.1 hd
    have hafter := mem_exposed_perform hopen hfirst (.inl hc)
    intro converted hin
    rcases List.mem_append.1 hin with hin | hin
    · exact name_of_converted hopen hfirst hafter hs (Option.mem_toList.1 hin)
    · exact ih (unsealed_perform hopen hfirst) hrest hafter hrun converted hin

theorem performAll_append (l : Loader) (run run' : List Registration) :
    performAll l (run ++ run') = performAll (performAll l run) run' :=
  List.foldl_append

theorem allSucceed_append {run' : List Registration} :
    AllSucceed l (run ++ run') ↔ AllSucceed l run ∧ AllSucceed (performAll l run) run' := by
  induction run generalizing l with
  | nil => exact (true_and _).symm ▸ Iff.rfl
  | cons s run ih => exact (and_congr_right fun _ => ih).trans and_assoc.symm

theorem conversions_append (l : Loader) (run run' : List Registration) :
    conversions l (run ++ run') = conversions l run ++ conversions (performAll l run) run' := by
  induction run generalizing l with
  | nil => rfl
  | cons s run ih =>
    rw [List.cons_append, conversions, conversions, ih, List.append_assoc]
    rfl

theorem unsealed_performAll (hopen : l.registry.isSealed = false) (h : AllSucceed l run) :
    (performAll l run).registry.isSealed = false := by
  induction run generalizing l with
  | nil => exact hopen
  | cons s run ih => exact ih (unsealed_perform hopen h.1) h.2

theorem find?_known {u : Universe} {items : List TypeItem} (h : ∀ item ∈ items, item.typeName? u ≠ some n) :
    (items.filterMap TypeItem.known?).find? (·.name = n) = none := by
  rw [List.find?_eq_none]
  intro k hk hname
  obtain ⟨item, hitem, hk⟩ := List.mem_filterMap.1 hk
  cases item with
  | known k' =>
    cases hk
    exact h _ hitem (congrArg some (of_decide_eq_true hname))
  | cls c => cases hk
  | other v => cases hk

theorem lastNamed?_of_no_item (h : s.lastItem? n = none) : Registry.lastNamed? s.known n = none := by
  unfold lastItem? at h
  cases hb : s.batch? with
  | none =>
    unfold known
    rw [hb]
    rfl
  | some b =>
    rw [hb] at h
    rw [known_eq hb, Registry.lastNamed?, ← List.filterMap_reverse]
    exact find?_known fun item hitem hname => List.find?_eq_none.1 h item hitem (decide_eq_true hname)

/-- If the last item of a name is a type, it is the last type of that name that is handed over as such. -/
theorem lastNamed?_of_last_item {k : TypeKey} (h : s.lastItem? n = some (.known k)) :
    Registry.lastNamed? s.known n = some k := by
  unfold lastItem? at h
  obtain ⟨b, hb, h⟩ := Option.bind_eq_some_iff.1 h
  obtain ⟨hname, later, earlier, hitems, hlater⟩ := List.find?_eq_some_iff_append.1 h
  have hnone : (later.filterMap TypeItem.known?).find? (·.name = n) = none :=
    find?_known fun item hitem => by simpa using hlater item hitem
  have hk : k.name = n := Option.some.inj (of_decide_eq_true hname)
  rw [known_eq hb, Registry.lastNamed?, ← List.filterMap_reverse, hitems, List.filterMap_append, List.find?_append,
    hnone, Option.none_or]
  exact List.find?_cons_of_pos (decide_eq_true hk)

/-- A run of registrations on a new loader that all succeed and meet the same definitions of classes. -/
structure Steady (u : Universe) (converter : Converter) (config : Config) (run : List Registration) : Prop where
  succeed : AllSucceed { config, converter } run
  definitions : ∀ s ∈ run, ∀ b, s.batch? = some b → ∀ c, b.1.definition? c = u.definition? c

/-- From the registration that hands over a class, every conversion has a type for it, and there is one. -/
theorem exists_last_conversion {u : Universe} (hopen : l.registry.isSealed = false) (h : AllSucceed l (s :: run))
    (hdefinitions : ∀ s' ∈ s :: run, ∀ b, s'.batch? = some b → ∀ c, b.1.definition? c = u.definition? c) {c : ClassRef}
    (hitem : s.lastItem? n = some (.cls c)) :
    ∃ last, (conversions l (s :: run)).getLast? = some last ∧ n ∈ last.names := by
  unfold lastItem? at hitem
  obtain ⟨b, hb, hitem⟩ := Option.bind_eq_some_iff.1 hitem
  have hname := List.find?_some hitem
  obtain ⟨d, hd, rfl⟩ := Option.map_eq_some_iff.1 (of_decide_eq_true hname)
  have hin : .cls c ∈ b.2 := List.mem_reverse.1 (List.mem_of_find?_eq_some hitem)
  have hexposed : Loader.isExposed b.1 (.cls c) := by simp [Loader.isExposed, Universe.isExposed, hd]
  have hd' (s' : Registration) (hs' : s' ∈ s :: run) (b' : Universe × List TypeItem) (hb' : s'.batch? = some b') :
      b'.1.definition? c = some d := by
    rw [hdefinitions s' hs' b' hb', ← hdefinitions s List.mem_cons_self b hb, hd]
  obtain ⟨hfirst, hrest⟩ := h
  have hafter := mem_exposed_perform hopen hfirst (.inr ⟨b, hb, hin, hexposed⟩)
  obtain ⟨u', items, types, hb', hconvert, -⟩ := succeeded_cases hopen hfirst
  have hconverted : s.converted? l = some ⟨u', Loader.exposedIn u' items, types⟩ := by
    rw [hb] at hb'
    cases hb'
    rw [converted?_of_batch hb, if_pos (List.any_eq_true.2 ⟨_, hin, hexposed⟩), hconvert]
    rfl
  have hall : ∀ converted ∈ conversions l (s :: run), d.name ∈ converted.names := by
    intro converted hconverted
    rcases List.mem_append.1 hconverted with hconverted | hconverted
    · exact name_of_converted hopen hfirst hafter (hd' s List.mem_cons_self) (Option.mem_toList.1 hconverted)
    · exact name_of_conversions (unsealed_perform hopen hfirst) hrest hafter
        (fun s' hs' => hd' s' (List.mem_cons_of_mem _ hs')) converted hconverted
  have hne : conversions l (s :: run) ≠ [] := by
    rw [conversions, hconverted]
    exact List.cons_ne_nil _ _
  exact ⟨_, List.getLast?_eq_some_getLast hne, hall _ (List.getLast_mem hne)⟩

end Registration

theorem Registry.resolve_of_get? {r : Registry} {n : String} (hn : n ∉ builtinScalars.keys) {k : TypeKey}
    (h : r.types.get? n = some k) : r.resolve n = .ok k := by
  unfold resolve find?
  rw [(Assoc.get?_eq_none_iff _ _).2 hn, h]

/-- The last item of a name decides what is returned under it. A class is returned as it was converted last. A type that
was handed over as such is returned as long as no conversion, from its own registration on, has a type of its name, and
otherwise the type of the last such conversion. -/
theorem Loader.owner_of_last_item {u : Universe} {converter : Converter} {config : Config}
    {before after : List Registration} {s : Registration}
    (h : Registration.Steady u converter config (before ++ s :: after)) {n : String} (hn : n ∉ builtinScalars.keys)
    {item : TypeItem} (hitem : s.lastItem? n = some item) (hlater : ∀ s' ∈ after, s'.lastItem? n = none) :
    let run := before ++ s :: after
    let registry := (Registration.performAll { config, converter } run).registry
    (∀ c, item = .cls c → ∃ last t, (Registration.conversions { config, converter } run).getLast? = some last ∧ t ∈ last.types ∧
      t.name = n ∧ registry.resolve n = .ok t.key) ∧
    ∀ k, item = .known k → registry.resolve n =
      .ok ((lastConverted? (Registration.conversions (Registration.performAll { config, converter } before) (s :: after)) n).getD k) := by
  intro run registry
  obtain ⟨hbefore, hfirst, hrest⟩ := Registration.allSucceed_append.1 h.succeed
  have hopen : (Registration.performAll { config, converter } before).registry.isSealed = false :=
    Registration.unsealed_performAll rfl hbefore
  have hget : registry.types.get? n =
      (lastConverted? (Registration.conversions (Registration.performAll { config, converter } before) (s :: after)) n).or
        ((Registry.lastNamed? s.known n).or ((Registration.performAll { config, converter } before).registry.types.get? n)) := by
    have hafter := Registration.get?_performAll (Registration.unsealed_perform hopen hfirst) hrest
      fun s' hs' => Registration.lastNamed?_of_no_item (hlater s' hs')
    rw [Registration.get?_perform hopen hfirst, ← Option.or_assoc] at hafter
    change (Registration.performAll { config, converter } (before ++ s :: after)).registry.types.get? n = _
    rw [Registration.performAll_append, Registration.conversions, lastConverted?_toList_append]
    exact hafter
  constructor
  · rintro c rfl
    obtain ⟨last, hlast, hname⟩ := Registration.exists_last_conversion hopen ⟨hfirst, hrest⟩
      (fun s' hs' => h.definitions s' (List.mem_append_right _ hs')) hitem
    obtain ⟨k, hk⟩ := Option.isSome_iff_exists.1 (Converted.named?_isSome_iff.2 hname)
    obtain ⟨t, ht, rfl⟩ := Option.map_eq_some_iff.1 hk
    have htname := List.find?_some ht
    refine ⟨last, t, ?_, List.mem_of_find?_eq_some ht, of_decide_eq_true htname, Registry.resolve_of_get? hn ?_⟩
    · rw [Registration.conversions_append, List.getLast?_append, hlast, Option.some_or]
    · rw [hget, lastConverted?_of_getLast? hlast hk, Option.some_or]
  · rintro k rfl
    apply Registry.resolve_of_get? hn
    rw [hget, Registration.lastNamed?_of_last_item hitem, Option.some_or]
    cases lastConverted? _ n <;> rfl

namespace Office

def lampClass : ClassRef := .defined "app" "Lamp"
def deskClass : ClassRef := .defined "app" "Desk"
def roomClass : ClassRef := .defined "app" "Room"

def desk : TypeKey := ⟨"Desk", .declared "Desk"⟩

/-- A declared type, a class that is exposed under its name, a class that refers to that class, and one that does not. -/
def classes : Universe where
  types := [{ key := desk, body := .object [{ name := "width", type := .named Wire.int.key }] }]
  classes := [
    { ref := lampClass, lineage := [lampClass, .builtin .object]
      definition := some { name := "Lamp", role := .type, fields := [("watts", .cls (.builtin .int))] } },
    { ref := deskClass, lineage := [deskClass, .builtin .object]
      definition := some { name := "Desk", role := .type, fields := [("width", .cls (.builtin .int))] } },
    { ref := roomClass, lineage := [roomClass, .builtin .object]
      definition := some { name := "Room", role := .type, fields := [("desk", .cls deskClass)] } }]

def lamp : Registration := .types classes [.cls lampClass]
def deskAndLamp : Registration := .types classes [.known desk, .cls lampClass]

/-- The declared type, with conversions that have no type of its name. -/
def lamps : List Registration := [lamp, deskAndLamp, lamp]

/-- The declared type, and then a class that refers to the other type of its name. -/
def furnished : List Registration := [.types classes [.known desk], .types classes [.cls roomClass]]

theorem steady_types (batches : List (List TypeItem))
    (h : Registration.AllSucceed {} (batches.map (.types classes))) :
    Registration.Steady classes .standard {} (batches.map (.types classes)) where
  succeed := h
  definitions := by
    intro s hs b hb c
    obtain ⟨items, -, rfl⟩ := List.mem_map.1 hs
    cases hb
    rfl

theorem steady_lamps : Registration.Steady classes .standard {} lamps :=
  steady_types [[.cls lampClass], [.known desk, .cls lampClass], [.cls lampClass]]
    ⟨Attempt.eq_ok_of_isOk (by decide +kernel) (), Attempt.eq_ok_of_isOk (by decide +kernel) (),
      Attempt.eq_ok_of_isOk (by decide +kernel) (), trivial⟩

theorem steady_furnished : Registration.Steady classes .standard {} furnished :=
  steady_types [[.known desk], [.cls roomClass]]
    ⟨Attempt.eq_ok_of_isOk (by decide +kernel) (), Attempt.eq_ok_of_isOk (by decide +kernel) (), trivial⟩

end Office

theorem Office.desk_stays :
    "Desk" ∉ builtinScalars.keys ∧ Registration.Steady Office.classes .standard {} Office.lamps ∧
      (Registration.performAll {} Office.lamps).registry.resolve "Desk" = .ok Office.desk ∧
      ∃ t : NamedType, t.name = "Lamp" ∧ (Registration.performAll {} Office.lamps).registry.resolve "Lamp" = .ok t.key := by
  have hdesk := (@Loader.owner_of_last_item Office.classes .standard {} [Office.lamp] [Office.lamp] Office.deskAndLamp
    Office.steady_lamps "Desk" (by decide) (.known Office.desk) rfl (by simp; rfl)).2 Office.desk rfl
  have hnone : (lastConverted? (Registration.conversions (Registration.performAll {} [Office.lamp])
      [Office.deskAndLamp, Office.lamp]) "Desk").getD Office.desk = Office.desk := by decide +kernel
  obtain ⟨-, t, -, -, hname, hlamp⟩ := (@Loader.owner_of_last_item Office.classes .standard {}
    [Office.lamp, Office.deskAndLamp] [] Office.lamp Office.steady_lamps "Lamp" (by decide) (.cls Office.lampClass) rfl (by simp)).1 Office.lampClass rfl
  exact ⟨by decide, Office.steady_lamps, hdesk.trans (congrArg Except.ok hnone), t, hname, hlamp⟩

/-- A declared type is handed over last under its name, and what is returned under it is the type of a class that another
class refers to. -/
theorem Office.desk_taken :
    Registration.Steady Office.classes .standard {} Office.furnished ∧
      (Registration.types Office.classes [.known Office.desk]).lastItem? "Desk" = some (.known Office.desk) ∧
      (Registration.types Office.classes [.cls Office.roomClass]).lastItem? "Desk" = none ∧
      (Registration.performAll {} Office.furnished).registry.resolve "Desk" = .ok ⟨"Desk", .converted 1⟩ :=
  ⟨Office.steady_furnished, rfl, rfl, Registry.resolve_of_get? (by decide) (by decide +kernel)⟩

end SchemaAssembly
