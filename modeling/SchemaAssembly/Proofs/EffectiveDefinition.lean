import SchemaAssembly.Proofs.Compilation

/-! The functions that a class has are swept together from its most distant base on, each class adding its functions and
withdrawing what it defines as something else. What is left under a name is what the first class of the lineage that has
the name has there, and that is also what reading the name of an instance gives. So an operation is declared, compiled
and run by one definition. -/

namespace SchemaAssembly

namespace ClassInfo

theorem mem_ownNames {i : ClassInfo} {name : String} {s : Slot} (h : i.own? name = some s) : name ∈ i.ownNames := by
  unfold ownNames
  rw [List.mem_eraseDups, List.mem_append]
  unfold own? at h
  rcases Option.or_eq_some_iff.1 h with h | ⟨-, h⟩
  · rcases Option.or_eq_some_iff.1 h with h | ⟨-, h⟩
    · left
      rw [← Assoc.contains_iff, Assoc.contains, h]
      rfl
    · right
      unfold generated? at h
      repeat' split at h
      all_goals simp_all [furtherNames]
  · right
    unfold implied? at h
    split at h <;> simp_all [furtherNames]

/-- A method that a class itself has is defined or generated. -/
theorem method_of_own? {i : ClassInfo} {name : String} {b : Binding} {m : Method}
    (h : i.own? name = some (.method b m)) : (i.slots.get? name).or (i.generated? name) = some (.method b m) := by
  rcases Option.or_eq_some_iff.1 h with h | ⟨-, h⟩
  · exact h
  · unfold implied? at h
    split at h
    · cases h
    · cases h
    · split at h <;> cases h
    · cases h

/-- What a class has besides what it defines declares no operation. -/
theorem slots_of_own? {i : ClassInfo} {name : String} {b : Binding} {m : Method}
    (h : i.own? name = some (.method b m)) (hm : m.operations ≠ []) : i.slots.get? name = some (.method b m) := by
  rcases Option.or_eq_some_iff.1 (method_of_own? h) with h | ⟨-, h⟩
  · exact h
  · unfold generated? at h
    repeat' split at h
    all_goals
      simp only [Option.some.injEq, reduceCtorEq, Slot.method.injEq] at h
      try exact absurd (h.2 ▸ rfl) hm

/-- What is left under a name after the class, given what was there before. -/
def leaves (i : ClassInfo) (name : String) (before : Option Slot) : Option Slot :=
  (i.own? name).elim before fun s => if s.isFunction then some s else none

end ClassInfo

namespace Universe

theorem get?_sweepName (i : ClassInfo) (acc : Assoc Slot) (name attr : String) :
    (sweepName i acc name).get? attr = if name = attr then i.leaves attr (acc.get? attr) else acc.get? attr := by
  unfold sweepName ClassInfo.leaves
  by_cases h : name = attr
  · subst h
    cases i.own? name with
    | none => simp
    | some s => cases hs : s.isFunction <;> simp [hs, Assoc.get?_insert, Assoc.get?_erase]
  · rw [if_neg h]
    cases i.own? name with
    | none => rfl
    | some s => cases hs : s.isFunction <;> simp [hs, h, Assoc.get?_insert, Assoc.get?_erase]

/-- What a class itself has under a name counts, whatever its bases left there. -/
theorem get?_sweepClass (acc : Assoc Slot) (i : ClassInfo) (attr : String) :
    (sweepClass acc i).get? attr = i.leaves attr (acc.get? attr) := by
  have htwice (before : Option Slot) : i.leaves attr (i.leaves attr before) = i.leaves attr before := by
    unfold ClassInfo.leaves
    cases i.own? attr <;> rfl
  have hnames (names : List String) (acc : Assoc Slot) : (names.foldl (sweepName i) acc).get? attr =
      if attr ∈ names then i.leaves attr (acc.get? attr) else acc.get? attr := by
    induction names generalizing acc with
    | nil => rfl
    | cons name names ih =>
      rw [List.foldl_cons, ih, get?_sweepName]
      by_cases h : name = attr
      · simp [h, htwice]
      · simp [h, Ne.symm h]
  rw [sweepClass, hnames]
  cases h : i.own? attr with
  | none => simp [ClassInfo.leaves, h]
  | some s => rw [if_pos (ClassInfo.mem_ownNames h)]

theorem nodup_keys_sweepName (i : ClassInfo) {acc : Assoc Slot} (h : acc.keys.Nodup) (name : String) :
    (sweepName i acc name).keys.Nodup := by
  unfold sweepName
  split
  · exact h
  · split
    · exact Assoc.nodup_keys_insert _ _ _ h
    · exact Assoc.nodup_keys_erase _ _ h

theorem nodup_keys_methods (u : Universe) (c : ClassRef) : (u.methods c).keys.Nodup := by
  unfold methods
  refine List.foldlRecOn (motive := fun acc : Assoc Slot => acc.keys.Nodup) _ _ List.nodup_nil fun acc hacc i _ => ?_
  exact List.foldlRecOn (motive := fun acc : Assoc Slot => acc.keys.Nodup) _ _ hacc
    fun acc hacc name _ => nodup_keys_sweepName i hacc name

/-- What the first class of the lineage that has a name has there, with the class. -/
def effective? (u : Universe) (c : ClassRef) (name : String) : Option (ClassRef × Slot) :=
  (u.ancestry c).findSome? fun i => (i.own? name).map fun s => (i.ref, s)

theorem get?_methods (u : Universe) (c : ClassRef) (attr : String) (s : Slot) :
    (u.methods c).get? attr = some s ↔ s.isFunction ∧ ∃ home, u.effective? c attr = some (home, s) := by
  unfold methods effective?
  rw [List.foldl_reverse]
  -- along the lineage, from the class on: the first class that has the name decides
  induction u.ancestry c with
  | nil => simp
  | cons i lineage ih =>
    rw [List.foldr_cons, get?_sweepClass, List.findSome?_cons, ClassInfo.leaves]
    cases i.own? attr with
    | none => exact ih
    | some s' =>
      cases hs : s'.isFunction <;> simp [hs]
      · rintro h rfl
        simp [hs] at h
      · rintro rfl
        exact hs

/-- A search that finds what another search finds first, and nothing before it, finds the same. -/
theorem findSome?_of_first {α β : Type} {f g : α → Option β} {b : β} (hnone : ∀ a, f a = none → g a = none)
    (hsome : ∀ a, f a = some b → g a = some b) {as : List α} (h : as.findSome? f = some b) :
    as.findSome? g = some b := by
  induction as with
  | nil => cases h
  | cons a as ih =>
    rw [List.findSome?_cons] at h ⊢
    cases hf : f a with
    | none =>
      rw [hf] at h
      rw [hnone a hf]
      exact ih h
    | some b' =>
      rw [hf] at h
      cases h
      rw [hsome a hf]

theorem ref_info (u : Universe) (c : ClassRef) : (u.info c).ref = c := by
  cases c with
  | builtin b =>
    simp only [info]
    split <;> rfl
  | defined module name mark =>
    simp only [info]
    cases hfind : u.classes.find? (·.ref = .defined module name mark) with
    | some i => exact of_decide_eq_true (List.find?_some (p := fun i : ClassInfo => decide (i.ref = _)) hfind)
    | none =>
      cases hown : Library.ownClass? (.defined module name mark) with
      | some i => exact of_decide_eq_true (List.find?_some (p := fun i : ClassInfo => decide (i.ref = _)) hown)
      | none => rfl

theorem effective?_eq_some {u : Universe} {c home : ClassRef} {name : String} {s : Slot}
    (h : u.effective? c name = some (home, s)) : (u.info home).own? name = some s := by
  obtain ⟨i, hi, hs⟩ := List.exists_of_findSome?_eq_some h
  obtain ⟨r, -, rfl⟩ := List.mem_map.1 hi
  obtain ⟨s', hs', heq⟩ := Option.map_eq_some_iff.1 hs
  cases heq
  rw [ref_info, hs']

/-- A method that declares operations is found wherever slots are looked up. -/
theorem slotAt?_of_effective {u : Universe} {c home : ClassRef} {name : String} {b : Binding} {m : Method}
    (h : u.effective? c name = some (home, .method b m)) (hm : m.operations ≠ []) :
    u.slotAt? c name = some (home, .method b m) := by
  refine findSome?_of_first (fun i hi => ?_) (fun i hi => ?_) h
  · rw [Option.map_eq_none_iff] at hi ⊢
    exact (Option.or_eq_none_iff.1 (Option.or_eq_none_iff.1 hi).1).1
  · obtain ⟨s, hs, heq⟩ := Option.map_eq_some_iff.1 hi
    cases heq
    rw [ClassInfo.slots_of_own? hs hm]
    rfl

/-- Reading a name of an instance takes the way of all instances: the lineage begins with the class, no class of it
takes over all reading, and the instance has no attribute of that name. -/
structure ReadsPlainly (u : Universe) (v : Value) (name : String) : Prop where
  rooted : (u.lineage v.classRef).head? = some v.classRef
  untaken : u.slotAt? v.classRef "__getattribute__" = none
  unshadowed : (u.attributesOf v).get? name = none

theorem heldAt?_of_effective {u : Universe} {c home : ClassRef} {name : String} {b : Binding} {m : Method}
    (hroot : (u.lineage c).head? = some c) (h : u.effective? c name = some (home, .method b m)) :
    u.heldAt? c name = some (home, .method b m) := by
  unfold heldAt?
  cases hname : isUnshared name with
  | false =>
    refine findSome?_of_first (fun i hi => ?_) (fun i hi => ?_) h
    · rw [Option.map_eq_none_iff] at hi ⊢
      exact (Option.or_eq_none_iff.1 hi).1
    · obtain ⟨s, hs, heq⟩ := Option.map_eq_some_iff.1 hi
      cases heq
      rw [ClassInfo.method_of_own? hs]
      rfl
  | true =>
    -- every class has something of its own under these names, so that nothing is inherited
    have himplied (i : ClassInfo) : (i.own? name).isSome := by
      unfold ClassInfo.own?
      rw [Option.isSome_or]
      simp only [isUnshared, Bool.or_eq_true, beq_iff_eq] at hname
      rcases hname with rfl | rfl <;> simp [ClassInfo.implied?]
    obtain ⟨rest, hrest⟩ := List.head?_eq_some_iff.1 hroot
    obtain ⟨s, hs⟩ := Option.isSome_iff_exists.1 (himplied (u.info c))
    unfold effective? ancestry at h
    rw [hrest, List.map_cons, List.findSome?_cons, hs] at h
    cases h
    rw [if_pos rfl, List.findSome?_cons, ClassInfo.method_of_own? hs]
    rfl

end Universe

namespace Conduct

/-- An instance that is read plainly gives its effective method, bound to it. -/
theorem read_of_effective {u : Universe} {c home : ClassRef} {fields : Assoc Value} {i : Option Identity}
    {name : String} {b : Binding} {m : Method} (hv : u.ReadsPlainly (.object c fields i) name)
    (h : u.effective? c name = some (home, .method b m)) :
    (conduct.read (.object c fields i) name).apply u =
      (.ok (.function ⟨home, name, m.name⟩ (Method.receiver? (.object c fields i) b) m.attributes), u) := by
  have hheld : u.heldAt? c name = some (home, .method b m) := Universe.heldAt?_of_effective hv.rooted h
  have hspecial (k : Conduct) (call : Call) :
      (k.callSpecial? (.object c fields i) "__getattribute__" call).apply u = (.ok none, u) := by
    have huntaken : u.slotAt? c "__getattribute__" = none := hv.untaken
    unfold callSpecial? special?
    simp [huntaken, Action.apply_bind]
  have hinstance (k : Conduct) : (k.readInstance c (.object c fields i) name).apply u =
      (.ok (.function ⟨home, name, m.name⟩ (Method.receiver? (.object c fields i) b) m.attributes), u) := by
    unfold readInstance
    simp [Action.apply_bind, hheld, hv.unshadowed]
    cases b <;> rfl
  exact Action.apply_tryCatch_ok (by rw [Action.apply_bind_ok (hspecial _ _)]; exact hinstance _) _

end Conduct

namespace CompileContext

/-- The operations of a kind that the resolver class declares, one for each function that declares any. -/
def declared (ctx : CompileContext) (kind : OperationKind) : List Declaration :=
  (ctx.defs.methods ctx.resolver.cls).filterMap fun e => Declaration.find? kind e.1 e.2

def compileNamed (ctx : CompileContext) (d : Declaration) : Except Failure (String × Operation) :=
  (ctx.compile d).result.map fun o => (d.op.name, o)

theorem mem_declared {ctx : CompileContext} {kind : OperationKind} {d : Declaration} :
    d ∈ ctx.declared kind ↔
      ∃ home, ctx.defs.effective? ctx.resolver.cls d.attr = some (home, .method d.binding d.method) ∧
        d.method.operation? kind = some d.op := by
  unfold declared
  rw [List.mem_filterMap]
  constructor
  · rintro ⟨⟨attr, s⟩, he, hd⟩
    obtain ⟨-, home, heff⟩ :=
      (Universe.get?_methods _ _ _ _).1 (Assoc.get?_of_mem (Universe.nodup_keys_methods _ _) he)
    cases s with
    | method b m =>
      obtain ⟨op, hop, rfl⟩ := Option.map_eq_some_iff.1 hd
      exact ⟨home, heff, hop⟩
    | value v => cases hd
    | property m => cases hd
    | types c => cases hd
    | place => cases hd
  · rintro ⟨home, heff, hop⟩
    refine ⟨(d.attr, .method d.binding d.method), ?_, ?_⟩
    · exact Assoc.mem_of_get? ((Universe.get?_methods _ _ _ _).2 ⟨rfl, home, heff⟩)
    · simp [Declaration.find?, hop]

theorem result_addOperation (ctx : CompileContext) (kind : OperationKind) (acc : Assoc Operation) (e : String × Slot) :
    (ctx.addOperation kind acc e).result =
      match Declaration.find? kind e.1 e.2 with
      | none => .ok acc
      | some d => (ctx.compileNamed d).map fun o => acc.insert o.1 o.2 := by
  unfold addOperation compileNamed
  cases Declaration.find? kind e.1 e.2 with
  | none => rfl
  | some d =>
    simp only [Logged.result_bind]
    cases (ctx.compile d).result with
    | error f => rfl
    | ok o => cases acc.contains d.op.name <;> rfl

/-- All declared operations are compiled, in order; a later one takes the place of an earlier one of its name. -/
theorem result_operations (ctx : CompileContext) (kind : OperationKind) :
    (ctx.operations kind).result = ((ctx.declared kind).mapM ctx.compileNamed).map (Assoc.merge []) := by
  unfold operations declared
  rw [Logged.result_foldlM]
  simp only [result_addOperation]
  generalize ([] : Assoc Operation) = acc
  induction ctx.defs.methods ctx.resolver.cls generalizing acc with
  | nil => rfl
  | cons e methods ih =>
    rw [List.foldlM_cons, List.filterMap_cons]
    cases Declaration.find? kind e.1 e.2 with
    | none => exact ih acc
    | some d =>
      rw [List.mapM_cons]
      dsimp only
      cases ctx.compileNamed d with
      | error f => rfl
      | ok o =>
        simp only [Attempt.map_ok, Attempt.ok_bind]
        rw [ih]
        cases List.mapM ctx.compileNamed _ <;> rfl

/-- An operation that is what one definition declares, compiles to and runs: the effective one under an attribute of
the resolver class, which is what an instance that is read plainly has there. -/
structure Effective (ctx : CompileContext) (d : Declaration) (o : Operation) (home : ClassRef) : Prop where
  definition : ctx.defs.effective? ctx.resolver.cls d.attr = some (home, .method d.binding d.method)
  compiled : ∃ rs type, ctx.boundRoles d.attr d.binding d.method = .ok rs ∧
    o = ctx.operationOf d.attr d.binding d.method d.op (.ofRoles rs) type
  function : o.handler.function = ⟨home, d.attr, d.method.name⟩
  held : ctx.defs.functionSlot? o.handler.function = some (.method o.handler.binding o.handler.method)
  bound : ∀ c fields i, ctx.resolver.value = .object c fields i → ctx.defs.ReadsPlainly ctx.resolver.value d.attr →
    (conduct.read ctx.resolver.value d.attr).apply ctx.defs =
      (.ok (.function o.handler.function (Method.receiver? ctx.resolver.value o.handler.binding)
        o.handler.method.attributes), ctx.defs)

theorem operations_ne_nil {m : Method} {kind : OperationKind} {op : OperationMeta} (h : m.operation? kind = some op) :
    m.operations ≠ [] := by
  intro hnil
  unfold Method.operation? at h
  rw [hnil] at h
  cases h

theorem effective_of_compile {ctx : CompileContext} {kind : OperationKind} {d : Declaration} {o : Operation}
    (hd : d ∈ ctx.declared kind) (ho : (ctx.compile d).result = .ok o) : ∃ home, ctx.Effective d o home := by
  obtain ⟨home, heff, hop⟩ := mem_declared.1 hd
  have hne := operations_ne_nil hop
  obtain ⟨-, rs, type, hrs, -, -, -, rfl⟩ := compileMethod_eq_ok.1 ho
  have hfunction : (ctx.operationOf d.attr d.binding d.method d.op (.ofRoles rs) type).handler.function =
      ⟨home, d.attr, d.method.name⟩ := by
    unfold operationOf
    rw [Universe.slotAt?_of_effective heff hne]
    rfl
  refine ⟨home, heff, ⟨rs, type, hrs, rfl⟩, hfunction, ?_, ?_⟩
  · rw [hfunction]
    exact ClassInfo.slots_of_own? (Universe.effective?_eq_some heff) hne
  · intro c fields i hv hplain
    rw [hfunction]
    unfold Resolver.cls at heff
    rw [hv] at heff hplain ⊢
    exact Conduct.read_of_effective hplain heff

/-- The functions of a class are listed once each, and they are the effective definitions that are functions. Of them,
those that an operation of the kind is attached to are compiled, and each operation that this gives is declared, compiled
and run by the same definition. -/
theorem operations_effective (ctx : CompileContext) (kind : OperationKind) :
    (ctx.defs.methods ctx.resolver.cls).keys.Nodup ∧
    (∀ attr s, (ctx.defs.methods ctx.resolver.cls).get? attr = some s ↔
      s.isFunction ∧ ∃ home, ctx.defs.effective? ctx.resolver.cls attr = some (home, s)) ∧
    (∀ d, d ∈ ctx.declared kind ↔
      ∃ home, ctx.defs.effective? ctx.resolver.cls d.attr = some (home, .method d.binding d.method) ∧
        d.method.operation? kind = some d.op) ∧
    (ctx.operations kind).result = ((ctx.declared kind).mapM ctx.compileNamed).map (Assoc.merge []) ∧
    ∀ ops name o, (ctx.operations kind).result = .ok ops → ops.get? name = some o →
      ∃ d ∈ ctx.declared kind, d.op.name = name ∧ ∃ home, ctx.Effective d o home := by
  refine ⟨Universe.nodup_keys_methods _ _, Universe.get?_methods _ _, fun d => mem_declared,
    result_operations ctx kind, ?_⟩
  intro ops name o hops hget
  rw [result_operations] at hops
  obtain ⟨named, hnamed, rfl⟩ := Attempt.map_eq_ok.1 hops
  rcases Assoc.mem_or_of_get?_merge hget with hmem | hnone
  · obtain ⟨d, hd, hcompile⟩ := Attempt.exists_of_mem_mapM hnamed hmem
    obtain ⟨o', ho', heq⟩ := Attempt.map_eq_ok.1 hcompile
    cases heq
    exact ⟨d, hd, rfl, effective_of_compile hd ho'⟩
  · cases hnone

end CompileContext

namespace Diamond

def topClass : ClassRef := .defined "app" "Top"
def leftClass : ClassRef := .defined "app" "Left"
def rightClass : ClassRef := .defined "app" "Right"
def bottomClass : ClassRef := .defined "app" "Bottom"

def declares (owner name : String) (receiver : Option String) : Method where
  name
  owner
  receiver
  operations := [{ kind := some .query, name, returns := .named (.text "string") }]

/-- Two bases of one class: the first replaces one method of their common base by a value, the second replaces the other
by a static method. -/
def classes : Universe where
  classes := [
    { ref := topClass, lineage := [topClass, .builtin .resolver, .builtin .object]
      slots := [("find", .method .instance_ (declares "Top" "find" "self")),
        ("list", .method .instance_ (declares "Top" "list" "self"))] },
    { ref := leftClass, lineage := [leftClass, topClass, .builtin .resolver, .builtin .object]
      slots := [("find", .value (.int 3))] },
    { ref := rightClass, lineage := [rightClass, topClass, .builtin .resolver, .builtin .object]
      slots := [("list", .method .static (declares "Right" "list" none))] },
    { ref := bottomClass
      lineage := [bottomClass, leftClass, rightClass, topClass, .builtin .resolver, .builtin .object] }]

def context : CompileContext :=
  { defs := classes, registry := {}, resolver := ⟨.object bottomClass [] (some (.resolver 0))⟩ }

def operations : Assoc Operation :=
  (context.operations .query).result.toOption.getD []

theorem operations_eq : (context.operations .query).result = .ok operations :=
  Attempt.eq_ok_of_isOk (by decide +kernel) _

theorem readsPlainly : classes.ReadsPlainly context.resolver.value "list" where
  rooted := rfl
  untaken := rfl
  unshadowed := rfl

end Diamond

/-- The inherited method that a value replaces is no operation, and the one that a static method replaces is run as
that static method. -/
theorem Diamond.list_effective :
    Diamond.operations.keys = ["list"] ∧ ∃ o, Diamond.operations.get? "list" = some o ∧
      o.handler.function.home = Diamond.rightClass ∧ ∃ d ∈ Diamond.context.declared .query, d.op.name = "list" ∧
      ∃ home, Diamond.context.Effective d o home ∧
        Diamond.classes.ReadsPlainly Diamond.context.resolver.value d.attr := by
  have hkeys : Diamond.operations.keys = ["list"] := by decide +kernel
  have hsome : (Diamond.operations.get? "list").isSome := by decide +kernel
  have hhome : ((Diamond.operations.get? "list").map (·.handler.function.home)) = some Diamond.rightClass := by
    decide +kernel
  have hattr : ∀ d ∈ Diamond.context.declared .query, d.attr = "list" := by decide +kernel
  obtain ⟨o, ho⟩ := Option.isSome_iff_exists.1 hsome
  obtain ⟨d, hd, hname, home, heff⟩ :=
    (CompileContext.operations_effective Diamond.context .query).2.2.2.2 _ _ _ Diamond.operations_eq ho
  rw [ho] at hhome
  refine ⟨hkeys, o, ho, Option.some.inj hhome, d, hd, hname, home, heff, ?_⟩
  rw [hattr d hd]
  exact Diamond.readsPlainly

end SchemaAssembly
