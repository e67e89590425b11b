import SchemaAssembly.Proofs.SchemaBuild
import SchemaAssembly.Session

/-! The operations that all resolvers declare, in one map. Every declared name is in it, at the place where it came
first and with the operation that was declared last. A resolver that declares a name which one before it declares too is
warned about, once for each such name. -/

namespace SchemaAssembly

namespace Logged
variable {α β : Type}

def warnings (x : Logged α) : List LogEntry :=
  x.log.filter (·.level = .warning)

theorem warnings_bind (x : Logged α) (f : α → Logged β) :
    (x >>= f).warnings = x.warnings ++ match x.result with
      | .ok a => (f a).warnings
      | .error _ => [] := by
  change (bind x f).warnings = _
  unfold bind
  cases hx : x.result with
  | ok a => exact List.filter_append _ _
  | error e => exact (List.append_nil _).symm

theorem warnings_bind_ok {x : Logged α} {a : α} (hx : x.result = .ok a) (f : α → Logged β) :
    (x >>= f).warnings = x.warnings ++ (f a).warnings := by
  rw [warnings_bind, hx]

@[simp] theorem warnings_pure (a : α) : (Pure.pure a : Logged α).warnings = [] := rfl

@[simp] theorem warnings_ofExcept (r : Except Failure α) : (ofExcept r).warnings = [] := rfl

@[simp] theorem warnings_write_debug (source : Source) (message : String) :
    (write .debug source message).warnings = [] := rfl

theorem warnings_bind_of_quiet {x : Logged α} {f : α → Logged β} (hx : x.warnings = [])
    (hf : ∀ a, (f a).warnings = []) : (x >>= f).warnings = [] := by
  rw [warnings_bind, hx]
  cases x.result with
  | ok a => exact hf a
  | error e => rfl

theorem warnings_foldlM_of_quiet {f : β → α → Logged β} (hf : ∀ b a, (f b a).warnings = []) (b : β) (as : List α) :
    (as.foldlM f b).warnings = [] := by
  induction as generalizing b with
  | nil => rfl
  | cons a as ih =>
    rw [List.foldlM_cons]
    exact warnings_bind_of_quiet (hf b a) ih

end Logged

namespace CompileContext

theorem warnings_compile (ctx : CompileContext) (d : Declaration) : (ctx.compile d).warnings = [] := by
  unfold compile compileMethod
  refine Logged.warnings_bind_of_quiet rfl fun _ => ?_
  refine Logged.warnings_bind_of_quiet rfl fun params => ?_
  refine Logged.warnings_bind_of_quiet rfl fun c => ?_
  refine Logged.warnings_bind_of_quiet rfl fun _ => ?_
  exact Logged.warnings_bind_of_quiet rfl fun type => rfl

/-- Compiling the operations of one resolver warns of nothing, also where they replace each other. -/
theorem warnings_operations (ctx : CompileContext) (kind : OperationKind) : (ctx.operations kind).warnings = [] := by
  unfold operations
  refine Logged.warnings_foldlM_of_quiet (fun acc e => ?_) _ _
  unfold addOperation
  cases Declaration.find? kind e.1 e.2 with
  | none => rfl
  | some d =>
    refine Logged.warnings_bind_of_quiet (ctx.warnings_compile d) fun o => ?_
    cases acc.contains d.op.name <;> rfl

end CompileContext

namespace Loader
variable {u : Universe} {l : Loader} {kind : OperationKind}

/-- The names of the operations of a kind that a resolver declares, in the order of its methods. -/
def declaredNames (u : Universe) (l : Loader) (kind : OperationKind) (r : Resolver) : List String :=
  ((l.context u r).declared kind).map (·.op.name)

/-- Everything that a registered resolver declares of a kind compiles. -/
def AllCompile (u : Universe) (l : Loader) (kind : OperationKind) : Prop :=
  ∀ r ∈ l.executors, ∀ d ∈ (l.context u r).declared kind, ∃ o, ((l.context u r).compile d).result = .ok o

theorem attempt_eq_ok {c : Compilation} {e : String × Operation} :
    l.attempt u c = .ok e ↔ c.declaration.op.name = e.1 ∧ ((l.context u c.resolver).compile c.declaration).result = .ok e.2 := by
  unfold attempt CompileContext.compileNamed
  rw [Attempt.map_eq_ok]
  constructor
  · rintro ⟨o, ho, rfl⟩
    exact ⟨rfl, ho⟩
  · rintro ⟨hname, ho⟩
    exact ⟨e.2, ho, by rw [hname]⟩

theorem names_compilations (u : Universe) (l : Loader) (kind : OperationKind) :
    (l.compilations u kind).map (·.declaration.op.name) = l.executors.flatMap (l.declaredNames u kind) := by
  unfold compilations declaredNames
  rw [List.map_flatMap]
  simp only [List.map_map]
  rfl

/-- The last compilation of a name: the last declaration of the last resolver that declares it. -/
theorem find?_compilations {n : String} {c : Compilation} :
    (l.compilations u kind).reverse.find? (·.declaration.op.name = n) = some c ↔
      ∃ r d, l.executors.reverse.find? (n ∈ l.declaredNames u kind ·) = some r ∧
        ((l.context u r).declared kind).reverse.find? (·.op.name = n) = some d ∧ c = ⟨kind, r, d⟩ := by
  have hfound (r : Resolver) :
      (((l.context u r).declared kind).map (⟨kind, r, ·⟩ : Declaration → Compilation)).reverse.find?
          (·.declaration.op.name = n) =
        (((l.context u r).declared kind).reverse.find? (·.op.name = n)).map (⟨kind, r, ·⟩) := by
    rw [← List.map_reverse, List.find?_map]
    rfl
  have hdeclares (r : Resolver) :
      (((l.context u r).declared kind).reverse.find? (·.op.name = n)).isSome = decide (n ∈ l.declaredNames u kind r) := by
    rw [Bool.eq_iff_iff]
    simp [declaredNames]
  unfold compilations
  rw [List.reverse_flatMap, List.find?_flatMap, Attempt.findSome?_eq_some_iff]
  simp only [Function.comp_apply, hfound, Option.isSome_map, hdeclares, Option.map_eq_some_iff]
  constructor
  · rintro ⟨r, hr, d, hd, rfl⟩
    exact ⟨r, d, hr, hd, rfl⟩
  · rintro ⟨r, d, hr, hd, rfl⟩
    exact ⟨r, hr, d, hd, rfl⟩

/-- What compiling all operations of a kind comes to: the names in the order in which they come first, and for each name
what its last declaration compiles to. -/
theorem operations_of_allCompile (h : l.AllCompile u kind) :
    ∃ ops, (l.operations u kind).result = .ok ops ∧
      ops.keys = (l.executors.flatMap (l.declaredNames u kind)).eraseDups ∧
      ∀ n o, ops.get? n = some o ↔
        ∃ r d, l.executors.reverse.find? (n ∈ l.declaredNames u kind ·) = some r ∧
          ((l.context u r).declared kind).reverse.find? (·.op.name = n) = some d ∧
          ((l.context u r).compile d).result = .ok o := by
  have hattempt : ∀ c ∈ l.compilations u kind, ∃ e, l.attempt u c = .ok e := by
    intro c hc
    obtain ⟨r, hr, hc⟩ := List.mem_flatMap.1 hc
    obtain ⟨d, hd, rfl⟩ := List.mem_map.1 hc
    obtain ⟨o, ho⟩ := h r hr d hd
    exact ⟨(d.op.name, o), attempt_eq_ok.2 ⟨rfl, ho⟩⟩
  have hname (c : Compilation) (e : String × Operation) (he : l.attempt u c = .ok e) : e.1 = c.declaration.op.name :=
    (attempt_eq_ok.1 he).1.symm
  obtain ⟨named, hnamed⟩ := Attempt.exists_mapM hattempt
  refine ⟨Assoc.merge [] named, ?_, ?_, fun n o => ?_⟩
  · rw [result_operations, hnamed, Attempt.map_ok]
  · rw [Assoc.keys_merge, Attempt.keys_of_mapM hnamed hname, names_compilations]
    simp [Assoc.keys, List.removeAll]
  · have hlast (e : String × Operation) : named.reverse.find? (·.1 = n) = some e ↔
        ∃ c, (l.compilations u kind).reverse.find? (·.declaration.op.name = n) = some c ∧ l.attempt u c = .ok e :=
      Attempt.find?_of_mapM hnamed fun c e he => by rw [hname c e he]
    rw [Assoc.get?_merge, Assoc.get?_nil, Option.or_none, Option.map_eq_some_iff]
    simp only [hlast, find?_compilations]
    constructor
    · rintro ⟨e, ⟨c, ⟨r, d, hr, hd, rfl⟩, he⟩, rfl⟩
      exact ⟨r, d, hr, hd, (attempt_eq_ok.1 he).2⟩
    · rintro ⟨r, d, hr, hd, ho⟩
      exact ⟨(d.op.name, o), ⟨_, ⟨r, d, hr, hd, rfl⟩, attempt_eq_ok.2 ⟨rfl, ho⟩⟩, rfl⟩

/-- The warning that an operation of a resolver takes the place of one that was registered before. -/
def overrideWarning (kind : OperationKind) (className name : String) : LogEntry :=
  let word := match kind with | .query => "Query" | .mutation => "Mutation"
  ⟨.warning, .loader, s!"{word} '{name}' of {className} overrides an earlier registration"⟩

/-- Each resolver with each of its names that one before it has too, once for each name. -/
def overridden (names : Resolver → List String) : List Resolver → List Resolver → List (Resolver × String)
  | _, [] => []
  | before, r :: rs =>
    ((names r).eraseDups.filter (· ∈ before.flatMap names)).map (r, ·) ++ overridden names (before ++ [r]) rs

theorem warnings_addOperations (className : String) {acc ops : Assoc Operation} (hops : ops.keys.Nodup) :
    (List.foldlM (addOperation kind className) acc ops).warnings =
      (ops.keys.filter (· ∈ acc.keys)).map (overrideWarning kind className) := by
  induction ops generalizing acc with
  | nil => rfl
  | cons e ops ih =>
    obtain ⟨he, hrest⟩ := List.nodup_cons.1 hops
    have hone : (addOperation kind className acc e).result = .ok (acc.insert e.1 e.2) := by
      unfold addOperation
      split <;> rfl
    have hwarn : (addOperation kind className acc e).warnings =
        if e.1 ∈ acc.keys then [overrideWarning kind className e.1] else [] := by
      unfold addOperation
      by_cases hc : e.1 ∈ acc.keys
      · rw [if_pos hc, if_pos ((Assoc.contains_iff _ _).2 hc)]
        rfl
      · rw [if_neg hc, if_neg fun c => hc ((Assoc.contains_iff _ _).1 c)]
        rfl
    have hkeys : ∀ n ∈ Assoc.keys ops, decide (n ∈ (acc.insert e.1 e.2).keys) = decide (n ∈ acc.keys) := by
      intro n hn
      have hne : n ≠ e.1 := fun c => he (c ▸ hn)
      rw [Assoc.keys_insert]
      split <;> simp [hne]
    rw [List.foldlM_cons, Logged.warnings_bind_ok hone, ih hrest, hwarn, List.filter_congr hkeys]
    change _ = ((e.1 :: Assoc.keys ops).filter _).map _
    rw [List.filter_cons]
    split <;> simp_all

theorem operations_of_resolver (h : l.AllCompile u kind) {r : Resolver} (hr : r ∈ l.executors) :
    ∃ ops, ((l.context u r).operations kind).result = .ok ops ∧ ops.keys.Nodup ∧
      ops.keys = (l.declaredNames u kind r).eraseDups := by
  have hcompile : ∀ d ∈ (l.context u r).declared kind, ∃ e, (l.context u r).compileNamed d = .ok e := by
    intro d hd
    obtain ⟨o, ho⟩ := h r hr d hd
    exact ⟨(d.op.name, o), Attempt.map_eq_ok.2 ⟨o, ho, rfl⟩⟩
  obtain ⟨named, hnamed⟩ := Attempt.exists_mapM hcompile
  have hkeys : Assoc.keys named = l.declaredNames u kind r := by
    refine Attempt.keys_of_mapM hnamed fun d e he => ?_
    obtain ⟨o, -, rfl⟩ := Attempt.map_eq_ok.1 he
    rfl
  refine ⟨Assoc.merge [] named, ?_, Assoc.nodup_keys_merge _ _ List.nodup_nil, ?_⟩
  · rw [CompileContext.result_operations, hnamed, Attempt.map_ok]
  · rw [Assoc.keys_merge, hkeys]
    simp [Assoc.keys, List.removeAll]

/-- A resolver is warned about for each of its names that is there. -/
theorem addResolver_of_allCompile (h : l.AllCompile u kind) {r : Resolver} (hr : r ∈ l.executors)
    (acc : Assoc Operation) :
    (l.addResolver u kind acc r).warnings =
        ((l.declaredNames u kind r).eraseDups.filter (· ∈ acc.keys)).map (overrideWarning kind r.cls.name) ∧
      ∃ acc', (l.addResolver u kind acc r).result = .ok acc' ∧
        ∀ n, n ∈ acc'.keys ↔ n ∈ acc.keys ∨ n ∈ l.declaredNames u kind r := by
  obtain ⟨ops, hops, hnd, hkeys⟩ := operations_of_resolver h hr
  unfold addResolver
  constructor
  · rw [Logged.warnings_bind_ok hops, CompileContext.warnings_operations, warnings_addOperations _ hnd, hkeys]
    rfl
  · refine ⟨Assoc.merge acc ops, ?_, fun n => ?_⟩
    · rw [Logged.result_bind, hops, Attempt.ok_bind, result_addOperations]
    · rw [Assoc.mem_keys_merge, hkeys, List.mem_eraseDups]

/-- The warnings of a run over all resolvers. -/
theorem warnings_addResolvers (h : l.AllCompile u kind) {before rs : List Resolver} (hrs : rs ⊆ l.executors)
    {acc : Assoc Operation} (hacc : ∀ n, n ∈ acc.keys ↔ n ∈ before.flatMap (l.declaredNames u kind)) :
    (rs.foldlM (l.addResolver u kind) acc).warnings =
      (overridden (l.declaredNames u kind) before rs).map fun p => overrideWarning kind p.1.cls.name p.2 := by
  induction rs generalizing before acc with
  | nil => rfl
  | cons r rs ih =>
    obtain ⟨hr, hrs⟩ := List.forall_mem_cons.1 hrs
    obtain ⟨hwarn, acc', hacc', hkeys⟩ := addResolver_of_allCompile h hr acc
    have hnext : ∀ n, n ∈ acc'.keys ↔ n ∈ (before ++ [r]).flatMap (l.declaredNames u kind) := by
      intro n
      rw [hkeys, hacc, List.flatMap_append, List.mem_append, List.flatMap_singleton]
    rw [List.foldlM_cons, Logged.warnings_bind_ok hacc', hwarn, ih hrs hnext, overridden, List.map_append, List.map_map]
    simp only [hacc]
    rfl

/-- The schema accepts the names of operations and of their exposed arguments. -/
structure Accepts (l : Loader) (ops : Assoc Operation) : Prop where
  names : ∀ n ∈ ops.keys, Wire.checkName n = .ok ()
  arguments : ∀ e ∈ ops, ∀ n ∈ (e.2.toField l.config.autoCamelCase).args.keys, Wire.checkName n = .ok ()

theorem checkNames_eq_ok {names : List String} :
    Failure.checkNames names = .ok () ↔ ∀ n ∈ names, Wire.checkName n = .ok () := by
  unfold Failure.checkNames
  induction names with
  | nil => simp [pure, Except.pure]
  | cons n names ih =>
    rw [List.forall_mem_cons, ← ih, ← Attempt.mapError_eq_ok (f := Failure.badName)]
    exact Attempt.bind_eq_ok.trans ⟨fun ⟨_, hn, hns⟩ => ⟨hn, hns⟩, fun ⟨hn, hns⟩ => ⟨(), hn, hns⟩⟩

theorem rootFields_eq_ok {useCamel : Bool} {ops : Assoc Operation} {fields : Assoc RootField} :
    rootFields useCamel ops = .ok fields ↔
      (∀ e ∈ ops, ∀ n ∈ (e.2.toField useCamel).args.keys, Wire.checkName n = .ok ()) ∧
        fields = ops.map fun e => (e.1, e.2.toField useCamel) := by
  refine Attempt.mapM_eq_ok_map fun e f => ?_
  unfold rootField
  rw [Attempt.map_eq_ok, ← checkNames_eq_ok]
  constructor
  · rintro ⟨field, hfield, rfl⟩
    obtain ⟨_, hnames, hfield⟩ := Attempt.bind_eq_ok.1 hfield
    cases hfield
    exact ⟨hnames, rfl⟩
  · rintro ⟨hnames, rfl⟩
    exact ⟨e.2.toField useCamel, Attempt.bind_eq_ok.2 ⟨(), hnames, rfl⟩, rfl⟩

theorem checked_rootFields_eq_ok {ops : Assoc Operation} {fields : Assoc RootField} :
    (rootFields l.config.autoCamelCase ops).bind checkNames = .ok fields ↔
      l.Accepts ops ∧ fields = ops.map fun e => (e.1, e.2.toField l.config.autoCamelCase) := by
  have hkeys : Assoc.keys (ops.map fun e => (e.1, e.2.toField l.config.autoCamelCase)) = ops.keys := by
    simp [Assoc.keys]
  constructor
  · intro h
    obtain ⟨made, hmade, h⟩ := Attempt.bind_eq_ok.1 h
    obtain ⟨hargs, rfl⟩ := rootFields_eq_ok.1 hmade
    obtain ⟨_, hnames, h⟩ := Attempt.bind_eq_ok.1 h
    cases h
    exact ⟨⟨checkNames_eq_ok.1 (hkeys ▸ hnames), hargs⟩, rfl⟩
  · rintro ⟨⟨hnames, hargs⟩, rfl⟩
    refine Attempt.bind_eq_ok.2 ⟨_, rootFields_eq_ok.2 ⟨hargs, rfl⟩, ?_⟩
    exact Attempt.bind_eq_ok.2 ⟨(), checkNames_eq_ok.2 (hkeys ▸ hnames), rfl⟩

end Loader

theorem Session.root_eq_ok {s : Session} {kind : OperationKind} {ops : Assoc Operation}
    (hops : (s.loader.operations s.defs kind).result = .ok ops) {fields : Assoc RootField} :
    (s.root kind false).result = .ok (some fields) ↔
      s.loader.Accepts ops ∧ fields = ops.map fun e => (e.1, e.2.toField s.loader.config.autoCamelCase) := by
  rw [← Loader.checked_rootFields_eq_ok]
  have hcompiled : (s.loader.compiledFields s.defs kind).result =
      Loader.rootFields s.loader.config.autoCamelCase ops := by
    unfold Loader.compiledFields
    rw [Logged.result_bind, hops]
    rfl
  unfold root
  cases kind with
  | query =>
    simp only [Bool.false_eq_true, if_false, Logged.result_bind_eq_ok]
    constructor
    · rintro ⟨made, hmade, heq⟩
      cases heq
      obtain ⟨made, hmade, hnames⟩ := Attempt.bind_eq_ok.1 hmade
      exact Attempt.bind_eq_ok.2 ⟨made, hcompiled ▸ Attempt.mapError_eq_ok.1 hmade, hnames⟩
    · intro h
      obtain ⟨made, hmade, hnames⟩ := Attempt.bind_eq_ok.1 h
      exact ⟨fields, Attempt.bind_eq_ok.2 ⟨made, Attempt.mapError_eq_ok.2 (hcompiled.trans hmade), hnames⟩, rfl⟩
  | mutation =>
    simp only [Bool.false_eq_true, if_false, Logged.result_bind_eq_ok]
    constructor
    · rintro ⟨made, hmade, checked, hnames, heq⟩
      cases heq
      exact Attempt.bind_eq_ok.2 ⟨made, hcompiled ▸ hmade, hnames⟩
    · intro h
      obtain ⟨made, hmade, hnames⟩ := Attempt.bind_eq_ok.1 h
      exact ⟨made, hcompiled.trans hmade, fields, hnames, rfl⟩

/-- The operations of all resolvers in one map, if all of them compile. Its names are those that the effective methods
declare, in the order in which they come first; under a name there is what the last declaration of the last resolver that
declares it compiles to; and there is one warning for each resolver and each of its names that a resolver before it
declares too. The root type has just these names, if the schema accepts them and those of the arguments. -/
theorem Session.operations_merged (s : Session) (kind : OperationKind) (h : s.loader.AllCompile s.defs kind) :
    ∃ ops, (s.loader.operations s.defs kind).result = .ok ops ∧
      ops.keys = (s.loader.executors.flatMap (s.loader.declaredNames s.defs kind)).eraseDups ∧
      (∀ n, n ∈ ops.keys ↔ ∃ r ∈ s.loader.executors, ∃ home attr binding m op,
        s.defs.effective? r.cls attr = some (home, .method binding m) ∧ m.operation? kind = some op ∧ op.name = n) ∧
      (∀ n o, ops.get? n = some o ↔
        ∃ r d, s.loader.executors.reverse.find? (n ∈ s.loader.declaredNames s.defs kind ·) = some r ∧
          ((s.loader.context s.defs r).declared kind).reverse.find? (·.op.name = n) = some d ∧
          ((s.loader.context s.defs r).compile d).result = .ok o) ∧
      (s.loader.operations s.defs kind).warnings =
        (Loader.overridden (s.loader.declaredNames s.defs kind) [] s.loader.executors).map
          (fun p => Loader.overrideWarning kind p.1.cls.name p.2) ∧
      ∀ fields, (s.root kind false).result = .ok (some fields) ↔
        s.loader.Accepts ops ∧ fields = ops.map fun e => (e.1, e.2.toField s.loader.config.autoCamelCase) := by
  obtain ⟨ops, hops, hkeys, hget⟩ := Loader.operations_of_allCompile h
  refine ⟨ops, hops, hkeys, fun n => ?names, hget, ?warnings, fun fields => Session.root_eq_ok hops⟩
  case names =>
    rw [hkeys, List.mem_eraseDups, List.mem_flatMap]
    refine exists_congr fun r => and_congr_right fun _ => ?_
    rw [Loader.declaredNames, List.mem_map]
    constructor
    · rintro ⟨d, hd, rfl⟩
      obtain ⟨home, heff, hop⟩ := CompileContext.mem_declared.1 hd
      exact ⟨home, d.attr, d.binding, d.method, d.op, heff, hop, rfl⟩
    · rintro ⟨home, attr, binding, m, op, heff, hop, rfl⟩
      exact ⟨⟨attr, binding, m, op⟩, CompileContext.mem_declared.2 ⟨home, heff, hop⟩, rfl⟩
  case warnings =>
    exact Loader.warnings_addResolvers h (List.Subset.refl _) fun n => by simp [Assoc.keys]

namespace Rivals

def oldClass : ClassRef := .defined "app" "Old"

def newClass : ClassRef := .defined "app" "New"

def dashedClass : ClassRef := .defined "app" "Dashed"

def declares (owner attr name : String) : Method where
  name := attr
  owner
  receiver := some "self"
  operations := [{ kind := some .query, name, returns := .named (.text "string") }]

def resolverInfo (ref : ClassRef) (methods : List Method) : ClassInfo where
  ref
  lineage := [ref, .builtin .resolver, .builtin .object]
  slots := methods.map fun m => (m.name, .method .instance_ m)

def classes : Universe where
  classes := [
    resolverInfo oldClass [declares "Old" "find" "find", declares "Old" "list" "list"],
    resolverInfo newClass [declares "New" "search" "find", declares "New" "seek" "find"],
    resolverInfo dashedClass [declares "Dashed" "find" "find-all"]]

def session (registered : List ClassRef) : Session where
  defs := classes
  loader := { executors := registered.zipIdx.map fun e => ⟨.object e.1 [] (some (.resolver e.2))⟩ }

/-- The second of two resolvers declares, by two methods, a name that the first one declares too. -/
def both : Session :=
  session [oldClass, newClass]

def dashed : Session :=
  session [dashedClass]

theorem allCompile {s : Session} {kind : OperationKind}
    (h : ∀ r ∈ s.loader.executors, ∀ d ∈ (s.loader.context s.defs r).declared kind,
      ((s.loader.context s.defs r).compile d).result.isOk) : s.loader.AllCompile s.defs kind :=
  fun r hr d hd => ⟨_, Attempt.eq_ok_of_isOk (h r hr d hd) default⟩

end Rivals

/-- The later of the two methods counts, at the place of the first resolver, and there is one warning. -/
theorem Rivals.seek_wins :
    Rivals.both.loader.AllCompile Rivals.both.defs .query ∧
      ∃ ops, (Rivals.both.loader.operations Rivals.both.defs .query).result = .ok ops ∧ ops.keys = ["find", "list"] ∧
        (∃ o, ops.get? "find" = some o ∧ o.handler.function.slot = "seek") ∧
        (Rivals.both.loader.operations Rivals.both.defs .query).warnings =
          [⟨.warning, .loader, "Query 'find' of New overrides an earlier registration"⟩] := by
  have h : Rivals.both.loader.AllCompile Rivals.both.defs .query := Rivals.allCompile (by decide +kernel)
  obtain ⟨ops, hops, hkeys, -, -, hwarnings, -⟩ := Session.operations_merged Rivals.both .query h
  have hslot : ((Rivals.both.loader.operations Rivals.both.defs .query).result.toOption.bind (·.get? "find")).map
      (·.handler.function.slot) = some "seek" := by decide +kernel
  rw [hops] at hslot
  obtain ⟨o, ho, hslot⟩ := Option.map_eq_some_iff.1 hslot
  exact ⟨h, ops, hops, hkeys.trans (by decide +kernel), ⟨o, ho, hslot⟩, hwarnings.trans (by decide +kernel)⟩

/-- The operation compiles, but the root has no field of its name, since it has no fields at all. -/
theorem Rivals.dashed_refused :
    Rivals.dashed.loader.AllCompile Rivals.dashed.defs .query ∧
      (Rivals.dashed.loader.operations Rivals.dashed.defs .query).result.toOption.map (·.keys) = some ["find-all"] ∧
      (Rivals.dashed.root .query false).result.isOk = false :=
  ⟨Rivals.allCompile (by decide +kernel), by decide +kernel, by decide +kernel⟩

end SchemaAssembly
