import SchemaAssembly.Proofs.CompilationLookup
import SchemaAssembly.Proofs.OperationMerge
import SchemaAssembly.Proofs.RegistryHistory
import SchemaAssembly.Proofs.Sealing

/-! Resolvers in different orders. Names are looked up only when operations are compiled, after all registrations, and what
is compiled depends on the registry only through what names stand for. So the order in which resolvers are registered makes
no difference, as long as no two of them bring different types of one name or declare operations of one name. -/

namespace SchemaAssembly

namespace Registry

theorem registerAll_append (g : Registry) (ks ks' : List TypeKey) :
    (g.registerAll ks).registerAll ks' = g.registerAll (ks ++ ks') := by
  simp only [registerAll, List.foldl_append]

/-- The order of types makes no difference if no two of them have one name. -/
theorem get?_registerAll_perm {ks ks' : List TypeKey} (hperm : ks.Perm ks')
    (hone : ∀ k ∈ ks, ∀ k' ∈ ks, k.name = k'.name → k = k') (n : String) :
    (registerAll {} ks).types.get? n = (registerAll {} ks').types.get? n := by
  have hone' : ∀ k ∈ ks', ∀ k' ∈ ks', k.name = k'.name → k = k' :=
    fun k hk k' hk' => hone k (hperm.mem_iff.2 hk) k' (hperm.mem_iff.2 hk')
  rw [get?_registerAll_empty, get?_registerAll_empty]
  refine Option.ext fun k => ?_
  rw [lastNamed?_eq_some_iff hone, lastNamed?_eq_some_iff hone', hperm.mem_iff]

end Registry

namespace Loader

theorem accepted_map_ok (ks : List TypeKey) : accepted (ks.map .ok) = ks := by
  induction ks with
  | nil => rfl
  | cons k ks ih => exact congrArg (k :: ·) ih

theorem registerTypes_known {l : Loader} (h : l.registry.isSealed = false) (u : Universe) (ks : List TypeKey) :
    (l.registerTypes u (ks.map .known)).logged.result = .ok () ∧
      (l.registerTypes u (ks.map .known)).state = { l with registry := l.registry.registerAll ks } := by
  have hnone : (ks.map TypeItem.known).any (isExposed u) = false := by simp [isExposed]
  have hkeys : (ks.map TypeItem.known).map (l.keyOf u []) = ks.map .ok := by
    rw [List.map_map]
    rfl
  have hstate := registerKeys_open h true (ks.map .ok)
  rw [accepted_map_ok] at hstate
  unfold registerTypes
  rw [convertBatch_of_none hnone]
  simp only [pure, Logged.pure, hkeys, registerKeys_known h, hstate]
  exact ⟨rfl, rfl⟩

theorem registerResolver_known {l : Loader} (h : l.registry.isSealed = false) {u u' : Universe} {r : Resolver}
    {ks : List TypeKey} (hr : (contributed r).apply u = (.ok (ks.map .known), u')) :
    (l.registerResolver u r).1.state =
        { l with registry := l.registry.registerAll ks, executors := l.executors ++ [r] } ∧
      (l.registerResolver u r).2 = u' := by
  obtain ⟨hresult, hstate⟩ := registerTypes_known h u' ks
  unfold registerResolver addContributor
  simp only [h, hr, Bool.false_eq_true, if_false]
  cases ks with
  | nil => exact ⟨rfl, trivial⟩
  | cons k ks =>
    have hempty : ((k :: ks).map TypeItem.known).isEmpty = false := rfl
    simp only [hempty, hresult, hstate, Bool.false_eq_true, if_false, and_self]

/-- Resolvers that are asked one after the other for their types answer with the given ones, which leads from one universe
to another. -/
inductive Contribute (brings : Resolver → List TypeKey) : Universe → List Resolver → Universe → Prop
  | nil (u : Universe) : Contribute brings u [] u
  | cons {u u' v : Universe} {r : Resolver} {rs : List Resolver}
      (first : (contributed r).apply u = (.ok ((brings r).map .known), u')) (rest : Contribute brings u' rs v) :
      Contribute brings u (r :: rs) v

def withResolvers (s : Universe × Loader) (rs : List Resolver) : Universe × Loader :=
  LoaderStep.performAll s (rs.map .resolver)

theorem withResolvers_eq {brings : Resolver → List TypeKey} {u v : Universe} {rs : List Resolver}
    (h : Contribute brings u rs v) {l : Loader} (hopen : l.registry.isSealed = false) :
    withResolvers (u, l) rs =
      (v, { l with registry := l.registry.registerAll (rs.flatMap brings), executors := l.executors ++ rs }) := by
  induction h generalizing l with
  | nil u => simp [withResolvers, LoaderStep.performAll, Registry.registerAll]
  | @cons u u' v r rs first rest ih =>
    obtain ⟨hstate, huniverse⟩ := registerResolver_known hopen first
    have hrest := ih (l := { l with registry := l.registry.registerAll (brings r), executors := l.executors ++ [r] }) hopen
    change withResolvers ((l.registerResolver u r).2, (l.registerResolver u r).1.state) rs = _
    rw [hstate, huniverse, hrest, Registry.registerAll_append, List.append_assoc]
    rfl

end Loader

/-- What resolvers are compiled from is the same: the definitions, and whether a name of one of them can be called. What
instances hold may differ otherwise. -/
structure Universe.CompilesLike (rs : List Resolver) (u u' : Universe) : Prop where
  definitions : u.SameDefinitions u'
  callable : ∀ r ∈ rs, ∀ attr g g', (CompileContext.mk u g r mainModule).checkCallable attr = .ok () ↔
    (CompileContext.mk u' g' r mainModule).checkCallable attr = .ok ()

/-- What compiles still compiles if names stand for the same types, to the same operation. -/
theorem CompileContext.compile_transfer {u u' : Universe} (hu : u.SameDefinitions u') {g g' : Registry}
    (hg : g.ResolvesLike g') {r : Resolver} {m : String} {d : Declaration}
    (hcall : (CompileContext.mk u g r m).checkCallable d.attr = .ok () →
      (CompileContext.mk u' g' r m).checkCallable d.attr = .ok ()) {o : Operation}
    (h : ((CompileContext.mk u g r m).compile d).result = .ok o) :
    ((CompileContext.mk u' g' r m).compile d).result = .ok o := by
  obtain ⟨hcallable, -⟩ := compileMethod_eq_ok.1 h
  have hcallable := hcall hcallable
  rw [compile_congr hg] at h
  obtain ⟨-, rs, type, hrs, hnodup, hapart, htype, rfl⟩ := compileMethod_eq_ok.1 h
  rw [hu.eq_with] at hcallable ⊢
  exact compileMethod_eq_ok.2 ⟨hcallable, rs, type, hrs, hnodup, hapart, htype, rfl⟩

namespace Loader
variable {u u' : Universe} {l l' : Loader} {kind : OperationKind}

theorem operations_ok_iff : (∃ ops, (l.operations u kind).result = .ok ops) ↔ l.AllCompile u kind := by
  constructor
  · rintro ⟨ops, hops⟩ r hr d hd
    obtain ⟨e, he⟩ := attempt_of_operations hops (mem_compilations hr hd)
    exact ⟨e.2, (attempt_eq_ok.1 he).2⟩
  · intro h
    obtain ⟨ops, hops, -⟩ := operations_of_allCompile h
    exact ⟨ops, hops⟩

theorem declared_agree (hu : u.SameDefinitions u') (l l' : Loader) (kind : OperationKind) (r : Resolver) :
    (l'.context u' r).declared kind = (l.context u r).declared kind := by
  rw [hu.eq_with]
  rfl

theorem declaredNames_agree (hu : u.SameDefinitions u') (l l' : Loader) (kind : OperationKind) (r : Resolver) :
    l'.declaredNames u' kind r = l.declaredNames u kind r := by
  unfold declaredNames
  rw [declared_agree hu l l']

theorem mem_declaredNames_of_find? {r : Resolver} {n : String} {d : Declaration}
    (h : ((l.context u r).declared kind).reverse.find? (·.op.name = n) = some d) : n ∈ l.declaredNames u kind r := by
  have hname := List.find?_some h
  exact List.mem_map.2 ⟨d, List.mem_reverse.1 (List.mem_of_find?_eq_some h), of_decide_eq_true hname⟩

/-- If no name is declared by two resolvers, the last one that declares a name is the only one. -/
theorem find?_declaredNames {n : String} {r : Resolver}
    (hdisjoint : l.executors.Pairwise fun r r' => ∀ n ∈ l.declaredNames u kind r, n ∉ l.declaredNames u kind r')
    (hr : r ∈ l.executors) (hn : n ∈ l.declaredNames u kind r) :
    l.executors.reverse.find? (n ∈ l.declaredNames u kind ·) = some r := by
  have hsome : (l.executors.reverse.find? (n ∈ l.declaredNames u kind ·)).isSome :=
    List.find?_isSome.2 ⟨r, List.mem_reverse.2 hr, decide_eq_true hn⟩
  obtain ⟨r', hr'⟩ := Option.isSome_iff_exists.1 hsome
  have hin := List.mem_reverse.1 (List.mem_of_find?_eq_some hr')
  have hn' := List.find?_some hr'
  have hsame : r' = r := by
    by_contra hne
    have hsymm : Std.Symm fun r r' => ∀ n ∈ l.declaredNames u kind r, n ∉ l.declaredNames u kind r' :=
      ⟨fun _ _ hapart n hn hn' => hapart n hn' hn⟩
    exact hdisjoint.forall hin hr hne n (of_decide_eq_true hn') hn
  rw [hr', hsame]

/-- If no name is declared by two resolvers, an operation is what the one declaration of its name that counts compiles to,
whichever resolvers come before or after. -/
theorem operations_of_disjoint (h : l.AllCompile u kind)
    (hdisjoint : l.executors.Pairwise fun r r' => ∀ n ∈ l.declaredNames u kind r, n ∉ l.declaredNames u kind r') :
    ∃ ops, (l.operations u kind).result = .ok ops ∧ ops.keys.Nodup ∧
      (∀ n, n ∈ ops.keys ↔ ∃ r ∈ l.executors, n ∈ l.declaredNames u kind r) ∧
      ∀ n o, ops.get? n = some o ↔ ∃ r ∈ l.executors, ∃ d,
        ((l.context u r).declared kind).reverse.find? (·.op.name = n) = some d ∧
          ((l.context u r).compile d).result = .ok o := by
  obtain ⟨ops, hops, hkeys, hget⟩ := operations_of_allCompile h
  refine ⟨ops, hops, ?_, fun n => ?_, fun n o => ?_⟩
  · rw [hkeys]
    exact Conversion.nodup_eraseDups _
  · rw [hkeys, List.mem_eraseDups, List.mem_flatMap]
  · rw [hget]
    constructor
    · rintro ⟨r, d, hr, hd, ho⟩
      exact ⟨r, List.mem_reverse.1 (List.mem_of_find?_eq_some hr), d, hd, ho⟩
    · rintro ⟨r, hr, d, hd, ho⟩
      exact ⟨r, d, find?_declaredNames hdisjoint hr (mem_declaredNames_of_find? hd), hd, ho⟩

/-- Loaders that have the same resolvers, in whatever order, and registries in which names stand for the same types. -/
structure CompileLike (l l' : Loader) : Prop where
  executors : l.executors.Perm l'.executors
  registry : l.registry.ResolvesLike l'.registry

namespace CompileLike

theorem symm (h : CompileLike l l') : CompileLike l' l :=
  ⟨h.executors.symm, h.registry.symm⟩

theorem compile_iff (h : CompileLike l l') (hu : Universe.CompilesLike l.executors u u') {r : Resolver}
    (hr : r ∈ l.executors) {d : Declaration} {o : Operation} :
    ((l.context u r).compile d).result = .ok o ↔ ((l'.context u' r).compile d).result = .ok o := by
  have hcallable := hu.callable r hr d.attr l.registry l'.registry
  constructor
  · exact CompileContext.compile_transfer hu.definitions h.registry hcallable.1
  · exact CompileContext.compile_transfer hu.definitions.symm h.registry.symm hcallable.2

theorem allCompile_iff (h : CompileLike l l') (hu : Universe.CompilesLike l.executors u u') :
    l.AllCompile u kind ↔ l'.AllCompile u' kind := by
  unfold AllCompile
  constructor
  · intro hall r hr d hd
    rw [declared_agree hu.definitions l l'] at hd
    have hr := h.executors.mem_iff.2 hr
    obtain ⟨o, ho⟩ := hall r hr d hd
    exact ⟨o, (h.compile_iff hu hr).1 ho⟩
  · intro hall r hr d hd
    rw [← declared_agree hu.definitions l l'] at hd
    obtain ⟨o, ho⟩ := hall r (h.executors.mem_iff.1 hr) d hd
    exact ⟨o, (h.compile_iff hu hr).2 ho⟩

/-- Either all operations of a kind compile for both loaders, to the same map up to the order of its names, or some fail to
for each of them. -/
theorem operations_agree (h : CompileLike l l') (hu : Universe.CompilesLike l.executors u u')
    (hdisjoint : l.executors.Pairwise fun r r' => ∀ n ∈ l.declaredNames u kind r, n ∉ l.declaredNames u kind r') :
    (∃ ops ops', (l.operations u kind).result = .ok ops ∧ (l'.operations u' kind).result = .ok ops' ∧
      ops.keys.Perm ops'.keys ∧ ∀ n, ops.get? n = ops'.get? n) ∨
    ∃ e e', (l.operations u kind).result = .error e ∧ (l'.operations u' kind).result = .error e' := by
  by_cases hall : l.AllCompile u kind
  · left
    have hdisjoint' : l'.executors.Pairwise fun r r' =>
        ∀ n ∈ l'.declaredNames u' kind r, n ∉ l'.declaredNames u' kind r' := by
      simp only [declaredNames_agree hu.definitions l l']
      exact (h.executors.pairwise_iff fun hapart n hn hn' => hapart n hn' hn).1 hdisjoint
    obtain ⟨ops, hops, hnodup, hkeys, hget⟩ := operations_of_disjoint hall hdisjoint
    obtain ⟨ops', hops', hnodup', hkeys', hget'⟩ := operations_of_disjoint ((h.allCompile_iff hu).1 hall) hdisjoint'
    refine ⟨ops, ops', hops, hops', (List.perm_ext_iff_of_nodup hnodup hnodup').2 fun n => ?_, fun n => Option.ext fun o => ?_⟩
    · simp only [hkeys, hkeys', declaredNames_agree hu.definitions l l', h.executors.mem_iff]
    · rw [hget, hget']
      constructor
      · rintro ⟨r, hr, d, hd, ho⟩
        rw [← declared_agree hu.definitions l l'] at hd
        exact ⟨r, h.executors.mem_iff.1 hr, d, hd, (h.compile_iff hu hr).1 ho⟩
      · rintro ⟨r, hr, d, hd, ho⟩
        rw [declared_agree hu.definitions l l'] at hd
        have hr := h.executors.mem_iff.2 hr
        exact ⟨r, hr, d, hd, (h.compile_iff hu hr).2 ho⟩
  · right
    have hfails {u : Universe} {l : Loader} (hnot : ¬ l.AllCompile u kind) : ∃ e, (l.operations u kind).result = .error e := by
      cases hresult : (l.operations u kind).result with
      | error e => exact ⟨e, rfl⟩
      | ok ops => exact absurd (operations_ok_iff.1 ⟨ops, hresult⟩) hnot
    obtain ⟨e, he⟩ := hfails hall
    obtain ⟨e', he'⟩ := hfails fun hall' => hall ((h.allCompile_iff hu).2 hall')
    exact ⟨e, e', he, he'⟩

end CompileLike

/-- Resolvers that bring types, no two of them different types of one name, and declare different operations. In whatever
order they are registered with a new loader, the registry has the same type for each name, and the operations of each kind
compile to the same map, up to the order of its names, or fail to compile. Each type that is brought is found under its name
in the end, whether the operation that names it came before or after, unless the name is one of a built-in scalar. -/
theorem order_immaterial {brings : Resolver → List TypeKey} {u v v' : Universe} {rs rs' : List Resolver}
    (converter : Converter) (config : Config)
    (hperm : rs.Perm rs') (hasked : Contribute brings u rs v) (hasked' : Contribute brings u rs' v')
    (halike : Universe.CompilesLike rs v v')
    (hone : ∀ k ∈ rs.flatMap brings, ∀ k' ∈ rs.flatMap brings, k.name = k'.name → k = k')
    (hdisjoint : ∀ kind, rs.Pairwise fun r r' => ∀ n ∈ declaredNames v {} kind r, n ∉ declaredNames v {} kind r') :
    let one := withResolvers (u, { config, converter }) rs
    let other := withResolvers (u, { config, converter }) rs'
    one.2.executors = rs ∧ other.2.executors = rs' ∧
    (∀ n, one.2.registry.types.get? n = other.2.registry.types.get? n) ∧
    (∀ n, one.2.registry.resolve n = other.2.registry.resolve n) ∧
    (∀ k ∈ rs.flatMap brings, k.name ∉ builtinScalars.keys → one.2.registry.resolve k.name = .ok k) ∧
    ∀ kind,
      (∃ ops ops', (one.2.operations one.1 kind).result = .ok ops ∧ (other.2.operations other.1 kind).result = .ok ops' ∧
        ops.keys.Perm ops'.keys ∧ ∀ n, ops.get? n = ops'.get? n) ∨
      ∃ e e', (one.2.operations one.1 kind).result = .error e ∧ (other.2.operations other.1 kind).result = .error e' := by
  intro one other
  have hrun : one = (v, { config, converter, registry := ({} : Registry).registerAll (rs.flatMap brings), executors := rs }) :=
    withResolvers_eq hasked rfl
  have hrun' : other = (v', { config, converter, registry := ({} : Registry).registerAll (rs'.flatMap brings), executors := rs' }) :=
    withResolvers_eq hasked' rfl
  have htypes := Registry.get?_registerAll_perm (hperm.flatMap_right brings) hone
  have hresolve := Registry.ResolvesLike.of_get? htypes
  rw [hrun, hrun']
  refine ⟨rfl, rfl, htypes, hresolve, fun k hk hname => ?_, fun kind => ?_⟩
  · have hlast : Registry.lastNamed? (rs.flatMap brings) k.name = some k :=
      (Registry.lastNamed?_eq_some_iff hone).2 ⟨hk, rfl⟩
    rw [← Registry.get?_registerAll_empty] at hlast
    exact Registry.resolve_registered ((Assoc.get?_eq_none_iff _ _).2 hname) hlast
  · exact CompileLike.operations_agree ⟨hperm, hresolve⟩ halike (hdisjoint kind)

end Loader

namespace Bookshop

def book : NamedType where
  key := ⟨"Book", .declared "Book"⟩
  body := .object [{ name := "id", type := .named Wire.int.key }]

def readersClass : ClassRef := .defined "app" "Readers"
def shelvesClass : ClassRef := .defined "app" "Shelves"

def declares (owner name : String) (returns : String) : Method where
  name
  owner
  receiver := some "self"
  operations := [{ kind := some .query, name, returns := .named (.text returns) }]

/-- A resolver that finds books and another one that brings their type. -/
def classes : Universe where
  types := [book]
  classes := [
    { ref := readersClass, lineage := [readersClass, .builtin .resolver, .builtin .object]
      slots := [("find", .method .instance_ (declares "Readers" "find" "Book"))] },
    { ref := shelvesClass, lineage := [shelvesClass, .builtin .resolver, .builtin .object]
      slots := [("get_types", .types (.items [.known book.key])),
        ("count", .method .instance_ (declares "Shelves" "count" "int"))] }]

def readers : Resolver := ⟨.object readersClass [] (some (.resolver 0))⟩
def shelves : Resolver := ⟨.object shelvesClass [] (some (.resolver 1))⟩

def brings (r : Resolver) : List TypeKey :=
  if r.cls = shelvesClass then [book.key] else []

theorem asked : Loader.Contribute brings classes [readers, shelves] classes :=
  .cons rfl (.cons rfl (.nil _))

theorem asked_backwards : Loader.Contribute brings classes [shelves, readers] classes :=
  .cons rfl (.cons rfl (.nil _))

theorem alike : Universe.CompilesLike [readers, shelves] classes classes :=
  ⟨.refl classes, fun _ _ _ _ _ => Iff.rfl⟩

def forwards : Universe × Loader :=
  Loader.withResolvers (classes, {}) [readers, shelves]

def backwards : Universe × Loader :=
  Loader.withResolvers (classes, {}) [shelves, readers]

def queries (s : Universe × Loader) : Option (Assoc Operation) :=
  (s.2.operations s.1 .query).result.toOption

end Bookshop

/-- The query of the first resolver compiles though the second one brings its type, as in the other order. -/
theorem Bookshop.either_order :
    [Bookshop.readers, Bookshop.shelves].Perm [Bookshop.shelves, Bookshop.readers] ∧
      Loader.Contribute Bookshop.brings Bookshop.classes [Bookshop.readers, Bookshop.shelves] Bookshop.classes ∧
      Loader.Contribute Bookshop.brings Bookshop.classes [Bookshop.shelves, Bookshop.readers] Bookshop.classes ∧
      Universe.CompilesLike [Bookshop.readers, Bookshop.shelves] Bookshop.classes Bookshop.classes ∧
      Bookshop.forwards.2.registry.resolve "Book" = .ok Bookshop.book.key ∧
      ∃ ops ops', Bookshop.queries Bookshop.forwards = some ops ∧ Bookshop.queries Bookshop.backwards = some ops' ∧
        ops.keys = ["find", "count"] ∧ ops'.keys = ["count", "find"] ∧ ops.get? "find" = ops'.get? "find" ∧
        ∃ o, ops.get? "find" = some o ∧ o.type = .named Bookshop.book.key := by
  have hperm : [Bookshop.readers, Bookshop.shelves].Perm [Bookshop.shelves, Bookshop.readers] := .swap _ _ []
  obtain ⟨-, -, -, -, hfound, hoperations⟩ := Loader.order_immaterial .standard {} hperm Bookshop.asked Bookshop.asked_backwards
    Bookshop.alike (by decide) (fun kind => by cases kind <;> decide +kernel)
  have hnames : (Bookshop.queries Bookshop.forwards).map Assoc.keys = some ["find", "count"] := by decide +kernel
  have hnames' : (Bookshop.queries Bookshop.backwards).map Assoc.keys = some ["count", "find"] := by decide +kernel
  have htype : ((Bookshop.queries Bookshop.forwards).bind (·.get? "find")).map (·.type) =
      some (.named Bookshop.book.key) := by decide +kernel
  refine ⟨hperm, Bookshop.asked, Bookshop.asked_backwards, Bookshop.alike,
    hfound Bookshop.book.key (by decide) (by decide), ?_⟩
  rcases hoperations .query with ⟨ops, ops', hops, hops', -, hget⟩ | ⟨e, -, he, -⟩
  · have hqueries : Bookshop.queries Bookshop.forwards = some ops := congrArg Except.toOption hops
    have hqueries' : Bookshop.queries Bookshop.backwards = some ops' := congrArg Except.toOption hops'
    rw [hqueries] at hnames htype
    rw [hqueries'] at hnames'
    exact ⟨ops, ops', hqueries, hqueries', Option.some.inj hnames, Option.some.inj hnames', hget "find",
      Option.map_eq_some_iff.1 htype⟩
  · have hnone : Bookshop.queries Bookshop.forwards = none := congrArg Except.toOption he
    rw [hnone] at hnames
    cases hnames

end SchemaAssembly
