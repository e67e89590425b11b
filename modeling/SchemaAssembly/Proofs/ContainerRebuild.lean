import SchemaAssembly.Proofs.OptionalArguments
import Mathlib.Data.List.Induction

/-! Containers as they come out of a build. The names that a plan takes out of the arguments were listed when it was
made, and those that fill a container are listed when it is built; a generated constructor that takes them, or the engine
that sets the fields one by one, finds a value for every one of them. What a class has code of its own for is up to that
code. -/

namespace SchemaAssembly

namespace Universe
variable {u u' : Universe}

theorem partOf?_cls_congr (h : u'.classes = u.classes) (c : ClassRef) (name : String) :
    u'.partOf? (.cls c) name = u.partOf? (.cls c) name := by
  have hheld : u'.heldAt? c name = u.heldAt? c name := by
    unfold heldAt?
    rw [info_congr h, ancestry_congr h]
  unfold partOf?
  dsimp only
  unfold classAttribute? lineage
  rw [hheld, info_congr h, metaAttribute?_congr h]

/-- Reading an attribute of a class changes nothing and depends on the classes alone. -/
theorem read_cls_apply (h : u'.classes = u.classes) (c : ClassRef) (name : String) :
    (conduct.read (.cls c) name).apply u' = ((conduct.read (.cls c) name).result u, u') := by
  change ((Conduct.bounded 199).readValue (.cls c) name).apply u' =
    (((Conduct.bounded 199).readValue (.cls c) name).result u, u')
  unfold Conduct.readValue Action.result
  rw [Action.apply_bind_ok (Action.apply_get u'), Action.apply_bind_ok (Action.apply_get u), partOf?_cls_congr h]
  rcases u.partOf? (.cls c) name with _ | a
  · rcases (Value.cls c).builtinMember? name with _ | _ | _ | _ <;> rfl
  · rfl

theorem isLookup_of_read_cls {c : ClassRef} {name : String} {f : Fault}
    (h : (conduct.read (.cls c) name).result u = .error f) : f.kind.isLookup = true := by
  change ((Conduct.bounded 199).readValue (.cls c) name).result u = .error f at h
  unfold Conduct.readValue Action.result at h
  rw [Action.apply_bind_ok (Action.apply_get u)] at h
  split at h
  case h_5 =>
    cases h
    rfl
  all_goals cases h

def classValue (u : Universe) (c : ClassRef) (name : String) : Value :=
  ((conduct.readOr (.cls c) name .null).result u).toOption.getD .null

theorem readOr_cls_apply (h : u'.classes = u.classes) (c : ClassRef) (name : String) :
    (conduct.readOr (.cls c) name .null).apply u' = (.ok (u.classValue c name), u') := by
  have hor : ∃ w, ∀ u', u'.classes = u.classes → (conduct.readOr (.cls c) name .null).apply u' = (.ok w, u') := by
    cases hread : (conduct.read (.cls c) name).result u with
    | ok w => exact ⟨w, fun u' h => Action.apply_tryCatch_ok (hread ▸ read_cls_apply h c name) _⟩
    | error f =>
      refine ⟨.null, fun u' h => (Action.apply_tryCatch_error (hread ▸ read_cls_apply h c name) _).trans ?_⟩
      rw [if_pos (isLookup_of_read_cls hread)]
      rfl
  obtain ⟨w, hw⟩ := hor
  have hvalue : u.classValue c name = w := by
    unfold classValue Action.result
    rw [hw u rfl]
    rfl
  rw [hw u' h, hvalue]

end Universe

namespace GroupPlan

theorem get?_supplied (plan : GroupPlan) (args : Assoc Value) (n : String) :
    (plan.supplied args).get? n = if n ∈ plan.fields then args.get? n else none := by
  unfold supplied
  generalize plan.fields = names
  -- the last name decides, so the induction takes names from the end
  induction names using List.reverseRecOn with
  | nil => simp
  | append_singleton names m ih =>
    rw [List.foldl_append, List.foldl_cons, List.foldl_nil]
    by_cases hm : m = n
    · subst hm
      cases hv : args.get? m with
      | some v => simp [Assoc.get?_insert]
      | none => simp [ih, hv]
    · cases hv : args.get? m with
      | some v => simp [Assoc.get?_insert, hm, Ne.symm hm, ih]
      | none => simp [Ne.symm hm, ih]

theorem build_apply {plan : GroupPlan} {args : Assoc Value} {u u' : Universe} {v : Value}
    (h : (plan.instance_ args).apply u = (.ok v, u')) :
    (plan.build args).apply u = (.ok (v, plan.remaining args), u') := by
  unfold build
  rw [Action.apply_bind_ok h]
  rfl

/-- A build takes the arguments of the group out of the map, and no others. -/
theorem left_of_build {plan : GroupPlan} {args left : Assoc Value} {u u' : Universe} {v : Value}
    (h : (plan.build args).apply u = (.ok (v, left), u')) : left = plan.remaining args := by
  obtain ⟨_, _, _, h⟩ := Action.apply_bind_eq_ok.1 h
  cases h
  rfl

theorem assignFields_apply (plan : GroupPlan) (supplied : Assoc Value) (fs : Assoc Value) (i : Identity) {u : Universe}
    {names : List String} (hw : ∀ n ∈ names, u.Writable plan.cls n) {u' : Universe} (hu : u'.classes = u.classes) :
    (plan.assignFields supplied (.object plan.cls fs (some i)) names).apply u' =
      (.ok (), names.foldl
        (fun u' n => u'.assign plan.cls fs i n ((supplied.get? n).getD (u.classValue plan.cls n))) u') := by
  induction names generalizing u' with
  | nil => rfl
  | cons n names ih =>
    obtain ⟨hn, hnames⟩ := List.forall_mem_cons.1 hw
    have hwrite (w : Value) : (conduct.write (.object plan.cls fs (some i)) n w).apply u' =
        (.ok (), u'.assign plan.cls fs i n w) := Conduct.writeValue_apply _ (hn.congr hu) fs i w
    unfold assignFields
    cases hs : supplied.get? n with
    | some w =>
      dsimp only
      rw [Action.apply_bind_ok (hwrite w), List.foldl_cons, hs]
      exact ih hnames hu
    | none =>
      dsimp only
      rw [Action.apply_bind_ok (Universe.readOr_cls_apply hu _ _), Action.apply_bind_ok (hwrite _), List.foldl_cons, hs]
      exact ih hnames hu

end GroupPlan

/-- What an instance holds for a field of its constructor: a parameter what it is given or what stands in for that, and
any other field what its factory makes. What is handed on is not held. -/
def RecordField.heldFrom? (f : RecordField) (given : Assoc Value) : Option Value :=
  if f.passed then none else if f.init then some (f.valueFrom given) else f.factory

/-- Nothing is left to be done after the generated constructor of a class. -/
def Universe.Unattended (u : Universe) (info : ClassInfo) : Prop :=
  ∀ i ∈ u.ancestry info.ref, i.slots.get? "__post_init__" = none ∧ (i.record = none ∨ i.initFault = none)

theorem Conduct.afterInit_apply (k : Conduct) {u u' : Universe} (h : u'.classes = u.classes) {info : ClassInfo}
    (hnone : u.Unattended info) (c : ClassRef) (v : Value) (passed : Except Fault (List Value)) :
    (k.afterInit c v info passed).apply u' = (.ok (), u') := by
  have hany : ((u'.ancestry info.ref).any fun i =>
      i.slots.contains "__post_init__" || (i.record.isSome && i.initFault.isSome)) = false := by
    rw [Universe.ancestry_congr h, List.any_eq_false]
    intro i hi
    obtain ⟨hslot, hfault⟩ := hnone i hi
    rcases hfault with hfault | hfault <;> simp [Assoc.contains, hslot, hfault]
  unfold afterInit
  rw [Action.apply_bind_ok (Action.apply_get u')]
  dsimp only
  rw [hany]
  rfl

namespace GroupPlan
variable {plan : GroupPlan} {fields params : List RecordField} {args keywords : Assoc Value} {u u₁ : Universe}
  {since : Nat} {info : ClassInfo}

/-- An instance of the class of a plan that holds for every field of its constructor what it should, as it was met from
some time on. -/
structure Rebuilt (plan : GroupPlan) (params : List RecordField) (keywords : Assoc Value) (since : Nat) (u : Universe)
    (v : Value) : Prop where
  made : ∃ fs i, v = .object plan.cls fs (some i)
  holds : ∀ f ∈ params, ∀ w, f.heldFrom? keywords = some w →
    ∃ k ≥ since, (u.attributesOf v).get? f.name = some (w.placed (.met k))

theorem Rebuilt.current {i : Identity} (h : plan.Rebuilt params keywords since u (.object plan.cls [] (some i))) :
    plan.Rebuilt params keywords since u (u.current (.object plan.cls [] (some i))) where
  made := by
    obtain ⟨fs, hfs⟩ := u.current_object plan.cls [] i
    exact ⟨fs, i, hfs⟩
  holds f hf w hw := by
    obtain ⟨k, hk, hget⟩ := h.holds f hf w hw
    exact ⟨k, hk, Universe.attributesOf_current (Universe.isSome_lookup_of_get? hget) _ _ ▸ hget⟩

/-- The arguments that a container with generated methods is made from: what is supplied for its fields, and null for
those that have no default. -/
def given (plan : GroupPlan) (fields : List RecordField) (args : Assoc Value) : Assoc Value :=
  constructorArgs fields (plan.supplied args)

/-- A container of a class with generated methods is what calling the class with the given arguments makes. -/
theorem instance_apply_given (hrecord : u.recordFields? plan.cls = some fields) :
    (plan.instance_ args).apply u = (conduct.call (.cls plan.cls) ⟨[], plan.given fields args⟩).apply u := by
  unfold instance_
  rw [Action.apply_bind_ok (Action.apply_get u), hrecord]
  rfl

/-- A container of any other class is an instance whose fields are set one by one. -/
theorem instance_apply_set (hrecord : u.recordFields? plan.cls = none) :
    (plan.instance_ args).apply u =
      (do
        let v ← conduct.call (.cls plan.cls) {}
        plan.assignFields (plan.supplied args) v plan.fields
        return (← get).current v : Action Value).apply u := by
  unfold instance_
  rw [Action.apply_bind_ok (Action.apply_get u), hrecord]

theorem nodup_keys_given (hn : ((fields.filter (·.init)).map (·.name)).Nodup) : (plan.given fields args).keys.Nodup :=
  hn.sublist (keys_constructorArgs_sublist fields _)

theorem get?_given (hfields : plan.fields = (fields.filter (·.init)).map (·.name)) (hnd : plan.fields.Nodup)
    {f : RecordField} (hf : f ∈ fields) (hinit : f.init = true) :
    (plan.given fields args).get? f.name = (args.get? f.name).or (if f.hasDefault then none else some .null) := by
  have hmem : f ∈ fields.filter (·.init) := List.mem_filter.2 ⟨hf, hinit⟩
  rw [given, get?_constructorArgs (hfields ▸ hnd) hmem, get?_supplied, if_pos (hfields ▸ List.mem_map_of_mem hmem)]

def received (params : List RecordField) (keywords : Assoc Value) : Assoc Value :=
  (params.filter (·.init)).map fun f => (f.name, f.valueFrom keywords)

theorem stored?_received (hnd : (params.map (·.name)).Nodup) {f : RecordField} (hf : f ∈ params) :
    f.stored? (received params keywords) = f.heldFrom? keywords := by
  unfold RecordField.stored? RecordField.heldFrom?
  cases hinit : f.init with
  | false => rfl
  | true =>
    have hmem : f ∈ params.filter (·.init) := List.mem_filter.2 ⟨hf, hinit⟩
    have hkeys : (received params keywords).keys = (params.filter (·.init)).map (·.name) := by
      rw [received, Assoc.keys, List.map_map]
      rfl
    have hentry : (f.name, f.valueFrom keywords) ∈ received params keywords := List.mem_map.2 ⟨f, hmem, rfl⟩
    rw [if_pos rfl, if_pos rfl, Assoc.get?_of_mem (hkeys ▸ hnd.sublist (List.filter_sublist.map _)) hentry]

theorem rebuilt_filled (h : u.Generates plan.cls info params) (keywords : Assoc Value) :
    plan.Rebuilt params keywords u.met (Conduct.filled u plan.cls params (received params keywords))
      (Conduct.newInstance u plan.cls) where
  made := ⟨[], .met u.met, rfl⟩
  holds f hf w hw := by
    obtain ⟨k, hk, hget⟩ := Universe.get?_keepFields h.names hf ((stored?_received h.names hf).trans hw)
      { u with met := u.met + 1 }
    exact ⟨k, Nat.le_of_succ_le hk, hget⟩

/-- What is done to the new container after the generated constructor of a class, if anything is. -/
def completion (plan : GroupPlan) (u : Universe) (info : ClassInfo) (params : List RecordField) (keywords : Assoc Value) :
    Action Unit :=
  (Conduct.bounded 199).afterInit plan.cls (Conduct.newInstance u plan.cls) info
    (Conduct.passedOn params (received params keywords))

/-- Building a container with a generated constructor that takes what it is given comes to what is done after the
constructor. -/
theorem build_apply_generated (hrecord : u.recordFields? plan.cls = some fields) (h : u.Generates plan.cls info params)
    (hn : ((fields.filter (·.init)).map (·.name)).Nodup) (htakes : RecordField.Takes params (plan.given fields args)) :
    (plan.build args).apply u =
      match (plan.completion u info params (plan.given fields args)).apply
        (Conduct.filled u plan.cls params (received params (plan.given fields args))) with
      | (.ok _, u') => (.ok (u'.current (Conduct.newInstance u plan.cls), plan.remaining args), u')
      | (.error f, u') => (.error f, u') := by
  have hnamed : "" ∉ (params.filter (·.init)).map (·.name) := fun c => h.named ((List.filter_sublist.map _).subset c)
  obtain ⟨receiver, hbind⟩ := RecordField.bind_of_takes hnamed (nodup_keys_given hn) htakes
    (Conduct.newInstance u plan.cls)
  have hconstruct : (conduct.call (.cls plan.cls) ⟨[], plan.given fields args⟩).apply u = _ :=
    (Conduct.call_cls_apply h.uncalled _).trans (Conduct.construct_apply (.bounded 199) (.bounded 198) rfl h hbind)
  unfold build
  rw [Action.apply_bind, instance_apply_given hrecord, hconstruct, List.tail_cons]
  unfold completion received
  rcases ((Conduct.bounded 199).afterInit plan.cls (Conduct.newInstance u plan.cls) info _).apply
    (Conduct.filled u plan.cls params _) with ⟨_ | _, u'⟩
  · rfl
  · rfl

/-- Nothing fails, and the instance is the container, if nothing is done after the constructor. -/
theorem build_apply_unattended (hrecord : u.recordFields? plan.cls = some fields) (h : u.Generates plan.cls info params)
    (hn : ((fields.filter (·.init)).map (·.name)).Nodup) (htakes : RecordField.Takes params (plan.given fields args))
    (hquiet : u.Unattended info) :
    ∃ v, (plan.build args).apply u = (.ok (v, plan.remaining args),
        Conduct.filled u plan.cls params (received params (plan.given fields args))) ∧
      plan.Rebuilt params (plan.given fields args) u.met
        (Conduct.filled u plan.cls params (received params (plan.given fields args))) v := by
  have hafter : (plan.completion u info params (plan.given fields args)).apply _ = _ :=
    Conduct.afterInit_apply (.bounded 199)
      (Conduct.classes_filled u plan.cls params (received params (plan.given fields args))) hquiet plan.cls _ _
  refine ⟨_, ?_, (rebuilt_filled h _).current⟩
  rw [build_apply_generated hrecord h hn htakes, hafter]
  rfl

/-- A container whose constructor does not take what it is given cannot be built. -/
theorem build_refused (hrecord : u.recordFields? plan.cls = some fields) (h : u.Generates plan.cls info params)
    (htakes : ¬ RecordField.Takes params (plan.given fields args))
    (hn : ((fields.filter (·.init)).map (·.name)).Nodup) :
    ∃ f : CallFault, (plan.build args).apply u =
      (.error (.plain .type (f.message s!"{info.ref.name}.__init__")), { u with met := u.met + 1 }) := by
  have hnamed : "" ∉ (params.filter (·.init)).map (·.name) := fun c => h.named ((List.filter_sublist.map _).subset c)
  cases hbind : (RecordField.signature params).bind [Conduct.newInstance u plan.cls] (plan.given fields args) with
  | ok out =>
    exact absurd ((RecordField.bind_iff_takes hnamed (nodup_keys_given hn) _).1 ⟨out, hbind⟩) htakes
  | error f =>
    have hconstruct : (conduct.call (.cls plan.cls) ⟨[], plan.given fields args⟩).apply u = _ :=
      (Conduct.call_cls_apply h.uncalled _).trans (Conduct.construct_refuses (.bounded 199) h hbind)
    refine ⟨f, ?_⟩
    unfold build
    rw [Action.apply_bind, instance_apply_given hrecord, hconstruct]

/-- Building a container of a class without a generated constructor sets its fields on what calling the class gives. -/
theorem build_apply_plain {fs : Assoc Value} {i : Identity} (hrecord : u.recordFields? plan.cls = none)
    (hcall : (conduct.call (.cls plan.cls) {}).apply u = (.ok (.object plan.cls fs (some i)), u₁))
    (hw : ∀ n ∈ plan.fields, u₁.Writable plan.cls n) (hne : plan.fields ≠ []) (args : Assoc Value) :
    ∃ fs' u', (plan.build args).apply u = (.ok (.object plan.cls fs' (some i), plan.remaining args), u') ∧
      ∀ n ∈ plan.fields, (u'.attributesOf (.object plan.cls fs' (some i))).get? n =
        some ((args.get? n).getD (u₁.classValue plan.cls n)) := by
  have hassign := assignFields_apply plan (plan.supplied args) fs i hw rfl
  have hget := Universe.get?_foldl_assign plan.cls fs i
    (fun n => ((plan.supplied args).get? n).getD (u₁.classValue plan.cls n)) plan.fields u₁
  have hsome := Universe.isSome_lookup_foldl_assign plan.cls fs i
    (fun n => ((plan.supplied args).get? n).getD (u₁.classValue plan.cls n)) hne u₁
  generalize plan.fields.foldl _ u₁ = u' at hassign hget hsome
  obtain ⟨fs', hfs'⟩ := u'.current_object plan.cls fs i
  have hinstance : (plan.instance_ args).apply u = (.ok (.object plan.cls fs' (some i)), u') := by
    rw [instance_apply_set hrecord, Action.apply_bind_ok hcall, Action.apply_bind_ok hassign,
      Action.apply_bind_ok (Action.apply_get u'), hfs']
    rfl
  refine ⟨fs', u', build_apply hinstance, fun n hn => ?_⟩
  rw [← hfs', Universe.attributesOf_current hsome, hget n, if_pos hn, get?_supplied, if_pos hn]

end GroupPlan

namespace CompileContext
variable {ctx : CompileContext} {p : Param} {g : Group} {acc out : Assoc Argument} {place : String} {plan : GroupPlan}

theorem lists_of_expandGroup (hacc : acc.keys.Nodup) (h : ctx.expandGroup p g acc place = .ok (out, plan)) :
    ctx.Lists plan ∧ plan.fields.Nodup := by
  obtain ⟨plan', new, hrole, hout, hnd⟩ := (expandGroup_eq_ok hacc).1 h
  cases hout
  obtain ⟨hlists, hkeys⟩ := lists_of_groupRole hrole
  rw [Assoc.keys_append] at hnd
  exact ⟨hlists, hkeys ▸ (List.nodup_append.1 hnd).2.1⟩

end CompileContext

/-- What building a container comes to, whichever arguments of its group are there: those are taken out, and all others
stay. A generated constructor is given what is supplied, and null for every other field without a default. It takes that,
if it belongs to the class of the fields, exactly if there is a default for whatever else it has to hand on, and else
nothing is built. If it takes it, it leaves an instance that holds what is given, and for the rest a default or something
new; the build fails only as what is done after the constructor does, and if nothing is, this instance is the container.
Without generated methods, and if setting the fields is left to the engine, the container is what calling the class gives,
and holds what is supplied, and for the rest what the class has, or null. -/
theorem CompileContext.container_rebuilt {ctx : CompileContext} {p : Param} {g : Group} {acc out : Assoc Argument}
    {place : String} {plan : GroupPlan} (hacc : acc.keys.Nodup)
    (hplan : ctx.expandGroup p g acc place = .ok (out, plan)) {u : Universe}
    (hsame : u.recordFields? plan.cls = ctx.defs.recordFields? plan.cls) (args : Assoc Value) :
    (∀ v left u', (plan.build args).apply u = (.ok (v, left), u') →
      ∀ n, left.get? n = if n ∈ plan.fields then none else args.get? n) ∧
    (∀ fields info params, u.recordFields? plan.cls = some fields → u.Generates plan.cls info params →
      (∀ f ∈ fields, f.init = true → (plan.given fields args).get? f.name =
        (args.get? f.name).or (if f.hasDefault then none else some .null)) ∧
      (info.fields? = some fields → (RecordField.Takes params (plan.given fields args) ↔
        ∀ f ∈ params, f.passed = true → f.init = true → f.hasDefault = true)) ∧
      (¬ RecordField.Takes params (plan.given fields args) → ∃ f : CallFault, (plan.build args).apply u =
        (.error (.plain .type (f.message s!"{info.ref.name}.__init__")), { u with met := u.met + 1 })) ∧
      (RecordField.Takes params (plan.given fields args) →
        ∃ u₁, plan.Rebuilt params (plan.given fields args) u.met u₁ (Conduct.newInstance u plan.cls) ∧
          (∀ f u', (plan.completion u info params (plan.given fields args)).apply u₁ = (.error f, u') →
            (plan.build args).apply u = (.error f, u')) ∧
          (∀ u', (plan.completion u info params (plan.given fields args)).apply u₁ = (.ok (), u') →
            (plan.build args).apply u =
              (.ok (u'.current (Conduct.newInstance u plan.cls), plan.remaining args), u')) ∧
          (u.Unattended info → ∃ v, (plan.build args).apply u = (.ok (v, plan.remaining args), u₁) ∧
            plan.Rebuilt params (plan.given fields args) u.met u₁ v))) ∧
    ∀ fs i u₁, u.recordFields? plan.cls = none →
      (conduct.call (.cls plan.cls) {}).apply u = (.ok (.object plan.cls fs (some i)), u₁) →
      (∀ n ∈ plan.fields, u₁.Writable plan.cls n) →
      ∃ fs' u', (plan.build args).apply u = (.ok (.object plan.cls fs' (some i), plan.remaining args), u') ∧
        ∀ n ∈ plan.fields, (u'.attributesOf (.object plan.cls fs' (some i))).get? n =
          some ((args.get? n).getD (u₁.classValue plan.cls n)) := by
  obtain ⟨⟨hnonempty, hrecord⟩, hnd⟩ := lists_of_expandGroup hacc hplan
  refine ⟨?taken, ?generated, ?plain⟩
  case taken =>
    intro v left u' hbuild n
    rw [GroupPlan.left_of_build hbuild, GroupPlan.get?_remaining]
  case generated =>
    intro fields info params hlisted hgen
    have hfields := hrecord fields (hsame ▸ hlisted)
    refine ⟨fun f hf hinit => GroupPlan.get?_given hfields hnd hf hinit,
      fun hown => GroupPlan.takes_own_iff hgen.toConstructs hown _,
      fun hrefused => GroupPlan.build_refused hlisted hgen hrefused (hfields ▸ hnd), fun htakes => ?_⟩
    have hrebuilt := GroupPlan.rebuilt_filled hgen (plan.given fields args)
    have hbuild := GroupPlan.build_apply_generated hlisted hgen (hfields ▸ hnd) htakes
    refine ⟨_, hrebuilt, ?_, ?_, GroupPlan.build_apply_unattended hlisted hgen (hfields ▸ hnd) htakes⟩
    · intro f u' hafter
      rw [hbuild, hafter]
    · intro u' hafter
      rw [hbuild, hafter]
  case plain =>
    intro fs i u₁ hnone hcall hw
    exact GroupPlan.build_apply_plain hnone hcall hw hnonempty args

namespace Storage

def boxClass : ClassRef := .defined "app" "Box"

def crateClass : ClassRef := .defined "app" "Crate"

def shelfClass : ClassRef := .defined "app" "Shelf"

def stampClass : ClassRef := .defined "app" "Stamp"

def optionalText : Ann := .union .aliased [.cls (.builtin .str), .noneType]

def genre : RecordField := { name := "genre", ann := optionalText }

def rows : RecordField := { name := "rows", ann := .cls (.builtin .int), default := some (.int 10) }

def title : RecordField :=
  { name := "title", ann := optionalText, factory := some (.text "new"), keywordOnly := true }

def stamp : RecordField :=
  { name := "stamp", ann := .cls stampClass, factory := some (.object stampClass [] none), init := false }

def scale : RecordField :=
  { name := "scale", ann := .cls .passed, default := some (.int 1), passed := true }

def boxFields : List RecordField := [genre, rows, title, stamp]

def boxParams : List RecordField := [genre, rows, scale, title, stamp]

def boxInfo : ClassInfo where
  ref := boxClass
  lineage := [boxClass, .builtin .object]
  annotations := boxParams.map fun f => (f.name, f.ann)
  slots := [("rows", .value (.int 10)), ("scale", .value (.int 1))]
  record := some boxParams
  fixed := true

def crateInfo : ClassInfo where
  ref := crateClass
  lineage := [crateClass, boxClass, .builtin .object]

def shelfInfo : ClassInfo where
  ref := shelfClass
  lineage := [shelfClass, .builtin .object]
  annotations := [("label", optionalText), ("height", .cls (.builtin .int))]
  slots := [("label", .value (.text "plain")), ("height", .value (.int 3))]

def stampInfo : ClassInfo where
  ref := stampClass
  lineage := [stampClass, .builtin .object]

def classes : Universe where
  classes := [stampInfo, boxInfo, crateInfo, shelfInfo]

def expansion (u : Universe) (c : ClassRef) : Except Failure (Assoc Argument × GroupPlan) :=
  CompileContext.expandGroup { defs := u, registry := {}, resolver := ⟨.object stampClass [] (some (.resolver 0))⟩ }
    { name := "filter" } (.given (some c)) [] "Finder.find"

def plan (u : Universe) (c : ClassRef) : GroupPlan :=
  ((expansion u c).toOption.getD default).2

theorem expansion_eq {u : Universe} {c : ClassRef} (h : (expansion u c).isOk) :
    expansion u c = .ok (((expansion u c).toOption.getD default).1, plan u c) :=
  Attempt.eq_ok_of_isOk h default

theorem plan_crate : plan classes crateClass = ⟨crateClass, ["genre", "rows", "title"], "filter"⟩ := by decide +kernel

theorem plan_shelf : plan classes shelfClass = ⟨shelfClass, ["label", "height"], "filter"⟩ := by decide +kernel

theorem crate_generates : classes.Generates crateClass boxInfo boxParams where
  itself := List.mem_cons_self
  first := ⟨[crateInfo], [Universe.builtinInfo .object], rfl, by
    rintro j (_ | ⟨_, ⟨⟩⟩)
    exact ⟨rfl, rfl, rfl⟩⟩
  unwritten := rfl
  generated := rfl
  unmade := rfl
  noEnum := rfl
  noInfo := rfl
  names := by decide
  named := by decide
  uncalled := rfl
  fillable := by
    have hvalue : ∀ f ∈ boxParams, isFixedPart f.name = false ∧
        (classes.slot? crateClass f.name = none ∨ ∃ v, classes.slot? crateClass f.name = some (.value v)) := by
      rintro f (_ | ⟨_, _ | ⟨_, _ | ⟨_, _ | ⟨_, _ | ⟨_, ⟨⟩⟩⟩⟩⟩⟩)
      · exact ⟨rfl, .inl rfl⟩
      · exact ⟨rfl, .inr ⟨_, rfl⟩⟩
      · exact ⟨rfl, .inr ⟨_, rfl⟩⟩
      · exact ⟨rfl, .inl rfl⟩
      · exact ⟨rfl, .inl rfl⟩
    intro f hf
    obtain ⟨hordinary, hslot⟩ := hvalue f hf
    exact (if_pos rfl : classes.Fillable crateClass boxInfo f.name = _).mpr (.of_slot hordinary rfl hslot)

theorem shelf_called : (conduct.call (.cls shelfClass) {}).apply classes =
    (.ok (.object shelfClass [] (some (.met 0))), { classes with met := 1 }) := rfl

theorem shelf_writable {n : String} (hn : n ∈ ["label", "height"]) :
    ({ classes with met := 1 } : Universe).Writable shelfClass n := by
  have hslot : isFixedPart n = false ∧ ∃ v, classes.slot? shelfClass n = some (.value v) := by
    rcases List.mem_cons.1 hn with rfl | hn
    · exact ⟨rfl, _, rfl⟩
    · obtain rfl := List.mem_singleton.1 hn
      exact ⟨rfl, _, rfl⟩
  obtain ⟨hordinary, v, hv⟩ := hslot
  have hwritable : classes.Writable shelfClass n := by
    refine ⟨.of_slot hordinary rfl (.inr ⟨v, hv⟩), ?_, ?_⟩
    all_goals
      rintro i (_ | ⟨_, _ | ⟨_, ⟨⟩⟩⟩)
      · rfl
      · rfl
  have hclasses : ({ classes with met := 1 } : Universe).classes = classes.classes := rfl
  exact hwritable.congr hclasses

end Storage

/-- A container with an inherited constructor and one without a constructor are rebuilt from some of their fields. -/
theorem Storage.crate_and_shelf_rebuilt :
    (expansion classes crateClass).isOk ∧ (expansion classes shelfClass).isOk ∧
    classes.recordFields? crateClass = some boxFields ∧ classes.Generates crateClass boxInfo boxParams ∧
    classes.Unattended boxInfo ∧
    (∃ v left u k,
      ((plan classes crateClass).build [("rows", .null), ("page", .int 2)]).apply classes = (.ok (v, left), u) ∧
      left.get? "page" = some (.int 2) ∧ left.get? "rows" = none ∧
      (u.attributesOf v).get? "genre" = some .null ∧ (u.attributesOf v).get? "rows" = some .null ∧
      (u.attributesOf v).get? "title" = some (.text "new") ∧
      (u.attributesOf v).get? "stamp" = some (.object stampClass [] (some (.met k)))) ∧
    ∃ v left u,
      ((plan classes shelfClass).build [("height", .null), ("page", .int 2)]).apply classes = (.ok (v, left), u) ∧
      left.get? "page" = some (.int 2) ∧ left.get? "height" = none ∧
      (u.attributesOf v).get? "label" = some (.text "plain") ∧ (u.attributesOf v).get? "height" = some .null := by
  have hempty : (Assoc.keys ([] : Assoc Argument)).Nodup := List.nodup_nil
  have hcrate : (expansion classes crateClass).isOk := by decide +kernel
  have hshelf : (expansion classes shelfClass).isOk := by decide +kernel
  have hquiet : classes.Unattended boxInfo := by
    rintro i (_ | ⟨_, _ | ⟨_, ⟨⟩⟩⟩)
    · exact ⟨rfl, .inr rfl⟩
    · exact ⟨rfl, .inl rfl⟩
  refine ⟨hcrate, hshelf, rfl, crate_generates, hquiet, ?_, ?_⟩
  · obtain ⟨hleft, hgenerated, -⟩ := CompileContext.container_rebuilt hempty (expansion_eq hcrate)
      (u := classes) rfl [("rows", .null), ("page", .int 2)]
    rw [plan_crate] at hleft hgenerated ⊢
    obtain ⟨-, htakes, -, hbuild⟩ := hgenerated boxFields boxInfo boxParams rfl crate_generates
    have hhanded : ∀ f ∈ boxParams, f.passed = true → f.init = true → f.hasDefault = true := by decide
    obtain ⟨u, -, -, -, hbuild⟩ := hbuild ((htakes rfl).2 hhanded)
    obtain ⟨v, hv, hrebuilt⟩ := hbuild hquiet
    obtain ⟨_, -, hgenre⟩ := hrebuilt.holds genre (by simp [boxParams]) _ rfl
    obtain ⟨_, -, hrows⟩ := hrebuilt.holds rows (by simp [boxParams]) _ rfl
    obtain ⟨_, -, htitle⟩ := hrebuilt.holds title (by simp [boxParams]) _ rfl
    obtain ⟨k, -, hstamp⟩ := hrebuilt.holds stamp (by simp [boxParams]) _ rfl
    exact ⟨v, _, u, k, hv, hleft _ _ _ hv "page", hleft _ _ _ hv "rows", hgenre, hrows, htitle, hstamp⟩
  · obtain ⟨hleft, -, hplain⟩ := CompileContext.container_rebuilt hempty (expansion_eq hshelf)
      (u := classes) rfl [("height", .null), ("page", .int 2)]
    rw [plan_shelf] at hleft hplain ⊢
    obtain ⟨fs, u, hu, hholds⟩ := hplain [] (.met 0) _ rfl shelf_called fun n hn => shelf_writable hn
    refine ⟨_, _, u, hu, hleft _ _ _ hu "page", hleft _ _ _ hu "height", ?_, ?_⟩
    · exact hholds "label" (by decide)
    · exact hholds "height" (by decide)

namespace Storage

def labelClass : ClassRef := .defined "app" "Label"

def count : RecordField := { name := "count", ann := .cls (.builtin .int) }

/-- A class that has something under a name, with or without a generated constructor. -/
def labels (name : String) (slot : Slot) (record : Option (List RecordField)) : Universe where
  classes := [{
    ref := labelClass, lineage := [labelClass, .builtin .object], slots := [(name, slot)]
    annotations := [(count.name, count.ann)], record }]

def code (name : String) (params : Signature) (answer : Answer) : Slot :=
  .method .instance_ { name, owner := "Label", receiver := some "self", params, body := .returns answer }

/-- What the field holds in the container that is built from a count, or the fault that the build ends in. -/
def built (u : Universe) : Except (FaultKind × String) (Option Value) :=
  match ((plan u labelClass).build [("count", .int 5)]).apply u with
  | (.ok (v, _), u') => .ok ((u'.attributesOf v).get? "count")
  | (.error f, _) => .error (f.kind, f.message)

def computed : Universe :=
  labels "count" (.property { name := "count", owner := "Label", receiver := some "self" }) none

def counting : Universe :=
  labels "__post_init__" (code "__post_init__" [] .count) (some [count])

def ignoring : Universe :=
  labels "__setattr__" (code "__setattr__" [{ name := "name" }, { name := "value" }]
    (.const (.known .null))) (some [count])

def refusing : Universe :=
  labels "__init__" (code "__init__" [] (.const (.known .null))) (some [count])

/-- A class whose constructor hands on something that must be given. -/
def handing : Universe :=
  labels "note" (.value (.int 1)) (some [count,
    { name := "scale", ann := .cls .passed, passed := true }])

/-- A class that has a field but no constructor for it, and inherits one that knows no fields. -/
def inheriting : Universe where
  classes := [
    { ref := stampClass, lineage := [stampClass, .builtin .object], record := some [] },
    { ref := labelClass, lineage := [labelClass, stampClass, .builtin .object]
      annotations := [(count.name, count.ann)], record := some [count], constructs := false }]

theorem built_eq {u : Universe} (h : plan u labelClass = ⟨labelClass, ["count"], "filter"⟩) : built u =
    match ((⟨labelClass, ["count"], "filter"⟩ : GroupPlan).build [("count", .int 5)]).apply u with
    | (.ok (v, _), u') => .ok ((u'.attributesOf v).get? "count")
    | (.error f, _) => .error (f.kind, f.message) := by
  rw [built, h]

end Storage

/-- A class can refuse what its plan has for it, or do something else with it: by a property in the place of a field, by
what it does after the generated constructor, by how it sets attributes, by a constructor of its own, and by one that was
generated but asks for more than the fields, or for others. -/
theorem Storage.class_interferes :
    (∀ u ∈ [computed, counting, ignoring, refusing, handing, inheriting],
      (expansion u labelClass).isOk ∧ plan u labelClass = ⟨labelClass, ["count"], "filter"⟩) ∧
    ((conduct.call (.cls labelClass) {}).result computed).isOk ∧
    built computed = .error (.lookup, "property 'count' of 'Label' object has no setter") ∧
    built counting = .ok (some (.int 6)) ∧
    built ignoring = .ok none ∧
    built refusing = .error (.type, "Label.__init__() got an unexpected keyword argument 'count'") ∧
    built handing = .error (.type, "Label.__init__() missing 1 required positional argument: 'scale'") ∧
    built inheriting = .error (.type, "Stamp.__init__() got an unexpected keyword argument 'count'") := by
  have hplans : ∀ u ∈ [computed, counting, ignoring, refusing, handing, inheriting],
      (expansion u labelClass).isOk ∧ plan u labelClass = ⟨labelClass, ["count"], "filter"⟩ := by decide +kernel
  refine ⟨hplans, rfl, ?_, ?_, ?_, ?_, ?_, ?_⟩
  · exact (built_eq (hplans computed (by simp)).2).trans rfl
  · exact (built_eq (hplans counting (by simp)).2).trans rfl
  · exact (built_eq (hplans ignoring (by simp)).2).trans rfl
  · exact (built_eq (hplans refusing (by simp)).2).trans rfl
  · exact (built_eq (hplans handing (by simp)).2).trans rfl
  · exact (built_eq (hplans inheriting (by simp)).2).trans rfl

end SchemaAssembly
