import SchemaAssembly.Proofs.FieldExposure

/-! How a text that cannot be evaluated is reported. In the annotation of a parameter, an unknown name and a text that
is no expression are both faults of the metadata. In a container, at whatever depth, only an unknown name is; what is no
expression is passed on as it is. -/

namespace SchemaAssembly

namespace AnnotationFault
variable {f : AnnotationFault} {place : String} {container : Option ClassRef}

/-- What a method fails with for a fault in the annotation of a parameter, or in one of a container. -/
def reported (f : AnnotationFault) (place : String) (container : Option ClassRef) : Failure :=
  match container with
  | none => CompileContext.annotationFailure place f
  | some c => f.asFieldFailure c.name

/-- Whatever is no fault of the metadata is passed on as it is. -/
theorem kind_reported : (f.reported place container).kind =
    if f.isUnknown || (container.isNone && f.isMalformed) then .metadata else f.asFailure.kind := by
  cases container with
  | none =>
    simp only [reported, CompileContext.annotationFailure, Option.isNone_none, Bool.true_and]
    split <;> rfl
  | some c =>
    simp only [reported, asFieldFailure, Option.isNone_some, Bool.false_and, Bool.or_false]
    split <;> rfl

theorem kind_asFailure_eq_malformed : f.asFailure.kind = .malformed ↔ f.isMalformed = true := by
  cases f <;> simp [asFailure, isMalformed, Failure.kind, Fault.plain, ClassFault.kind]

theorem isMalformed_eq_false (h : f.isUnknown = true) : f.isMalformed = false := by
  cases f <;> simp_all [isUnknown, isMalformed]

theorem reported_metadata_iff : (f.reported place container).kind = .metadata ↔
    f.isUnknown = true ∨ (container = none ∧ f.isMalformed = true) ∨ f.asFailure.kind = .metadata := by
  rw [kind_reported, ← Option.isNone_iff_eq_none, ← or_assoc, ← Bool.and_eq_true, ← Bool.or_eq_true]
  split
  · next h => exact iff_of_true rfl (.inl h)
  · next h => exact (or_iff_right h).symm

theorem reported_malformed_iff : (f.reported place container).kind = .malformed ↔
    container ≠ none ∧ f.isMalformed = true := by
  rw [kind_reported]
  split
  · next h =>
    refine iff_of_false (by rintro ⟨⟩) fun ⟨hsome, hmalformed⟩ => ?_
    rcases Bool.or_eq_true_iff.1 h with hunknown | hnone
    · rw [isMalformed_eq_false hunknown] at hmalformed
      cases hmalformed
    · exact hsome (Option.isNone_iff_eq_none.1 (Bool.and_eq_true_iff.1 hnone).1)
  · next h =>
    rw [kind_asFailure_eq_malformed]
    refine (and_iff_right_of_imp fun hmalformed hnone => h ?_).symm
    rw [hnone, hmalformed, Option.isNone_none, Bool.and_self, Bool.or_true]

end AnnotationFault

namespace Scope

def resolveArgument (lookup : String → Bool → Ann.Built) : Ann → Ann.Built
  | .text s => lookup s false
  | a => resolveWith lookup a

/-- A text in an annotation, at whatever depth, cannot be evaluated, while all that is evaluated before it can. Arguments
of a class that are no expressions are found before any argument is evaluated. -/
inductive HoldsFault (lookup : String → Bool → Ann.Built) (f : AnnotationFault) : Ann → Prop
  | reference {s : String} {whole : Bool} (h : lookup s whole = .error f) : HoldsFault lookup f (.reference s whole)
  | unread {origin : Builtin} {before after : List Ann} {s : String} (hbefore : referTexts before = .ok ())
    (h : Ann.refer s false = .error f) : HoldsFault lookup f (.generic .direct origin (before ++ .text s :: after))
  | text {origin : Builtin} {before after : List Ann} {s : String}
    (hread : referTexts (before ++ .text s :: after) = .ok ())
    (hbefore : ∀ b ∈ before, ∃ c, resolveArgument lookup b = .ok c)
    (h : lookup s false = .error f) : HoldsFault lookup f (.generic .direct origin (before ++ .text s :: after))
  | argument {origin : Builtin} {before after : List Ann} {a : Ann} (hread : referTexts (before ++ a :: after) = .ok ())
    (hbefore : ∀ b ∈ before, ∃ c, resolveArgument lookup b = .ok c)
    (h : HoldsFault lookup f a) : HoldsFault lookup f (.generic .direct origin (before ++ a :: after))
  | aliased {origin : Builtin} {before after : List Ann} {a : Ann}
    (hbefore : ∀ b ∈ before, ∃ c, resolveWith lookup b = .ok c)
    (h : HoldsFault lookup f a) : HoldsFault lookup f (.generic .aliased origin (before ++ a :: after))
  | classVar {a : Ann} (h : HoldsFault lookup f a) : HoldsFault lookup f (.classVar a)
  | member {spelling : Spelling} {before after : List Ann} {a : Ann}
    (hbefore : ∀ b ∈ before, ∃ c, resolveWith lookup b = .ok c)
    (h : HoldsFault lookup f a) : HoldsFault lookup f (.union spelling (before ++ a :: after))
  | annotated {a : Ann} {metadata : List Meta} (h : HoldsFault lookup f a) : HoldsFault lookup f (.annotated a metadata)

section Resolution
variable {lookup : String → Bool → Ann.Built} {f : AnnotationFault} {before after : List Ann} {a : Ann} {s : String}
  {scope : Scope}

theorem resolveArguments_eq (args : List Ann) : resolveArguments lookup args = args.mapM (resolveArgument lookup) := by
  induction args with
  | nil => rfl
  | cons a args ih =>
    rw [List.mapM_cons, ← ih]
    cases a <;> rfl

theorem resolveAllWith_eq (args : List Ann) : resolveAllWith lookup args = args.mapM (resolveWith lookup) := by
  induction args with
  | nil => rfl
  | cons a args ih =>
    rw [List.mapM_cons, ← ih]
    rfl

theorem referTexts_of_fault (hbefore : referTexts before = .ok ()) (h : Ann.refer s false = .error f) :
    referTexts (before ++ .text s :: after) = .error f := by
  induction before with
  | nil =>
    rw [List.nil_append, referTexts, h]
    rfl
  | cons b before ih =>
    rw [List.cons_append]
    cases b with
    | text t =>
      rw [referTexts] at hbefore
      obtain ⟨r, hr, hbefore⟩ := Attempt.bind_eq_ok.1 hbefore
      rw [referTexts, hr, Attempt.ok_bind]
      exact ih hbefore
    | _ => exact ih hbefore

/-- No text stands alone for a part that is evaluated: an argument is one, or else a reference. -/
theorem HoldsFault.resolveArgument (h : HoldsFault lookup f a) :
    Scope.resolveArgument lookup a = resolveWith lookup a := by
  cases h <;> rfl

/-- An annotation cannot be evaluated if a text in it cannot, and fails as the text does. -/
theorem resolveWith_of_holdsFault (h : HoldsFault lookup f a) : resolveWith lookup a = .error f := by
  induction h with
  | reference h => exact h
  | unread hbefore h =>
    rw [resolveWith, referTexts_of_fault hbefore h]
    rfl
  | @text _ _ _ s hread hbefore h =>
    have htext : Scope.resolveArgument lookup (.text s) = .error f := h
    rw [resolveWith, hread, Attempt.ok_bind, resolveArguments_eq, Attempt.mapM_of_failure hbefore htext]
    rfl
  | argument hread hbefore h ih =>
    rw [resolveWith, hread, Attempt.ok_bind, resolveArguments_eq,
      Attempt.mapM_of_failure hbefore (h.resolveArgument.trans ih)]
    rfl
  | aliased hbefore _ ih =>
    rw [resolveWith, resolveAllWith_eq, Attempt.mapM_of_failure hbefore ih]
    rfl
  | classVar _ ih =>
    rw [resolveWith, ih]
    rfl
  | @member spelling _ _ _ hbefore _ ih =>
    cases spelling with
    | aliased | direct =>
      rw [resolveWith, resolveAllWith_eq, Attempt.mapM_of_failure hbefore ih]
      rfl
  | annotated _ ih =>
    rw [resolveWith, ih]
    rfl

theorem resolve_of_holdsFault (h : HoldsFault (followText scope) f a) : scope.resolve a = .error f := by
  have hwith := resolveWith_of_holdsFault h
  cases h <;> exact hwith

end Resolution

end Scope

namespace Universe
variable {u : Universe} {c : ClassRef} {f : AnnotationFault}

/-- Evaluating the annotations of a container, inherited ones first, fails at one of them. -/
inductive FieldFault (u : Universe) (c : ClassRef) (f : AnnotationFault) : Prop
  | intro {farther nearer : List ClassInfo} {i : ClassInfo} {earlier later : Assoc Ann} {e : String × Ann}
    (lineage : (u.ancestry c).reverse = farther ++ i :: nearer)
    (inherited : ∀ j ∈ farther, ∀ e ∈ j.annotations, u.Resolves j.ref e.2)
    (annotations : i.annotations = earlier ++ e :: later)
    (own : ∀ e ∈ earlier, u.Resolves i.ref e.2)
    (fault : (u.classScope i.ref).resolve e.2 = .error f)

theorem hints_of_fault (h : u.FieldFault c f) : u.hints c = .error (f.asFieldFailure c.name) := by
  obtain @⟨farther, _, i, _, _, e, lineage, inherited, annotations, own, fault⟩ := h
  have hrun : ∀ j ∈ farther, ∀ acc, ∃ acc', u.addHints c.name acc j = .ok acc' := fun j hj acc =>
    exists_addHints c.name (inherited j hj) acc
  obtain ⟨acc, hacc⟩ := Attempt.exists_foldlM hrun []
  obtain ⟨mid, hmid⟩ := exists_addHints c.name own acc
  unfold hints
  rw [lineage]
  refine Attempt.foldlM_of_failure hacc ?_
  rw [addHints_eq, annotations]
  refine Attempt.foldlM_of_failure hmid ?_
  rw [addHint, fault]

theorem groupFields_of_fault (h : u.FieldFault c f) : u.groupFields c = .error (f.asFieldFailure c.name) := by
  unfold groupFields
  rw [hints_of_fault h]
  rfl

end Universe

namespace CompileContext
variable {ctx : CompileContext} {place : String} {p : Param} {d : Declaration} {f : AnnotationFault}
  {container : Option ClassRef}

/-- Compiling a method comes to an annotation that cannot be evaluated: one of its own, of a parameter or of the answer,
which are evaluated in the order in which they are kept, or an annotation of the container of a parameter. -/
inductive EvaluationFault (ctx : CompileContext) (d : Declaration) (f : AnnotationFault) : Option ClassRef → Prop
  | own {before after : List Ann} {s : String}
    (callable : ctx.checkCallable d.attr = .ok ())
    (kept : d.method.annotations = before ++ .text s :: after)
    (earlier : ∀ a ∈ before, (ctx.inside d).Evaluates a)
    (fault : (ctx.defs.moduleScope d.method.module).evaluate s = .error f) : EvaluationFault ctx d f none
  | field {before after : Signature} {p : Param} {compiled : Compiled} {g : Group} {c : ClassRef}
    (callable : ctx.checkCallable d.attr = .ok ())
    (bound : (ctx.inside d).boundSignature (ctx.place d.attr) d.binding d.method = .ok (before ++ p :: after))
    (earlier : before.foldlM ((ctx.inside d).addParam (ctx.place d.attr)) {} = .ok compiled)
    (grouped : (ctx.inside d).usage p = .grouped g)
    (container : (ctx.inside d).groupClass p g (ctx.place d.attr) = .ok c)
    (fault : ctx.defs.FieldFault c f) : EvaluationFault ctx d f (some c)

theorem usage_eq_grouped {g : Group} (h : ctx.usage p = .grouped g) :
    p.isCollecting = false ∧ ctx.isInfo p.ann = false ∧ ctx.groupOf? p.ann = .ok (some g) := by
  unfold usage at h
  split at h
  · cases h
  next hc =>
  split at h
  · cases h
  next hi =>
  split at h
  · next hg =>
    cases h
    exact ⟨Bool.eq_false_iff.2 hc, Bool.eq_false_iff.2 hi, hg⟩
  · cases h

theorem addParam_of_fault {g : Group} {c : ClassRef} (hg : ctx.usage p = .grouped g)
    (hc : ctx.groupClass p g place = .ok c) (h : ctx.defs.FieldFault c f) (acc : Compiled) :
    ctx.addParam place acc p = .error (f.asFieldFailure c.name) := by
  obtain ⟨hcollecting, hinfo, hgroup⟩ := usage_eq_grouped hg
  have hexpand (args : Assoc Argument) : ctx.expandGroup p g args place = .error (f.asFieldFailure c.name) := by
    unfold expandGroup
    rw [hc, Attempt.ok_bind, Universe.groupFields_of_fault h]
    rfl
  unfold addParam
  simp only [hcollecting, hinfo, hgroup, hexpand, Bool.false_eq_true, if_false, Attempt.ok_bind]
  rfl

theorem boundSignature_of_fault {binding : Binding} {m : Method} {before after : List Ann} {s : String}
    (hkept : m.annotations = before ++ .text s :: after) (hbefore : ∀ a ∈ before, ctx.Evaluates a)
    (h : (ctx.defs.moduleScope ctx.module).evaluate s = .error f) :
    ctx.boundSignature place binding m = .error (annotationFailure place f) := by
  have hfault : ctx.evaluateAnn place (.text s) = .error (annotationFailure place f) := by
    change ((ctx.defs.moduleScope ctx.module).evaluate s).mapError _ = _
    rw [h]
    rfl
  unfold boundSignature
  rw [hkept, Attempt.mapM_of_failure (fun a ha => ⟨_, evaluateAnn_eq_ok.2 ⟨hbefore a ha, rfl⟩⟩) hfault]
  rfl

theorem compileParams_of_fault {before after : Signature} {compiled : Compiled} {g : Group} {c : ClassRef}
    (hbefore : before.foldlM (ctx.addParam place) {} = .ok compiled) (hg : ctx.usage p = .grouped g)
    (hc : ctx.groupClass p g place = .ok c) (h : ctx.defs.FieldFault c f) :
    ctx.compileParams place (before ++ p :: after) = .error (f.asFieldFailure c.name) := by
  unfold compileParams
  rw [Attempt.foldlM_of_failure hbefore (addParam_of_fault hg hc h compiled)]
  rfl

theorem compile_of_fault (h : ctx.EvaluationFault d f container) :
    (ctx.compile d).result = .error (f.reported (ctx.place d.attr) container) := by
  unfold compile compileMethod
  cases h with
  | own callable kept earlier fault =>
    have hbound : (ctx.inModule d.method.module).boundSignature (ctx.place d.attr) d.binding d.method = _ :=
      boundSignature_of_fault kept earlier fault
    simp only [Logged.result_bind, Logged.ofExcept, callable, Attempt.ok_bind, hbound]
    rfl
  | @field before after p compiled g c callable bound earlier grouped hclass fault =>
    have hbound : (ctx.inModule d.method.module).boundSignature (ctx.place d.attr) d.binding d.method =
        .ok (before ++ p :: after) := bound
    have hparams : (ctx.inModule d.method.module).compileParams (ctx.place d.attr) (before ++ p :: after) = _ :=
      compileParams_of_fault earlier grouped hclass fault
    simp only [Logged.result_bind, Logged.ofExcept, callable, Attempt.ok_bind, hbound, hparams]
    rfl

/-- The operations fail as the first method does whose annotations cannot be evaluated, if those before it compile. -/
theorem operations_of_fault {kind : OperationKind} {before after : List Declaration}
    (hdeclared : ctx.declared kind = before ++ d :: after)
    (hbefore : ∀ b ∈ before, ∃ o, (ctx.compile b).result = .ok o) (h : ctx.EvaluationFault d f container) :
    (ctx.operations kind).result = .error (f.reported (ctx.place d.attr) container) := by
  have hnamed (b : Declaration) (hb : b ∈ before) : ∃ o, ctx.compileNamed b = .ok o := by
    obtain ⟨o, ho⟩ := hbefore b hb
    exact ⟨_, Attempt.map_eq_ok.2 ⟨o, ho, rfl⟩⟩
  rw [result_operations, hdeclared, Attempt.mapM_of_failure hnamed (Attempt.map_eq_error.2 (compile_of_fault h))]
  rfl

/-- Where an annotation cannot be evaluated, the operations fail with what that is reported as. It is a fault of the
metadata if a name is unknown, for a parameter also if a text is no expression, and if what is called in a text fails with
one. A text in a container that is no expression is a fault of syntax. -/
theorem fault_reported_iff {kind : OperationKind} {before after : List Declaration}
    (hdeclared : ctx.declared kind = before ++ d :: after)
    (hbefore : ∀ b ∈ before, ∃ o, (ctx.compile b).result = .ok o) (h : ctx.EvaluationFault d f container) :
    (ctx.operations kind).result = .error (f.reported (ctx.place d.attr) container) ∧
    ((f.reported (ctx.place d.attr) container).kind = .metadata ↔
      f.isUnknown = true ∨ (container = none ∧ f.isMalformed = true) ∨ f.asFailure.kind = .metadata) ∧
    ((f.reported (ctx.place d.attr) container).kind = .malformed ↔ container ≠ none ∧ f.isMalformed = true) :=
  ⟨operations_of_fault hdeclared hbefore h, AnnotationFault.reported_metadata_iff,
    AnnotationFault.reported_malformed_iff⟩

end CompileContext

namespace Parcel

def resolverClass : ClassRef := .defined "app" "Finder"
def baseClass : ClassRef := .defined "app" "Base"
def boxClass : ClassRef := .defined "app" "Box"

def boxParam : Param :=
  { name := "box", ann := .annotated (.cls boxClass) [.group .annotated] }

def quotedParam : Param :=
  { name := "x", ann := .text "a b" }

def find (p : Param) : Declaration where
  attr := "find"
  binding := .instance_
  method := { name := "find", owner := "Finder", receiver := some "self", params := [p]
              operations := [{ kind := some .query, name := "find", returns := .named (.text "string") }] }
  op := { kind := some .query, name := "find", returns := .named (.text "string") }

def quotedList : Ann :=
  .generic .direct .list [.text "a b"]

def classes (p : Param) : Universe where
  classes := [
    { ref := baseClass, lineage := [baseClass, .builtin .object], annotations := [("tags", quotedList)] },
    { ref := boxClass, lineage := [boxClass, baseClass, .builtin .object] },
    { ref := resolverClass, lineage := [resolverClass, .builtin .resolver, .builtin .object]
      slots := [("find", .method .instance_ (find p).method)] }]

def context (p : Param) : CompileContext :=
  { defs := classes p, registry := {}, resolver := ⟨.object resolverClass [] (some (.resolver 0))⟩ }

theorem declared_eq (p : Param) : (context p).declared .query = [find p] := by
  unfold CompileContext.declared
  rfl

theorem find_readsPlainly (p : Param) : (classes p).ReadsPlainly (context p).resolver.value "find" where
  rooted := rfl
  untaken := rfl
  unshadowed := rfl

theorem find_callable (p : Param) : (context p).checkCallable "find" = .ok () := by
  have hd : find p ∈ (context p).declared .query := by
    rw [declared_eq]
    exact List.mem_singleton_self _
  exact @CompileContext.checkCallable_of_declared (context p) .query (find p) resolverClass [] (some (.resolver 0)) hd
    rfl (find_readsPlainly p)

theorem text_has_no_null : "a b".contains Ann.nullCharacter = false := by
  rw [String.contains_char_eq]
  decide

theorem refer_malformed (whole : Bool) : Ann.refer "a b" whole = .error (.badReference "a b") := by
  have hread : Expression.isReference "a b" = false := by decide +kernel
  unfold Ann.refer
  rw [if_neg (by decide), text_has_no_null, hread]
  rfl

theorem quotedList_malformed (scope : Scope) : scope.resolve quotedList = .error (.badReference "a b") :=
  Scope.resolve_of_holdsFault (@Scope.HoldsFault.unread _ _ .list [] [] "a b" rfl (refer_malformed false))

theorem quotedParam_malformed (scope : Scope) : ∃ f, scope.evaluate "a b" = .error (.malformed f) := by
  have hfails : (Expression.parse "a b").isOk = false := by decide +kernel
  obtain ⟨f, hf⟩ := Attempt.exists_error hfails
  refine ⟨f, ?_⟩
  unfold Scope.evaluate
  rw [text_has_no_null, hf]
  rfl

/-- The inherited annotation is the first one with anything to evaluate. -/
theorem box_fault (p : Param) : (classes p).FieldFault boxClass (.badReference "a b") :=
  @Universe.FieldFault.intro (classes p) boxClass _ [(classes p).info (.builtin .object)] [(classes p).info boxClass]
    ((classes p).info baseClass) [] [] ("tags", quotedList) rfl
    (fun j hj e he => by
      rw [List.mem_singleton.1 hj] at he
      cases he)
    rfl nofun (quotedList_malformed _)

theorem quotedParam_fault : ∃ f, (context quotedParam).EvaluationFault (find quotedParam) (.malformed f) none := by
  obtain ⟨f, hf⟩ := quotedParam_malformed ((classes quotedParam).moduleScope mainModule)
  have hkept : (find quotedParam).method.annotations = [.missing] ++ .text "a b" :: [.missing] := rfl
  have hearlier : ∀ a ∈ [Ann.missing], ((context quotedParam).inside (find quotedParam)).Evaluates a := by
    intro a ha s hs
    rw [List.mem_singleton.1 ha] at hs
    cases hs
  exact ⟨f, .own (find_callable quotedParam) hkept hearlier hf⟩

theorem boxParam_fault :
    (context boxParam).EvaluationFault (find boxParam) (.badReference "a b") (some boxClass) := by
  have hbound : ((context boxParam).inside (find boxParam)).boundSignature "Finder.find" .instance_
      (find boxParam).method = .ok ([] ++ [boxParam]) := rfl
  exact .field (find_callable boxParam) hbound rfl rfl rfl (box_fault boxParam)

end Parcel

/-- A parameter whose annotation is no expression fails with an error about the metadata. -/
theorem Parcel.quotedParam_reported : ∃ f, (context quotedParam).EvaluationFault (find quotedParam) f none ∧
    ∃ e, ((context quotedParam).operations .query).result = .error e ∧ e.kind = .metadata := by
  obtain ⟨f, hf⟩ := quotedParam_fault
  have hdeclared : (context quotedParam).declared .query = [] ++ find quotedParam :: [] := declared_eq quotedParam
  obtain ⟨hresult, hmetadata, -⟩ :=
    CompileContext.fault_reported_iff hdeclared (fun _ hb => absurd hb List.not_mem_nil) hf
  exact ⟨_, hf, _, hresult, hmetadata.2 (.inr (.inl ⟨rfl, rfl⟩))⟩

/-- A field that a container inherits, with an element that is no expression, fails as the text does. -/
theorem Parcel.boxParam_unreported :
    (context boxParam).EvaluationFault (find boxParam) (.badReference "a b") (some boxClass) ∧
    ∃ e, ((context boxParam).operations .query).result = .error e ∧ e.kind = .malformed := by
  have hdeclared : (context boxParam).declared .query = [] ++ find boxParam :: [] := declared_eq boxParam
  exact ⟨boxParam_fault, _,
    CompileContext.operations_of_fault hdeclared (fun _ hb => absurd hb List.not_mem_nil) boxParam_fault, rfl⟩

end SchemaAssembly
