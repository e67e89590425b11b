import SchemaAssembly.Proofs.Compilation
import SchemaAssembly.Proofs.OptionalDeclaration

/-! Metadata inside an optional and around it. What is around an optional counts. What is inside goes unseen, although
the type and the container are found in there: the parameter compiles as one without metadata does. So the two places
come to the same only if the metadata adds nothing. -/

namespace SchemaAssembly

namespace Ann

/-- An item of metadata is put on an annotation inside an optional, and around the optional; `bare` is the optional
without it. -/
structure Placements (t : Ann) (m : Meta) (inside bare outside : Ann) : Prop where
  notNull : t ≠ null
  notNone : t.isNoneType = false
  notUnion : ∀ spelling ms, t ≠ union spelling ms
  putInside : annotatedWith t [m] >>= optionalOf = .ok inside
  leftOut : optionalOf t = .ok bare
  putAround : annotatedWith bare [m] = .ok outside

section Placements
variable {names : SchemaNames} {a t o inside bare outside : Ann} {m : Meta}

theorem strip_annotate (a : Ann) (ms : List Meta) : (a.annotate ms).strip = a.strip := by
  cases a <;> rfl

theorem annotate_eq (a : Ann) (ms : List Meta) : ∃ base ns, a.annotate ms = annotated base ns := by
  cases a <;> exact ⟨_, _, rfl⟩

theorem annotatedWith_eq_ok (h : annotatedWith a [m] = .ok o) : o = (a.asArgument true).annotate [m] := by
  obtain ⟨base, hbase, h⟩ := Attempt.bind_eq_ok.1 h
  obtain ⟨rfl, -⟩ := checked_eq_ok hbase
  split at h
  · cases h
  · cases h
    rfl

theorem isNoneType_asArgument {whole : Bool} (h : a ≠ null) : (a.asArgument whole).isNoneType = a.isNoneType := by
  cases a with
  | null => exact absurd rfl h
  | _ => rfl

theorem asArgument_not_union {whole : Bool} (h : ∀ spelling ms, a ≠ union spelling ms) :
    ∀ spelling ms, a.asArgument whole ≠ union spelling ms := by
  cases a with
  | null | text => nofun
  | _ => exact h

/-- The optional of what is neither null nor a union has the two as its members. -/
theorem optionalOf_eq_union (hnull : a ≠ null) (hnone : a.isNoneType = false)
    (hunion : ∀ spelling ms, a ≠ union spelling ms) (h : optionalOf a = .ok o) :
    o = union .aliased [a.asArgument false, noneType] ∧ o.unhashable? = none := by
  obtain ⟨-, hhash, rfl⟩ := optionalOf_eq_ok h
  exact ⟨makeUnion_of_not_union (asArgument_not_union hunion) ((isNoneType_asArgument hnull).trans hnone),
    unhashable?_makeUnion (firstUnhashable?_eq_none.1 hhash)⟩

theorem unwrapOptional_or_null (hnone : a.isNoneType = false) :
    (union .aliased [a, noneType]).unwrapOptional = a.strip := by
  unfold unwrapOptional
  simp only [strip, nonNull_or_null hnone]

namespace Placements
variable (h : t.Placements m inside bare outside)
include h

theorem inside_eq :
    inside = union .aliased [(t.asArgument true).annotate [m], noneType] ∧ inside.unhashable? = none := by
  obtain ⟨b, hb, hinside⟩ := Attempt.bind_eq_ok.1 h.putInside
  obtain rfl := annotatedWith_eq_ok hb
  obtain ⟨base, ns, heq⟩ := annotate_eq (t.asArgument true) [m]
  rw [heq] at hinside ⊢
  exact optionalOf_eq_union (a := annotated base ns) nofun rfl nofun hinside

theorem bare_eq : bare = union .aliased [t.asArgument false, noneType] ∧ bare.unhashable? = none :=
  optionalOf_eq_union h.notNull h.notNone h.notUnion h.leftOut

theorem outside_eq : outside = annotated bare [m] := by
  have houtside := annotatedWith_eq_ok h.putAround
  rw [h.bare_eq.1] at houtside ⊢
  exact houtside

theorem core_outside : core outside = core bare := by
  rw [h.outside_eq]
  rfl

theorem core_bare : core bare = (some (t.asArgument false).strip, true) := by
  rw [h.bare_eq.1]
  exact core_or_null ((isNoneType_asArgument h.notNull).trans h.notNone)

theorem core_inside : core inside = (some (t.asArgument true).strip, true) := by
  obtain ⟨base, ns, heq⟩ := annotate_eq (t.asArgument true) [m]
  rw [h.inside_eq.1, ← strip_annotate (t.asArgument true) [m], heq]
  exact core_or_null rfl

theorem strip_asArgument : (t.asArgument true).strip = (t.asArgument false).strip ∨ ∃ s, t = text s := by
  cases t with
  | text s => exact .inr ⟨s, rfl⟩
  | _ => exact .inl rfl

theorem declared_outside : outside.declared names = bare.declared names := by
  rw [declared_congr (b := bare) (by rw [h.core_outside]), h.core_outside]
  rfl

theorem innermost_outside : outside.innermost? = bare.innermost? := by
  rw [innermost?_eq, innermost?_eq, h.core_outside]

theorem declared_inside : inside.declared names = bare.declared names := by
  rcases h.strip_asArgument with hstrip | ⟨s, rfl⟩
  · rw [declared_congr (b := bare) (by rw [h.core_inside, h.core_bare, hstrip]), h.core_inside]
    rw [declared, h.core_bare]
  · rw [declared_of_core h.core_inside rfl, declared_of_core h.core_bare rfl]
    rfl

theorem unwrapOptional_bare : bare.unwrapOptional = (t.asArgument false).strip := by
  rw [h.bare_eq.1]
  exact unwrapOptional_or_null ((isNoneType_asArgument h.notNull).trans h.notNone)

theorem unwrapOptional_outside : outside.unwrapOptional = bare.unwrapOptional := by
  rw [h.outside_eq]
  rfl

theorem unwrapOptional_inside : inside.unwrapOptional = (t.asArgument true).strip := by
  obtain ⟨base, ns, heq⟩ := annotate_eq (t.asArgument true) [m]
  rw [h.inside_eq.1, ← strip_annotate (t.asArgument true) [m], heq]
  exact unwrapOptional_or_null rfl

end Placements

end Placements

end Ann

theorem nonEmpty?_eq_none {s : String} : nonEmpty? s = none ↔ s = "" := by
  unfold nonEmpty?
  split <;> simp_all

theorem WireType.wrap_eq_wrap_iff {k k' : TypeKey} {isList isList' nullable : Bool} :
    (named k).wrap isList nullable = (named k').wrap isList' nullable ↔ k = k' ∧ isList = isList' := by
  refine ⟨fun h => ?_, fun ⟨hk, hl⟩ => by rw [hk, hl]⟩
  have hbase := congrArg WireType.base h
  rw [WireType.base_wrap, WireType.base_wrap] at hbase
  cases hbase
  refine ⟨rfl, ?_⟩
  cases isList <;> cases isList' <;> cases nullable <;> first | rfl | cases h

namespace CompileContext
variable {ctx : CompileContext} {place : String} {p q : Param} {a b t inside bare outside : Ann} {m : Meta}

/-- If it can be read what metadata an annotation has, and what it declares, its type is inferred from its name. -/
theorem infer_eq {ms : List Meta} (hattached : ctx.defs.attached a = .ok ms)
    (hhash : a.innermost?.bind Ann.unhashable? = none) (hasDefault : Bool) (place : String) :
    ctx.infer a hasDefault place =
      (typeNamed ctx.registry place (inferredName ctx.defs.schemaNames a (ms.findSome? Meta.argument?))).map fun key =>
        ⟨(WireType.named key).wrap
            ((a.declared ctx.defs.schemaNames).isList || (ms.findSome? Meta.argument?).any (·.isList))
            (hasDefault || (a.declared ctx.defs.schemaNames).nullable),
          (ms.findSome? Meta.argument?).bind fun t => nonEmpty? t.description⟩ := by
  unfold infer argTypeOf?
  rw [hattached, Attempt.map_ok, Attempt.ok_bind, inferType_eq, Ann.ensureHashable, hhash]
  dsimp only
  rw [Attempt.ok_bind]
  cases typeNamed ctx.registry place (inferredName ctx.defs.schemaNames a (ms.findSome? Meta.argument?)) <;> rfl

theorem groupOf?_eq {ms : List Meta} (hattached : ctx.defs.attached a = .ok ms) :
    ctx.groupOf? a = .ok (ms.findSome? Meta.group?) := by
  unfold groupOf?
  rw [hattached]
  rfl

/-- Parameters with annotations that carry no group and from which the same is inferred add the same. -/
theorem addParam_replace (hinfo : ctx.isInfo a = ctx.isInfo b) (ha : ctx.groupOf? a = .ok none)
    (hb : ctx.groupOf? b = .ok none)
    (hinfer : ctx.infer a p.default.isSome s!"argument '{p.name}' of {place}" =
      ctx.infer b p.default.isSome s!"argument '{p.name}' of {place}") (acc : Compiled) :
    ctx.addParam place acc { p with ann := a } = ctx.addParam place acc { p with ann := b } := by
  unfold addParam
  simp only [hinfo, ha, hb, hinfer]
  rfl

theorem addParam_collecting (hc : p.isCollecting = true) (a : Ann) (acc : Compiled) :
    ctx.addParam place acc { p with ann := a } = .ok acc :=
  if_pos hc

theorem addParam_info (ha : ctx.isInfo a = true) (hb : ctx.isInfo b = true) (acc : Compiled) :
    ctx.addParam place acc { p with ann := a } = ctx.addParam place acc { p with ann := b } := by
  unfold addParam
  simp only [ha, hb]
  rfl

theorem compileParams_replace (h : ∀ acc, ctx.addParam place acc p = ctx.addParam place acc q)
    (before after : Signature) :
    ctx.compileParams place (before ++ p :: after) = ctx.compileParams place (before ++ q :: after) := by
  unfold compileParams
  simp only [List.foldlM_append, List.foldlM_cons, h]

section Alone

theorem compileParams_singleton (place : String) (p : Param) :
    ctx.compileParams place [p] = ctx.addParam place {} p >>= fun c =>
      match clash? c with
      | some name => .error (.groupClash name place)
      | none => .ok c := by
  unfold compileParams
  rw [List.foldlM_cons]
  cases ctx.addParam place {} p <;> rfl

theorem compileParams_plain (place : String) (hc : p.isCollecting = false) (hi : ctx.isInfo p.ann = false)
    (hg : ctx.groupOf? p.ann = .ok none) :
    ctx.compileParams place [p] =
      (ctx.infer p.ann p.default.isSome s!"argument '{p.name}' of {place}").map fun arg => .ofRole (p, .plain arg) := by
  rw [compileParams_singleton]
  unfold addParam
  simp only [hc, hi, hg, Bool.false_eq_true, if_false, Attempt.ok_bind]
  cases ctx.infer p.ann p.default.isSome s!"argument '{p.name}' of {place}" with
  | error f => split <;> rfl
  | ok arg =>
    rw [Attempt.map_ok, Compiled.ofRole_plain]
    split <;> rfl

/-- A parameter that stands for a group fails as the group does; otherwise it has a plan, unless a name clashes. -/
theorem compileParams_grouped {g : Group} (place : String) (hc : p.isCollecting = false) (hi : ctx.isInfo p.ann = false)
    (hg : ctx.groupOf? p.ann = .ok (some g)) :
    (∀ f, ctx.expandGroup p g [] place = .error f → ctx.compileParams place [p] = .error f) ∧
    ∀ out, ctx.expandGroup p g [] place = .ok out →
      (∃ name, ctx.compileParams place [p] = .error (.groupClash name place)) ∨
        ∃ c, ctx.compileParams place [p] = .ok c ∧ c.plans = [out.2] := by
  have hargs : (if p.kind = .positionalOnly then { positionalOnly := [p.name] } else {} : Compiled).args = [] := by
    split <;> rfl
  have hplans : (if p.kind = .positionalOnly then { positionalOnly := [p.name] } else {} : Compiled).plans = [] := by
    split <;> rfl
  rw [compileParams_singleton]
  unfold addParam
  simp only [hc, hi, hg, Bool.false_eq_true, if_false, Attempt.ok_bind, List.nil_append, hargs, hplans]
  cases ctx.expandGroup p g [] place with
  | error f =>
    refine ⟨fun _ h => ?_, fun _ h => by cases h⟩
    cases h
    rfl
  | ok out =>
    refine ⟨fun _ h => (by cases h), fun _ h => ?_⟩
    cases h
    rw [Attempt.ok_bind]
    simp only [pure_bind]
    split
    · next name _ => exact .inl ⟨name, rfl⟩
    · exact .inr ⟨_, rfl, rfl⟩

end Alone

/-- What an item of metadata that is attached to an optional adds to a parameter for it. Explicit type information adds
nothing if its name is the same one or stands for the same type, and it neither makes a list of that nor describes the
argument. A group always adds something, or fails as the argument does that the parameter would be. -/
def AddsNothing (ctx : CompileContext) (place : String) (p : Param) (bare outside : Ann) : Meta → Prop
  | .argument t =>
    let found := typeNamed ctx.registry s!"argument '{p.name}' of {place}"
    found (inferredName ctx.defs.schemaNames bare (some t)) = found (bare.declaredName ctx.defs.schemaNames) ∧
      ∀ key, found (bare.declaredName ctx.defs.schemaNames) = .ok key →
        (t.isList = true → (bare.declared ctx.defs.schemaNames).isList = true) ∧ t.description = ""
  | .group g =>
    ∃ f, typeNamed ctx.registry s!"argument '{p.name}' of {place}" (bare.declaredName ctx.defs.schemaNames) = .error f ∧
      ctx.expandGroup { p with ann := outside } g [] place = .error f
  | _ => True

section Placements
variable (h : t.Placements m inside bare outside)
include h

theorem attached_inside : ctx.defs.attached inside = .ok [] := by
  rw [h.inside_eq.1]
  rfl

theorem attached_bare : ctx.defs.attached bare = .ok [] := by
  rw [h.bare_eq.1]
  rfl

theorem attached_outside : ctx.defs.attached outside = .ok [m] := by
  rw [h.outside_eq]
  rfl

theorem isInfo_inside : ctx.isInfo inside = ctx.isInfo bare := by
  unfold isInfo
  rw [h.unwrapOptional_inside, h.unwrapOptional_bare]
  rcases h.strip_asArgument with hstrip | ⟨s, rfl⟩
  · rw [hstrip]
  · rfl

theorem isInfo_outside : ctx.isInfo outside = ctx.isInfo bare := by
  unfold isInfo
  rw [h.unwrapOptional_outside]

theorem hashable_bare : bare.innermost?.bind Ann.unhashable? = none := by
  cases hi : bare.innermost? with
  | none => rfl
  | some i => exact Ann.unhashable?_innermost hi h.bare_eq.2

theorem hashable_inside : inside.innermost?.bind Ann.unhashable? = none := by
  cases hi : inside.innermost? with
  | none => rfl
  | some i => exact Ann.unhashable?_innermost hi h.inside_eq.2

theorem infer_inside (hasDefault : Bool) (place : String) :
    ctx.infer inside hasDefault place = ctx.infer bare hasDefault place := by
  have hname : inside.declaredName ctx.defs.schemaNames = bare.declaredName ctx.defs.schemaNames :=
    congrArg Declared.name h.declared_inside
  rw [infer_eq (attached_inside h) (hashable_inside h), infer_eq (attached_bare h) (hashable_bare h), h.declared_inside]
  unfold inferredName
  rw [hname]

theorem addParam_inside (acc : Compiled) :
    ctx.addParam place acc { p with ann := inside } = ctx.addParam place acc { p with ann := bare } :=
  addParam_replace (isInfo_inside h) (groupOf?_eq (attached_inside h)) (groupOf?_eq (attached_bare h))
    (infer_inside h _ _) acc

theorem infer_outside (hasDefault : Bool) (place : String) :
    ctx.infer outside hasDefault place =
      (typeNamed ctx.registry place (inferredName ctx.defs.schemaNames bare m.argument?)).map fun key =>
        ⟨(WireType.named key).wrap ((bare.declared ctx.defs.schemaNames).isList || m.argument?.any (·.isList))
          (hasDefault || (bare.declared ctx.defs.schemaNames).nullable),
          m.argument?.bind fun t => nonEmpty? t.description⟩ := by
  have hname : outside.declaredName ctx.defs.schemaNames = bare.declaredName ctx.defs.schemaNames :=
    congrArg Declared.name h.declared_outside
  have hhash : outside.innermost?.bind Ann.unhashable? = none := by
    rw [h.innermost_outside]
    exact hashable_bare h
  have hfirst : [m].findSome? Meta.argument? = m.argument? := by
    cases hm : m.argument? <;> simp [hm]
  rw [infer_eq (attached_outside h) hhash, h.declared_outside, hfirst]
  unfold inferredName
  rw [hname]

/-- Explicit type information around an optional and inside it come to the same exactly if it adds nothing. -/
theorem infer_alike_iff {ty : ArgType} (hm : m = .argument ty) :
    (ctx.infer inside p.default.isSome s!"argument '{p.name}' of {place}" =
      ctx.infer outside p.default.isSome s!"argument '{p.name}' of {place}") ↔
    ctx.AddsNothing place p bare outside m := by
  subst hm
  have hkey {k k' : TypeKey} {isList isList' nullable : Bool} {d d' : Option String}
      (heq : (⟨(WireType.named k).wrap isList nullable, d⟩ : Argument) =
        ⟨(WireType.named k').wrap isList' nullable, d'⟩) : k = k' :=
    (WireType.wrap_eq_wrap_iff.1 (Argument.mk.inj heq).1).1
  rw [infer_inside h, infer_outside h, infer_eq (attached_bare h) (hashable_bare h),
    Attempt.map_eq_map_iff fun _ _ => hkey]
  simp only [AddsNothing, Meta.argument?, List.findSome?_nil, Option.any_none, Option.any_some, Bool.or_false,
    Option.bind_none, Option.bind_some, Argument.mk.injEq, WireType.wrap_eq_wrap_iff, true_and]
  refine and_congr Iff.rfl (forall₂_congr fun key _ => and_congr ?_ (eq_comm.trans nonEmpty?_eq_none))
  cases (bare.declared ctx.defs.schemaNames).isList <;> cases ty.isList <;> decide

theorem compileParams_argument_iff {ty : ArgType} (hm : m = .argument ty) (hc : p.isCollecting = false)
    (hi : ctx.isInfo bare = false) :
    ctx.compileParams place [{ p with ann := inside }] = ctx.compileParams place [{ p with ann := outside }] ↔
      ctx.AddsNothing place p bare outside m := by
  subst hm
  have hinside := compileParams_plain place (p := { p with ann := inside }) hc ((isInfo_inside h).trans hi)
    (groupOf?_eq (attached_inside h))
  have houtside := compileParams_plain place (p := { p with ann := outside }) hc
    ((isInfo_outside h).trans hi) (groupOf?_eq (attached_outside h))
  have hargument (arg arg' : Argument)
      (heq : Compiled.ofRole ({ p with ann := inside }, .plain arg) = .ofRole ({ p with ann := outside }, .plain arg')) :
      arg = arg' :=
    (Prod.mk.inj (List.cons.inj (Compiled.mk.inj heq).1).1).2
  rw [hinside, houtside, Attempt.map_eq_map_iff hargument, ← infer_alike_iff h rfl]
  exact ⟨fun heq => heq.1.symm, fun heq => ⟨heq.symm, fun _ _ => rfl⟩⟩

/-- A parameter whose metadata adds nothing adds the same to every method with the metadata inside and outside. -/
theorem addParam_alike (hgroup : ∀ g, m ≠ .group g) (hadds : ctx.AddsNothing place p bare outside m) (acc : Compiled) :
    ctx.addParam place acc { p with ann := inside } = ctx.addParam place acc { p with ann := outside } := by
  have hnone : ctx.groupOf? outside = .ok none := by
    rw [groupOf?_eq (attached_outside h)]
    cases m with
    | group g => exact absurd rfl (hgroup g)
    | _ => rfl
  refine addParam_replace ((isInfo_inside h).trans (isInfo_outside h).symm) (groupOf?_eq (attached_inside h)) hnone ?_ acc
  cases m with
  | argument ty => exact (infer_alike_iff h rfl).2 hadds
  | group g => exact absurd rfl (hgroup g)
  | _ =>
    rw [infer_inside h, infer_outside h, infer_eq (attached_bare h) (hashable_bare h)]
    rfl

/-- A group around an optional and inside it come to the same only in failing alike. -/
theorem compileParams_group_iff {g : Group} (hm : m = .group g) (hc : p.isCollecting = false)
    (hi : ctx.isInfo bare = false) :
    ctx.compileParams place [{ p with ann := inside }] = ctx.compileParams place [{ p with ann := outside }] ↔
      ctx.AddsNothing place p bare outside m := by
  subst hm
  have hinside := compileParams_plain place (p := { p with ann := inside }) hc ((isInfo_inside h).trans hi)
    (groupOf?_eq (attached_inside h))
  obtain ⟨hfails, hplan⟩ := compileParams_grouped place (p := { p with ann := outside }) hc
    ((isInfo_outside h).trans hi) (groupOf?_eq (attached_outside h))
  rw [hinside, infer_inside h, infer_eq (attached_bare h) (hashable_bare h)]
  constructor
  · intro heq
    cases hexpand : ctx.expandGroup { p with ann := outside } g [] place with
    | error f =>
      rw [hfails f hexpand, Attempt.map_eq_error, Attempt.map_eq_error] at heq
      exact ⟨f, heq, hexpand⟩
    | ok out =>
      -- the group has a plan, which the argument has not, and fails in a way of its own if its name clashes
      rcases hplan out hexpand with ⟨name, hclash⟩ | ⟨c, hok, hc⟩
      · rw [hclash, Attempt.map_eq_error, Attempt.map_eq_error] at heq
        rcases typeNamed_eq_error heq with hf | ⟨v, hf⟩ <;> cases hf
      · rw [hok, Attempt.map_eq_ok] at heq
        obtain ⟨arg, -, rfl⟩ := heq
        cases hc
  · rintro ⟨f, hf, hexpand⟩
    rw [hfails f hexpand, Attempt.map_eq_error, Attempt.map_eq_error]
    exact hf

/-- Metadata inside an optional goes unseen: in every signature, the parameter compiles as it does without it. It is not
the same around the optional, where it counts unless the parameter takes no argument at all. The two places come to the
same, fault for fault, exactly if the metadata adds nothing, and then in every signature, a group that fails apart. -/
theorem metadata_placement_iff (ctx : CompileContext) (place : String) (p : Param) :
    (∀ before after, ctx.compileParams place (before ++ { p with ann := inside } :: after) =
      ctx.compileParams place (before ++ { p with ann := bare } :: after)) ∧
    (ctx.compileParams place [{ p with ann := inside }] = ctx.compileParams place [{ p with ann := outside }] ↔
      p.isCollecting = true ∨ ctx.isInfo bare = true ∨ ctx.AddsNothing place p bare outside m) ∧
    (p.isCollecting = true ∨ ctx.isInfo bare = true ∨ (∀ g, m ≠ .group g) ∧ ctx.AddsNothing place p bare outside m →
      ∀ before after, ctx.compileParams place (before ++ { p with ann := inside } :: after) =
        ctx.compileParams place (before ++ { p with ann := outside } :: after)) := by
  have heverywhere (hcase : p.isCollecting = true ∨ ctx.isInfo bare = true ∨
      (∀ g, m ≠ .group g) ∧ ctx.AddsNothing place p bare outside m) (acc : Compiled) :
      ctx.addParam place acc { p with ann := inside } = ctx.addParam place acc { p with ann := outside } := by
    rcases hcase with hc | hi | ⟨hgroup, hadds⟩
    · rw [addParam_collecting hc, addParam_collecting hc]
    · exact addParam_info ((isInfo_inside h).trans hi) ((isInfo_outside h).trans hi) acc
    · exact addParam_alike h hgroup hadds acc
  refine ⟨compileParams_replace (addParam_inside h), ?_, fun hcase => compileParams_replace (heverywhere hcase)⟩
  by_cases hc : p.isCollecting = true
  · exact iff_of_true (compileParams_replace (heverywhere (.inl hc)) [] []) (.inl hc)
  by_cases hi : ctx.isInfo bare = true
  · exact iff_of_true (compileParams_replace (heverywhere (.inr (.inl hi))) [] []) (.inr (.inl hi))
  rw [or_iff_right hc, or_iff_right hi]
  rw [Bool.not_eq_true] at hc hi
  cases m with
  | group g => exact compileParams_group_iff h rfl hc hi
  | argument ty => exact compileParams_argument_iff h rfl hc hi
  | _ => exact iff_of_true (compileParams_replace (heverywhere (.inr (.inr ⟨nofun, trivial⟩))) [] []) trivial

end Placements

end CompileContext

namespace Labelled

def context : CompileContext :=
  { defs := {}, registry := {}, resolver := ⟨.object (.defined "app" "Finder") [] (some (.resolver 0))⟩ }

def param (a : Ann) : Param :=
  { name := "x", ann := a }

def bare (a : Ann) : Ann := .union .aliased [a, .noneType]
def inside (a : Ann) (m : Meta) : Ann := .union .aliased [.annotated a [m], .noneType]
def outside (a : Ann) (m : Meta) : Ann := .annotated (bare a) [m]

def numbers : Ann := .generic .direct .list [.cls (.builtin .int)]
def number : Ann := .cls (.builtin .int)
def asList : Meta := .argument { isList := true }
def asText : Meta := .argument { typeName := "string" }

theorem numbers_placements :
    numbers.Placements asList (inside numbers asList) (bare numbers) (outside numbers asList) where
  notNull := nofun
  notNone := rfl
  notUnion := nofun
  putInside := Ann.optionalOf_of_not_union (a := .annotated numbers [asList]) rfl nofun rfl rfl
  leftOut := Ann.optionalOf_of_not_union (a := numbers) rfl nofun rfl rfl
  putAround := rfl

theorem number_placements :
    number.Placements asText (inside number asText) (bare number) (outside number asText) where
  notNull := nofun
  notNone := rfl
  notUnion := nofun
  putInside := Ann.optionalOf_of_not_union (a := .annotated number [asText]) rfl nofun rfl rfl
  leftOut := Ann.optionalOf_of_not_union (a := number) rfl nofun rfl rfl
  putAround := rfl

def compiled (a : Ann) : Except Failure (Assoc Argument) :=
  (context.compileParams "Finder.find" [param a]).map (·.args)

def argument (name : String) : Assoc Argument :=
  [("x", ⟨.named ⟨name, .builtin⟩, none⟩)]

theorem asList_addsNothing :
    context.AddsNothing "Finder.find" (param .missing) (bare numbers) (outside numbers asList) asList := by
  have hlist : ((bare numbers).declared context.defs.schemaNames).isList = true := by decide +kernel
  exact ⟨rfl, fun _ _ => ⟨fun _ => hlist, rfl⟩⟩

end Labelled

/-- A list is made a list once more, on either side of the optional. -/
theorem Labelled.list_alike :
    numbers.Placements asList (inside numbers asList) (bare numbers) (outside numbers asList) ∧
    context.AddsNothing "Finder.find" (param .missing) (bare numbers) (outside numbers asList) asList ∧
    context.compileParams "Finder.find" [param (inside numbers asList)] =
      context.compileParams "Finder.find" [param (outside numbers asList)] := by
  obtain ⟨-, halike, -⟩ :=
    CompileContext.metadata_placement_iff numbers_placements context "Finder.find" (param .missing)
  exact ⟨numbers_placements, asList_addsNothing, halike.2 (.inr (.inr asList_addsNothing))⟩

/-- The name of a type counts around an optional, but not inside. -/
theorem Labelled.text_unlike :
    number.Placements asText (inside number asText) (bare number) (outside number asText) ∧
    compiled (inside number asText) = .ok (argument "Int") ∧
    compiled (outside number asText) = .ok (argument "String") :=
  ⟨number_placements, Attempt.eq_ok_of_toOption (by decide +kernel), Attempt.eq_ok_of_toOption (by decide +kernel)⟩

end SchemaAssembly
