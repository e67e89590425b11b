import SchemaAssembly.Proofs.ParameterOutcome
import SchemaAssembly.Proofs.QuotedNames

/-! A parameter that stands for itself and a field of a container that stands for it. The annotation of the one is
evaluated if it is a text, that of the other at every depth; what is inferred from the two decides what is exposed. -/

namespace SchemaAssembly

/-- Two attempts give the same, or fail with errors of one kind. -/
def Alike {α : Type} (x y : Except Failure α) : Prop :=
  x.mapError Failure.kind = y.mapError Failure.kind

theorem alike_map_some {α : Type} {x y : Except Failure α} : Alike (x.map some) (y.map some) ↔ Alike x y := by
  unfold Alike
  cases x <;> cases y <;> simp [Except.mapError]

theorem Alike.isOk_eq {α : Type} {x y : Except Failure α} (h : Alike x y) : x.isOk = y.isOk := by
  unfold Alike at h
  cases x <;> cases y <;> simp_all [Except.mapError, Except.isOk, Except.toBool]

theorem Attempt.exists_foldlM {ε α β : Type} {f : β → α → Except ε β} {as : List α}
    (h : ∀ a ∈ as, ∀ b, ∃ b', f b a = .ok b') (b : β) : ∃ b', as.foldlM f b = .ok b' := by
  induction as generalizing b with
  | nil => exact ⟨b, rfl⟩
  | cons a as ih =>
    obtain ⟨ha, has⟩ := List.forall_mem_cons.1 h
    obtain ⟨b', hb'⟩ := ha b
    obtain ⟨b'', hb''⟩ := ih has b'
    exact ⟨b'', Attempt.foldlM_cons_eq_ok.2 ⟨b', hb', hb''⟩⟩

namespace Universe
variable {u : Universe} {c : ClassRef} {x : String} {a : Ann} {hasDefault : Bool}

/-- The annotation can be evaluated where the class is defined. -/
def Resolves (u : Universe) (c : ClassRef) (a : Ann) : Prop :=
  ∃ b, (u.classScope c).resolve a = .ok b

/-- A container has a field of its own, and nothing is wrong with its other annotations. It is a field of a generated
constructor, or a public one with a default exactly if the class has an attribute of its name. -/
structure Declares (u : Universe) (c : ClassRef) (x : String) (a : Ann) (hasDefault : Bool) : Prop where
  inherited : ∃ bases, u.ancestry c = u.info c :: bases ∧ ∀ i ∈ bases, ∀ e ∈ i.annotations, u.Resolves i.ref e.2
  own : ∃ before after, (u.info c).annotations = before ++ (x, a) :: after ∧ x ∉ Assoc.keys after ∧
    ∀ e ∈ before ++ after, u.Resolves c e.2
  exposed : match u.recordFields? c with
    | some fields => ∃ f ∈ fields, f.init ∧ f.name = x ∧ f.hasDefault = hasDefault
    | none => (u.classAttribute? c x).isSome = hasDefault ∧
      ∀ b, (u.classScope c).resolve a = .ok b → isPublicField (x, b)

def addHint (u : Universe) (groupName : String) (c : ClassRef) (acc : Assoc Ann) (e : String × Ann) :
    Except Failure (Assoc Ann) :=
  match (u.classScope c).resolve e.2 with
  | .ok a => .ok (acc.insert e.1 a)
  | .error f => .error (f.asFieldFailure groupName)

theorem addHints_eq (groupName : String) (acc : Assoc Ann) (i : ClassInfo) :
    u.addHints groupName acc i = i.annotations.foldlM (u.addHint groupName i.ref) acc := rfl

theorem addHint_of_resolves {groupName : String} {e : String × Ann} (h : u.Resolves c e.2) (acc : Assoc Ann) :
    ∃ b, u.addHint groupName c acc e = .ok (acc.insert e.1 b) := by
  obtain ⟨b, hb⟩ := h
  exact ⟨b, by rw [addHint, hb]⟩

theorem exists_addHints (groupName : String) {hints : Assoc Ann} (h : ∀ e ∈ hints, u.Resolves c e.2)
    (acc : Assoc Ann) : ∃ acc', hints.foldlM (u.addHint groupName c) acc = .ok acc' :=
  Attempt.exists_foldlM (fun e he acc => (addHint_of_resolves (h e he) acc).imp' _ fun _ hb => hb) acc

theorem get?_addHints {groupName : String} {hints acc acc' : Assoc Ann} (hx : x ∉ hints.keys)
    (h : hints.foldlM (u.addHint groupName c) acc = .ok acc') : acc'.get? x = acc.get? x := by
  induction hints generalizing acc with
  | nil =>
    cases h
    rfl
  | cons e hints ih =>
    obtain ⟨mid, hmid, h⟩ := Attempt.foldlM_cons_eq_ok.1 h
    obtain ⟨hne, hrest⟩ := not_or.1 (mt List.mem_cons.2 hx)
    rw [ih hrest h]
    unfold addHint at hmid
    split at hmid
    · cases hmid
      rw [Assoc.get?_insert, if_neg (Ne.symm hne)]
    · cases hmid

theorem hints_eq (h : u.Declares c x a hasDefault) : ∃ before after, x ∉ Assoc.keys after ∧
    (∀ e ∈ after, u.Resolves c e.2) ∧
    u.hints c = u.addHint c.name c before (x, a) >>= fun acc => after.foldlM (u.addHint c.name c) acc := by
  obtain ⟨bases, hancestry, hbases⟩ := h.inherited
  obtain ⟨before, after, hown, hx, hothers⟩ := h.own
  have hrun : ∀ i ∈ bases.reverse, ∀ acc, ∃ acc', u.addHints c.name acc i = .ok acc' := fun i hi acc =>
    exists_addHints c.name (hbases i (List.mem_reverse.1 hi)) acc
  obtain ⟨acc, hacc⟩ := Attempt.exists_foldlM hrun []
  obtain ⟨mid, hmid⟩ := exists_addHints c.name (fun e he => hothers e (List.mem_append_left _ he)) acc
  refine ⟨mid, after, hx, fun e he => hothers e (List.mem_append_right _ he), ?_⟩
  unfold hints
  rw [hancestry, List.reverse_cons, List.foldlM_append, hacc, Attempt.ok_bind, List.foldlM_cons, addHints_eq, ref_info,
    hown, List.foldlM_append, hmid, Attempt.ok_bind, List.foldlM_cons]
  exact bind_pure _

theorem hints_of_error {f : AnnotationFault} (h : u.Declares c x a hasDefault)
    (hf : (u.classScope c).resolve a = .error f) : u.hints c = .error (f.asFieldFailure c.name) := by
  obtain ⟨before, after, -, -, heq⟩ := hints_eq h
  rw [heq, addHint, hf]
  rfl

theorem hints_of_ok {b : Ann} (h : u.Declares c x a hasDefault) (hb : (u.classScope c).resolve a = .ok b) :
    ∃ hints, u.hints c = .ok hints ∧ hints.get? x = some b := by
  obtain ⟨before, after, hx, hafter, heq⟩ := hints_eq h
  obtain ⟨hints, hhints⟩ := exists_addHints c.name hafter (before.insert x b)
  refine ⟨hints, ?_, ?_⟩
  · rw [heq, addHint, hb]
    exact hhints
  · rw [get?_addHints hx hhints, Assoc.get?_insert, if_pos rfl]

theorem groupFields_of_ok {b : Ann} (h : u.Declares c x a hasDefault) (hb : (u.classScope c).resolve a = .ok b) :
    ∃ fields, u.groupFields c = .ok fields ∧ ⟨x, b, hasDefault⟩ ∈ fields := by
  obtain ⟨hints, hhints, hget⟩ := hints_of_ok h hb
  have hexposed := h.exposed
  unfold groupFields
  rw [hhints, Attempt.ok_bind]
  cases hrecord : u.recordFields? c with
  | some fields =>
    rw [hrecord] at hexposed
    obtain ⟨f, hf, hinit, rfl, rfl⟩ := hexposed
    refine ⟨_, rfl, List.mem_map.2 ⟨f, List.mem_filter.2 ⟨hf, hinit⟩, ?_⟩⟩
    rw [hget, Option.getD_some]
  | none =>
    rw [hrecord] at hexposed
    obtain ⟨hdefault, hpublic⟩ := hexposed
    refine ⟨_, rfl, List.mem_map.2 ⟨(x, b), List.mem_filter.2 ⟨Assoc.mem_of_get? hget, hpublic b hb⟩, ?_⟩⟩
    rw [hdefault]

end Universe

namespace CompileContext
variable {ctx : CompileContext} {d : Declaration} {s : Signature} {c : ClassRef} {x : String} {a : Ann}
  {hasDefault : Bool}

/-- What a method exposes under a name. -/
def exposure (ctx : CompileContext) (d : Declaration) (x : String) : Except Failure (Option Argument) :=
  (ctx.compile d).result.map (·.args.get? x)

/-- What is inferred for a parameter that stands for itself. -/
def plainReading (ctx : CompileContext) (place : String) (p : Param) : Except Failure Argument := do
  let q ← ctx.evaluateParam place p
  ctx.infer q.ann q.default.isSome s!"argument '{q.name}' of {place}"

/-- What is inferred for a field of a container. -/
def fieldReading (ctx : CompileContext) (c : ClassRef) (x : String) (a : Ann) (hasDefault : Bool) :
    Except Failure Argument := do
  let b ← ((ctx.defs.classScope c).resolve a).mapError (·.asFieldFailure c.name)
  ctx.infer b hasDefault s!"field '{x}' of group {c.name}"

theorem exposure_of_plain {p : Param} (h : (ctx.inside d).Hosts d s p)
    (hp : (ctx.inside d).usage ((ctx.inside d).evaluated p) = .plain) :
    ctx.exposure d p.name = ((ctx.inside d).plainReading (ctx.place d.attr) p).map some := by
  have houtcome : (ctx.inside d).outcome (ctx.place d.attr) p =
      ((ctx.inside d).plainReading (ctx.place d.attr) p).map .plain := by
    unfold outcome plainReading
    cases hq : (ctx.inside d).evaluateParam (ctx.place d.attr) p with
    | error f => rfl
    | ok q =>
      obtain ⟨-, rfl⟩ := evaluateParam_eq_ok.1 hq
      rw [Attempt.ok_bind, Attempt.ok_bind, role_eq, hp]
  unfold exposure
  cases hread : (ctx.inside d).plainReading (ctx.place d.attr) p with
  | error f =>
    rw [hread] at houtcome
    rw [compile_of_outcome_error h houtcome]
    rfl
  | ok arg =>
    rw [hread] at houtcome
    obtain ⟨o, ho, hargs⟩ := compile_of_outcome_ok h houtcome
    rw [ho, Attempt.map_ok, hargs p.name arg (by simp [Role.args, Assoc.get?_cons])]
    rfl

/-- A parameter that stands for the container of the given class, with the other fields in order. -/
structure Expands (ctx : CompileContext) (place : String) (q : Param) (c : ClassRef) (x : String) : Prop where
  evaluates : ctx.Evaluates q.ann
  grouped : ∃ g, ctx.usage (ctx.evaluated q) = .grouped g ∧ ctx.groupClass (ctx.evaluated q) g place = .ok c
  others : ∀ fields, ctx.defs.groupFields c = .ok fields → ∀ f ∈ fields, f.name ≠ x →
    ∃ e, ctx.groupArgument c f = .ok e

theorem outcome_of_grouped (place : String) {q : Param} {g : Group} (hq : ctx.Evaluates q.ann)
    (hg : ctx.usage (ctx.evaluated q) = .grouped g) :
    ctx.outcome place q = ctx.groupRole place (ctx.evaluated q) g := by
  unfold outcome
  rw [evaluateParam_eq_ok.2 ⟨hq, rfl⟩, Attempt.ok_bind, role_eq, hg]

/-- A container is made of its fields, if one of them has a type and the others are in order; otherwise it fails as that
one does. -/
theorem mapM_groupArgument {fields : List GroupField} {f : GroupField} (hmem : f ∈ fields)
    (hnd : (fields.map (·.name)).Nodup)
    (hothers : ∀ f' ∈ fields, f'.name ≠ f.name → ∃ e, ctx.groupArgument c f' = .ok e) :
    (∀ e, ctx.groupArgument c f = .error e → fields.mapM (ctx.groupArgument c) = .error e) ∧
    ∀ e, ctx.groupArgument c f = .ok e →
      ∃ new : Assoc Argument, fields.mapM (ctx.groupArgument c) = .ok new ∧ new.get? e.1 = some e.2 := by
  have hapart (f' : GroupField) (hf' : f' ∈ fields) (hne : f' ≠ f) : f'.name ≠ f.name := fun hname =>
    hne (List.inj_on_of_nodup_map hnd hf' hmem hname)
  constructor
  · intro e he
    exact Attempt.mapM_of_lone_failure hmem he fun f' hf' hne => hothers f' hf' (hapart f' hf' hne)
  · intro e he
    obtain ⟨new, hnew⟩ := Attempt.exists_mapM (f := ctx.groupArgument c) fun f' hf' => by
      by_cases hff : f' = f
      · exact ⟨e, hff ▸ he⟩
      · exact hothers f' hf' (hapart f' hf' hff)
    obtain ⟨e', he', hfe⟩ := Attempt.exists_of_mem_of_mapM hnew hmem
    cases he.symm.trans hfe
    exact ⟨new, hnew, Assoc.get?_of_mem (keys_groupArguments hnew ▸ hnd) he'⟩

theorem exposure_of_field {q : Param} (h : (ctx.inside d).Hosts d s q)
    (hq : (ctx.inside d).Expands (ctx.place d.attr) q c x)
    (hdeclares : ctx.defs.Declares c x a hasDefault) :
    ctx.exposure d x = (ctx.fieldReading c x a hasDefault).map some := by
  obtain ⟨g, hg, hc⟩ := hq.grouped
  have houtcome := outcome_of_grouped (ctx.place d.attr) hq.evaluates hg
  unfold exposure fieldReading
  cases hresolve : (ctx.defs.classScope c).resolve a with
  | error f =>
    have hfields : ctx.defs.groupFields c = .error (f.asFieldFailure c.name) := by
      unfold Universe.groupFields
      rw [Universe.hints_of_error hdeclares hresolve]
      rfl
    have hrole : (ctx.inside d).groupRole (ctx.place d.attr) ((ctx.inside d).evaluated q) g = .error (f.asFieldFailure c.name) :=
      Attempt.bind_eq_error.2 (.inr ⟨c, hc, Attempt.bind_eq_error.2 (.inl hfields)⟩)
    rw [compile_of_outcome_error h (houtcome.trans hrole)]
    rfl
  | ok b =>
    obtain ⟨fields, hfields, hmem⟩ := Universe.groupFields_of_ok hdeclares hresolve
    have hcontainer := container_eq_ok.2 ⟨hc, hfields⟩
    have hflat : (ctx.inside d).flatNames (ctx.place d.attr) ((ctx.inside d).evaluated q) = fields.map (·.name) := by
      unfold flatNames planOf?
      simp [hg, hcontainer, Except.toOption]
    have hnd : (fields.map (·.name)).Nodup :=
      hflat ▸ (List.nodup_flatMap.1 h.distinct).1 _ (List.mem_map_of_mem h.taken)
    obtain ⟨herror, hok⟩ := mapM_groupArgument hmem hnd (hq.others fields hfields)
    change _ = ((ctx.inside d).infer b hasDefault s!"field '{x}' of group {c.name}").map some
    cases hinfer : (ctx.inside d).infer b hasDefault s!"field '{x}' of group {c.name}" with
    | error f =>
      have hrole : (ctx.inside d).groupRole (ctx.place d.attr) ((ctx.inside d).evaluated q) g = .error f := by
        refine Attempt.bind_eq_error.2 (.inr ⟨c, hc, Attempt.bind_eq_error.2 (.inr ⟨fields, hfields, ?_⟩)⟩)
        cases fields with
        | nil => cases hmem
        | cons fd fields => exact Attempt.bind_eq_error.2 (.inl (herror f (Attempt.map_eq_error.2 hinfer)))
      rw [compile_of_outcome_error h (houtcome.trans hrole)]
      rfl
    | ok arg =>
      obtain ⟨new, hnew, hget⟩ := hok (x, arg) (Attempt.map_eq_ok.2 ⟨arg, hinfer, rfl⟩)
      have hrole := groupRole_eq_ok.2 ⟨c, fields, new, hc, hfields, List.ne_nil_of_mem hmem, hnew, rfl⟩
      obtain ⟨o, ho, hargs⟩ := compile_of_outcome_ok h (houtcome.trans hrole)
      rw [ho, Attempt.map_ok, hargs x arg hget]
      rfl

/-- Two annotations declare the same: one type, explicitly or not, as a list or not, and with null or without. -/
structure DeclareSame (ctx : CompileContext) (a b : Ann) : Prop where
  declared : a.readDeclared ctx.defs.schemaNames = b.readDeclared ctx.defs.schemaNames
  argType : ctx.argTypeOf? a = ctx.argTypeOf? b

theorem inferredName_of_readDeclared {names : SchemaNames} {b : Ann} {declared : Declared}
    (h : b.readDeclared names = .ok declared) (argType : Option ArgType) :
    inferredName names b argType =
      match argType with
      | some t => if t.typeName = "" then declared.name else some t.typeName
      | none => declared.name := by
  obtain ⟨_, -, hd⟩ := Attempt.bind_eq_ok.1 h
  cases hd
  rfl

theorem infer_alike {a b : Ann} (h : ctx.DeclareSame a b) (hasDefault : Bool) (place place' : String) :
    Alike (ctx.infer a hasDefault place) (ctx.infer b hasDefault place') := by
  unfold infer inferType
  rw [h.declared, h.argType]
  cases ctx.argTypeOf? b with
  | error f => rfl
  | ok argType =>
    cases ha : a.readDeclared ctx.defs.schemaNames with
    | error f => rw [← h.declared, ha]; rfl
    | ok declared =>
      have hb := h.declared.symm.trans ha
      rw [hb]
      simp only [Attempt.ok_bind, inferredName_of_readDeclared ha, inferredName_of_readDeclared hb]
      generalize (match argType with
        | some t => if t.typeName = "" then declared.name else some t.typeName
        | none => declared.name) = name
      cases name with
      | none => rfl
      | some n => by_cases hn : n = "" <;> simp only [hn, if_true, if_false] <;> rfl

/-- An annotation that a parameter and a field of the container read alike: nothing in it is quoted, or it is a text that
denotes such an annotation where the method is defined and where the container is. -/
inductive PlainlyWritten (ctx : CompileContext) (c : ClassRef) : Ann → Prop where
  | settled {a : Ann} (h : a.Settled) (hnull : a ≠ .null) : PlainlyWritten ctx c a
  | quoted {s : String} {a : Ann} (hmethod : (ctx.defs.moduleScope ctx.module).Spells s a)
    (hclass : (ctx.defs.classScope c).Spells s a) (hrefer : Ann.refer s true = .ok (.reference s true)) :
    PlainlyWritten ctx c (.text s)

theorem readings_of_plainlyWritten (place : String) {p : Param} (h : ctx.PlainlyWritten c p.ann) :
    ∃ a, ctx.evaluateParam place p = .ok { p with ann := a } ∧ (ctx.defs.classScope c).resolve p.ann = .ok a := by
  obtain ⟨name, kind, ann, default⟩ := p
  cases h with
  | settled h hnull =>
    refine ⟨ann, ?_, Scope.resolve_of_settled h hnull⟩
    unfold evaluateParam evaluateAnn
    split
    · next s hs => exact absurd hs (h.not_text s)
    · rfl
  | @quoted s a hmethod hclass hrefer =>
    refine ⟨a, ?_, Scope.resolve_of_spells hclass hrefer⟩
    unfold evaluateParam evaluateAnn
    simp only [hmethod.denotes]
    rfl

/-- Inside an annotation a text quotes the name of a class, as the container sees it. -/
structure QuotesClass (ctx : CompileContext) (c : ClassRef) (s : String) (target : ClassRef) (a b : Ann) : Prop where
  quotes : a.Quotes s target b
  within : ∀ whole, a ≠ .reference s whole
  spells : (ctx.defs.classScope c).Spells s (.cls target)
  refers : Ann.refer s false = .ok (.reference s false)

theorem evaluateParam_of_quotes {s : String} {target : ClassRef} {b : Ann} {p : Param} (h : p.ann.Quotes s target b)
    (place : String) : ctx.evaluateParam place p = .ok { p with ann := p.ann } := by
  obtain ⟨name, kind, ann, default⟩ := p
  cases h <;> rfl

/-- The quoted name declares what it stands for exactly if the class has that name in the schema. -/
theorem QuotesClass.declareSame_iff {s : String} {target : ClassRef} {b : Ann} (h : ctx.QuotesClass c s target a b) :
    ctx.DeclareSame a b ↔ (Ann.cls target).declaredName ctx.defs.schemaNames = some s := by
  have hs : s ≠ "" := by
    rintro rfl
    cases h.refers
  have hattached : ctx.defs.attached a = ctx.defs.attached b := by
    have hquotes := h.quotes
    cases hquotes with
    | reference whole => exact absurd rfl (h.within whole)
    | _ => rfl
  rw [← h.quotes.declares_iff hs]
  refine ⟨fun hsame => hsame.declared, fun hdeclared => ⟨hdeclared, ?_⟩⟩
  unfold argTypeOf?
  rw [hattached]

/-- A parameter that stands for itself, and a field of a container with its name and annotation, are exposed alike
exactly if what is inferred for the two is alike. That is so where their annotations as they are evaluated declare the
same, and in particular for every annotation that is plainly written. One that quotes the name of a class declares the
same exactly if the class has that name in the schema. -/
theorem field_exposed_like_parameter_iff {d' : Declaration} {s' : Signature} {p q : Param} (hp : (ctx.inside d).Hosts d s p)
    (hplain : (ctx.inside d).usage ((ctx.inside d).evaluated p) = .plain) (hq : (ctx.inside d').Hosts d' s' q)
    (hexpands : (ctx.inside d').Expands (ctx.place d'.attr) q c p.name)
    (hdeclares : ctx.defs.Declares c p.name p.ann p.default.isSome) :
    (Alike (ctx.exposure d p.name) (ctx.exposure d' p.name) ↔
      Alike ((ctx.inside d).plainReading (ctx.place d.attr) p) (ctx.fieldReading c p.name p.ann p.default.isSome)) ∧
    (∀ a b, (ctx.inside d).evaluateParam (ctx.place d.attr) p = .ok { p with ann := a } →
      (ctx.defs.classScope c).resolve p.ann = .ok b → ctx.DeclareSame a b →
      Alike (ctx.exposure d p.name) (ctx.exposure d' p.name)) ∧
    ((ctx.inside d).PlainlyWritten c p.ann → Alike (ctx.exposure d p.name) (ctx.exposure d' p.name)) ∧
    ∀ s target b, ctx.QuotesClass c s target p.ann b →
      (ctx.DeclareSame p.ann b ↔ (Ann.cls target).declaredName ctx.defs.schemaNames = some s) ∧
      ((Ann.cls target).declaredName ctx.defs.schemaNames = some s →
        Alike (ctx.exposure d p.name) (ctx.exposure d' p.name)) := by
  have hreadings : Alike (ctx.exposure d p.name) (ctx.exposure d' p.name) ↔
      Alike ((ctx.inside d).plainReading (ctx.place d.attr) p) (ctx.fieldReading c p.name p.ann p.default.isSome) := by
    rw [exposure_of_plain hp hplain, exposure_of_field hq hexpands hdeclares, alike_map_some]
  have hsame (a b : Ann) (ha : (ctx.inside d).evaluateParam (ctx.place d.attr) p = .ok { p with ann := a })
      (hb : (ctx.defs.classScope c).resolve p.ann = .ok b) (h : ctx.DeclareSame a b) :
      Alike (ctx.exposure d p.name) (ctx.exposure d' p.name) := by
    rw [hreadings]
    unfold plainReading fieldReading
    rw [ha, hb]
    exact infer_alike h _ _ _
  refine ⟨hreadings, hsame, fun hwritten => ?_, fun s target b hquotes => ?_⟩
  · obtain ⟨a, ha, hb⟩ := readings_of_plainlyWritten (ctx.place d.attr) hwritten
    exact hsame a a ha hb ⟨rfl, rfl⟩
  · have hdeclare := hquotes.declareSame_iff
    have ha : (ctx.inside d).evaluateParam (ctx.place d.attr) p = .ok { p with ann := p.ann } :=
      evaluateParam_of_quotes hquotes.quotes _
    have hb := Scope.resolve_of_quotes hquotes.quotes hquotes.spells hquotes.refers
    exact ⟨hdeclare, fun hname => hsame p.ann b ha hb (hdeclare.2 hname)⟩

end CompileContext

namespace Boxed

def resolverClass : ClassRef := .defined "app" "Finder"
def boxClass : ClassRef := .defined "app" "Box"
def argTypeClass : ClassRef := .defined metadataModule "ArgType"

def param (a : Ann) : Param :=
  { name := "x", ann := a }

def boxParam : Param :=
  { name := "box", ann := .annotated (.cls boxClass) [.group .annotated] }

def finds (name : String) (p : Param) : Declaration where
  attr := name
  binding := .instance_
  method := { name, owner := "Finder", receiver := some "self", params := [p]
              operations := [{ kind := some .query, name, returns := .named (.text "string") }] }
  op := { kind := some .query, name, returns := .named (.text "string") }

def plain (a : Ann) : Declaration := finds "plain" (param a)
def boxed : Declaration := finds "boxed" boxParam

/-- Two methods, one with a parameter, the other with a container that has a field of its name and annotation. -/
def classes (a : Ann) : Universe where
  classes := [
    { ref := boxClass, lineage := [boxClass, .builtin .object], annotations := [("x", a)]
      record := some [{ name := "x", ann := a }] },
    { ref := resolverClass, lineage := [resolverClass, .builtin .resolver, .builtin .object]
      slots := [("plain", .method .instance_ (plain a).method), ("boxed", .method .instance_ boxed.method)] }]
  modules := [(mainModule, [("ArgType", .cls argTypeClass)])]

def context (a : Ann) : CompileContext :=
  { defs := classes a, registry := {}, resolver := ⟨.object resolverClass [] (some (.resolver 0))⟩ }

theorem readsPlainly (a : Ann) {name : String} (h : name = "plain" ∨ name = "boxed") :
    (classes a).ReadsPlainly (context a).resolver.value name := by
  rcases h with rfl | rfl
  · exact ⟨rfl, rfl, rfl⟩
  · exact ⟨rfl, rfl, rfl⟩

theorem plain_signed (a : Ann) : (context a).Signed (plain a) [param a] where
  callable := CompileContext.checkCallable_of_declared
    (CompileContext.mem_declared.2 ⟨resolverClass, rfl, rfl⟩ : plain a ∈ (context a).declared .query) rfl
    (readsPlainly a (.inl rfl))
  bound := rfl

theorem boxed_signed (a : Ann) : (context a).Signed boxed [boxParam] where
  callable := CompileContext.checkCallable_of_declared
    (CompileContext.mem_declared.2 ⟨resolverClass, rfl, rfl⟩ : boxed ∈ (context a).declared .query) rfl
    (readsPlainly a (.inr rfl))
  bound := rfl

/-- A method with one parameter hosts it, unless the parameter is for a container that has fields of its name. -/
theorem hosts_alone {a : Ann} {name : String} {p : Param} {flat : List String}
    (hs : (context a).Signed (finds name p) [p])
    (hflat : (context a).flatNames ((context a).place name) ((context a).evaluated p) = flat) (hnd : flat.Nodup)
    (happart : (context a).planOf? ((context a).place name) ((context a).evaluated p) = none ∨ p.name ∉ flat) :
    (context a).Hosts (finds name p) [p] p where
  signed := hs
  taken := List.mem_singleton_self _
  evaluates := by
    intro b hb hne s hs
    rcases Method.mem_annotations.1 hb with ⟨q, hq, rfl⟩ | rfl
    · rcases List.mem_cons.1 hq with rfl | hq
      · cases hs
      · exact absurd (congrArg Param.ann (List.mem_singleton.1 hq)) hne
    · cases hs
  supported q hq hne := absurd (List.mem_singleton.1 hq) hne
  distinct := by
    rw [List.map_singleton, List.flatMap_singleton]
    exact hflat ▸ hnd
  apart := by
    intro q hq plan hplan hmem
    rw [List.map_singleton, List.flatMap_singleton] at hmem
    obtain rfl := List.mem_singleton.1 hq
    change p.name ∈ plan.fields
    rcases happart with hnone | hnot
    · exact absurd (hnone.symm.trans hplan) (by simp)
    · exact absurd (hflat ▸ hmem) hnot
  returns := by
    rintro _ ⟨⟩
    exact ⟨_, rfl⟩

theorem plain_hosts {a : Ann} (h : (context a).usage ((context a).evaluated (param a)) = .plain) :
    (context a).Hosts (plain a) [param a] (param a) :=
  hosts_alone (plain_signed a) (by rw [CompileContext.flatNames, h]) (List.nodup_singleton _)
    (.inl (by rw [CompileContext.planOf?, h]))

theorem boxed_hosts {a : Ann} (h : (context a).flatNames "Finder.boxed" boxParam = ["x"]) :
    (context a).Hosts boxed [boxParam] boxParam :=
  hosts_alone (boxed_signed a) h (List.nodup_singleton _) (.inr (by decide))

theorem box_expands {a : Ann} (h : ∀ fields, (classes a).groupFields boxClass = .ok fields → ∀ f ∈ fields, f.name = "x") :
    (context a).Expands "Finder.boxed" boxParam boxClass "x" where
  evaluates s hs := by cases hs
  grouped := ⟨.annotated, rfl, rfl⟩
  others fields hfields f hf hne := absurd (h fields hfields f hf) hne

theorem box_declares (a : Ann) : (classes a).Declares boxClass "x" a false where
  inherited := ⟨[(classes a).info (.builtin .object)], rfl, fun i hi e he => by
    rw [List.mem_singleton.1 hi] at he
    cases he⟩
  own := ⟨[], [], rfl, List.not_mem_nil, fun e he => by cases he⟩
  exposed := ⟨{ name := "x", ann := a }, List.mem_singleton_self _, rfl, rfl, rfl⟩

def optionalOf (a : Ann) : Ann :=
  .union .aliased [a, .noneType]

def quotedText : Ann := optionalOf (.reference "str" false)

def text : Ann := optionalOf (.cls (.builtin .str))

theorem isJoined_text : Ann.IsJoined .aliased [.cls (.builtin .str), .noneType] := by
  have hother : Ann.anySame [.cls (.builtin .str)] .noneType = false := by decide +kernel
  have hdistinct : Ann.distinct [.cls (.builtin .str), .noneType] = [.cls (.builtin .str), .noneType] := by
    simp [Ann.distinct, Ann.anySame, hother]
  have hmembers : [Ann.cls (.builtin .str), .noneType].flatMap Ann.members = [.cls (.builtin .str), .noneType] := rfl
  change Except.ok (Ann.makeUnion .aliased [.cls (.builtin .str), .noneType]) = _
  rw [Ann.makeUnion, hmembers, hdistinct]

theorem str_has_no_null : "str".contains Ann.nullCharacter = false := by
  rw [String.contains_char_eq]
  decide

def nameRead? : Except SyntaxFault Expression → Option String
  | .ok (.name n) => some n
  | _ => none

theorem eq_of_nameRead? {r : Except SyntaxFault Expression} {n : String} (h : nameRead? r = some n) :
    r = .ok (.name n) := by
  unfold nameRead? at h
  split at h
  · cases h
    rfl
  · cases h

theorem parse_str : Expression.parse "str" = .ok (.name "str") :=
  eq_of_nameRead? (by decide +kernel)

theorem str_spelled (a : Ann) : ((classes a).classScope boxClass).Spells "str" (.cls (.builtin .str)) where
  denotes := by
    have hname : ((classes a).classScope boxClass).names.get? "str" = some (.cls (.builtin .str)) := by
      unfold Universe.classScope Universe.scopeOf
      dsimp only
      rw [Assoc.get?_merge, Assoc.get?_merge]
      rfl
    unfold Scope.evaluate
    rw [str_has_no_null, parse_str]
    dsimp only
    rw [Scope.denote, hname]
    rfl
  unstarred := rfl
  settled := .cls _
  checked _ := rfl

theorem quotedText_quotes : quotedText.Quotes "str" (.builtin .str) text :=
  .optional (.reference false) rfl rfl isJoined_text

theorem resolve_quoted (a : Ann) : ((classes a).classScope boxClass).resolve quotedText = .ok text :=
  Scope.resolve_of_quotes quotedText_quotes (str_spelled a)
    (Ann.refer_of_isReference (by decide) str_has_no_null (by decide +kernel) false)

theorem box_fields {a b : Ann} (h : ((classes a).classScope boxClass).resolve a = .ok b) :
    (classes a).groupFields boxClass = .ok [⟨"x", b, false⟩] := by
  obtain ⟨hints, hhints, hget⟩ := Universe.hints_of_ok (box_declares a) h
  have hrecord : (classes a).recordFields? boxClass = some [{ name := "x", ann := a }] := rfl
  unfold Universe.groupFields
  rw [hhints, Attempt.ok_bind, hrecord]
  change Except.ok [(⟨"x", (hints.get? "x").getD a, false⟩ : GroupField)] = _
  rw [hget, Option.getD_some]

/-- Both ways of exposing the annotation are in order, apart from the annotation itself. -/
structure Comparable (a : Ann) : Prop where
  plainHosts : ((context a).inside (plain a)).Hosts (plain a) [param a] (param a)
  plainUsage : ((context a).inside (plain a)).usage (((context a).inside (plain a)).evaluated (param a)) = .plain
  boxedHosts : ((context a).inside boxed).Hosts boxed [boxParam] boxParam
  expands : ((context a).inside boxed).Expands "Finder.boxed" boxParam boxClass "x"
  declares : (classes a).Declares boxClass "x" a false

theorem comparable {a b : Ann} (h : ((classes a).classScope boxClass).resolve a = .ok b)
    (husage : (context a).usage ((context a).evaluated (param a)) = .plain) : Comparable a := by
  have hfields := box_fields h
  have hnames : ∀ fields, (classes a).groupFields boxClass = .ok fields → ∀ f ∈ fields, f.name = "x" := by
    intro fields hf f hmem
    cases hf.symm.trans hfields
    rw [List.mem_singleton.1 hmem]
  have hcontainer : (context a).container "Finder.boxed" boxParam .annotated = .ok (boxClass, [⟨"x", b, false⟩]) :=
    CompileContext.container_eq_ok.2 ⟨rfl, hfields⟩
  have hflat : (context a).flatNames "Finder.boxed" boxParam = ["x"] := by
    have hgrouped : (context a).usage boxParam = .grouped .annotated := rfl
    unfold CompileContext.flatNames CompileContext.planOf?
    rw [hgrouped]
    dsimp only
    rw [hcontainer]
    rfl
  exact ⟨plain_hosts husage, husage, boxed_hosts hflat, box_expands hnames, box_declares a⟩

theorem exposure_boxed {a b : Ann} (h : Comparable a) (hb : ((classes a).classScope boxClass).resolve a = .ok b) :
    (context a).exposure boxed "x" = ((context a).infer b false "field 'x' of group Box").map some := by
  rw [CompileContext.exposure_of_field h.boxedHosts h.expands h.declares]
  unfold CompileContext.fieldReading
  change ((((classes a).classScope boxClass).resolve a).mapError _ >>= _).map some = _
  rw [hb]
  rfl

theorem isOk_exposure_boxed {a b : Ann} (h : Comparable a) (hb : ((classes a).classScope boxClass).resolve a = .ok b)
    (htype : ((context a).infer b false "field 'x' of group Box").isOk = true) :
    ((context a).exposure boxed "x").isOk = true := by
  rw [exposure_boxed h hb, Attempt.eq_ok_of_isOk htype default]
  rfl

theorem quoted_comparable : Comparable quotedText :=
  comparable (resolve_quoted _) rfl

def typedText : String := "Annotated[int, ArgType('string')]"

def typed : Ann := .annotated (.cls (.builtin .int)) [.argument { typeName := "string" }]

def typedExpression : Expression :=
  .compound .call [.name "ArgType", .constant (.text "string")]

def callRead? : Except SyntaxFault Expression → Option (List String)
  | .ok (.subscript (.name form) (.tuple [.name base, .compound .call [.name callee, .constant (.text s)]])) =>
    some [form, base, callee, s]
  | _ => none

theorem eq_of_callRead? {r : Except SyntaxFault Expression} {form base callee s : String}
    (h : callRead? r = some [form, base, callee, s]) :
    r = .ok (.subscript (.name form) (.tuple [.name base, .compound .call [.name callee, .constant (.text s)]])) := by
  unfold callRead? at h
  split at h
  · cases h
    rfl
  · cases h

theorem parse_typedText :
    Expression.parse typedText = .ok (.subscript (.name "Annotated") (.tuple [.name "int", typedExpression])) :=
  eq_of_callRead? (by decide +kernel)

theorem text_has_no_null : typedText.contains Ann.nullCharacter = false := by
  rw [String.contains_char_eq]
  decide

/-- The names that the text is made of. -/
structure Names (scope : Scope) : Prop where
  annotated : scope.names.get? "Annotated" = some (.form .annotated)
  int : scope.names.get? "int" = some (.cls (.builtin .int))
  argType : scope.names.get? "ArgType" = some (.cls argTypeClass)
  runtime : scope.runtime = Library.runtime .plain

def argType : Ann :=
  .value (.object argTypeClass
    [("type_name", .text "string"), ("is_list", .bool false), ("description", .text "")] none)

theorem denote_typedExpression {scope : Scope} (h : Names scope) : scope.denote typedExpression = .ok argType := by
  have hparts : scope.denoteAll [.name "ArgType", .constant (.text "string")] =
      .ok [.cls argTypeClass, .text "string"] := by
    simp only [Scope.denoteAll, Scope.denote, h.argType, Attempt.ok_bind]
    rfl
  unfold typedExpression
  rw [Scope.denote, if_neg (show ¬Shape.call.isDelayed = true from Bool.false_ne_true), hparts]
  change (scope.runtime.apply _ _).mapError _ = _
  rw [h.runtime]
  rfl

theorem typedText_spelled {scope : Scope} (h : Names scope) : scope.Spells typedText typed where
  denotes := by
    have hindex : scope.denote (.tuple [.name "int", typedExpression]) = .ok (.tuple [.cls (.builtin .int), argType]) := by
      simp only [Scope.denote, Scope.denoteAll, h.int, denote_typedExpression h, Attempt.ok_bind]
      rfl
    unfold Scope.evaluate
    rw [text_has_no_null, parse_typedText]
    dsimp only
    rw [Scope.denote, Scope.denote, h.annotated, Attempt.ok_bind, hindex]
    rfl
  unstarred := rfl
  settled := .annotated _ (.cls _) rfl
  checked _ := rfl

def moduleEntries : Assoc Ann :=
  (Library.moduleNames mainModule).merge (Universe.importedNames.merge [("ArgType", .cls argTypeClass)])

theorem module_names (a : Ann) : Names ((classes a).moduleScope mainModule) := by
  have hnames : ((classes a).moduleScope mainModule).names = Library.builtinNames.merge moduleEntries := rfl
  constructor
  · rw [hnames, Assoc.get?_merge]
    rfl
  · rw [hnames, Assoc.get?_merge]
    rfl
  · rw [hnames, Assoc.get?_merge]
    rfl
  · rfl

theorem box_names (a : Ann) : Names ((classes a).classScope boxClass) := by
  have hslots : ((classes a).info boxClass).slots = [] := rfl
  have hnames : ((classes a).classScope boxClass).names = (Library.builtinNames.merge []).merge moduleEntries := by
    unfold Universe.classScope
    rw [hslots]
    rfl
  constructor
  · rw [hnames, Assoc.get?_merge]
    rfl
  · rw [hnames, Assoc.get?_merge, Assoc.get?_merge]
    rfl
  · rw [hnames, Assoc.get?_merge]
    rfl
  · rfl

theorem refer_typedText : Ann.refer typedText true = .ok (.reference typedText true) :=
  Ann.refer_of_isReference (by decide) text_has_no_null (by decide +kernel) true

theorem evaluated_typedText (a : Ann) : (context a).evaluated (param (.text typedText)) = param typed := by
  have heval : (((context a).defs.moduleScope (context a).module).evaluate typedText) = .ok typed :=
    (typedText_spelled (module_names a)).denotes
  unfold CompileContext.evaluated CompileContext.evaluatedAnn param
  simp only [heval]
  rfl

theorem resolve_typedText (a : Ann) : ((classes a).classScope boxClass).resolve (.text typedText) = .ok typed :=
  Scope.resolve_of_spells (typedText_spelled (box_names a)) refer_typedText

theorem typedText_comparable : Comparable (.text typedText) :=
  comparable (resolve_typedText _) (by rw [evaluated_typedText]; rfl)

end Boxed

/-- The text says for both which type is meant. -/
theorem Boxed.text_alike :
    Boxed.Comparable (.text Boxed.typedText) ∧
    ((Boxed.context (.text Boxed.typedText)).inside (Boxed.plain (.text Boxed.typedText))).PlainlyWritten Boxed.boxClass
      (.text Boxed.typedText) ∧
    ((Boxed.context (.text Boxed.typedText)).exposure Boxed.boxed "x").isOk = true ∧
    Alike ((Boxed.context (.text Boxed.typedText)).exposure (Boxed.plain (.text Boxed.typedText)) "x")
      ((Boxed.context (.text Boxed.typedText)).exposure Boxed.boxed "x") := by
  have hwritten : ((Boxed.context (.text Boxed.typedText)).inside (Boxed.plain (.text Boxed.typedText))).PlainlyWritten
      Boxed.boxClass (.text Boxed.typedText) :=
    .quoted (Boxed.typedText_spelled (Boxed.module_names _)) (Boxed.typedText_spelled (Boxed.box_names _))
      Boxed.refer_typedText
  have h := Boxed.typedText_comparable
  exact ⟨h, hwritten, Boxed.isOk_exposure_boxed h (Boxed.resolve_typedText _) (by decide +kernel),
    (CompileContext.field_exposed_like_parameter_iff h.plainHosts h.plainUsage h.boxedHosts h.expands
      h.declares).2.2.1 hwritten⟩

/-- The parameter asks for a type with the quoted name, the field has the type that the name denotes. -/
theorem Boxed.quoted_unlike :
    Boxed.Comparable Boxed.quotedText ∧
    ((Boxed.context Boxed.quotedText).exposure (Boxed.plain Boxed.quotedText) "x").isOk = false ∧
    ((Boxed.context Boxed.quotedText).exposure Boxed.boxed "x").isOk = true ∧
    ¬Alike ((Boxed.context Boxed.quotedText).exposure (Boxed.plain Boxed.quotedText) "x")
      ((Boxed.context Boxed.quotedText).exposure Boxed.boxed "x") := by
  have h := Boxed.quoted_comparable
  have hunknown : ((Boxed.context Boxed.quotedText).exposure (Boxed.plain Boxed.quotedText) "x").isOk = false := by
    decide +kernel
  have hknown : ((Boxed.context Boxed.quotedText).exposure Boxed.boxed "x").isOk = true :=
    Boxed.isOk_exposure_boxed h (Boxed.resolve_quoted _) (by decide +kernel)
  refine ⟨h, hunknown, hknown, fun halike => ?_⟩
  rw [halike.isOk_eq, hknown] at hunknown
  cases hunknown

end SchemaAssembly
