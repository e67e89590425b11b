import SchemaAssembly.Class.Decorated
import SchemaAssembly.Proofs.ClassDeclaration
import SchemaAssembly.Proofs.OperationPrecedence

/-! Functions under stacks of decorators. What a decorator attaches goes to the function, through a wrapper if there is
one already, and in front of what is there. So a function ends up with the operations of its stack in their order,
wherever in the stack the wrapper stands, and a class that has it under a name compiles the topmost operation of each
kind and no other. -/

namespace SchemaAssembly

namespace Decorator
variable {kind : OperationKind} {op : OperationMeta} {ds : List Decorator}

def operation? : Decorator → Option OperationMeta
  | operation op => some op
  | wrapper _ => none

def wrapper? : Decorator → Option Wrapper
  | operation _ => none
  | wrapper w => some w

def operations (ds : List Decorator) : List OperationMeta :=
  ds.filterMap operation?

def wrappers (ds : List Decorator) : List Wrapper :=
  ds.filterMap wrapper?

/-- The stack declares an operation of the kind, and none of the kind above it. -/
def Topmost (kind : OperationKind) (op : OperationMeta) (ds : List Decorator) : Prop :=
  ∃ above below, ds = above ++ operation op :: below ∧ op.kind = some kind ∧
    ∀ op', operation op' ∈ above → op'.kind ≠ some kind

theorem operation?_eq_some {d : Decorator} : d.operation? = some op ↔ d = operation op := by
  cases d <;> simp [operation?]

/-- The first operation of a kind is the topmost one. -/
theorem find?_operations : (operations ds).find? (·.kind == some kind) = some op ↔ Topmost kind op ds := by
  have hother (d : Decorator) : (!d.operation?.any (·.kind == some kind)) = true ↔
      ∀ op', d = operation op' → op'.kind ≠ some kind := by
    cases d <;> simp [operation?]
  have habove (above : List Decorator) : (∀ d ∈ above, (!d.operation?.any (·.kind == some kind)) = true) ↔
      ∀ op', operation op' ∈ above → op'.kind ≠ some kind := by
    simp only [hother]
    exact ⟨fun h op' hop' => h _ hop' _ rfl, fun h d hd op' heq => h op' (heq ▸ hd)⟩
  unfold operations
  rw [List.find?_filterMap, Option.bind_eq_some_iff]
  simp only [operation?_eq_some, exists_eq_right, List.find?_eq_some_iff_append, habove]
  simp only [operation?, Option.any_some, beq_iff_eq]
  constructor
  · rintro ⟨hkind, above, below, hds, hfirst⟩
    exact ⟨above, below, hds, hkind, hfirst⟩
  · rintro ⟨above, below, hds, hkind, hfirst⟩
    exact ⟨hkind, above, below, hds, hfirst⟩

end Decorator

namespace Decorated

/-- A function in a wrapper, or bare. -/
def within : Option Wrapper → Method → Decorated
  | none, m => function m
  | some w, m => wrapped w [] (function m)

theorem attach_within (op : OperationMeta) (w : Option Wrapper) (m : Method) :
    (within w m).attach op = within w { m with operations := op :: m.operations } := by
  cases w <;> rfl

theorem attached_within (w : Option Wrapper) (m : Method) : (within w m).attached = m.operations := by
  cases w <;> rfl

theorem slot?_within (w : Option Wrapper) (m : Method) : ∃ b, (within w m).slot? = some (.method b m) := by
  cases w <;> exact ⟨_, rfl⟩

/-- The induction over a stack: one more decorator attaches its operation in front, or wraps a function that is bare
so far. -/
theorem decorated_eq (m : Method) {ds : List Decorator} (h : (Decorator.wrappers ds).length ≤ 1) :
    m.decorated ds = within (Decorator.wrappers ds).head?
      { m with operations := Decorator.operations ds ++ m.operations } := by
  induction ds with
  | nil => rfl
  | cons d ds ih =>
    have hstep : m.decorated (d :: ds) = d.apply (m.decorated ds) := rfl
    cases d with
    | operation op =>
      rw [hstep, ih h]
      exact attach_within op _ _
    | wrapper w =>
      have hbare : Decorator.wrappers ds = [] := List.length_eq_zero_iff.1 (Nat.le_zero.1 (Nat.le_of_succ_le_succ h))
      rw [hstep, ih (hbare ▸ Nat.zero_le 1), hbare]
      rfl

end Decorated

theorem Slot.inClass_method (b : Binding) (m : Method) (c : ClassRef) (attr : String) :
    ∃ b', (Slot.method b m).inClass c attr = .method b' (m.placed (.attribute_ c attr)) := by
  cases b with
  | instance_ =>
    by_cases h : attr = "__init_subclass__" ∨ attr = "__class_getitem__"
    · exact ⟨.class_, by rw [inClass, rebound, if_pos h]; rfl⟩
    · exact ⟨.instance_, by rw [inClass, rebound, if_neg h]; rfl⟩
  | class_ => exact ⟨_, rfl⟩
  | static => exact ⟨_, rfl⟩

namespace CompileContext
variable {ctx : CompileContext} {kind : OperationKind} {attr : String} {b : Binding} {m : Method}

/-- Of the function under an attribute, the chosen operation is declared and compiled, and no other. It is found under
its name, unless another attribute declares an operation of that name. -/
structure Selects (ctx : CompileContext) (kind : OperationKind) (attr : String) (b : Binding) (m : Method)
    (chosen : OperationMeta → Prop) : Prop where
  declared : ∀ d, d ∈ ctx.declared kind ∧ d.attr = attr ↔ ∃ op, chosen op ∧ d = ⟨attr, b, m, op⟩
  compiled : ∀ ops op, (ctx.operations kind).result = .ok ops → chosen op →
    ∃ o, (ctx.compile ⟨attr, b, m, op⟩).result = .ok o ∧ o.name = op.name ∧ ctx.returnType op = .ok o.type ∧
      o.description = nonEmpty? op.description ∧
      (ops.get? op.name = some o ∨ ∃ d ∈ ctx.declared kind, d.attr ≠ attr ∧ d.op.name = op.name)
  alone : ∀ ops name o, (ctx.operations kind).result = .ok ops → ops.get? name = some o →
    o.handler.function.slot = attr → ∃ op, chosen op ∧ op.name = name

theorem exists_compile_of_operations {ops : Assoc Operation} (hops : (ctx.operations kind).result = .ok ops)
    {d : Declaration} (hd : d ∈ ctx.declared kind) : ∃ o, (ctx.compile d).result = .ok o := by
  rw [result_operations] at hops
  obtain ⟨named, hnamed, -⟩ := Attempt.map_eq_ok.1 hops
  obtain ⟨e, -, he⟩ := Attempt.exists_of_mem_of_mapM hnamed hd
  obtain ⟨o, ho, -⟩ := Attempt.map_eq_ok.1 he
  exact ⟨o, ho⟩

theorem selects_of_effective {home : ClassRef} {chosen : OperationMeta → Prop}
    (heff : ctx.defs.effective? ctx.resolver.cls attr = some (home, .method b m))
    (hchosen : ∀ op, m.operation? kind = some op ↔ chosen op) : ctx.Selects kind attr b m chosen := by
  have hdeclared (d : Declaration) :
      d ∈ ctx.declared kind ∧ d.attr = attr ↔ ∃ op, chosen op ∧ d = ⟨attr, b, m, op⟩ := by
    rw [mem_declared]
    constructor
    · rintro ⟨⟨home', heff', hop⟩, rfl⟩
      rw [heff] at heff'
      cases heff'
      exact ⟨d.op, (hchosen _).1 hop, rfl⟩
    · rintro ⟨op, hop, rfl⟩
      exact ⟨⟨home, heff, (hchosen _).2 hop⟩, rfl⟩
  refine ⟨hdeclared, fun ops op hops hop => ?compiled, fun ops name o hops hget hattr => ?alone⟩
  case compiled =>
    obtain ⟨hd, -⟩ := (hdeclared _).2 ⟨op, hop, rfl⟩
    obtain ⟨o, ho⟩ := exists_compile_of_operations hops hd
    obtain ⟨-, rs, type, -, -, -, htype, rfl⟩ := compileMethod_eq_ok.1 ho
    refine ⟨_, ho, rfl, htype, rfl, ?_⟩
    by_cases hother : ∃ d ∈ ctx.declared kind, d.attr ≠ attr ∧ d.op.name = op.name
    · exact .inr hother
    · refine .inl ((get?_operations hops).2 ⟨_, ⟨hd, rfl, fun d hd' hname hattr => ?_⟩, ho⟩)
      exact absurd ⟨d, hd', hattr, hname⟩ hother
  case alone =>
    obtain ⟨d, hd, ho⟩ := (get?_operations hops).1 hget
    obtain ⟨home', heff'⟩ := effective_of_compile hd.declared ho
    rw [heff'.function] at hattr
    obtain ⟨op, hop, rfl⟩ := (hdeclared d).1 ⟨hd.declared, hattr⟩
    exact ⟨op, hop, hd.named⟩

/-- A function under decorators of operations, with at most one wrapper anywhere among them, has what they declare
attached to it, from the topmost on. In the body of a class it is a method with just these operations, and the effective
definition of its name there. Wherever it is the effective definition, the operation of the topmost decorator of each
kind is declared and compiled, and no other. -/
theorem decorated_selects (f : Method) (ds : List Decorator) (hbare : f.operations = [])
    (hwrapper : (Decorator.wrappers ds).length ≤ 1) :
    (f.decorated ds).attached = Decorator.operations ds ∧
    ∃ s, (f.decorated ds).slot? = some s ∧ ∀ home attr, ∃ b m, s.inClass home attr = .method b m ∧
      m = { f with operations := Decorator.operations ds }.placed (.attribute_ home attr) ∧
      (∀ (u u' : Universe) (spec : ClassSpec), spec.ref = home → u.Writes spec attr s → u.declare spec = .ok u' →
        u'.effective? home attr = some (home, .method b m)) ∧
      ∀ (ctx : CompileContext) (kind : OperationKind),
        ctx.defs.effective? ctx.resolver.cls attr = some (home, .method b m) →
          ctx.Selects kind attr b m fun op => Decorator.Topmost kind op ds := by
  rw [Decorated.decorated_eq f hwrapper, hbare, List.append_nil]
  obtain ⟨b, hslot⟩ := Decorated.slot?_within (Decorator.wrappers ds).head?
    { f with operations := Decorator.operations ds }
  refine ⟨Decorated.attached_within _ _, _, hslot, fun home attr => ?_⟩
  obtain ⟨b', hclass⟩ := Slot.inClass_method b { f with operations := Decorator.operations ds } home attr
  refine ⟨b', _, hclass, rfl, ?written, fun ctx kind heff => ?selected⟩
  case written =>
    rintro u u' spec rfl hwrites hdeclare
    rw [← hclass]
    exact Universe.effective?_declare hdeclare hwrites
  case selected => exact selects_of_effective heff fun op => Decorator.find?_operations

end CompileContext

namespace Kiosk

def declares (kind : OperationKind) (name : String) : Decorator :=
  .operation { kind := some kind, name, returns := .named (.text "string") }

def stack : List Decorator :=
  [declares .query "find", .wrapper .static, declares .mutation "save", declares .query "list"]

def function : Method where
  name := "find"
  owner := "Kiosk"

def kioskClass : ClassRef := .defined "app" "Kiosk"

def spec : ClassSpec where
  ref := kioskClass
  bases := [.builtin .resolver]
  slots := ((function.decorated stack).slot?.map (Prod.mk "find")).toList

def classes : Universe :=
  (Universe.declare {} spec).toOption.getD {}

theorem declare_eq : Universe.declare {} spec = .ok classes :=
  Attempt.eq_ok_of_isOk (by decide +kernel) _

def context : CompileContext :=
  { defs := classes, registry := {}, resolver := ⟨.object kioskClass [] (some (.resolver 0))⟩ }

end Kiosk

/-- The query and the mutation that stand topmost are compiled, and the other query is not. -/
theorem Kiosk.one_of_each_kind :
    Kiosk.function.operations = [] ∧ (Decorator.wrappers Kiosk.stack).length ≤ 1 ∧
    (∃ b m, Kiosk.classes.effective? Kiosk.kioskClass "find" = some (Kiosk.kioskClass, .method b m) ∧
      ∀ kind, Kiosk.context.Selects kind "find" b m fun op => Decorator.Topmost kind op Kiosk.stack) ∧
    (Kiosk.context.operations .query).result.toOption.map Assoc.keys = some ["find"] ∧
    (Kiosk.context.operations .mutation).result.toOption.map Assoc.keys = some ["save"] := by
  have hwrapper : (Decorator.wrappers Kiosk.stack).length ≤ 1 := by decide
  obtain ⟨-, s, hslot, hclass⟩ := CompileContext.decorated_selects Kiosk.function Kiosk.stack rfl hwrapper
  obtain ⟨b, m, -, -, hwritten, hselected⟩ := hclass Kiosk.kioskClass "find"
  have hwrites : Universe.Writes {} Kiosk.spec "find" s :=
    { fresh := List.forall_mem_nil _
      named := ⟨_, _, _, rfl⟩
      body := hslot ▸ rfl
      apart := List.forall_mem_nil _ }
  have heff := hwritten _ _ _ rfl hwrites Kiosk.declare_eq
  exact ⟨rfl, hwrapper, ⟨b, m, heff, fun kind => hselected Kiosk.context kind heff⟩, by decide +kernel,
    by decide +kernel⟩

end SchemaAssembly
