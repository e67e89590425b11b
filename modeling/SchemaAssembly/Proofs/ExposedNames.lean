import SchemaAssembly.Execution.Run
import SchemaAssembly.Loader
import SchemaAssembly.Proofs.Compilation
import Mathlib.Data.List.Dedup

/-! The arguments of an operation under their exposed names. An exposed name leads back to one argument, so values never
get mixed up, but several arguments can be exposed under one name, and only the last of them is reached then. -/

namespace SchemaAssembly

namespace RootField

/-- The declared name of the argument that is exposed under a name. -/
def declaredName (f : RootField) (exposed : String) : String :=
  ((f.args.get? exposed).bind (·.outName)).getD exposed

/-- What is passed on of values that are given under exposed names. -/
def passed (f : RootField) (given : Assoc Value) : Assoc Value :=
  Assoc.merge [] (given.map fun e => (f.declaredName e.1, e.2))

end RootField

namespace Operation

def exposedArg (useCamel : Bool) (e : String × Argument) : String × FieldArgument :=
  let exposed := Naming.exposed e.1 useCamel
  (exposed, ⟨e.2.type, if exposed = e.1 then none else some e.1, e.2.description⟩)

theorem exposedArgs_eq (args : Assoc Argument) (useCamel : Bool) :
    exposedArgs args useCamel = Assoc.merge [] (args.map (exposedArg useCamel)) := by
  unfold exposedArgs Assoc.merge
  rw [List.foldl_map]
  rfl

theorem keys_map_exposedArg (args : Assoc Argument) (useCamel : Bool) :
    Assoc.keys (args.map (exposedArg useCamel)) = args.keys.map (Naming.exposed · useCamel) := by
  simp [Assoc.keys, exposedArg, Function.comp_def]

variable (o : Operation) (useCamel : Bool)

theorem nodup_keys_toField : (o.toField useCamel).args.keys.Nodup := by
  unfold toField
  rw [exposedArgs_eq]
  exact Assoc.nodup_keys_merge _ _ List.nodup_nil

theorem mem_keys_toField {n : String} :
    n ∈ (o.toField useCamel).args.keys ↔ ∃ p ∈ o.args.keys, Naming.exposed p useCamel = n := by
  unfold toField
  rw [exposedArgs_eq, Assoc.mem_keys_merge, keys_map_exposedArg, List.mem_map]
  simp [Assoc.keys]

theorem declaredName_toField {n : String} (hn : n ∈ (o.toField useCamel).args.keys) :
    (o.toField useCamel).declaredName n ∈ o.args.keys ∧
      Naming.exposed ((o.toField useCamel).declaredName n) useCamel = n := by
  obtain ⟨d, hd⟩ := Option.isSome_iff_exists.1 ((Assoc.contains_iff _ _).2 hn)
  have hmem : (n, d) ∈ o.args.map (exposedArg useCamel) := by
    have hmerge := hd
    unfold toField at hmerge
    rw [exposedArgs_eq] at hmerge
    exact (Assoc.mem_or_of_get?_merge hmerge).resolve_right fun h => by cases h
  obtain ⟨e, he, heq⟩ := List.mem_map.1 hmem
  have hname : (o.toField useCamel).declaredName n = e.1 := by
    unfold RootField.declaredName
    rw [hd]
    cases heq
    by_cases hsame : Naming.exposed e.1 useCamel = e.1 <;> simp [hsame]
  rw [hname]
  exact ⟨List.mem_map_of_mem he, congrArg Prod.fst heq⟩

theorem length_toField_iff :
    (o.toField useCamel).args.length = o.args.length ↔ (o.args.keys.map (Naming.exposed · useCamel)).Nodup := by
  have hperm : (o.toField useCamel).args.keys.Perm (o.args.keys.map (Naming.exposed · useCamel)).dedup := by
    refine (List.perm_ext_iff_of_nodup (o.nodup_keys_toField useCamel) (List.nodup_dedup _)).2 fun n => ?_
    rw [mem_keys_toField, List.mem_dedup, List.mem_map]
  have hlength : (o.toField useCamel).args.length = (o.args.keys.map (Naming.exposed · useCamel)).dedup.length := by
    simpa [Assoc.keys] using hperm.length_eq
  have hargs : o.args.length = (o.args.keys.map (Naming.exposed · useCamel)).length := by simp [Assoc.keys]
  rw [hlength, hargs, ← List.dedup_eq_self]
  exact ⟨(List.dedup_sublist _).eq_of_length, congrArg List.length⟩

/-- All arguments are reached exactly if no two are exposed under one name. -/
theorem reaches_all_iff (hd : o.args.keys.Nodup) :
    (∀ p ∈ o.args.keys, ∃ n ∈ (o.toField useCamel).args.keys, (o.toField useCamel).declaredName n = p) ↔
      (o.args.keys.map (Naming.exposed · useCamel)).Nodup := by
  constructor
  · intro h
    refine hd.map_on fun p hp q hq heq => ?_
    obtain ⟨n, hn, rfl⟩ := h p hp
    obtain ⟨n', hn', rfl⟩ := h q hq
    rw [(o.declaredName_toField useCamel hn).2, (o.declaredName_toField useCamel hn').2] at heq
    rw [heq]
  · intro h p hp
    have hn := (o.mem_keys_toField useCamel).2 ⟨p, hp, rfl⟩
    obtain ⟨hq, heq⟩ := o.declaredName_toField useCamel hn
    exact ⟨_, hn, List.inj_on_of_nodup_map h hq hp heq⟩

/-- Values under exposed names are passed on under the declared names of their arguments, each under its own. -/
theorem passed_toField {given : Assoc Value} (hnd : given.keys.Nodup)
    (hgiven : given.keys ⊆ (o.toField useCamel).args.keys) :
    ((o.toField useCamel).passed given).keys.Nodup ∧
      (∀ p, p ∈ ((o.toField useCamel).passed given).keys ↔ ∃ n ∈ given.keys, (o.toField useCamel).declaredName n = p) ∧
      ∀ n ∈ given.keys, ((o.toField useCamel).passed given).get? ((o.toField useCamel).declaredName n) = given.get? n := by
  have hinj : ∀ a ∈ given.keys, ∀ b ∈ given.keys,
      (o.toField useCamel).declaredName a = (o.toField useCamel).declaredName b → a = b := by
    intro a ha b hb heq
    rw [← (o.declaredName_toField useCamel (hgiven ha)).2, heq, (o.declaredName_toField useCamel (hgiven hb)).2]
  have hkeys : Assoc.keys (given.map fun e => ((o.toField useCamel).declaredName e.1, e.2)) =
      given.keys.map (o.toField useCamel).declaredName := by
    simp [Assoc.keys]
  have hnodup : (Assoc.keys (given.map fun e => ((o.toField useCamel).declaredName e.1, e.2))).Nodup := by
    rw [hkeys]
    exact hnd.map_on hinj
  have hpassed : (o.toField useCamel).passed given = given.map fun e => ((o.toField useCamel).declaredName e.1, e.2) :=
    Assoc.merge_of_nodup [] _ hnodup
  rw [hpassed]
  refine ⟨hnodup, fun p => ?_, fun n hn => Assoc.get?_map_keys hinj hn⟩
  rw [hkeys, List.mem_map]

end Operation

namespace Execution
variable (s : Schema) (bound : Assoc Value) (node : Request.FieldNode)

def givenValue (e : String × FieldArgument) : Except ArgumentFault (Option (String × Value)) :=
  (argumentValue s bound node e.1 e.2).map (·.map (e.1, ·))

def givenValues (args : Assoc FieldArgument) : Except ArgumentFault (Assoc Value) :=
  (args.mapM (givenValue s bound node)).map (·.filterMap id)

/-- The handler of a field is passed what is given under exposed names. -/
theorem argumentValues_eq (f : RootField) (hd : f.args.keys.Nodup) :
    argumentValues s bound node f.args = (givenValues s bound node f.args).map f.passed := by
  have hnamed : ∀ e ∈ f.args, e.2.outName.getD e.1 = f.declaredName e.1 := by
    intro e he
    unfold RootField.declaredName
    rw [Assoc.get?_of_mem hd he]
    rfl
  unfold argumentValues givenValues RootField.passed
  generalize ([] : Assoc Value) = acc
  generalize f.args = args at hnamed
  induction args generalizing acc with
  | nil => rfl
  | cons e args ih =>
    obtain ⟨he, hargs⟩ := List.forall_mem_cons.1 hnamed
    rw [List.foldlM_cons, List.mapM_cons, givenValue]
    cases hv : argumentValue s bound node e.1 e.2 with
    | error f => rfl
    | ok v? =>
      cases v? with
      | none =>
        simp only [Attempt.ok_bind, Attempt.map_ok]
        refine (ih acc hargs).trans ?_
        cases args.mapM (givenValue s bound node) <;> rfl
      | some v =>
        simp only [Attempt.ok_bind, Attempt.map_ok, he]
        refine (ih _ hargs).trans ?_
        cases args.mapM (givenValue s bound node) <;> rfl

theorem keys_givenValues {args : Assoc FieldArgument} {given : Assoc Value}
    (h : givenValues s bound node args = .ok given) : given.keys.Sublist args.keys := by
  obtain ⟨vs, hvs, rfl⟩ := Attempt.map_eq_ok.1 h
  clear h
  induction Attempt.mapM_eq_ok.1 hvs with
  | nil => exact .slnil
  | @cons e v? args vs hv hrest ih =>
    have hkeys := ih (Attempt.mapM_eq_ok.2 hrest)
    obtain ⟨v, -, rfl⟩ := Attempt.map_eq_ok.1 hv
    cases v with
    | none => exact hkeys.cons _
    | some v => exact hkeys.cons_cons _

end Execution

/-- The arguments of a compiled operation are all exposed, and all reached, exactly if no two of them are exposed under
one name. Either way, what is given under exposed names can be read back under the declared names that it leads to,
which is what the handler is passed. -/
theorem CompileContext.exposes_all_iff {ctx : CompileContext} {attr : String} {binding : Binding} {m : Method}
    {op : OperationMeta} {o : Operation} (ho : (ctx.compileMethod attr binding m op).result = .ok o) (useCamel : Bool) :
    ((o.toField useCamel).args.length = o.args.length ↔ (o.args.keys.map (Naming.exposed · useCamel)).Nodup) ∧
    ((∀ p ∈ o.args.keys, ∃ n ∈ (o.toField useCamel).args.keys, (o.toField useCamel).declaredName n = p) ↔
      (o.args.keys.map (Naming.exposed · useCamel)).Nodup) ∧
    (useCamel = false → (o.args.keys.map (Naming.exposed · useCamel)).Nodup) ∧
    (∀ given : Assoc Value, given.keys.Nodup → given.keys ⊆ (o.toField useCamel).args.keys →
      ((o.toField useCamel).passed given).keys.Nodup ∧ ((o.toField useCamel).passed given).keys ⊆ o.args.keys ∧
      ∀ n ∈ given.keys, Naming.exposed ((o.toField useCamel).declaredName n) useCamel = n ∧
        ((o.toField useCamel).passed given).get? ((o.toField useCamel).declaredName n) = given.get? n) ∧
    ∀ s bound node values, Execution.argumentValues s bound node (o.toField useCamel).args = .ok values →
      ∃ given, given.keys.Nodup ∧ given.keys ⊆ (o.toField useCamel).args.keys ∧
        values = (o.toField useCamel).passed given := by
  obtain ⟨-, rs, type, -, hd, -, -, rfl⟩ := compileMethod_eq_ok.1 ho
  refine ⟨Operation.length_toField_iff _ _, Operation.reaches_all_iff _ _ hd, ?_, ?_, ?_⟩
  · rintro rfl
    simpa [Naming.exposed, CompileContext.operationOf] using hd
  · intro given hnd hgiven
    obtain ⟨hpassed, hkeys, hget⟩ := Operation.passed_toField _ _ hnd hgiven
    refine ⟨hpassed, fun p hp => ?_, fun n hn => ⟨(Operation.declaredName_toField _ _ (hgiven hn)).2, hget n hn⟩⟩
    obtain ⟨n, hn, rfl⟩ := (hkeys p).1 hp
    exact (Operation.declaredName_toField _ _ (hgiven hn)).1
  · intro s bound node values hvalues
    have hnd := Operation.nodup_keys_toField (ctx.operationOf attr binding m op (.ofRoles rs) type) useCamel
    rw [Execution.argumentValues_eq s bound node _ hnd] at hvalues
    obtain ⟨given, hgiven, rfl⟩ := Attempt.map_eq_ok.1 hvalues
    have hsub := Execution.keys_givenValues s bound node hgiven
    exact ⟨given, hnd.sublist hsub, hsub.subset, rfl⟩

namespace Twins

def resolverClass : ClassRef := .defined "app" "Twins"

def findMeta : OperationMeta :=
  { kind := some .query, name := "find", returns := .named (.text "string") }

def find : Method where
  name := "find"
  owner := "Twins"
  receiver := some "self"
  params := [{ name := "user_id", ann := .cls (.builtin .int) }, { name := "userId", ann := .cls (.builtin .str) }]
  operations := [findMeta]

def classes : Universe where
  classes := [
    { ref := resolverClass, lineage := [resolverClass, .builtin .resolver, .builtin .object]
      slots := [("find", .method .instance_ find)] }]

def context : CompileContext :=
  { defs := classes, registry := {}, resolver := ⟨.object resolverClass [] (some (.resolver 0))⟩ }

def compiled : Except Failure Operation :=
  (context.compileMethod "find" .instance_ find findMeta).result

def operation : Operation :=
  compiled.toOption.getD default

theorem compiled_eq : compiled = .ok operation :=
  Attempt.eq_ok_of_isOk (by decide +kernel) _

def given : Assoc Value := [("userId", .text "u1")]

end Twins

theorem Twins.userId_read_back :
    Twins.compiled = .ok Twins.operation ∧ Twins.given.keys.Nodup ∧
      Twins.given.keys ⊆ (Twins.operation.toField true).args.keys ∧
      ((Twins.operation.toField true).passed Twins.given).get? ((Twins.operation.toField true).declaredName "userId") =
        some (.text "u1") := by
  have hnd : Twins.given.keys.Nodup := by decide
  have hkeys : Twins.given.keys ⊆ (Twins.operation.toField true).args.keys := by decide +kernel
  have hread := (CompileContext.exposes_all_iff Twins.compiled_eq true).2.2.2.1 Twins.given hnd hkeys
  exact ⟨Twins.compiled_eq, hnd, hkeys, (hread.2.2 "userId" List.mem_cons_self).2⟩

/-- Two arguments under one exposed name are one argument of the field, and nothing fails. -/
theorem Twins.user_id_lost :
    Twins.compiled = .ok Twins.operation ∧ Twins.operation.args.keys = ["user_id", "userId"] ∧
      (∃ f, Loader.rootField true Twins.operation = .ok f ∧ f.args.keys = ["userId"]) ∧
      ∀ n ∈ (Twins.operation.toField true).args.keys, (Twins.operation.toField true).declaredName n ≠ "user_id" := by
  have hnames : Failure.checkNames (Twins.operation.toField true).args.keys = .ok () :=
    Attempt.eq_ok_of_isOk (by decide +kernel) ()
  refine ⟨Twins.compiled_eq, by decide +kernel, ⟨Twins.operation.toField true, ?_, by decide +kernel⟩, by decide +kernel⟩
  simp only [Loader.rootField, hnames, Attempt.ok_bind]
  rfl

end SchemaAssembly
