import SchemaAssembly.Proofs.ListLayers

/-! What the inferred type of an argument depends on. The name decides the base alone: it is the type that the registry
has under the name. The annotation, the list flag and the default decide the layers around it alone. -/

namespace SchemaAssembly

namespace WireType

/-- Another named type within the same layers. -/
def onto (key : TypeKey) : WireType → WireType
  | named _ => named key
  | list t => list (t.onto key)
  | nonNull t => nonNull (t.onto key)

@[simp] theorem onto_wrap (key key' : TypeKey) (isList nullable : Bool) :
    ((named key).wrap isList nullable).onto key' = (named key').wrap isList nullable := by
  cases isList <;> cases nullable <;> rfl

/-- The ways to put a list at most, and then non-null at most, around a type. -/
def layered (t : WireType) : List WireType :=
  [t, list t, nonNull t, nonNull (list t)]

theorem wrap_mem_layered (t : WireType) (isList nullable : Bool) : t.wrap isList nullable ∈ t.layered := by
  cases isList <;> cases nullable <;> simp [wrap, layered]

end WireType

/-- An explicit name, unless it is empty, before the one that the annotation declares. -/
def chosenName (argType : Option ArgType) (declared : Option String) : Option String :=
  ((argType.map (·.typeName)).filter (· ≠ "")).or declared

section Factors
variable {names : SchemaNames} {registry : Registry} {a : Ann} {argType : Option ArgType} {hasDefault : Bool}
  {place : String} {name : Option String}

theorem inferredName_eq : inferredName names a argType = chosenName argType (a.declared names).name := by
  unfold inferredName chosenName
  cases argType with
  | none => rfl
  | some t => by_cases ht : t.typeName = "" <;> simp [ht, Ann.declared, Option.filter]

/-- What can be looked up in a table is read, and what is inferred then is the type with the chosen name in layers that
do not depend on the name. -/
theorem inferType_of_hashable (h : a.unhashable? = none) :
    inferType names registry a argType hasDefault place =
      (typeNamed registry place (chosenName argType (a.declared names).name)).map fun key =>
        (WireType.named key).wrap ((a.declared names).isList || argType.any (·.isList))
          (hasDefault || (a.declared names).nullable) := by
  have hdeclared : a.readDeclared names = .ok (a.declared names) := Ann.readDeclared_of_hashable h
  obtain ⟨_, hread, -⟩ := Attempt.bind_eq_ok.1 hdeclared
  rw [inferType_eq, hread, Attempt.ok_bind, inferredName_eq]

theorem typeNamed_metadata_iff :
    (∃ f, typeNamed registry place name = .error f ∧ f.kind = .metadata) ↔ name.getD "" = "" := by
  refine ⟨fun ⟨f, hf, hkind⟩ => ?_, fun h => ⟨_, typeNamed_untyped_iff.2 h, rfl⟩⟩
  rcases typeNamed_eq_error hf with rfl | ⟨v, rfl⟩
  · exact typeNamed_untyped_iff.1 hf
  · cases hkind

theorem typeNamed_of_name {n : String} (hn : n ≠ "") : typeNamed registry place (some n) = registry.resolve n :=
  if_neg hn

theorem typeNamed_notFound_iff {n : String} :
    typeNamed registry place name = .error (.typeNotFound (.text n)) ↔
      name = some n ∧ n ≠ "" ∧ registry.find? n = none := by
  unfold typeNamed Registry.resolve
  constructor
  · intro h
    split at h
    · cases h
    split at h
    · cases h
    next m hm =>
    split at h
    · cases h
    · next hfind =>
      cases h
      exact ⟨rfl, hm, hfind⟩
  · rintro ⟨rfl, hn, hfind⟩
    simp [hn, hfind]

/-- An argument that can be read has the type that its name stands for, in at most one list and at most one non-null
around that. Without a name it is refused as a fault of the metadata, and with an unknown one as such. The layers are
the same whatever the registry and the explicit name, a default takes non-null away and changes nothing else, and of the
registry only the type of that name matters. -/
theorem inferType_factors (names : SchemaNames) (registry : Registry) (a : Ann) (argType : Option ArgType)
    (hasDefault : Bool) (place : String) (h : a.unhashable? = none) :
    ∃ d, a.readDeclared names = .ok d ∧
      ((∃ f, inferType names registry a argType hasDefault place = .error f ∧ f.kind = .metadata) ↔
        (chosenName argType d.name).getD "" = "") ∧
      (∀ n, inferType names registry a argType hasDefault place = .error (.typeNotFound (.text n)) ↔
        chosenName argType d.name = some n ∧ n ≠ "" ∧ registry.find? n = none) ∧
      (∀ n key, chosenName argType d.name = some n → n ≠ "" → registry.find? n = some key →
        ∃ w ∈ (WireType.named key).layered, inferType names registry a argType hasDefault place = .ok w) ∧
      (∀ registry' argType' w w', argType'.any (·.isList) = argType.any (·.isList) →
        inferType names registry a argType hasDefault place = .ok w →
        inferType names registry' a argType' hasDefault place = .ok w' → w' = w.onto w'.base) ∧
      inferType names registry a argType true place =
        (inferType names registry a argType false place).map WireType.nullable ∧
      ∀ registry', (∀ n, chosenName argType d.name = some n → registry'.find? n = registry.find? n) →
        inferType names registry' a argType hasDefault place = inferType names registry a argType hasDefault place := by
  refine ⟨a.declared names, Ann.readDeclared_of_hashable h, ?_, fun n => ?_, fun n key hname hn hfind => ?_,
    fun registry' argType' w w' hlist hw hw' => ?_, ?_, fun registry' hsame => ?_⟩
  · simp only [inferType_of_hashable h, Attempt.map_eq_error]
    exact typeNamed_metadata_iff
  · rw [inferType_of_hashable h, Attempt.map_eq_error]
    exact typeNamed_notFound_iff
  · have hw : inferType names registry a argType hasDefault place = _ := inferType_of_hashable h
    rw [hname, typeNamed_of_name hn, Registry.resolve, hfind] at hw
    exact ⟨_, WireType.wrap_mem_layered _ _ _, hw⟩
  · rw [inferType_of_hashable h] at hw hw'
    obtain ⟨key, -, rfl⟩ := Attempt.map_eq_ok.1 hw
    obtain ⟨key', -, rfl⟩ := Attempt.map_eq_ok.1 hw'
    rw [hlist, WireType.base_wrap, WireType.onto_wrap]
    rfl
  · rw [inferType_of_hashable h, inferType_of_hashable h]
    cases typeNamed registry place (chosenName argType (a.declared names).name) with
    | error f => rfl
    | ok key => exact congrArg Except.ok (WireType.nullable_wrap _ _ _).symm
  · rw [inferType_of_hashable h, inferType_of_hashable h]
    congr 1
    cases hname : chosenName argType (a.declared names).name with
    | none => rfl
    | some n =>
      simp only [typeNamed, Registry.resolve, hsame n hname]

end Factors

namespace Ledger

def entries : Ann :=
  .union .aliased [.generic .direct .list [.cls (.defined "app" "Entry")], .noneType]

def entry : TypeKey := ⟨"Entry", .declared "Entry"⟩

def registry : Registry := { types := [("Entry", entry)] }

def row : ArgType := { typeName := "Row" }

theorem readDeclared_entries : entries.readDeclared (fun _ => none) = .ok ⟨some "Entry", true, true⟩ := by
  have hdeclared : entries.declared (fun _ => none) = ⟨some "Entry", true, true⟩ := by decide +kernel
  rw [Ann.readDeclared_of_hashable rfl, hdeclared]

end Ledger

theorem Ledger.entries_inferred :
    Ledger.entries.unhashable? = none ∧
    (∃ w ∈ (WireType.named entry).layered, inferType (fun _ => none) registry entries none false "argument 'x'" = .ok w) ∧
    inferType (fun _ => none) registry entries (some row) false "argument 'x'" =
      .error (.typeNotFound (.text "Row")) := by
  obtain ⟨d, hd, -, -, hfound, -⟩ :=
    inferType_factors (fun _ => none) registry entries none false "argument 'x'" rfl
  obtain ⟨e, -, -, hunknown, -⟩ :=
    inferType_factors (fun _ => none) registry entries (some row) false "argument 'x'" rfl
  cases hd.symm.trans readDeclared_entries
  exact ⟨rfl, hfound "Entry" entry rfl (by decide) rfl, (hunknown "Row").2 ⟨rfl, by decide, rfl⟩⟩

end SchemaAssembly
