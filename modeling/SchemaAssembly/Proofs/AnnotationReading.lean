import SchemaAssembly.Inference
import SchemaAssembly.Proofs.Attempt

/-! What is read off an annotation. All of it follows from the core: the annotation that names the type of a value other
than null, or the element of a list. A part of what can be looked up in a table can be looked up there as well. The
inferred type has a name, is a list or not, and allows null or not. -/

namespace SchemaAssembly

namespace Ann
variable {names : SchemaNames} {a b e : Ann}

theorem isNoneType_iff : a.isNoneType = true ↔ a = noneType := by
  unfold isNoneType noneType
  split
  · exact iff_of_true rfl rfl
  · next h => exact iff_of_false Bool.false_ne_true h

theorem innermost?_eq (a : Ann) :
    a.innermost? =
      match (core a).1 with
      | none => none
      | some b =>
        match listElement? b with
        | some (some e) => e.innermost?
        | some none => none
        | none => some b := by
  rw [innermost?]
  split
  · next h => simp only [h]
  · next b n h => split <;> next he => simp only [h, he]

/-- Annotations with one core declare the same, null aside. -/
theorem declared_congr (h : (core a).1 = (core b).1) :
    a.declared names = { b.declared names with nullable := (core a).2 } := by
  have hinner : a.innermost? = b.innermost? := by rw [innermost?_eq, innermost?_eq, h]
  simp only [declared, declaredName, hinner, h]

theorem declared_of_core {n : Bool} (hcore : core a = (some b, n)) (hlist : listElement? b = none) :
    a.declared names = ⟨b.typeName names, n, false⟩ := by
  have hinner : a.innermost? = some b := by rw [innermost?_eq, hcore]; simp only [hlist]
  simp only [declared, declaredName, hinner, hcore, Option.bind_some, hlist, Option.isSome_none]

theorem declared_of_core_none {n : Bool} (hcore : core a = (none, n)) : a.declared names = ⟨none, n, false⟩ := by
  have hinner : a.innermost? = none := by rw [innermost?_eq, hcore]
  simp only [declared, declaredName, hinner, hcore, Option.bind_none, Option.isSome_none]

theorem declaredName_of_element (hcore : (core a).1 = some b) (helement : listElement? b = some (some e)) :
    a.declaredName names = e.declaredName names := by
  have hinner : a.innermost? = e.innermost? := by rw [innermost?_eq, hcore]; simp only [helement]
  rw [declaredName, declaredName, hinner]

section Hashable

theorem firstUnhashable?_eq_none {as : List Ann} : firstUnhashable? as = none ↔ ∀ a ∈ as, a.unhashable? = none := by
  induction as with
  | nil => simp [firstUnhashable?]
  | cons a as ih => simp [firstUnhashable?, Option.or_eq_none_iff, ih]

theorem unhashable?_strip (h : a.unhashable? = none) : a.strip.unhashable? = none := by
  fun_induction strip a with
  | case1 base ms ih =>
    rw [unhashable?, Option.or_eq_none_iff] at h
    exact ih h.1
  | case2 a => exact h

theorem unhashable?_core {n : Bool} (hcore : core a = (some b, n)) (h : a.unhashable? = none) :
    b.unhashable? = none := by
  have hstrip := unhashable?_strip h
  unfold core at hcore
  split at hcore
  · cases hcore
  · next c hc =>
    split at hcore
    · cases hcore
    · cases hcore
      rw [hc] at hstrip
      exact hstrip
  · next ms hms =>
    rw [hms, unhashable?, firstUnhashable?_eq_none] at hstrip
    split at hcore
    · next m hm =>
      cases hcore
      have hmem : m ∈ nonNull ms := hm ▸ List.mem_singleton_self m
      exact unhashable?_strip (hstrip m (List.mem_of_mem_filter hmem))
    · cases hcore
  · cases hcore
    exact hstrip

theorem unhashable?_listElement (helement : listElement? b = some (some e)) (h : b.unhashable? = none) :
    e.unhashable? = none := by
  unfold listElement? at helement
  split at helement
  · split at helement <;> cases helement
  · split at helement <;> cases helement
  · split at helement
    · rw [unhashable?, firstUnhashable?_eq_none] at h
      exact h e (List.mem_of_find?_eq_some (Option.some.inj helement))
    · cases helement
  · cases helement

theorem unhashable?_innermost {i : Ann} (hinner : a.innermost? = some i) (h : a.unhashable? = none) :
    i.unhashable? = none := by
  fun_induction innermost? a with
  | case1 => cases hinner
  | case2 a b n hcore e helement _ ih =>
    exact ih hinner (unhashable?_listElement helement (unhashable?_core hcore h))
  | case3 => cases hinner
  | case4 a b n hcore =>
    cases hinner
    exact unhashable?_core hcore h

theorem readDeclared_of_hashable (h : a.unhashable? = none) : a.readDeclared names = .ok (a.declared names) := by
  have hinner : a.innermost?.bind unhashable? = none := by
    cases hi : a.innermost? with
    | none => rfl
    | some i => exact unhashable?_innermost hi h
  unfold readDeclared ensureHashable
  rw [hinner]
  rfl

end Hashable

end Ann

theorem WireType.nullable_wrap (key : TypeKey) (isList nullable : Bool) :
    ((named key).wrap isList nullable).nullable = (named key).wrap isList true := by
  cases isList <;> cases nullable <;> rfl

def typeNamed (registry : Registry) (place : String) : Option String → Except Failure TypeKey
  | none => .error (.untyped place)
  | some name => if name = "" then .error (.untyped place) else registry.resolve name

theorem typeNamed_eq_error {registry : Registry} {place : String} {name : Option String} {f : Failure}
    (h : typeNamed registry place name = .error f) : f = .untyped place ∨ ∃ v, f = .typeNotFound v := by
  unfold typeNamed Registry.resolve at h
  split at h
  · cases h
    exact .inl rfl
  split at h
  · cases h
    exact .inl rfl
  split at h
  · cases h
  · cases h
    exact .inr ⟨_, rfl⟩

/-- An inferred type is the one with the inferred name, as a list and with null where these are called for. -/
theorem inferType_eq (names : SchemaNames) (registry : Registry) (a : Ann) (argType : Option ArgType)
    (hasDefault : Bool) (place : String) :
    inferType names registry a argType hasDefault place =
      Ann.ensureHashable a.innermost? >>= fun _ =>
        (typeNamed registry place (inferredName names a argType)).map fun key =>
          (WireType.named key).wrap ((a.declared names).isList || argType.any (·.isList))
            (hasDefault || (a.declared names).nullable) := by
  unfold inferType Ann.readDeclared
  cases Ann.ensureHashable a.innermost? with
  | error f => rfl
  | ok u =>
    change (match inferredName names a argType with
      | none => Except.error (Failure.untyped place)
      | some name => _) = _
    cases inferredName names a argType with
    | none => rfl
    | some name =>
      dsimp only [typeNamed]
      split
      · rfl
      cases registry.resolve name with
      | error f => rfl
      | ok key =>
        cases hasDefault with
        | false => rfl
        | true => exact congrArg Except.ok (WireType.nullable_wrap _ _ _)

end SchemaAssembly
