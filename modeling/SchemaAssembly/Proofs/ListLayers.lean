import SchemaAssembly.Proofs.AnnotationReading

/-! How many of the lists in an annotation its inferred type keeps: one at most. A list has the type of its first
element, whatever that element is a list of and whatever else is in a tuple. -/

namespace SchemaAssembly

namespace Ann

mutual
/-- How deep lists are nested in an annotation. Metadata and unions around them do not count. -/
def listDepth : Ann → Nat
  | cls (.builtin b) => if isListOrigin b then 1 else 0
  | bareAlias _ origin => if isListOrigin origin then 1 else 0
  | generic _ origin args => if isListOrigin origin then deepest args + 1 else 0
  | union _ ms => deepest ms
  | annotated base _ => base.listDepth
  | _ => 0

def deepest : List Ann → Nat
  | [] => 0
  | a :: as => max a.listDepth (deepest as)
end

section Depth
variable {a b : Ann} {ms : List Ann}

theorem listDepth_strip (a : Ann) : a.strip.listDepth = a.listDepth := by
  fun_induction strip a with
  | case1 base ms ih => rw [ih, listDepth]
  | case2 => rfl

theorem deepest_nonNull (ms : List Ann) : deepest (nonNull ms) = deepest ms := by
  induction ms with
  | nil => rfl
  | cons m ms ih =>
    unfold nonNull at ih ⊢
    rw [List.filter_cons]
    split
    · rw [deepest, deepest, ih]
    · next hnone =>
      obtain rfl : m = noneType := isNoneType_iff.1 (by simpa using hnone)
      rw [ih, deepest]
      exact (Nat.zero_max _).symm

theorem listDepth_core {n : Bool} (h : core a = (some b, n)) : b.listDepth = a.listDepth := by
  rw [← listDepth_strip a]
  unfold core at h
  split at h
  · cases h
  · next c hc =>
    split at h
    · cases h
    · cases h
      rw [hc]
  · next spelling ms hms =>
    split at h
    · next m hm =>
      cases h
      rw [hms, listDepth_strip, listDepth, ← deepest_nonNull, hm, deepest, deepest, Nat.max_zero]
    · cases h
  · cases h
    rfl

theorem listDepth_pos_iff (hunion : ∀ spelling ms, b ≠ union spelling ms) (hlayer : ∀ base ms, b ≠ annotated base ms) :
    0 < b.listDepth ↔ (listElement? b).isSome = true := by
  cases b with
  | union => exact absurd rfl (hunion _ _)
  | annotated => exact absurd rfl (hlayer _ _)
  | cls c =>
    cases c with
    | builtin o =>
      rw [listDepth, listElement?]
      split <;> decide
    | _ => exact iff_of_false (Nat.not_lt_zero 0) Bool.false_ne_true
  | bareAlias _ o =>
    rw [listDepth, listElement?]
    split <;> decide
  | generic _ o args =>
    rw [listDepth, listElement?]
    split
    · exact iff_of_true (Nat.succ_pos _) rfl
    · decide
  | _ => exact iff_of_false (Nat.not_lt_zero 0) Bool.false_ne_true

theorem core_of_declaredName {names : SchemaNames} {n : String} (h : a.declaredName names = some n) :
    ∃ b, (core a).1 = some b ∧ (listElement? b = none → b.typeName names = some n) := by
  unfold declaredName at h
  rw [innermost?_eq] at h
  cases hcore : (core a).1 with
  | none =>
    rw [hcore] at h
    cases h
  | some b =>
    rw [hcore] at h
    refine ⟨b, rfl, fun hlist => ?_⟩
    dsimp only at h
    rw [hlist] at h
    exact h

/-- An annotation that names a type is a list as soon as lists are nested in it. -/
theorem isList_iff_listDepth_pos {names : SchemaNames} {n : String} (h : a.declaredName names = some n) :
    (a.declared names).isList = true ↔ 0 < a.listDepth := by
  obtain ⟨b, hcore, hname⟩ := core_of_declaredName h
  have hplain {c : Ann} (hlist : listElement? c = none) (hunnamed : c.typeName names = none) : b ≠ c := by
    rintro rfl
    cases hunnamed.symm.trans (hname hlist)
  rw [← listDepth_core (b := b) (n := (core a).2) (by rw [← hcore]),
    listDepth_pos_iff (fun _ _ => hplain rfl rfl) (fun _ _ => hplain rfl rfl)]
  simp only [declared, hcore, Option.bind_some]

end Depth

end Ann

theorem WireType.layers_wrap (key : TypeKey) (isList nullable : Bool) :
    ((named key).wrap isList nullable).layers = if isList then 1 else 0 := by
  cases isList <;> cases nullable <;> rfl

section Layers
variable {names : SchemaNames} {registry : Registry} {a e : Ann} {hasDefault : Bool} {place : String} {w : WireType}

theorem typeNamed_eq_ok {name : Option String} {key : TypeKey} (h : typeNamed registry place name = .ok key) :
    ∃ n, name = some n ∧ n ≠ "" ∧ registry.resolve n = .ok key := by
  unfold typeNamed at h
  split at h
  · cases h
  · next n =>
    split at h
    · cases h
    · next hn => exact ⟨n, rfl, hn, h⟩

/-- Of all the lists in an annotation the inferred type keeps one. -/
theorem layers_of_inferType (h : inferType names registry a none hasDefault place = .ok w) :
    w.layers = min 1 a.listDepth := by
  rw [inferType_eq] at h
  obtain ⟨-, -, h⟩ := Attempt.bind_eq_ok.1 h
  obtain ⟨key, hkey, rfl⟩ := Attempt.map_eq_ok.1 h
  obtain ⟨n, hn, -, -⟩ := typeNamed_eq_ok hkey
  have hlist := Ann.isList_iff_listDepth_pos hn
  rw [WireType.layers_wrap, Option.any_none, Bool.or_false]
  split
  · next h =>
    have := hlist.1 h
    omega
  · next h =>
    have := mt hlist.2 h
    omega

theorem Ann.core_of_unwrapOptional {spelling : Spelling} {origin : Builtin} {args : List Ann}
    (h : a.unwrapOptional = generic spelling origin args) : (core a).1 = some (generic spelling origin args) := by
  unfold unwrapOptional at h
  unfold core
  split at h
  · next sp ms hms =>
    rw [hms]
    dsimp only
    generalize nonNull ms = members at h ⊢
    rcases members with _ | ⟨m, _ | ⟨_, _⟩⟩
    · cases h
    · exact congrArg some h
    · cases h
  · rw [h]

theorem inferType_of_list {spelling : Spelling} {origin : Builtin} {es : List Ann}
    (hshape : a.unwrapOptional = .generic spelling origin (e :: es)) (horigin : Ann.isListOrigin origin = true)
    (helement : e.isEllipsis = false) :
    inferType names registry a none hasDefault place =
      (inferType names registry e none hasDefault place).map fun w =>
        (WireType.named w.base).wrap true (hasDefault || (a.declared names).nullable) := by
  have hcore := Ann.core_of_unwrapOptional hshape
  have hfirst : Ann.listElement? (.generic spelling origin (e :: es)) = some (some e) := by
    rw [Ann.listElement?, if_pos horigin, Ann.firstElement?, List.find?_cons_of_pos (by rw [helement]; rfl)]
  have hinner : a.innermost? = e.innermost? := by
    rw [Ann.innermost?_eq, hcore]
    dsimp only
    rw [hfirst]
  have hname : inferredName names a none = inferredName names e none :=
    Ann.declaredName_of_element hcore hfirst
  have hlist : (a.declared names).isList = true := by
    simp only [Ann.declared, hcore, Option.bind_some, hfirst, Option.isSome_some]
  rw [inferType_eq, inferType_eq, hinner, hname, hlist]
  cases Ann.ensureHashable e.innermost? with
  | error f => rfl
  | ok u =>
    cases typeNamed registry place (inferredName names e none) with
    | error f => rfl
    | ok key =>
      simp only [Attempt.ok_bind, Attempt.map_ok, WireType.base_wrap, Bool.true_or]
      rfl

theorem typeNamed_untyped_iff {name : Option String} :
    typeNamed registry place name = .error (.untyped place) ↔ name.getD "" = "" := by
  unfold typeNamed Registry.resolve
  cases name with
  | none => exact iff_of_true rfl rfl
  | some n =>
    dsimp only
    by_cases hn : n = ""
    · exact iff_of_true (if_pos hn) hn
    · rw [if_neg hn]
      refine iff_of_false (fun h => ?_) hn
      split at h <;> cases h

/-- An annotation is refused as untyped where its innermost element can be read, but names nothing. -/
theorem inferType_untyped_iff :
    inferType names registry a none hasDefault place = .error (.untyped place) ↔
      a.innermost?.bind Ann.unhashable? = none ∧ (a.declaredName names).getD "" = "" := by
  rw [inferType_eq, Ann.ensureHashable]
  cases a.innermost?.bind Ann.unhashable? with
  | some t => exact iff_of_false nofun nofun
  | none =>
    dsimp only
    rw [Attempt.ok_bind, Attempt.map_eq_error, typeNamed_untyped_iff]
    exact (and_iff_right rfl).symm

/-- Of the lists in an annotation at most one is kept, so all of them are if they are not nested. A list has the type of
its first element, as one list, and is refused if that is; neither the lists in that element nor the other elements
matter. An annotation is refused as untyped only if its innermost element names nothing. -/
theorem inferred_layers_iff (names : SchemaNames) (registry : Registry) (a : Ann) (hasDefault : Bool) (place : String) :
    (∀ w, inferType names registry a none hasDefault place = .ok w →
      w.layers = min 1 a.listDepth ∧ (w.layers = a.listDepth ↔ a.listDepth ≤ 1)) ∧
    (∀ spelling origin e es, a.unwrapOptional = .generic spelling origin (e :: es) → Ann.isListOrigin origin = true →
      e.isEllipsis = false →
      inferType names registry a none hasDefault place =
        (inferType names registry e none hasDefault place).map fun w =>
          (WireType.named w.base).wrap true (hasDefault || (a.declared names).nullable)) ∧
    (inferType names registry a none hasDefault place = .error (.untyped place) ↔
      a.innermost?.bind Ann.unhashable? = none ∧ (a.declaredName names).getD "" = "") := by
  refine ⟨fun w h => ?_, fun _ _ _ _ => inferType_of_list, inferType_untyped_iff⟩
  rw [layers_of_inferType h]
  exact ⟨rfl, by omega⟩

end Layers

namespace Tables

def int : Ann := .cls (.builtin .int)
def str : Ann := .cls (.builtin .str)

def pair : Ann :=
  .union .aliased [.generic .direct .tuple [int, str], .noneType]

def table : Ann :=
  .generic .direct .list [.generic .direct .list [int]]

def inferred (a : Ann) : Except Failure WireType :=
  inferType (fun _ => none) {} a none false "argument 'x'"

def named (name : String) : WireType :=
  .named ⟨name, .builtin⟩

theorem inferred_int : inferred int = .ok (.nonNull (named "Int")) :=
  Attempt.eq_ok_of_toOption (by decide +kernel)

theorem inferred_str : inferred str = .ok (.nonNull (named "String")) :=
  Attempt.eq_ok_of_toOption (by decide +kernel)

theorem inferred_pair : inferred pair = .ok (.list (named "Int")) :=
  Attempt.eq_ok_of_toOption (by decide +kernel)

theorem inferred_table : inferred table = .ok (.nonNull (.list (named "Int"))) :=
  Attempt.eq_ok_of_toOption (by decide +kernel)

end Tables

/-- A pair keeps its one layer, and is read as its first item is. -/
theorem Tables.pair_layers :
    Tables.inferred Tables.pair = .ok (.list (Tables.named "Int")) ∧
    (WireType.list (Tables.named "Int")).layers = Tables.pair.listDepth ∧
    Tables.inferred Tables.pair = (Tables.inferred Tables.int).map fun w =>
      (WireType.named w.base).wrap true (Tables.pair.declared fun _ => none).nullable := by
  obtain ⟨hlayers, helement, -⟩ :=
    inferred_layers_iff (fun _ => none) {} Tables.pair false "argument 'x'"
  exact ⟨Tables.inferred_pair, (hlayers _ Tables.inferred_pair).2.2 (Nat.le_refl 1), helement _ _ _ _ rfl rfl rfl⟩

/-- Rows are accepted as one list of numbers, and a number and a text together as numbers. -/
theorem Tables.structure_flattened :
    (Tables.inferred Tables.table = .ok (.nonNull (.list (Tables.named "Int"))) ∧
      (WireType.nonNull (.list (Tables.named "Int"))).layers = 1 ∧ Tables.table.listDepth = 2) ∧
    Tables.inferred Tables.pair = .ok (.list (Tables.named "Int")) ∧
      Tables.inferred Tables.int = .ok (.nonNull (Tables.named "Int")) ∧
      Tables.inferred Tables.str = .ok (.nonNull (Tables.named "String")) :=
  ⟨⟨Tables.inferred_table, rfl, rfl⟩, Tables.inferred_pair, Tables.inferred_int, Tables.inferred_str⟩

end SchemaAssembly
