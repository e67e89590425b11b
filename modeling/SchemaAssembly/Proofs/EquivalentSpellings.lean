import SchemaAssembly.Proofs.MetadataPlacement

/-! Annotations that are spelled in different ways. A union is written through the special form or with bars, with its
members in any order; a list through an alias or on the collection itself; the name of an element in quotes or as a
reference; and metadata may be around the whole, around the member of an optional and around an element. None of this
changes what is read. Only metadata that cannot be looked up in a table may keep an annotation from being read. -/

namespace SchemaAssembly

namespace Ann

/-- One change of spelling, at any depth. The flag says whether metadata may be put around the whole: that is so for an
annotation itself and for the element of a list. `layer` says which metadata. The members of a union stay as many as
they are, so none becomes equal to another. -/
inductive Respells (layer : List Meta → Prop) : Bool → Ann → Ann → Prop where
  | union {whole : Bool} (spelling spelling' : Spelling) {ms ms' : List Ann} (h : ms.Perm ms') :
    Respells layer whole (union spelling ms) (union spelling' ms')
  | bare {whole : Bool} (name : String) {origin : Builtin} (h : isListOrigin origin = true) :
    Respells layer whole (cls (.builtin origin)) (bareAlias name origin)
  | subscripted {whole : Bool} {name : String} {origin : Builtin} {index : Index} {a b : Ann}
    (h : isListOrigin origin = true) (ha : subscript (cls (.builtin origin)) index = .ok a)
    (hb : subscript (bareAlias name origin) index = .ok b) : Respells layer whole a b
  | quoted {s : String} (whole : Bool) (h : s ≠ "") : Respells layer true (text s) (reference s whole)
  | layered {a b : Ann} {ms : List Meta} (hms : layer ms) (h : annotatedWith a ms = .ok b) : Respells layer true a b
  | member {whole : Bool} (spelling : Spelling) {m m' : Ann} {ms : List Meta} (hms : layer ms)
    (hunion : ∀ spelling ms, m ≠ union spelling ms) (hnone : m.isNoneType = false) (h : annotatedWith m ms = .ok m') :
    Respells layer whole (union spelling [m, noneType]) (union spelling [m', noneType])
  | inArgument {whole : Bool} (spelling : Spelling) (origin : Builtin) (before after : List Ann) {a b : Ann}
    (h : Respells layer (isListOrigin origin) a b) :
    Respells layer whole (generic spelling origin (before ++ a :: after))
      (generic spelling origin (before ++ b :: after))
  | inMember {whole : Bool} (spelling : Spelling) (before after : List Ann) {a b : Ann} (h : Respells layer false a b) :
    Respells layer whole (union spelling (before ++ a :: after)) (union spelling (before ++ b :: after))
  | inAnnotated {whole : Bool} (ms : List Meta) {a b : Ann} (h : Respells layer false a b) :
    Respells layer whole (annotated a ms) (annotated b ms)
  | inClassVar {whole : Bool} {a b : Ann} (h : Respells layer false a b) :
    Respells layer whole (classVar a) (classVar b)
  | inTuple {whole : Bool} (before after : List Ann) {a b : Ann} (h : Respells layer false a b) :
    Respells layer whole (tuple (before ++ a :: after)) (tuple (before ++ b :: after))

/-- The same annotation in another spelling, after any number of changes in either direction. -/
def Respelled (layer : List Meta → Prop) : Ann → Ann → Prop :=
  Relation.EqvGen (Respells layer true)

/-- Metadata that can be looked up in a table. -/
def HashableLayer (ms : List Meta) : Prop :=
  ms.findSome? Meta.unhashable? = none

/-- What names the type of a single annotation that is neither null nor a union. -/
def namedBy? (b : Ann) : Option Ann :=
  match listElement? b with
  | some (some e) => e.innermost?
  | some none => none
  | none => some b

theorem innermost?_eq_bind (a : Ann) : a.innermost? = (core a).1.bind namedBy? := by
  rw [innermost?_eq]
  cases (core a).1 with
  | none => rfl
  | some b => rfl

section Alike
variable {hashable : Prop} {a b x y z : Ann}

/-- Two annotations that name a type name the same one, and both or neither can be looked up in a table, where that is
asked for. -/
structure NameAlike (hashable : Prop) (x y : Option Ann) : Prop where
  name : ∀ names, x.bind (typeName names) = y.bind (typeName names)
  lookup : hashable → (x.bind unhashable? = none ↔ y.bind unhashable? = none)

/-- Single annotations are both lists or neither, and what names their types does so alike. -/
structure HeadAlike (hashable : Prop) (x y : Ann) : Prop where
  isList : (listElement? x).isSome = (listElement? y).isSome
  named : NameAlike hashable x.namedBy? y.namedBy?

/-- Cores that both name nothing or are alike, with null or without. -/
inductive CoreAlike (hashable : Prop) : Option Ann × Bool → Option Ann × Bool → Prop where
  | none (nullable : Bool) : CoreAlike hashable (none, nullable) (none, nullable)
  | some (nullable : Bool) {x y : Ann} (h : HeadAlike hashable x y) :
    CoreAlike hashable (some x, nullable) (some y, nullable)

/-- What is read off two annotations is the same, also where they are elements of a list. -/
structure ReadAlike (hashable : Prop) (a b : Ann) : Prop where
  core : CoreAlike hashable (core a) (core b)
  ellipsis : a.isEllipsis = b.isEllipsis
  lookup : hashable → (a.unhashable? = none ↔ b.unhashable? = none)

/-- What is read off two annotations as members of a union is the same. -/
structure MemberAlike (hashable : Prop) (a b : Ann) : Prop where
  head : HeadAlike hashable a.strip b.strip
  isNone : a.isNoneType = b.isNoneType

theorem NameAlike.refl (x : Option Ann) : NameAlike hashable x x := ⟨fun _ => rfl, fun _ => Iff.rfl⟩

theorem NameAlike.symm {x y : Option Ann} (h : NameAlike hashable x y) : NameAlike hashable y x :=
  ⟨fun names => (h.name names).symm, fun hh => (h.lookup hh).symm⟩

theorem NameAlike.trans {x y z : Option Ann} (h : NameAlike hashable x y) (h' : NameAlike hashable y z) :
    NameAlike hashable x z :=
  ⟨fun names => (h.name names).trans (h'.name names), fun hh => (h.lookup hh).trans (h'.lookup hh)⟩

theorem HeadAlike.refl (x : Ann) : HeadAlike hashable x x := ⟨rfl, .refl _⟩

theorem HeadAlike.symm (h : HeadAlike hashable x y) : HeadAlike hashable y x := ⟨h.isList.symm, h.named.symm⟩

theorem HeadAlike.trans (h : HeadAlike hashable x y) (h' : HeadAlike hashable y z) : HeadAlike hashable x z :=
  ⟨h.isList.trans h'.isList, h.named.trans h'.named⟩

theorem CoreAlike.refl (c : Option Ann × Bool) : CoreAlike hashable c c := by
  obtain ⟨_ | x, nullable⟩ := c
  · exact .none nullable
  · exact .some nullable (.refl x)

theorem CoreAlike.symm {c d : Option Ann × Bool} (h : CoreAlike hashable c d) : CoreAlike hashable d c := by
  cases h with
  | none nullable => exact .none nullable
  | some nullable h => exact .some nullable h.symm

theorem CoreAlike.trans {c d e : Option Ann × Bool} (h : CoreAlike hashable c d) (h' : CoreAlike hashable d e) :
    CoreAlike hashable c e := by
  cases h with
  | none nullable => exact h'
  | some nullable h =>
    cases h' with
    | some _ h' => exact .some nullable (h.trans h')

theorem ReadAlike.refl (a : Ann) : ReadAlike hashable a a := ⟨.refl _, rfl, fun _ => Iff.rfl⟩

theorem ReadAlike.symm (h : ReadAlike hashable a b) : ReadAlike hashable b a :=
  ⟨h.core.symm, h.ellipsis.symm, fun hh => (h.lookup hh).symm⟩

theorem ReadAlike.trans {c : Ann} (h : ReadAlike hashable a b) (h' : ReadAlike hashable b c) :
    ReadAlike hashable a c :=
  ⟨h.core.trans h'.core, h.ellipsis.trans h'.ellipsis, fun hh => (h.lookup hh).trans (h'.lookup hh)⟩

theorem CoreAlike.named (h : CoreAlike hashable (Ann.core a) (Ann.core b)) :
    NameAlike hashable a.innermost? b.innermost? := by
  rw [innermost?_eq_bind, innermost?_eq_bind]
  generalize Ann.core a = c at h
  generalize Ann.core b = d at h
  cases h with
  | none => exact .refl _
  | some _ h => exact h.named

theorem CoreAlike.isList {c d : Option Ann × Bool} (h : CoreAlike hashable c d) :
    (c.1.bind listElement?).isSome = (d.1.bind listElement?).isSome := by
  cases h with
  | none => rfl
  | some _ h => exact h.isList

theorem CoreAlike.nullable {c d : Option Ann × Bool} (h : CoreAlike hashable c d) : c.2 = d.2 := by
  cases h <;> rfl

theorem ReadAlike.declared_eq (h : ReadAlike hashable a b) (names : SchemaNames) :
    a.declared names = b.declared names := by
  unfold declared declaredName
  rw [h.core.named.name, h.core.nullable, h.core.isList]

end Alike

section Built
variable {a b : Ann} {ms : List Meta}

theorem isEllipsis_asArgument (whole : Bool) (a : Ann) : (a.asArgument whole).isEllipsis = a.isEllipsis := by
  cases a <;> rfl

theorem isEllipsis_annotate (a : Ann) (ms : List Meta) : (a.annotate ms).isEllipsis = false := by
  cases a <;> rfl

theorem core_annotate (a : Ann) (ms : List Meta) : core (a.annotate ms) = core a := by
  unfold core
  rw [strip_annotate]

theorem unhashable?_annotate (hms : HashableLayer ms) (a : Ann) :
    (a.annotate ms).unhashable? = none ↔ a.unhashable? = none := by
  unfold HashableLayer at hms
  cases a with
  | annotated base ns => simp [annotate, unhashable?, List.findSome?_append, hms]
  | _ => simp [annotate, unhashable?, hms]

/-- Metadata is put on an argument of its own kind: a text is a reference then, and the null object its class. -/
theorem annotatedWith_inv (h : annotatedWith a ms = .ok b) :
    a ≠ text "" ∧ a.isEllipsis = false ∧ b = (a.asArgument true).annotate ms := by
  unfold annotatedWith at h
  split at h
  · cases h
  obtain ⟨base, hbase, h⟩ := Attempt.bind_eq_ok.1 h
  obtain ⟨rfl, ha⟩ := checked_eq_ok hbase
  split at h
  · cases h
  · next hhome =>
    cases h
    refine ⟨ha, ?_, rfl⟩
    rw [← isEllipsis_asArgument true a]
    cases hkind : a.asArgument true with
    | ellipsis => exact absurd (by rw [hkind]; rfl) hhome
    | _ => rfl

theorem checkedAll_eq_ok {reason : String} {as bs : List Ann} (h : checkedAll reason as = .ok bs) :
    (∀ a ∈ as, a ≠ text "") ∧ bs = as.map (asArgument false) := by
  unfold checkedAll at h
  induction Attempt.mapM_eq_ok.1 h with
  | nil => exact ⟨nofun, rfl⟩
  | cons ha hrest ih =>
    obtain ⟨rfl, hne⟩ := checked_eq_ok ha
    obtain ⟨hnes, rfl⟩ := ih (Attempt.mapM_eq_ok.2 hrest)
    exact ⟨List.forall_mem_cons.2 ⟨hne, hnes⟩, rfl⟩

theorem subscript_list {origin : Builtin} {index : Index} (hlist : isListOrigin origin = true)
    (h : subscript (cls (.builtin origin)) index = .ok a) : a = generic .direct origin index.items := by
  have hcall : origin ≠ callable := by
    rintro rfl
    exact absurd hlist (by decide)
  unfold subscript at h
  dsimp only at h
  have hpassed : ClassRef.builtin origin ≠ .passed := by
    rintro heq
    cases heq
    exact absurd hlist (by decide)
  rw [if_neg hcall, if_neg hpassed] at h
  split at h
  · cases h
    rfl
  · cases h

theorem subscript_alias {name : String} {origin : Builtin} {index : Index} (hlist : isListOrigin origin = true)
    (h : subscript (bareAlias name origin) index = .ok b) :
    (∀ a ∈ index.items, a ≠ text "") ∧ b = generic .aliased origin (index.items.map (asArgument false)) := by
  have hcall : origin ≠ callable := by
    rintro rfl
    exact absurd hlist (by decide)
  change aliasedGeneric name origin index.items = .ok b at h
  unfold aliasedGeneric at h
  rw [if_neg hcall] at h
  split at h
  · obtain ⟨args, hargs, rfl⟩ := Attempt.map_eq_ok.1 h
    obtain ⟨hne, rfl⟩ := checkedAll_eq_ok hargs
    exact ⟨hne, rfl⟩
  · obtain ⟨args, hargs, h⟩ := Attempt.bind_eq_ok.1 h
    obtain ⟨hne, rfl⟩ := checkedAll_eq_ok hargs
    obtain ⟨_, -, h⟩ := Attempt.bind_eq_ok.1 h
    cases h
    exact ⟨hne, rfl⟩

end Built

section Parts
variable {hashable : Prop} {a b m x y : Ann} {ms ms' before after args : List Ann} {spelling : Spelling}
  {layers : List Meta}

/-- Single annotations that name nothing are alike, if both or neither can be looked up in a table. -/
theorem headAlike_of_unnamed (hx : listElement? x = none ∧ ∀ names, x.typeName names = none)
    (hy : listElement? y = none ∧ ∀ names, y.typeName names = none)
    (h : hashable → (x.unhashable? = none ↔ y.unhashable? = none)) : HeadAlike hashable x y where
  isList := by rw [hx.1, hy.1]
  named := by
    unfold namedBy?
    rw [hx.1, hy.1]
    exact ⟨fun names => (hx.2 names).trans (hy.2 names).symm, h⟩

theorem typeName_reference {s : String} (hs : s ≠ "") (whole : Bool) (names : SchemaNames) :
    (text s).typeName names = (reference s whole).typeName names := by
  simp only [typeName, hs, if_false]

theorem readAlike_asArgument (whole : Bool) (h : a ≠ text "") : ReadAlike hashable a (a.asArgument whole) := by
  cases a with
  | text s =>
    have hname := typeName_reference (fun heq => h (heq ▸ rfl)) whole
    exact ⟨.some false ⟨rfl, hname, fun _ => Iff.rfl⟩, rfl, fun _ => Iff.rfl⟩
  | null => exact ⟨.none true, rfl, fun _ => Iff.rfl⟩
  | _ => exact .refl _

theorem headAlike_asArgument (whole : Bool) (h : a ≠ text "") :
    HeadAlike hashable a.strip (a.asArgument whole).strip := by
  cases a with
  | text s =>
    exact ⟨rfl, typeName_reference (fun heq => h (heq ▸ rfl)) whole, fun _ => Iff.rfl⟩
  | null => exact headAlike_of_unnamed ⟨rfl, fun _ => rfl⟩ ⟨rfl, fun _ => rfl⟩ fun _ => Iff.rfl
  | _ => exact .refl _

theorem firstUnhashable?_replace (h : a.unhashable? = none ↔ b.unhashable? = none) :
    firstUnhashable? (before ++ a :: after) = none ↔ firstUnhashable? (before ++ b :: after) = none := by
  simp only [firstUnhashable?_eq_none, List.forall_mem_append, List.forall_mem_cons, h]

theorem firstUnhashable?_perm (h : ms.Perm ms') : firstUnhashable? ms = none ↔ firstUnhashable? ms' = none := by
  simp only [firstUnhashable?_eq_none, h.mem_iff]

/-- Two lists are alike if their first elements are, or neither has one. -/
theorem headAlike_list {spelling' : Spelling} {origin : Builtin} {args' : List Ann} (hlist : isListOrigin origin = true)
    (h : Option.Rel (ReadAlike hashable) (firstElement? args) (firstElement? args')) :
    HeadAlike hashable (generic spelling origin args) (generic spelling' origin args') where
  isList := by simp only [listElement?, hlist, if_true]; rfl
  named := by
    unfold namedBy? listElement?
    simp only [hlist, if_true]
    generalize firstElement? args = e at h
    generalize firstElement? args' = e' at h
    cases h with
    | none => exact .refl _
    | some h => exact h.core.named

theorem firstElement?_map (args : List Ann) :
    firstElement? (args.map (asArgument false)) = (firstElement? args).map (asArgument false) := by
  unfold firstElement?
  rw [List.find?_map]
  simp only [Function.comp_def, isEllipsis_asArgument]

theorem firstElement?_replace (h : ReadAlike hashable a b) :
    Option.Rel (ReadAlike hashable) (firstElement? (before ++ a :: after)) (firstElement? (before ++ b :: after)) := by
  have hsame (e : Option Ann) : Option.Rel (ReadAlike hashable) e e := by
    cases e with
    | none => exact .none
    | some e => exact .some (.refl e)
  unfold firstElement?
  rw [List.find?_append, List.find?_append, List.find?_cons, List.find?_cons, ← h.ellipsis]
  cases before.find? fun e => !e.isEllipsis with
  | some e => exact hsame _
  | none =>
    cases a.isEllipsis with
    | true => exact hsame _
    | false => exact .some h

theorem headAlike_generic {origin : Builtin} (h : ReadAlike hashable a b) :
    HeadAlike hashable (generic spelling origin (before ++ a :: after))
      (generic spelling origin (before ++ b :: after)) := by
  by_cases hlist : isListOrigin origin = true
  · exact headAlike_list hlist (firstElement?_replace h)
  · have hunnamed (args : List Ann) : listElement? (generic spelling origin args) = none ∧
        ∀ names, (generic spelling origin args).typeName names = none := ⟨if_neg hlist, fun _ => rfl⟩
    exact headAlike_of_unnamed (hunnamed _) (hunnamed _) fun hh => firstUnhashable?_replace (h.lookup hh)

theorem headAlike_union {spelling' : Spelling}
    (h : hashable → (firstUnhashable? ms = none ↔ firstUnhashable? ms' = none)) :
    HeadAlike hashable (union spelling ms) (union spelling' ms') :=
  headAlike_of_unnamed ⟨rfl, fun _ => rfl⟩ ⟨rfl, fun _ => rfl⟩ h

theorem core_union_of_single (h : nonNull ms = [m]) : core (union spelling ms) = (some m.strip, ms.any isNoneType) := by
  unfold core
  simp only [strip, h]

theorem core_union_of_other (h : (nonNull ms).length ≠ 1) : core (union spelling ms) = (none, ms.any isNoneType) := by
  unfold core
  simp only [strip]
  split
  · next m hm =>
    rw [hm] at h
    exact absurd rfl h
  · rfl

/-- Neither the order of its members nor the way it is written is read of a union. -/
theorem core_union_perm {spelling' : Spelling} (h : ms.Perm ms') :
    core (union spelling ms) = core (union spelling' ms') := by
  have hany : ms.any isNoneType = ms'.any isNoneType := h.any_eq
  have hnonNull : (nonNull ms).Perm (nonNull ms') := h.filter _
  by_cases hsingle : (nonNull ms).length = 1
  · obtain ⟨m, hm⟩ := List.length_eq_one_iff.1 hsingle
    rw [core_union_of_single hm, core_union_of_single (List.singleton_perm.1 (hm ▸ hnonNull)).symm, hany]
  · rw [core_union_of_other hsingle, core_union_of_other (hnonNull.length_eq ▸ hsingle), hany]

theorem coreAlike_member (h : MemberAlike hashable a b) :
    CoreAlike hashable (core (union spelling (before ++ a :: after))) (core (union spelling (before ++ b :: after))) := by
  have hany : (before ++ b :: after).any isNoneType = (before ++ a :: after).any isNoneType := by
    simp only [List.any_append, List.any_cons, h.isNone]
  have hnonNull (m : Ann) (hm : m.isNoneType = false) :
      nonNull (before ++ m :: after) = nonNull before ++ m :: nonNull after := by
    unfold nonNull
    rw [List.filter_append, List.filter_cons_of_pos (by rw [hm]; rfl)]
  cases hnone : a.isNoneType with
  | true =>
    obtain rfl := isNoneType_iff.1 hnone
    obtain rfl := isNoneType_iff.1 (h.isNone ▸ hnone)
    exact .refl _
  | false =>
    have ha := hnonNull a hnone
    have hb := hnonNull b (h.isNone ▸ hnone)
    by_cases hsingle : (nonNull before ++ nonNull after) = []
    · obtain ⟨hbefore, hafter⟩ := List.append_eq_nil_iff.1 hsingle
      rw [hbefore, hafter] at ha hb
      rw [core_union_of_single ha, core_union_of_single hb, hany]
      exact .some _ h.head
    · have hmore (m : Ann) : (nonNull before ++ m :: nonNull after).length ≠ 1 := fun hlength => hsingle (by
        rw [List.length_append, List.length_cons] at hlength
        exact List.eq_nil_of_length_eq_zero (by rw [List.length_append]; omega))
      rw [core_union_of_other (ha ▸ hmore a), core_union_of_other (hb ▸ hmore b), hany]
      exact .none _

theorem alike_of_head {whole : Bool} (ha : core a = (some a.strip, false)) (hb : core b = (some b.strip, false))
    (hhead : HeadAlike hashable a.strip b.strip) (hellipsis : a.isEllipsis = b.isEllipsis)
    (hnone : a.isNoneType = b.isNoneType) (hlookup : hashable → (a.unhashable? = none ↔ b.unhashable? = none)) :
    ReadAlike hashable a b ∧ (whole = false → MemberAlike hashable a b) := by
  refine ⟨⟨?_, hellipsis, hlookup⟩, fun _ => ⟨hhead, hnone⟩⟩
  rw [ha, hb]
  exact .some false hhead

theorem alike_bare {whole : Bool} (name : String) {origin : Builtin} (hlist : isListOrigin origin = true) :
    ReadAlike hashable (cls (.builtin origin)) (bareAlias name origin) ∧
      (whole = false → MemberAlike hashable (cls (.builtin origin)) (bareAlias name origin)) := by
  have hcls : listElement? (cls (.builtin origin)) = some none := if_pos hlist
  have halias : listElement? (bareAlias name origin) = some none := if_pos hlist
  have hcore : core (cls (.builtin origin)) = (some (cls (.builtin origin)), false) := by
    refine if_neg ?_
    rintro (h | h | h) <;> cases h <;> cases hlist
  have hnone : (cls (.builtin origin)).isNoneType = false := by
    rw [← Bool.not_eq_true, isNoneType_iff]
    rintro ⟨⟩
    cases hlist
  have hhead : HeadAlike hashable (cls (.builtin origin)) (bareAlias name origin) := by
    refine ⟨by rw [hcls, halias], ?_⟩
    unfold namedBy?
    rw [hcls, halias]
    exact .refl _
  exact alike_of_head hcore rfl hhead rfl hnone fun _ => Iff.rfl

theorem alike_subscripted {whole : Bool} {name : String} {origin : Builtin} {index : Index}
    (hlist : isListOrigin origin = true) (ha : subscript (cls (.builtin origin)) index = .ok a)
    (hb : subscript (bareAlias name origin) index = .ok b) :
    ReadAlike hashable a b ∧ (whole = false → MemberAlike hashable a b) := by
  obtain rfl := subscript_list hlist ha
  obtain ⟨hne, rfl⟩ := subscript_alias hlist hb
  have helements : Option.Rel (ReadAlike hashable) (firstElement? index.items)
      (firstElement? (index.items.map (asArgument false))) := by
    rw [firstElement?_map]
    cases he : firstElement? index.items with
    | none => exact .none
    | some e => exact .some (readAlike_asArgument false (hne e (List.mem_of_find?_eq_some he)))
  have hlookup : firstUnhashable? index.items = none ↔
      firstUnhashable? (index.items.map (asArgument false)) = none := by
    simp only [firstUnhashable?_eq_none, List.forall_mem_map, unhashable?_asArgument]
  exact alike_of_head rfl rfl (headAlike_list hlist helements) rfl rfl fun _ => hlookup

theorem readAlike_annotatedWith (h : annotatedWith a layers = .ok b) (hlayers : hashable → HashableLayer layers) :
    ReadAlike hashable a b := by
  obtain ⟨hne, hellipsis, rfl⟩ := annotatedWith_inv h
  have hargument : ReadAlike hashable a (a.asArgument true) := readAlike_asArgument true hne
  have hannotate : ReadAlike hashable (a.asArgument true) ((a.asArgument true).annotate layers) := by
    refine ⟨?_, ?_, fun hh => (unhashable?_annotate (hlayers hh) _).symm⟩
    · rw [core_annotate]
      exact .refl _
    · rw [isEllipsis_annotate, isEllipsis_asArgument, hellipsis]
  exact hargument.trans hannotate

theorem alike_optional {whole : Bool} (hnone : m.isNoneType = false) (hne : m ≠ text "")
    (hlayers : hashable → HashableLayer layers) :
    ReadAlike hashable (union spelling [m, noneType]) (union spelling [(m.asArgument true).annotate layers, noneType]) ∧
      (whole = false → MemberAlike hashable (union spelling [m, noneType])
        (union spelling [(m.asArgument true).annotate layers, noneType])) := by
  have hnone' : ((m.asArgument true).annotate layers).isNoneType = false := by
    obtain ⟨base, ns, h⟩ := annotate_eq (m.asArgument true) layers
    rw [h]
    rfl
  have hnull (m : Ann) : [m, noneType].any isNoneType = true := by
    rw [List.any_cons, List.any_cons]
    exact Bool.or_true _
  have hlookup (hh : hashable) : firstUnhashable? [m, noneType] = none ↔
      firstUnhashable? [(m.asArgument true).annotate layers, noneType] = none := by
    simp only [firstUnhashable?_eq_none, List.forall_mem_cons, unhashable?_annotate (hlayers hh), unhashable?_asArgument]
  refine ⟨⟨?_, rfl, hlookup⟩, fun _ => ⟨headAlike_union hlookup, rfl⟩⟩
  rw [core_union_of_single (nonNull_or_null hnone), core_union_of_single (nonNull_or_null hnone'), hnull, hnull,
    strip_annotate]
  exact .some true (headAlike_asArgument true hne)

end Parts

/-- A change of spelling changes nothing that is read. -/
theorem Respells.alike {layer : List Meta → Prop} {hashable : Prop} {whole : Bool} {a b : Ann}
    (hlayer : hashable → ∀ ms, layer ms → HashableLayer ms) (h : Respells layer whole a b) :
    ReadAlike hashable a b ∧ (whole = false → MemberAlike hashable a b) := by
  induction h with
  | union spelling spelling' hperm =>
    have hlookup := firstUnhashable?_perm hperm
    refine ⟨⟨?_, rfl, fun _ => hlookup⟩, fun _ => ⟨headAlike_union fun _ => hlookup, rfl⟩⟩
    rw [core_union_perm hperm]
    exact .refl _
  | bare name hlist => exact alike_bare name hlist
  | subscripted hlist ha hb => exact alike_subscripted hlist ha hb
  | quoted w hs => exact ⟨readAlike_asArgument w fun heq => hs (text.inj heq), nofun⟩
  | layered hms hbuilt => exact ⟨readAlike_annotatedWith hbuilt fun hh => hlayer hh _ hms, nofun⟩
  | member spelling hms hunion hnone hbuilt =>
    obtain ⟨hne, -, rfl⟩ := annotatedWith_inv hbuilt
    exact alike_optional hnone hne fun hh => hlayer hh _ hms
  | inArgument spelling origin before after _ ih =>
    exact alike_of_head rfl rfl (headAlike_generic ih.1) rfl rfl fun hh => firstUnhashable?_replace (ih.1.lookup hh)
  | @inMember _ spelling before after a b _ ih =>
    have hlookup (hh : hashable) : firstUnhashable? (before ++ a :: after) = none ↔
        firstUnhashable? (before ++ b :: after) = none := firstUnhashable?_replace (ih.1.lookup hh)
    exact ⟨⟨coreAlike_member (ih.2 rfl), rfl, hlookup⟩, fun _ => ⟨headAlike_union hlookup, rfl⟩⟩
  | @inAnnotated _ ms a b _ ih =>
    have hcore (c : Ann) : core (annotated c ms) = core c := by
      unfold core
      rw [strip]
    have hlookup (hh : hashable) : (annotated a ms).unhashable? = none ↔ (annotated b ms).unhashable? = none := by
      rw [unhashable?, unhashable?, Option.or_eq_none_iff, Option.or_eq_none_iff, ih.1.lookup hh]
    refine ⟨⟨?_, rfl, hlookup⟩, fun _ => ⟨?_, rfl⟩⟩
    · rw [hcore, hcore]
      exact ih.1.core
    · rw [strip, strip]
      exact (ih.2 rfl).head
  | inClassVar _ ih =>
    exact alike_of_head rfl rfl (headAlike_of_unnamed ⟨rfl, fun _ => rfl⟩ ⟨rfl, fun _ => rfl⟩ ih.1.lookup) rfl rfl
      ih.1.lookup
  | @inTuple _ before after a b _ ih =>
    have hlookup (hh : hashable) : firstUnhashable? (before ++ a :: after) = none ↔
        firstUnhashable? (before ++ b :: after) = none := firstUnhashable?_replace (ih.1.lookup hh)
    exact alike_of_head rfl rfl (headAlike_of_unnamed ⟨rfl, fun _ => rfl⟩ ⟨rfl, fun _ => rfl⟩ hlookup) rfl rfl hlookup

theorem Respelled.alike {layer : List Meta → Prop} {a b : Ann} (h : Respelled layer a b) :
    ReadAlike (∀ ms, layer ms → HashableLayer ms) a b := by
  induction h with
  | rel a b h => exact (h.alike id).1
  | refl a => exact .refl a
  | symm a b _ ih => exact ih.symm
  | trans a b c _ _ ih ih' => exact ih.trans ih'

theorem readDeclared_eq_ok {names : SchemaNames} {a : Ann} {d : Declared} :
    a.readDeclared names = .ok d ↔ a.innermost?.bind unhashable? = none ∧ a.declared names = d := by
  unfold readDeclared ensureHashable
  cases a.innermost?.bind unhashable? with
  | none => exact ⟨fun h => ⟨rfl, Except.ok.inj h⟩, fun h => congrArg Except.ok h.2⟩
  | some t => exact ⟨nofun, nofun⟩

/-- Equivalent spellings are read alike. Whatever metadata is added, what can be read of two spellings of an annotation
is the same; and if all of it can be looked up in a table, one can be read exactly if the other can. -/
theorem respelled_readDeclared {layer : List Meta → Prop} {a b : Ann} (h : Respelled layer a b) (names : SchemaNames) :
    (∀ d e, a.readDeclared names = .ok d → b.readDeclared names = .ok e → d = e) ∧
    ((∀ ms, layer ms → HashableLayer ms) → ∀ d, a.readDeclared names = .ok d ↔ b.readDeclared names = .ok d) := by
  have hdeclared : a.declared names = b.declared names := h.alike.declared_eq names
  simp only [readDeclared_eq_ok]
  refine ⟨fun d e hd he => ?_, fun hlayer d => ?_⟩
  · rw [← hd.2, ← he.2, hdeclared]
  · rw [h.alike.core.named.lookup hlayer, hdeclared]

end Ann

namespace Leaflet

/-- An optional list of quoted elements, through aliases. -/
def aliased : Ann :=
  .union .aliased [.generic .aliased .list [.reference "Entry" false], .noneType]

/-- The same list on the collection and with bars, null in front and metadata on the element. -/
def direct : Ann :=
  .union .direct [.noneType, .generic .direct .list [.annotated (.reference "Entry" true) [.other (.int 1)]]]

theorem refer_entry (whole : Bool) : Ann.refer "Entry" whole = .ok (.reference "Entry" whole) := by
  have hnull : "Entry".contains Ann.nullCharacter = false := by
    rw [String.contains_char_eq]
    decide
  have hreads : Expression.isReference "Entry" = true := by decide +kernel
  unfold Ann.refer
  rw [if_neg (by decide), if_neg (by rw [hnull]; exact Bool.false_ne_true), if_pos hreads]

theorem list_built : Ann.subscript (.bareAlias "List" .list) (.one (.text "Entry")) =
    .ok (.generic .aliased .list [.reference "Entry" false]) := by
  change Ann.aliasedGeneric "List" .list [.text "Entry"] = _
  have hchecked (reason : String) : Ann.checkedAll reason [.text "Entry"] = .ok [.reference "Entry" false] := by
    change [Ann.text "Entry"].mapM (Ann.checked reason false) = _
    simp only [List.mapM_cons, List.mapM_nil, Ann.checked, refer_entry]
    rfl
  unfold Ann.aliasedGeneric
  simp only [hchecked]
  rfl

theorem element_built : Ann.annotatedWith (.text "Entry") [.other (.int 1)] =
    .ok (.annotated (.reference "Entry" true) [.other (.int 1)]) := by
  unfold Ann.annotatedWith
  simp only [Ann.checked, refer_entry]
  rfl

theorem aliased_built : Ann.optionalOf (.generic .aliased .list [.reference "Entry" false]) = .ok aliased :=
  Ann.optionalOf_of_not_union rfl nofun rfl rfl

theorem direct_built :
    Ann.bar .null (.generic .direct .list [.annotated (.reference "Entry" true) [.other (.int 1)]]) = .ok direct := by
  have hother : Ann.anySame [.noneType]
      (.generic .direct .list [.annotated (.reference "Entry" true) [.other (.int 1)]]) = false := by decide +kernel
  have hdistinct : Ann.distinct direct.members = direct.members := by
    simp [Ann.distinct, direct, Ann.members, Ann.anySame, hother]
  change Except.ok (Ann.makeUnion .direct direct.members) = _
  have hflat : direct.members.flatMap Ann.members = direct.members := rfl
  rw [Ann.makeUnion, hflat, hdistinct]
  rfl

theorem aliased_respelled_direct : Ann.Respelled Ann.HashableLayer aliased direct := by
  have hlist : Ann.Respells Ann.HashableLayer false (.generic .direct .list [.text "Entry"])
      (.generic .aliased .list [.reference "Entry" false]) := .subscripted rfl rfl list_built
  have hhashable : Ann.HashableLayer [.other (.int 1)] := rfl
  have helement : Ann.Respells Ann.HashableLayer true (.text "Entry")
      (.annotated (.reference "Entry" true) [.other (.int 1)]) := .layered hhashable element_built
  have hlayer : Ann.Respells Ann.HashableLayer false (.generic .direct .list [.text "Entry"])
      (.generic .direct .list [.annotated (.reference "Entry" true) [.other (.int 1)]]) :=
    .inArgument .direct .list [] [] helement
  refine .trans _ _ _ (.symm _ _ (.rel _ _ (.inMember .aliased [] [.noneType] hlist))) ?_
  refine .trans _ _ _ (.rel _ _ (.inMember .aliased [] [.noneType] hlayer)) ?_
  exact .rel _ _ (.union .aliased .direct (List.Perm.swap _ _ _))

def table (number : Ann) : Ann :=
  .generic .direct .dict [.cls (.builtin .str), .generic .direct .list [number]]

def number : Ann := .cls (.builtin .int)

def marked : Ann := .annotated number [.other (.list [])]

theorem innermost?_table (number : Ann) : (table number).innermost? = some (table number) := by
  rw [Ann.innermost?_eq_bind]
  rfl

end Leaflet

theorem Leaflet.aliased_read_as_direct :
    Ann.optionalOf (.generic .aliased .list [.reference "Entry" false]) = .ok Leaflet.aliased ∧
    Ann.bar .null (.generic .direct .list [.annotated (.reference "Entry" true) [.other (.int 1)]]) =
      .ok Leaflet.direct ∧
    Ann.Respelled Ann.HashableLayer Leaflet.aliased Leaflet.direct ∧
    Leaflet.aliased.readDeclared (fun _ => none) = .ok ⟨some "Entry", true, true⟩ ∧
    Leaflet.direct.readDeclared (fun _ => none) = .ok ⟨some "Entry", true, true⟩ := by
  have hdeclared : Leaflet.aliased.declared (fun _ => none) = ⟨some "Entry", true, true⟩ := by decide +kernel
  have haliased : Leaflet.aliased.readDeclared (fun _ => none) = .ok ⟨some "Entry", true, true⟩ := by
    rw [Ann.readDeclared_of_hashable rfl, hdeclared]
  have hsame := Ann.respelled_readDeclared Leaflet.aliased_respelled_direct (fun _ => none)
  exact ⟨Leaflet.aliased_built, Leaflet.direct_built, Leaflet.aliased_respelled_direct, haliased,
    (hsame.2 (fun _ hms => hms) _).1 haliased⟩

/-- In a table, metadata on the element of a list keeps the whole from being read. -/
theorem Leaflet.marked_table_unread :
    Ann.annotatedWith Leaflet.number [.other (.list [])] = .ok Leaflet.marked ∧
    Ann.subscript (.cls (.builtin .dict)) (.many [.cls (.builtin .str), .generic .direct .list [Leaflet.marked]]) =
      .ok (Leaflet.table Leaflet.marked) ∧
    Ann.Respelled (fun _ => True) (Leaflet.table Leaflet.number) (Leaflet.table Leaflet.marked) ∧
    (Leaflet.table Leaflet.number).readDeclared (fun _ => none) = .ok ⟨none, false, false⟩ ∧
    (Leaflet.table Leaflet.marked).readDeclared (fun _ => none) = .error (.unhashable "list") := by
  have hbuilt : Ann.annotatedWith Leaflet.number [.other (.list [])] = .ok Leaflet.marked := rfl
  have hlist : Ann.Respells (fun _ => True) false (.generic .direct .list [Leaflet.number])
      (.generic .direct .list [Leaflet.marked]) := .inArgument .direct .list [] [] (.layered trivial hbuilt)
  have htable : Ann.Respells (fun _ => True) true (Leaflet.table Leaflet.number) (Leaflet.table Leaflet.marked) :=
    .inArgument .direct .dict [.cls (.builtin .str)] [] hlist
  refine ⟨hbuilt, rfl, .rel _ _ htable, ?_, ?_⟩
  · exact Ann.readDeclared_eq_ok.2 ⟨by rw [Leaflet.innermost?_table]; rfl, by decide +kernel⟩
  · unfold Ann.readDeclared Ann.ensureHashable
    rw [Leaflet.innermost?_table]
    rfl

end SchemaAssembly
