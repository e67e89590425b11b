import SchemaAssembly.Proofs.AnnotationReading
import SchemaAssembly.Proofs.AnnotationResolution

/-! Names of classes in quotes inside an annotation. Unevaluated, the quoted text is itself the name of the type, while
the class that it stands for has a name of its own in the schema. The two declare the same exactly if these are one. -/

namespace SchemaAssembly

namespace Ann
variable {names : SchemaNames} {s : String} {c : ClassRef} {a b : Ann}

/-- An annotation that quotes the name of its type, and the same one with a class in the place of the name. -/
inductive Quotes (s : String) (c : ClassRef) : Ann → Ann → Prop where
  | reference (whole : Bool) : Quotes s c (reference s whole) (cls c)
  | listed {origin : Builtin} (horigin : isListOrigin origin) :
    Quotes s c (generic .direct origin [text s]) (generic .direct origin [cls c])
  | element (spelling : Spelling) {origin : Builtin} {a b : Ann} (horigin : isListOrigin origin) (h : Quotes s c a b) :
    Quotes s c (generic spelling origin [a]) (generic spelling origin [b])
  | optional {spelling : Spelling} {a b : Ann} (h : Quotes s c a b) (ha : core a = (some a, false))
    (hb : core b = (some b, false)) (hjoined : IsJoined spelling [b, noneType]) :
    Quotes s c (union spelling [a, noneType]) (union spelling [b, noneType])
  | annotated {a b : Ann} (metadata : List Meta) (h : Quotes s c a b) (hlayer : b.strip = b) :
    Quotes s c (annotated a metadata) (annotated b metadata)

theorem strip_of_core {n : Bool} (h : core a = (some a, n)) : a.strip = a := by
  cases a with
  | annotated base ms =>
    have hsize := sizeOf_core_le (show core base = (some (annotated base ms), n) from h)
    simp only [annotated.sizeOf_spec] at hsize
    omega
  | _ => rfl

theorem core_optional {spelling : Spelling} (h : core a = (some a, false)) :
    core (union spelling [a, noneType]) = (some a, true) := by
  have hnone : a.isNoneType = false := by
    rw [← Bool.not_eq_true, isNoneType_iff]
    rintro rfl
    cases h
  have hother : nonNull [a, noneType] = [a] := by
    have hlast : noneType.isNoneType = true := rfl
    simp only [nonNull, List.filter_cons, List.filter_nil, hnone, hlast, Bool.not_true, Bool.not_false, if_true]
    rfl
  unfold core
  simp only [strip, hother, strip_of_core h, List.any_cons, hnone]
  rfl

theorem core_list (spelling : Spelling) (origin : Builtin) (args : List Ann) :
    core (generic spelling origin args) = (some (generic spelling origin args), false) := rfl

theorem listElement?_single {spelling : Spelling} {origin : Builtin} (horigin : isListOrigin origin)
    (h : a.isEllipsis = false) : listElement? (generic spelling origin [a]) = some (some a) := by
  simp only [listElement?, firstElement?, horigin, if_true, List.find?_cons, h, Bool.not_false]

theorem innermost?_single {spelling : Spelling} {origin : Builtin} (horigin : isListOrigin origin)
    (h : a.isEllipsis = false) : (generic spelling origin [a]).innermost? = a.innermost? := by
  rw [innermost?_eq, core_list]
  simp only [listElement?_single horigin h]

theorem innermost?_optional {spelling : Spelling} (h : core a = (some a, false)) :
    (union spelling [a, noneType]).innermost? = a.innermost? := by
  rw [innermost?_eq, innermost?_eq a, core_optional h, h]

theorem innermost?_annotated (a : Ann) (ms : List Meta) : (annotated a ms).innermost? = a.innermost? := by
  have hcore : core (annotated a ms) = core a := rfl
  rw [innermost?_eq, innermost?_eq a, hcore]

theorem core_cls_of_declaredName {n : String} (h : (cls c).declaredName names = some n) :
    core (cls c) = (some (cls c), false) ∧ listElement? (cls c) = none := by
  unfold declaredName at h
  rw [innermost?_eq] at h
  by_cases hc : c = .builtin .absent ∨ c = .builtin .any ∨ c = .builtin .noneType
  · have hcore : core (cls c) = (none, true) := by simp only [core, strip, hc, if_true]
    rw [hcore] at h
    cases h
  · have hcore : core (cls c) = (some (cls c), false) := by simp only [core, strip, hc, if_false]
    refine ⟨hcore, ?_⟩
    rw [hcore] at h
    cases c with
    | defined => rfl
    | builtin o =>
      by_cases ho : isListOrigin o = true
      · have hlist : listElement? (cls (.builtin o)) = some none := if_pos ho
        simp only [hlist] at h
        cases h
      · exact if_neg ho

namespace Quotes

theorem not_ellipsis (h : Quotes s c a b) : a.isEllipsis = false ∧ b.isEllipsis = false := by
  cases h <;> exact ⟨rfl, rfl⟩

theorem innermost_quoted (h : Quotes s c a b) : a.innermost? = some (text s) ∨ ∃ whole, a.innermost? = some (Ann.reference s whole) := by
  induction h with
  | reference whole => exact .inr ⟨whole, by rw [innermost?_eq]; rfl⟩
  | listed horigin =>
    rw [innermost?_single horigin rfl]
    exact .inl (by rw [innermost?_eq]; rfl)
  | element spelling horigin h ih => rwa [innermost?_single horigin h.not_ellipsis.1]
  | optional h ha _ _ ih => rwa [innermost?_optional ha]
  | annotated metadata h _ ih => rwa [innermost?_annotated]

theorem innermost_class (h : Quotes s c a b) : b.innermost? = (cls c).innermost? := by
  induction h with
  | reference whole => rfl
  | listed horigin => rw [innermost?_single horigin rfl]
  | element spelling horigin h ih => rwa [innermost?_single horigin h.not_ellipsis.2]
  | optional h _ hb _ ih => rwa [innermost?_optional hb]
  | annotated metadata h _ ih => rwa [innermost?_annotated]

/-- Both are lists or neither, and both allow null or neither, if the class is no list and not the class of anything. -/
theorem layers (h : Quotes s c a b) (hcore : core (cls c) = (some (cls c), false)) (hlist : listElement? (cls c) = none) :
    (core a).2 = (core b).2 ∧ ((core a).1.bind listElement?).isSome = ((core b).1.bind listElement?).isSome := by
  induction h with
  | reference whole =>
    rw [hcore, Option.bind_some, hlist]
    exact ⟨rfl, rfl⟩
  | listed horigin =>
    rw [core_list, core_list, Option.bind_some, Option.bind_some, listElement?_single horigin rfl,
      listElement?_single horigin rfl]
    exact ⟨rfl, rfl⟩
  | element spelling horigin h ih =>
    rw [core_list, core_list, Option.bind_some, Option.bind_some, listElement?_single horigin h.not_ellipsis.1,
      listElement?_single horigin h.not_ellipsis.2]
    exact ⟨rfl, rfl⟩
  | optional h ha hb _ ih =>
    rw [ha, hb] at ih
    rw [core_optional ha, core_optional hb]
    exact ⟨rfl, ih.2⟩
  | annotated metadata h _ ih => exact ih

theorem readDeclared_quoted (names : SchemaNames) (h : Quotes s c a b) (hs : s ≠ "") :
    a.readDeclared names = .ok (a.declared names) ∧ a.declaredName names = some s := by
  unfold readDeclared declaredName
  rcases h.innermost_quoted with hinner | ⟨whole, hinner⟩
  · rw [hinner]
    exact ⟨rfl, if_neg hs⟩
  · rw [hinner]
    exact ⟨rfl, rfl⟩

theorem readDeclared_class (names : SchemaNames) (h : Quotes s c a b) :
    b.readDeclared names = .ok (b.declared names) ∧ b.declaredName names = (cls c).declaredName names := by
  have hhashable : b.innermost?.bind unhashable? = none := by
    rw [h.innermost_class]
    cases hinner : (cls c).innermost? with
    | none => rfl
    | some i => exact unhashable?_innermost hinner rfl
  unfold readDeclared ensureHashable declaredName
  rw [hhashable, h.innermost_class]
  exact ⟨rfl, rfl⟩

/-- A quoted name declares what it stands for exactly if the class has that name in the schema. -/
theorem declares_iff (h : Quotes s c a b) (hs : s ≠ "") :
    a.readDeclared names = b.readDeclared names ↔ (cls c).declaredName names = some s := by
  obtain ⟨hquoted, hname⟩ := h.readDeclared_quoted names hs
  obtain ⟨hclass, hname'⟩ := h.readDeclared_class names
  rw [hquoted, hclass, ← hname']
  constructor
  · intro heq
    rw [← hname]
    exact (congrArg Declared.name (Except.ok.inj heq)).symm
  · intro hb
    obtain ⟨hcore, hlist⟩ := core_cls_of_declaredName (hname'.symm.trans hb)
    obtain ⟨hnull, hlayer⟩ := h.layers hcore hlist
    unfold declared
    rw [hname, hb, hnull, hlayer]

end Quotes

end Ann

namespace Scope
variable {scope : Scope} {s : String} {c : ClassRef} {a b : Ann}

theorem resolveWith_of_quotes {lookup : String → Bool → Ann.Built} (h : a.Quotes s c b)
    (hlookup : ∀ whole, lookup s whole = .ok (.cls c)) (hrefer : Ann.refer s false = .ok (.reference s false)) :
    resolveWith lookup a = .ok b := by
  induction h with
  | reference whole => exact hlookup whole
  | listed horigin =>
    simp only [resolveWith, referTexts, resolveArguments, hrefer, hlookup, Attempt.ok_bind]
    rfl
  | @element spelling origin a b horigin h ih =>
    cases spelling with
    | aliased =>
      simp only [resolveWith, resolveAllWith, ih, Attempt.ok_bind]
      rfl
    | direct =>
      have hargs : resolveArguments lookup [a] = .ok [b] := by
        cases h <;> simp only [resolveArguments, ih, Attempt.ok_bind] <;> rfl
      have htexts : referTexts [a] = .ok () := by
        cases h <;> rfl
      simp only [resolveWith, htexts, hargs, Attempt.ok_bind]
      rfl
  | @optional spelling a b h _ _ hjoined ih =>
    have hmembers : resolveAllWith lookup [a, .noneType] = .ok [b, .noneType] := by
      simp only [resolveAllWith, ih, Attempt.ok_bind]
      rfl
    cases spelling with
    | aliased =>
      rw [resolveWith, hmembers]
      exact hjoined
    | direct =>
      rw [resolveWith, hmembers]
      exact hjoined
  | annotated metadata h hlayer ih =>
    rw [resolveWith, ih, Attempt.ok_bind, Ann.annotate_of_strip hlayer]
    rfl

theorem resolve_of_quotes (h : a.Quotes s c b) (hspells : scope.Spells s (.cls c))
    (hrefer : Ann.refer s false = .ok (.reference s false)) : scope.resolve a = .ok b := by
  have hwith := resolveWith_of_quotes h (followText_of_spells hspells) hrefer
  cases h <;> exact hwith

end Scope

end SchemaAssembly
