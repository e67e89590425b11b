import SchemaAssembly.Annotation.Build
import SchemaAssembly.Proofs.AnnotationReading
import Mathlib.Data.List.Induction

/-! What the optional of an annotation declares: what the annotation does, and that null is allowed. This fails for the
class of anything, which names no type alone but does as the member of a union, and for an optional that metadata hides
from the union around it. -/

namespace SchemaAssembly

namespace Ann

/-- Members of a union as it is built: at least two of them, no union among them, and none that equals one before it. -/
structure Joined (ms : List Ann) : Prop where
  several : 2 ≤ ms.length
  flat : ∀ m ∈ ms, m.members = [m]
  distinct : distinct ms = ms

/-- If an annotation is a union, its members are joined. -/
def Normal (a : Ann) : Prop :=
  ∀ spelling ms, a = union spelling ms → Joined ms

section Join
variable {a : Ann} {ms : List Ann}

theorem distinct_concat (ms : List Ann) (a : Ann) :
    distinct (ms ++ [a]) = if anySame (distinct ms) a then distinct ms else distinct ms ++ [a] := by
  unfold distinct
  rw [List.foldl_concat]

theorem distinct_sublist (ms : List Ann) : (distinct ms).Sublist ms := by
  induction ms using List.reverseRecOn with
  | nil => exact List.Sublist.refl _
  | append_singleton ms a ih =>
    rw [distinct_concat]
    split
    · exact ih.trans (List.sublist_append_left _ _)
    · exact ih.append_right _

theorem distinct_distinct (ms : List Ann) : distinct (distinct ms) = distinct ms := by
  induction ms using List.reverseRecOn with
  | nil => rfl
  | append_singleton ms a ih =>
    rw [distinct_concat]
    split
    · exact ih
    · next h => rw [distinct_concat, ih, if_neg h]

theorem distinct_eq_nil (h : distinct ms = []) : ms = [] := by
  induction ms using List.reverseRecOn with
  | nil => rfl
  | append_singleton ms a ih =>
    rw [distinct_concat] at h
    split at h
    · next hsame =>
      rw [h, anySame] at hsame
      cases hsame
    · exact absurd h (List.append_ne_nil_of_right_ne_nil _ (List.cons_ne_nil _ _))

theorem flatMap_members (h : ∀ m ∈ ms, m.members = [m]) : ms.flatMap members = ms := by
  rw [List.flatMap_congr h, List.flatMap_singleton']

theorem members_of_not_union (h : ∀ spelling ms, a ≠ union spelling ms) : a.members = [a] := by
  unfold members
  split
  · exact absurd rfl (h _ _)
  · rfl

theorem Normal.members (h : a.Normal) : a.members ≠ [] ∧ ∀ m ∈ a.members, m.members = [m] := by
  by_cases hunion : ∃ spelling ms, a = union spelling ms
  · obtain ⟨spelling, ms, rfl⟩ := hunion
    have hjoined := h spelling ms rfl
    exact ⟨List.ne_nil_of_length_pos (Nat.lt_of_lt_of_le Nat.zero_lt_two hjoined.several), hjoined.flat⟩
  · have hself := members_of_not_union fun spelling ms heq => hunion ⟨spelling, ms, heq⟩
    rw [hself]
    refine ⟨List.cons_ne_nil _ _, fun m hm => ?_⟩
    rw [List.mem_singleton.1 hm, hself]

theorem normal_makeUnion {anns : List Ann} (hne : anns ≠ []) (h : ∀ a ∈ anns, a.Normal) (spelling : Spelling) :
    (makeUnion spelling anns).Normal := by
  have hflat : ∀ m ∈ distinct (anns.flatMap Ann.members), m.members = [m] := fun m hm => by
    obtain ⟨a, ha, hm⟩ := List.mem_flatMap.1 ((distinct_sublist _).subset hm)
    exact (h a ha).members.2 m hm
  have hsome : distinct (anns.flatMap Ann.members) ≠ [] := fun hnil => by
    obtain ⟨a, ha⟩ := List.exists_mem_of_ne_nil _ hne
    exact (h a ha).members.1 (List.flatMap_eq_nil_iff.1 (distinct_eq_nil hnil) a ha)
  intro spelling' ms heq
  unfold makeUnion at heq
  split at heq
  · next a ha =>
    -- a single member would have to be its own member
    have hself := hflat a (ha ▸ List.mem_singleton_self a)
    rw [heq, Ann.members] at hself
    have hsize := congrArg sizeOf hself
    simp only [List.cons.sizeOf_spec, List.nil.sizeOf_spec, union.sizeOf_spec] at hsize
    omega
  · next hmany =>
    cases heq
    refine ⟨?_, hflat, distinct_distinct _⟩
    rcases hd : distinct (anns.flatMap Ann.members) with _ | ⟨a, _ | ⟨b, rest⟩⟩
    · exact absurd hd hsome
    · exact absurd hd (hmany a)
    · exact Nat.le_add_left 2 rest.length

end Join

section Checked
variable {a m : Ann} {reason : String} {whole : Bool}

/-- An argument of a special form: a text is a reference, and the null object its class. -/
def asArgument (whole : Bool) : Ann → Ann
  | null => noneType
  | text s => reference s whole
  | a => a

theorem refer_eq_ok {s : String} (h : refer s whole = .ok m) : s ≠ "" ∧ m = reference s whole := by
  unfold refer at h
  split at h
  · cases h
  next hs =>
  split at h
  · cases h
  split at h
  · cases h
    exact ⟨hs, rfl⟩
  · cases h

theorem checked_of_plain (hnull : a ≠ null) (htext : ∀ s, a ≠ text s) (h : checked reason whole a = .ok m) : m = a := by
  unfold checked at h
  split at h
  · exact absurd rfl hnull
  · exact absurd rfl (htext _)
  -- a special form is refused, or taken where it may be the whole annotation
  all_goals first
    | cases h; done
    | cases h; rfl
    | split at h <;> cases h; rfl

theorem checked_eq_ok (h : checked reason whole a = .ok m) : m = a.asArgument whole ∧ a ≠ text "" := by
  cases a with
  | null =>
    cases h
    exact ⟨rfl, nofun⟩
  | text s =>
    obtain ⟨hs, rfl⟩ := refer_eq_ok h
    exact ⟨rfl, fun heq => hs (text.inj heq)⟩
  | _ => exact ⟨checked_of_plain nofun nofun h, nofun⟩

end Checked

section Optional
variable {names : SchemaNames} {a o : Ann} {ms : List Ann}

theorem same_noneType (a : Ann) : a.same noneType = a.isNoneType := by
  unfold noneType
  cases a with
  | cls c =>
    simp only [same]
    cases c with
    | builtin b => cases b <;> rfl
    | _ => rfl
  | _ => simp only [same, isNoneType]

theorem anySame_noneType (ms : List Ann) : anySame ms noneType = ms.any isNoneType := by
  induction ms with
  | nil => rw [anySame]; rfl
  | cons m ms ih => rw [anySame, same_noneType, ih, List.any_cons]

def withNone (ms : List Ann) : List Ann :=
  if ms.any isNoneType then ms else ms ++ [noneType]

theorem nonNull_withNone (ms : List Ann) : nonNull (withNone ms) = nonNull ms := by
  unfold withNone
  split
  · rfl
  · unfold nonNull
    rw [List.filter_append]
    exact List.append_nil _

theorem any_withNone (ms : List Ann) : (withNone ms).any isNoneType = true := by
  unfold withNone
  split
  · assumption
  · rw [List.any_append]
    exact Bool.or_true _

theorem makeUnion_of_joined {spelling : Spelling} (h : Joined ms) :
    makeUnion .aliased [union spelling ms, noneType] = union .aliased (withNone ms) := by
  have hdistinct : Ann.distinct (ms ++ [noneType]) = withNone ms := by
    rw [distinct_concat, h.distinct, anySame_noneType]
    rfl
  have hmany : 2 ≤ (withNone ms).length := by
    unfold withNone
    split
    · exact h.several
    · exact Nat.le_trans h.several (List.sublist_append_left _ _).length_le
  have hmembers : [union spelling ms, noneType].flatMap Ann.members = ms ++ [noneType] := by
    rw [List.flatMap_cons, List.flatMap_singleton]
    rfl
  unfold makeUnion
  rw [hmembers, hdistinct]
  split
  · next h1 =>
    rw [h1] at hmany
    exact absurd hmany (Nat.not_succ_le_self 1)
  · rfl

theorem joined_or_null (hunion : ∀ spelling ms, a ≠ union spelling ms) (hnone : a.isNoneType = false) :
    Joined [a, noneType] where
  several := Nat.le_refl _
  flat := List.forall_mem_cons.2 ⟨members_of_not_union hunion, List.forall_mem_singleton.2 rfl⟩
  distinct := by
    unfold Ann.distinct
    simp only [List.foldl_cons, List.foldl_nil, anySame, same_noneType, hnone, List.nil_append, Bool.false_eq_true,
      if_false, Bool.or_self, List.singleton_append]

theorem makeUnion_of_not_union (hunion : ∀ spelling ms, a ≠ union spelling ms) (hnone : a.isNoneType = false) :
    makeUnion .aliased [a, noneType] = union .aliased [a, noneType] := by
  have hjoined := joined_or_null hunion hnone
  unfold makeUnion
  rw [flatMap_members hjoined.flat, hjoined.distinct]

theorem unhashable?_asArgument (whole : Bool) (a : Ann) : (a.asArgument whole).unhashable? = a.unhashable? := by
  cases a <;> rfl

theorem makeUnion_noneType : makeUnion .aliased [noneType, noneType] = noneType := by
  have hdistinct : Ann.distinct [noneType, noneType] = [noneType] := by
    unfold Ann.distinct
    simp only [List.foldl_cons, List.foldl_nil, anySame_noneType]
    rfl
  unfold makeUnion
  simp only [show [noneType, noneType].flatMap Ann.members = [noneType, noneType] from rfl, hdistinct]

theorem optionalOf_eq_ok (h : optionalOf a = .ok o) :
    a ≠ text "" ∧ firstUnhashable? ([a.asArgument false, noneType].flatMap Ann.members) = none ∧
      o = makeUnion .aliased [a.asArgument false, noneType] := by
  obtain ⟨m, hm, ho⟩ := Attempt.bind_eq_ok.1 h
  obtain ⟨rfl, ha⟩ := checked_eq_ok hm
  unfold joined at ho
  split at ho
  · cases ho
  · next hhash =>
    cases ho
    exact ⟨ha, hhash, rfl⟩

theorem core_withNone (spelling : Spelling) (ms : List Ann) :
    core (union .aliased (withNone ms)) = ((core (union spelling ms)).1, true) := by
  unfold core
  simp only [strip, nonNull_withNone, any_withNone]
  split <;> rfl

theorem nonNull_or_null (hnone : a.isNoneType = false) : nonNull [a, noneType] = [a] := by
  unfold nonNull
  rw [List.filter_cons_of_pos (by rw [hnone]; rfl)]
  rfl

theorem core_or_null (hnone : a.isNoneType = false) : core (union .aliased [a, noneType]) = (some a.strip, true) := by
  have hnull : [a, noneType].any isNoneType = true := List.any_eq_true.2 ⟨noneType, by simp, rfl⟩
  unfold core
  simp only [strip, nonNull_or_null hnone, hnull]

/-- Metadata around a union that declares something. An optional of it sees only the union, which names no type. -/
def HidesUnion (names : SchemaNames) (a : Ann) : Prop :=
  a ≠ a.strip ∧ (∃ spelling ms, a.strip = union spelling ms) ∧
    ((a.declared names).name ≠ none ∨ (a.declared names).isList = true)

theorem typeName_of_cls {c : ClassRef} (h : c ≠ .builtin .noneType) : ∃ n, (cls c).typeName names = some n := by
  cases hn : (cls c).typeName names with
  | some n => exact ⟨n, rfl⟩
  | none =>
    simp only [typeName] at hn
    split at hn
    any_goals cases hn
    · exact absurd rfl h
    · split at hn
      · split at hn <;> cases hn
      · cases hn

theorem declared_or_null_of_core (hnone : a.isNoneType = false) (h : (core a).1 = some a.strip) :
    (union .aliased [a, noneType]).declared names = { a.declared names with nullable := true } := by
  have hcore := core_or_null hnone
  rw [declared_congr (b := a) (by rw [hcore, h]), hcore]

theorem declared_cls_or_null {c : ClassRef} (hnone : a.isNoneType = false) (hstrip : a.strip = cls c) :
    (union .aliased [a, noneType]).declared names = { a.declared names with nullable := true } ↔
      ¬ (c = .builtin .any ∨ c = .builtin .absent) := by
  by_cases hc : c = .builtin .absent ∨ c = .builtin .any ∨ c = .builtin .noneType
  · have ha : core a = (none, true) := by
      unfold core
      rw [hstrip]
      exact if_pos hc
    have hlist : listElement? a.strip = none := by
      rw [hstrip]
      rcases hc with rfl | rfl | rfl <;> rfl
    rw [declared_of_core (core_or_null hnone) hlist, declared_of_core_none ha, hstrip]
    by_cases hnull : c = .builtin .noneType
    · rw [hnull]
      exact iff_of_true rfl (by decide)
    · obtain ⟨n, hn⟩ : ∃ n, (cls c).typeName names = some n := typeName_of_cls hnull
      rw [hn]
      exact iff_of_false nofun (not_not.2 (by tauto))
  · refine iff_of_true (declared_or_null_of_core hnone ?_) (by tauto)
    unfold core
    rw [hstrip]
    exact congrArg Prod.fst (if_neg hc)

/-- A layer of metadata hides the union in it from null beside it. -/
theorem declared_union_or_null {spelling : Spelling} (hnone : a.isNoneType = false)
    (hstrip : a.strip = union spelling ms) :
    (union .aliased [a, noneType]).declared names = { a.declared names with nullable := true } ↔
      ¬ ((a.declared names).name ≠ none ∨ (a.declared names).isList = true) := by
  rw [declared_of_core (core_or_null hnone) (by rw [hstrip]; rfl), hstrip, Declared.mk.injEq]
  rw [not_or, not_not, Bool.not_eq_true, eq_comm (b := (a.declared names).name),
    eq_comm (a := false)]
  exact ⟨fun h => ⟨h.1, h.2.2⟩, fun h => ⟨h.1, rfl, h.2⟩⟩

/-- Beside null, an annotation that is no union declares what it does alone, if it is not one of those that name
nothing alone, and hides no union. -/
theorem declared_or_null (hunion : ∀ spelling ms, a ≠ union spelling ms) (hnone : a.isNoneType = false) :
    (union .aliased [a, noneType]).declared names = { a.declared names with nullable := true } ↔
      ¬ (a.strip = cls (.builtin .any) ∨ a.strip = missing ∨ a.HidesUnion names) := by
  have hcover : (∀ spelling ms, a.strip ≠ union spelling ms) → ¬ a.HidesUnion names :=
    fun h ⟨_, ⟨spelling, ms, heq⟩, _⟩ => h spelling ms heq
  cases hstrip : a.strip with
  | null =>
    have ha : core a = (none, true) := by
      unfold core
      rw [hstrip]
    rw [declared_of_core (core_or_null hnone) (by rw [hstrip]; rfl), declared_of_core_none ha, hstrip]
    refine iff_of_true rfl ?_
    rintro (h | h | h)
    · cases h
    · cases h
    · exact hcover (by rw [hstrip]; nofun) h
  | cls c =>
    have hc := hcover (by rw [hstrip]; nofun)
    rw [declared_cls_or_null hnone hstrip, missing, cls.injEq, cls.injEq]
    tauto
  | union spelling ms =>
    have hlayer : a ≠ a.strip := fun h => hunion spelling ms (h.trans hstrip)
    rw [declared_union_or_null hnone hstrip]
    refine not_congr ⟨fun h => .inr (.inr ⟨hlayer, ⟨_, _, hstrip⟩, h⟩), ?_⟩
    rintro (h | h | h)
    · cases h
    · cases h
    · exact h.2.2
  | _ =>
    refine iff_of_true (declared_or_null_of_core hnone ?_) ?_
    · unfold core
      rw [hstrip]
    · rintro (h | h | h)
      · cases h
      · cases h
      · exact hcover (by rw [hstrip]; nofun) h

/-- Joined with null, an annotation in normal form declares what it does alone, but for the same exceptions. -/
theorem declared_makeUnion (hnormal : a.Normal) :
    (makeUnion .aliased [a, noneType]).declared names = { a.declared names with nullable := true } ↔
      ¬ (a.strip = cls (.builtin .any) ∨ a.strip = missing ∨ a.HidesUnion names) := by
  by_cases hunion : ∃ spelling ms, a = union spelling ms
  · obtain ⟨spelling, ms, rfl⟩ := hunion
    rw [makeUnion_of_joined (hnormal spelling ms rfl)]
    refine iff_of_true ?_ ?_
    · rw [declared_congr (b := union spelling ms) (by rw [core_withNone spelling]), core_withNone spelling]
    · rintro (h | h | h)
      · cases h
      · cases h
      · exact h.1 rfl
  have hother : ∀ spelling ms, a ≠ union spelling ms := fun spelling ms heq => hunion ⟨spelling, ms, heq⟩
  by_cases hnone : a.isNoneType = true
  · obtain rfl := isNoneType_iff.1 hnone
    refine iff_of_true ?_ ?_
    · rw [makeUnion_noneType, declared_of_core_none (n := true) rfl]
    rintro (h | h | h)
    · cases h
    · cases h
    · exact h.1 rfl
  · rw [makeUnion_of_not_union hother (Bool.eq_false_iff.2 hnone)]
    exact declared_or_null hother (Bool.eq_false_iff.2 hnone)

theorem core_makeUnion (hnormal : a.Normal) : (core (makeUnion .aliased [a, noneType])).2 = true := by
  by_cases hunion : ∃ spelling ms, a = union spelling ms
  · obtain ⟨spelling, ms, rfl⟩ := hunion
    rw [makeUnion_of_joined (hnormal spelling ms rfl), core_withNone spelling]
  have hother : ∀ spelling ms, a ≠ union spelling ms := fun spelling ms heq => hunion ⟨spelling, ms, heq⟩
  by_cases hnone : a.isNoneType = true
  · obtain rfl := isNoneType_iff.1 hnone
    rw [makeUnion_noneType]
    rfl
  · rw [makeUnion_of_not_union hother (Bool.eq_false_iff.2 hnone), core_or_null (Bool.eq_false_iff.2 hnone)]

theorem unhashable?_of_members (h : ∀ m ∈ a.members, m.unhashable? = none) : a.unhashable? = none := by
  unfold members at h
  split at h
  · rw [unhashable?]
    exact firstUnhashable?_eq_none.2 h
  · exact h a (List.mem_singleton_self a)

theorem unhashable?_makeUnion {spelling : Spelling} {anns : List Ann}
    (h : ∀ m ∈ anns.flatMap Ann.members, m.unhashable? = none) : (makeUnion spelling anns).unhashable? = none := by
  have hkept : ∀ m ∈ Ann.distinct (anns.flatMap Ann.members), m.unhashable? = none :=
    fun m hm => h m ((distinct_sublist _).subset hm)
  unfold makeUnion
  split
  · next m hm => exact hkept m (hm ▸ List.mem_singleton_self m)
  · rw [unhashable?]
    exact firstUnhashable?_eq_none.2 hkept

theorem optionalOf_of_not_union (hchecked : checked "typing.Optional requires a single type." false a = .ok a)
    (hunion : ∀ spelling ms, a ≠ union spelling ms) (hnone : a.isNoneType = false) (hhash : a.unhashable? = none) :
    optionalOf a = .ok (union .aliased [a, noneType]) := by
  have hmembers : firstUnhashable? ([a, noneType].flatMap Ann.members) = none := by
    rw [flatMap_members (joined_or_null hunion hnone).flat, firstUnhashable?, hhash]
    rfl
  unfold optionalOf joined
  rw [hchecked, Attempt.ok_bind, hmembers, makeUnion_of_not_union hunion hnone]

theorem normal_noneType : noneType.Normal :=
  fun _ _ h => by cases h

theorem normal_asArgument (whole : Bool) (h : a.Normal) : (a.asArgument whole).Normal := by
  cases a with
  | null | text => nofun
  | _ => exact h

theorem declared_asArgument (whole : Bool) (h : a ≠ text "") :
    (a.asArgument whole).declared names = a.declared names := by
  cases a with
  | text s =>
    have hs : s ≠ "" := fun heq => h (heq ▸ rfl)
    have hname : (text s).typeName names = some s := by
      simp only [typeName, hs, if_false]
    rw [asArgument, declared_of_core (b := reference s whole) rfl rfl, declared_of_core (b := text s) rfl rfl, hname,
      typeName]
  | null => rw [asArgument, declared_of_core_none (n := true) rfl, declared_of_core_none (n := true) rfl]
  | _ => rfl

theorem exceptions_asArgument (whole : Bool) (a : Ann) :
    ((a.asArgument whole).strip = cls (.builtin .any) ∨ (a.asArgument whole).strip = missing ∨
      (a.asArgument whole).HidesUnion names) ↔
    (a.strip = cls (.builtin .any) ∨ a.strip = missing ∨ a.HidesUnion names) := by
  cases a with
  | null | text =>
    refine iff_of_false ?_ ?_
    all_goals
      rintro (h | h | h)
      · cases h
      · cases h
      · exact h.1 rfl
  | _ => exact Iff.rfl

/-- The optional of an annotation allows null. It declares the same type and is a list just as well, unless the
annotation is for anything, stands for none, or hides a union that declares something behind metadata. -/
theorem optional_declares_iff (names : SchemaNames) (hnormal : a.Normal) (h : optionalOf a = .ok o) :
    o.Normal ∧ ∃ d e, a.readDeclared names = .ok d ∧ o.readDeclared names = .ok e ∧ e.nullable = true ∧
      (e = { d with nullable := true } ↔
        ¬ (a.strip = cls (.builtin .any) ∨ a.strip = missing ∨ a.HidesUnion names)) := by
  obtain ⟨htext, hhash, rfl⟩ := optionalOf_eq_ok h
  have hargument := normal_asArgument false hnormal
  rw [firstUnhashable?_eq_none] at hhash
  have ha : a.unhashable? = none := by
    rw [← unhashable?_asArgument false]
    exact unhashable?_of_members fun m hm => hhash m (List.mem_append_left _ hm)
  have hboth : ∀ b ∈ [a.asArgument false, noneType], b.Normal :=
    List.forall_mem_cons.2 ⟨hargument, List.forall_mem_singleton.2 normal_noneType⟩
  refine ⟨normal_makeUnion (List.cons_ne_nil _ _) hboth _, _, _, readDeclared_of_hashable ha,
    readDeclared_of_hashable (unhashable?_makeUnion hhash), core_makeUnion hargument, ?_⟩
  rw [← declared_asArgument false htext, declared_makeUnion hargument]
  exact not_congr (exceptions_asArgument false a)

end Optional

end Ann

namespace Numbered
open Ann

def numbers : Ann :=
  annotated (generic .direct .list [cls (.builtin .int)]) [.other .null]

def orNull (spelling : Spelling) : Ann :=
  union spelling [numbers, noneType]

theorem orNull_normal (spelling : Spelling) : (orNull spelling).Normal := by
  rintro _ _ ⟨⟩
  exact joined_or_null nofun rfl

theorem optionalOf_orNull : optionalOf (orNull .direct) = .ok (orNull .aliased) := by
  change Except.ok (makeUnion .aliased [orNull .direct, noneType]) = _
  have hnull : [numbers, noneType].any isNoneType = true := rfl
  rw [orNull, makeUnion_of_joined (orNull_normal .direct _ _ rfl), withNone, if_pos hnull]
  rfl

theorem declared_orNull : (orNull .direct).readDeclared (fun _ => none) = .ok ⟨some "int", true, true⟩ := by
  have hdeclared : (orNull .direct).declared (fun _ => none) = ⟨some "int", true, true⟩ := by decide +kernel
  rw [readDeclared_of_hashable rfl, hdeclared]

def wrapped : Ann :=
  annotated (orNull .aliased) [.other .null]

end Numbered

theorem Numbered.optional_of_optional :
    (orNull .direct).Normal ∧ Ann.optionalOf (orNull .direct) = .ok (orNull .aliased) ∧
    (orNull .direct).readDeclared (fun _ => none) = .ok ⟨some "int", true, true⟩ ∧
    (orNull .aliased).readDeclared (fun _ => none) = .ok ⟨some "int", true, true⟩ := by
  obtain ⟨-, d, e, hd, he, -, hkept⟩ :=
    Ann.optional_declares_iff (fun _ => none) (orNull_normal .direct) optionalOf_orNull
  have hexcept : ¬ ((orNull .direct).strip = .cls (.builtin .any) ∨ (orNull .direct).strip = .missing ∨
      (orNull .direct).HidesUnion fun _ => none) := by
    rintro (h | h | h)
    · cases h
    · cases h
    · exact h.1 rfl
  cases hd.symm.trans declared_orNull
  rw [hkept.2 hexcept] at he
  exact ⟨orNull_normal .direct, optionalOf_orNull, hd, he⟩

/-- The class of anything is named only as a member of an optional, and the number list only outside of one. -/
theorem Numbered.optional_declares_otherwise :
    (Ann.optionalOf (.cls (.builtin .any)) = .ok (.union .aliased [.cls (.builtin .any), .noneType]) ∧
      (Ann.cls (.builtin .any)).readDeclared (fun _ => none) = .ok ⟨none, true, false⟩ ∧
      (Ann.union .aliased [.cls (.builtin .any), .noneType]).readDeclared (fun _ => none) =
        .ok ⟨some "Any", true, false⟩) ∧
    Ann.optionalOf wrapped = .ok (.union .aliased [wrapped, .noneType]) ∧
      wrapped.readDeclared (fun _ => none) = .ok ⟨some "int", true, true⟩ ∧
      (Ann.union .aliased [wrapped, .noneType]).readDeclared (fun _ => none) = .ok ⟨none, true, false⟩ := by
  have hany : (Ann.cls (.builtin .any)).declared (fun _ => none) = ⟨none, true, false⟩ := by decide +kernel
  have hoptional : (Ann.union .aliased [.cls (.builtin .any), .noneType]).declared (fun _ => none) =
      ⟨some "Any", true, false⟩ := by decide +kernel
  have hwrapped : wrapped.declared (fun _ => none) = ⟨some "int", true, true⟩ := by decide +kernel
  have hhidden : (Ann.union .aliased [wrapped, .noneType]).declared (fun _ => none) = ⟨none, true, false⟩ := by
    decide +kernel
  rw [Ann.readDeclared_of_hashable rfl, Ann.readDeclared_of_hashable rfl, Ann.readDeclared_of_hashable rfl,
    Ann.readDeclared_of_hashable rfl, hany, hoptional, hwrapped, hhidden]
  have hjoined : Ann.optionalOf wrapped = .ok (.union .aliased [wrapped, .noneType]) :=
    Ann.optionalOf_of_not_union rfl nofun rfl rfl
  exact ⟨⟨Ann.optionalOf_of_not_union rfl nofun rfl rfl, rfl, rfl⟩, hjoined, rfl, rfl⟩

end SchemaAssembly
