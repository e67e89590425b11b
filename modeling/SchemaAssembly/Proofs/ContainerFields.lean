import SchemaAssembly.Proofs.FieldExposure

/-! The fields of a container without a generated constructor. They are the public names that are annotated along the
lineage, the most distant bases first, each with its most derived annotation. One that is a class variable is left out
only if it says of which type, and one that no class assigns has a default if the class has something else under its
name: a place of its instances, or an attribute of its own class, like `mro`. -/

namespace SchemaAssembly

theorem Assoc.filterMap_eq_filterMap_keys {α β : Type} {m : Assoc α} (h : m.keys.Nodup)
    (f : String × α → Option β) :
    m.filterMap f = m.keys.filterMap fun k => (m.get? k).bind fun v => f (k, v) := by
  have hget : ∀ e ∈ m, f e = (m.get? e.1).bind fun v => f (e.1, v) := fun e he => by
    rw [Assoc.get?_of_mem h he]
    rfl
  rw [Assoc.keys, List.filterMap_map]
  exact List.filterMap_congr hget

/-- What is kept of two lists of the same names is the same exactly if it is for every name, as what is kept bears its
name. -/
theorem filterMap_eq_filterMap_iff {α β : Type} {f g : α → Option β} {key : β → α}
    (hf : ∀ a b, f a = some b → key b = a) (hg : ∀ a b, g a = some b → key b = a) {as : List α} :
    as.filterMap f = as.filterMap g ↔ ∀ a ∈ as, f a = g a := by
  have hkept {f g : α → Option β} (hf : ∀ a b, f a = some b → key b = a) (hg : ∀ a b, g a = some b → key b = a)
      (h : as.filterMap f = as.filterMap g) {a : α} (ha : a ∈ as) {b : β} (hb : f a = some b) : g a = some b := by
    obtain ⟨a', -, hb'⟩ := List.mem_filterMap.1 (h ▸ List.mem_filterMap.2 ⟨a, ha, hb⟩)
    rwa [← hg a' b hb', hf a b hb] at hb'
  refine ⟨fun h a ha => Option.ext fun b => ?_, List.filterMap_congr⟩
  exact ⟨hkept hf hg h ha, hkept hg hf h.symm ha⟩

/-- Every name that a class has because it is an object begins with an underscore. -/
theorem Provision.ofClass?_object {n : String} (hn : n.toList.head? ≠ some '_') :
    Provision.ofClass? (.builtin .object) n = none := by
  have hwords : ∀ e ∈ own .object ++ common, ∀ w ∈ e.2.toList.splitOn ' ', w.head? = some '_' := by decide +kernel
  rw [ofClass?, find?, Option.map_eq_none_iff, List.find?_eq_none]
  intro e he hword
  exact hn (hwords e he _ (List.contains_iff_mem.1 hword))

namespace Ann

/-- A class variable, with or without a type, also under metadata. -/
def isClassVar (a : Ann) : Bool :=
  a.strip matches .classVar _ | .form .classVar

/-- A class variable that says of which type it is. -/
def isTypedClassVar (a : Ann) : Bool :=
  a.strip matches .classVar _

theorem isClassVar_iff {a : Ann} : a.isClassVar ↔ a.isTypedClassVar ∨ a.strip = .form .classVar := by
  unfold isClassVar isTypedClassVar
  generalize a.strip = b
  cases b with
  | form f => cases f <;> simp
  | _ => simp

theorem isTypedClassVar_of_bare {a : Ann} (h : a.strip = .form .classVar) : a.isTypedClassVar = false := by
  rw [isTypedClassVar, h]

end Ann

namespace Universe
variable {u : Universe} {c : ClassRef} {n : String} {a : Ann}

def evaluated (u : Universe) (c : ClassRef) (a : Ann) : Ann :=
  match (u.classScope c).resolve a with
  | .ok b => b
  | .error _ => a

def ownHints (u : Universe) (i : ClassInfo) : Assoc Ann :=
  i.annotations.map fun e => (e.1, u.evaluated i.ref e.2)

/-- The annotated names, those of the most distant bases first, each where it comes first. -/
def annotatedNames (u : Universe) (c : ClassRef) : List String :=
  ((u.ancestry c).reverse.flatMap fun i => i.annotations.keys).eraseDups

def annotation? (u : Universe) (c : ClassRef) (n : String) : Option Ann :=
  (u.ancestry c).findSome? fun i => ((u.ownHints i).reverse.find? (·.1 = n)).map (·.2)

/-- Whether a class of the lineage assigns a value to a name, or has it as a built-in class. -/
def assigns (u : Universe) (c : ClassRef) (n : String) : Bool :=
  ((u.ancestry c).any fun i => (i.slots.get? n).any (!·.isPlace)) ||
    (u.lineage c).any fun d => (Provision.ofClass? d n).isSome

/-- Whether a class has something under a public name that is no value of its own: a class of the lineage has a place
there, or the class of the class has an attribute, as every one has `mro`. -/
def lends (u : Universe) (c : ClassRef) (n : String) : Bool :=
  ((u.ancestry c).any fun i => (i.slots.get? n).any Slot.isPlace) || (u.metaAttribute? c n).isSome || n == "mro"

/-- A public name as a field, given which annotations are shared by all instances and which names have defaults. -/
def fieldBy (u : Universe) (c : ClassRef) (isShared : Ann → Bool) (hasDefault : String → Bool) (n : String) :
    Option GroupField :=
  (u.annotation? c n).bind fun a =>
    if n.startsWith "_" || isShared a then none else some ⟨n, a, hasDefault n⟩

def fieldsBy (u : Universe) (c : ClassRef) (isShared : Ann → Bool) (hasDefault : String → Bool) : List GroupField :=
  (u.annotatedNames c).filterMap (u.fieldBy c isShared hasDefault)

section Hints

theorem addHints_of_resolves {i : ClassInfo} (h : ∀ e ∈ i.annotations, u.Resolves i.ref e.2) (groupName : String)
    (acc : Assoc Ann) : u.addHints groupName acc i = .ok (Assoc.merge acc (u.ownHints i)) := by
  rw [addHints_eq, ownHints]
  generalize i.annotations = annotations at h
  induction annotations generalizing acc with
  | nil => rfl
  | cons e annotations ih =>
    obtain ⟨⟨b, hb⟩, hrest⟩ := List.forall_mem_cons.1 h
    have hfirst : u.evaluated i.ref e.2 = b := by rw [evaluated, hb]
    rw [List.foldlM_cons, addHint, hb, Attempt.ok_bind, ih _ hrest, List.map_cons, hfirst]
    rfl

theorem hints_of_resolves (h : ∀ i ∈ u.ancestry c, ∀ e ∈ i.annotations, u.Resolves i.ref e.2) :
    u.hints c = .ok (Assoc.merge [] ((u.ancestry c).reverse.flatMap u.ownHints)) := by
  have hrev : ∀ i ∈ (u.ancestry c).reverse, ∀ e ∈ i.annotations, u.Resolves i.ref e.2 :=
    fun i hi => h i (List.mem_reverse.1 hi)
  unfold hints
  generalize (u.ancestry c).reverse = infos at hrev
  generalize ([] : Assoc Ann) = acc
  induction infos generalizing acc with
  | nil => rfl
  | cons i infos ih =>
    obtain ⟨hfirst, hrest⟩ := List.forall_mem_cons.1 hrev
    rw [List.foldlM_cons, addHints_of_resolves hfirst, Attempt.ok_bind, ih hrest, List.flatMap_cons]
    unfold Assoc.merge
    rw [List.foldl_append]

theorem keys_merged (u : Universe) (c : ClassRef) :
    Assoc.keys (Assoc.merge [] ((u.ancestry c).reverse.flatMap u.ownHints)) = u.annotatedNames c := by
  have hown (i : ClassInfo) : (u.ownHints i).map Prod.fst = i.annotations.keys := by
    rw [ownHints, List.map_map]
    rfl
  rw [Assoc.keys_merge, annotatedNames, ← funext hown]
  simp [Assoc.keys, List.removeAll, List.map_flatMap]

theorem get?_merged (u : Universe) (c : ClassRef) (n : String) :
    Assoc.get? (Assoc.merge [] ((u.ancestry c).reverse.flatMap u.ownHints)) n = u.annotation? c n := by
  rw [Assoc.get?_merge, List.reverse_flatMap, List.reverse_reverse, List.find?_flatMap, annotation?]
  simp [Function.comp_def]

end Hints

section Attributes

theorem generated?_of_public (hn : n.startsWith "_" = false) (i : ClassInfo) : i.generated? n = none := by
  unfold ClassInfo.generated?
  dsimp only
  split
  · rw [if_neg]
    rintro ⟨rfl, -⟩
    simp at hn
  · split
    case h_9 => rfl
    all_goals simp at hn

theorem isSome_selfDescription? (hn : n.startsWith "_" = false) (lineage : List ClassRef) :
    (Ann.selfDescription? lineage c n).isSome = (n == "mro") := by
  by_cases hmro : n = "mro"
  · rw [hmro]
    rfl
  · rw [beq_eq_false_iff_ne.2 hmro]
    unfold Ann.selfDescription?
    dsimp only
    split
    case h_20 => exact absurd rfl hmro
    case h_25 => rfl
    all_goals simp at hn

theorem contains_slots (i : ClassInfo) (n : String) :
    i.slots.contains n = ((i.slots.get? n).any (!·.isPlace) || (i.slots.get? n).any Slot.isPlace) := by
  unfold Assoc.contains
  cases i.slots.get? n with
  | none => rfl
  | some s => cases s <;> rfl

theorem isSome_heldAt? (hn : n.startsWith "_" = false) :
    (u.heldAt? c n).isSome = (((u.ancestry c).any fun i => (i.slots.get? n).any (!·.isPlace)) ||
      (u.ancestry c).any fun i => (i.slots.get? n).any Slot.isPlace) := by
  have hshared : isUnshared n = false := by
    unfold isUnshared
    rw [Bool.or_eq_false_iff, beq_eq_false_iff_ne, beq_eq_false_iff_ne]
    constructor <;> rintro rfl <;> simp at hn
  have hany (infos : List ClassInfo) : infos.any (fun i => i.slots.contains n) =
      ((infos.any fun i => (i.slots.get? n).any (!·.isPlace)) ||
        infos.any fun i => (i.slots.get? n).any Slot.isPlace) := by
    induction infos with
    | nil => rfl
    | cons i infos ih =>
      rw [List.any_cons, ih, contains_slots, List.any_cons, List.any_cons]
      simp only [Bool.or_assoc, Bool.or_left_comm]
  rw [← hany]
  unfold heldAt?
  rw [hshared]
  simp only [generated?_of_public hn, Option.or_none, Bool.false_eq_true, if_false, List.isSome_findSome?,
    Option.isSome_map]
  rfl

/-- Under a public name a class has what its lineage assigns, and what it is lent. -/
theorem isSome_classAttribute? (hn : n.startsWith "_" = false) :
    (u.classAttribute? c n).isSome = (u.assigns c n || u.lends c n) := by
  have hself : selfNames.contains n = false := by
    rw [← Bool.not_eq_true, List.contains_iff_mem]
    intro hmem
    have hunderscore : ∀ m ∈ selfNames, m.startsWith "_" = true := by simp [selfNames]
    rw [hunderscore n hmem] at hn
    cases hn
  have hannotations : n ≠ "__annotations__" := by
    rintro rfl
    simp at hn
  unfold classAttribute? Ann.classMember? assigns lends
  rw [hself, if_neg hannotations]
  simp only [Bool.false_eq_true, if_false, Option.none_or, Option.isSome_or, Option.isSome_map, isSome_heldAt? hn,
    List.isSome_findSome?, isSome_selfDescription? hn]
  simp only [Bool.or_assoc, Bool.or_left_comm]

end Attributes

theorem field_of_hint (e : String × Ann) :
    (if isPublicField e then some (⟨e.1, e.2, (u.classAttribute? c e.1).isSome⟩ : GroupField) else none) =
      if e.1.startsWith "_" || e.2.isTypedClassVar then none
      else some ⟨e.1, e.2, u.assigns c e.1 || u.lends c e.1⟩ := by
  have hpublic : isPublicField e = !(e.1.startsWith "_" || e.2.isTypedClassVar) := by
    rw [isPublicField, Bool.not_or, Bool.and_comm]
    rfl
  rw [hpublic]
  cases hn : e.1.startsWith "_" with
  | true => rfl
  | false =>
    rw [isSome_classAttribute? hn, Bool.false_or]
    cases e.2.isTypedClassVar <;> rfl

theorem groupFields_of_resolves (hplain : u.recordFields? c = none)
    (hhints : ∀ i ∈ u.ancestry c, ∀ e ∈ i.annotations, u.Resolves i.ref e.2) :
    u.groupFields c = .ok (u.fieldsBy c Ann.isTypedClassVar fun n => u.assigns c n || u.lends c n) := by
  have hnd : (Assoc.keys (Assoc.merge [] ((u.ancestry c).reverse.flatMap u.ownHints))).Nodup :=
    Assoc.nodup_keys_merge _ _ List.nodup_nil
  unfold groupFields
  rw [hints_of_resolves hhints, Attempt.ok_bind, hplain]
  dsimp only
  rw [← List.filterMap_eq_map, List.filterMap_filter]
  simp only [Function.comp_apply, field_of_hint]
  rw [Assoc.filterMap_eq_filterMap_keys hnd, keys_merged]
  simp only [get?_merged]
  rfl

theorem mem_annotatedNames : n ∈ u.annotatedNames c ↔ ∃ a, u.annotation? c n = some a := by
  rw [← keys_merged, ← get?_merged, ← Option.isSome_iff_exists]
  exact (Assoc.contains_iff _ n).symm

theorem name_of_fieldBy {isShared : Ann → Bool} {hasDefault : String → Bool} {f : GroupField}
    (h : u.fieldBy c isShared hasDefault n = some f) : f.name = n := by
  obtain ⟨a, -, hf⟩ := Option.bind_eq_some_iff.1 h
  split at hf
  · cases hf
  · cases hf
    rfl

theorem fieldBy_eq_some {isShared : Ann → Bool} {hasDefault : String → Bool} (ha : u.annotation? c n = some a)
    (hkept : (n.startsWith "_" || isShared a) = false) :
    u.fieldBy c isShared hasDefault n = some ⟨n, a, hasDefault n⟩ := by
  rw [fieldBy, ha, Option.bind_some, hkept]
  rfl

theorem fieldBy_eq_none {isShared : Ann → Bool} {hasDefault : String → Bool} (ha : u.annotation? c n = some a)
    (hleft : (n.startsWith "_" || isShared a) = true) : u.fieldBy c isShared hasDefault n = none := by
  rw [fieldBy, ha, Option.bind_some, if_pos hleft]

theorem fieldBy_congr_iff (ha : u.annotation? c n = some a) :
    u.fieldBy c Ann.isTypedClassVar (fun n => u.assigns c n || u.lends c n) n =
        u.fieldBy c Ann.isClassVar (u.assigns c) n ↔
      (n.startsWith "_" = false → a.strip ≠ .form .classVar) ∧
        (n.startsWith "_" = false → a.isClassVar = false → u.lends c n = true → u.assigns c n = true) := by
  unfold fieldBy
  rw [ha, Option.bind_some, Option.bind_some]
  cases hn : n.startsWith "_" with
  | true => simp
  | false =>
    by_cases hbare : a.strip = .form .classVar
    · have hshared : a.isClassVar = true := Ann.isClassVar_iff.2 (.inr hbare)
      simp [hbare, hshared, Ann.isTypedClassVar_of_bare hbare]
    · have hsame : a.isTypedClassVar = a.isClassVar := by
        rw [Bool.eq_iff_iff, Ann.isClassVar_iff, or_iff_left hbare]
      rw [hsame]
      cases a.isClassVar with
      | true => simp [hbare]
      | false => cases ha : u.assigns c n <;> cases hl : u.lends c n <;> simp [hbare, ha, hl]

/-- The fields of a container without a generated constructor whose annotations can all be evaluated: every public name
that is annotated and no class variable of a type, in the order of the names, each once and with its most derived
annotation. One has a default if a class of the lineage assigns it a value or the class is lent something there. So these
are the fields that are no class variables at all, with a default where a value is assigned, exactly if no public name is
left a class variable without a type, and where the class is lent something under the name of a field, a value is
assigned as well. -/
theorem groupFields_plain_iff (hplain : u.recordFields? c = none)
    (hhints : ∀ i ∈ u.ancestry c, ∀ e ∈ i.annotations, u.Resolves i.ref e.2) :
    (u.annotatedNames c).Nodup ∧
    u.groupFields c = .ok (u.fieldsBy c Ann.isTypedClassVar fun n => u.assigns c n || u.lends c n) ∧
    (u.groupFields c = .ok (u.fieldsBy c Ann.isClassVar (u.assigns c)) ↔
      (∀ n a, u.annotation? c n = some a → n.startsWith "_" = false → a.strip ≠ .form .classVar) ∧
      ∀ n a, u.annotation? c n = some a → n.startsWith "_" = false → a.isClassVar = false →
        u.lends c n = true → u.assigns c n = true) := by
  refine ⟨keys_merged u c ▸ Assoc.nodup_keys_merge _ _ List.nodup_nil, groupFields_of_resolves hplain hhints, ?_⟩
  rw [groupFields_of_resolves hplain hhints, Except.ok.injEq, fieldsBy, fieldsBy,
    filterMap_eq_filterMap_iff (fun _ _ => name_of_fieldBy) fun _ _ => name_of_fieldBy]
  constructor
  · intro h
    have hname {n : String} {a : Ann} (ha : u.annotation? c n = some a) :=
      (fieldBy_congr_iff ha).1 (h n (mem_annotatedNames.2 ⟨a, ha⟩))
    exact ⟨fun n a ha => (hname ha).1, fun n a ha => (hname ha).2⟩
  · rintro ⟨hbare, hlent⟩ n hn
    obtain ⟨a, ha⟩ := mem_annotatedNames.1 hn
    exact (fieldBy_congr_iff ha).2 ⟨hbare n a ha, hlent n a ha⟩

end Universe

namespace Vessel

def vessel : ClassRef := .defined "vessels" "Vessel"
def flask : ClassRef := .defined "vessels" "Flask"

def registering : ClassRef := .builtin (.other "ABCMeta")

/-- A vessel, and a flask that says more of itself, assigns a size and has the given places. -/
def classes (own : Assoc Ann) (places : List String) : Universe where
  classes := [
    { ref := vessel, lineage := [vessel, .builtin .object], metaclass := registering
      annotations := [("label", .cls (.builtin .str)), ("size", .cls (.builtin .int)), ("spare", .cls (.builtin .int))] },
    { ref := flask, lineage := [flask, vessel, .builtin .object], metaclass := registering, annotations := own
      slots := ("size", .value (.int 1)) :: places.map fun n => (n, .place) }]

/-- A field whose type is said anew, one that becomes a class variable, one that is not public, and a further one. -/
def proper : Assoc Ann :=
  [("size", .cls (.builtin .float)), ("spare", .annotated (.classVar (.cls (.builtin .int))) [.other (.int 1)]),
    ("_mark", .cls (.builtin .str)), ("cork", .cls (.builtin .str))]

/-- A class variable without a type, a field with the name of a method that classes have, one with the name of what
their class has, and one with a place. -/
def improper : Assoc Ann :=
  [("lid", .form .classVar), ("mro", .cls (.builtin .int)), ("register", .cls (.builtin .int)),
    ("depth", .cls (.builtin .int))]

theorem resolves {own : Assoc Ann} (h : ∀ e ∈ own, e.2.Settled ∧ e.2 ≠ .null) (places : List String) :
    ∀ i ∈ (classes own places).ancestry flask, ∀ e ∈ i.annotations, (classes own places).Resolves i.ref e.2 := by
  have hvessel : ∀ e ∈ ((classes own places).info vessel).annotations, e.2.Settled ∧ e.2 ≠ .null := by
    rintro e (_ | ⟨_, _ | ⟨_, _ | ⟨_, ⟨⟩⟩⟩⟩)
    all_goals exact ⟨.cls _, by rintro ⟨⟩⟩
  have hall : ∀ i ∈ (classes own places).ancestry flask, ∀ e ∈ i.annotations, e.2.Settled ∧ e.2 ≠ .null := by
    rintro i (_ | ⟨_, _ | ⟨_, _ | ⟨_, ⟨⟩⟩⟩⟩)
    · exact h
    · exact hvessel
    · rintro e ⟨⟩
  exact fun i hi e he => ⟨e.2, Scope.resolve_of_settled (hall i hi e he).1 (hall i hi e he).2⟩

/-- What is assigned, whatever else the flask says: a class has no public name as an object. -/
theorem assigns_eq (own : Assoc Ann) (places : List String) {n : String} (hn : n.toList.head? ≠ some '_') :
    (classes own places).assigns flask n = (n == "size") := by
  have hplaces : (Assoc.get? (places.map fun n => (n, Slot.place)) n).any (!·.isPlace) = false := by
    induction places with
    | nil => rfl
    | cons m places ih =>
      rw [List.map_cons, Assoc.get?_cons]
      split
      · rfl
      · exact ih
  have hslots : ((classes own places).ancestry flask).any (fun i => (i.slots.get? n).any (!·.isPlace)) =
      (n == "size") := by
    change ((Assoc.get? (("size", Slot.value (.int 1)) :: places.map fun n => (n, .place)) n).any (!·.isPlace) ||
      ((Assoc.get? ([] : Assoc Slot) n).any (!·.isPlace) || ((Assoc.get? ([] : Assoc Slot) n).any (!·.isPlace) || false))) = _
    rw [Assoc.get?_cons]
    by_cases hsize : "size" = n
    · simp [hsize, Slot.isPlace]
    · simp [hsize, Ne.symm hsize, hplaces]
  have hprovided : ((classes own places).lineage flask).any (fun d => (Provision.ofClass? d n).isSome) = false := by
    change (false || (false || ((Provision.ofClass? (.builtin .object) n).isSome || false))) = false
    rw [Provision.ofClass?_object hn]
    rfl
  rw [Universe.assigns, hslots, hprovided, Bool.or_false]

theorem proper_settled : ∀ e ∈ proper, e.2.Settled ∧ e.2 ≠ .null := by
  rintro e (_ | ⟨_, _ | ⟨_, _ | ⟨_, _ | ⟨_, ⟨⟩⟩⟩⟩⟩)
  · exact ⟨.cls _, by rintro ⟨⟩⟩
  · exact ⟨.annotated _ (.classVar (.cls _)) rfl, by rintro ⟨⟩⟩
  · exact ⟨.cls _, by rintro ⟨⟩⟩
  · exact ⟨.cls _, by rintro ⟨⟩⟩

theorem improper_settled : ∀ e ∈ improper, e.2.Settled ∧ e.2 ≠ .null := by
  rintro e (_ | ⟨_, _ | ⟨_, _ | ⟨_, _ | ⟨_, ⟨⟩⟩⟩⟩⟩)
  · exact ⟨.form _, by rintro ⟨⟩⟩
  all_goals exact ⟨.cls _, by rintro ⟨⟩⟩

theorem annotatedNames_proper :
    (classes proper []).annotatedNames flask = ["label", "size", "spare", "_mark", "cork"] := rfl

theorem typed_of_proper {n : String} {a : Ann} (ha : (classes proper []).annotation? flask n = some a) :
    a.strip ≠ .form .classVar := by
  have hn := Universe.mem_annotatedNames.2 ⟨a, ha⟩
  rw [annotatedNames_proper] at hn
  rcases hn with _ | ⟨_, _ | ⟨_, _ | ⟨_, _ | ⟨_, _ | ⟨_, ⟨⟩⟩⟩⟩⟩⟩
  all_goals
    cases ha
    rintro ⟨⟩

theorem lends_proper {n : String} {a : Ann} (ha : (classes proper []).annotation? flask n = some a) :
    (classes proper []).lends flask n = false := by
  have hall : ∀ n ∈ ["label", "size", "spare", "_mark", "cork"], (classes proper []).lends flask n = false := by
    decide
  exact hall n (annotatedNames_proper ▸ Universe.mem_annotatedNames.2 ⟨a, ha⟩)

theorem fieldsBy_proper :
    (classes proper []).fieldsBy flask Ann.isClassVar ((classes proper []).assigns flask) =
      [⟨"label", .cls (.builtin .str), false⟩, ⟨"size", .cls (.builtin .float), true⟩,
        ⟨"cork", .cls (.builtin .str), false⟩] := by
  have hkept {n : String} {a : Ann} {d : Bool} (ha : (classes proper []).annotation? flask n = some a)
      (hn : (n.startsWith "_" || a.isClassVar) = false) (hd : (classes proper []).assigns flask n = d) :
      (classes proper []).fieldBy flask Ann.isClassVar ((classes proper []).assigns flask) n = some ⟨n, a, d⟩ :=
    hd ▸ Universe.fieldBy_eq_some ha hn
  have hleft {n : String} {a : Ann} (ha : (classes proper []).annotation? flask n = some a)
      (hn : (n.startsWith "_" || a.isClassVar) = true) :
      (classes proper []).fieldBy flask Ann.isClassVar ((classes proper []).assigns flask) n = none :=
    Universe.fieldBy_eq_none ha hn
  have hlabel := hkept (n := "label") (a := .cls (.builtin .str)) (d := false) rfl (Bool.or_eq_false_iff.2 ⟨by simp, rfl⟩)
    (assigns_eq _ _ (by decide))
  have hsize := hkept (n := "size") (a := .cls (.builtin .float)) (d := true) rfl (Bool.or_eq_false_iff.2 ⟨by simp, rfl⟩)
    (assigns_eq _ _ (by decide))
  have hspare := hleft (n := "spare") (a := .annotated (.classVar (.cls (.builtin .int))) [.other (.int 1)]) rfl
    (by decide +kernel)
  have hmark := hleft (n := "_mark") (a := .cls (.builtin .str)) rfl (by decide +kernel)
  have hcork := hkept (n := "cork") (a := .cls (.builtin .str)) (d := false) rfl (Bool.or_eq_false_iff.2 ⟨by simp, rfl⟩)
    (assigns_eq _ _ (by decide))
  rw [Universe.fieldsBy, annotatedNames_proper]
  simp only [List.filterMap_cons, List.filterMap_nil, hlabel, hsize, hspare, hmark, hcork]

end Vessel

theorem Vessel.flask_fields :
    (∀ i ∈ (Vessel.classes Vessel.proper []).ancestry Vessel.flask, ∀ e ∈ i.annotations,
      (Vessel.classes Vessel.proper []).Resolves i.ref e.2) ∧
    (Vessel.classes Vessel.proper []).recordFields? Vessel.flask = none ∧
    (Vessel.classes Vessel.proper []).groupFields Vessel.flask =
      .ok [⟨"label", .cls (.builtin .str), false⟩, ⟨"size", .cls (.builtin .float), true⟩,
        ⟨"cork", .cls (.builtin .str), false⟩] := by
  have hresolves := Vessel.resolves Vessel.proper_settled []
  have hplain : (Vessel.classes Vessel.proper []).groupFields Vessel.flask = .ok _ :=
    (Universe.groupFields_plain_iff rfl hresolves).2.2.2
      ⟨fun n a ha _ => Vessel.typed_of_proper ha, fun n a ha _ _ h => by
        rw [Vessel.lends_proper ha] at h
        cases h⟩
  exact ⟨hresolves, rfl, hplain.trans (congrArg _ Vessel.fieldsBy_proper)⟩

/-- The lid is listed though it is a class variable, and the fields `mro`, `register` and `depth` have defaults though
nothing assigns them. -/
theorem Vessel.lid_listed :
    (∀ i ∈ (Vessel.classes Vessel.improper ["depth"]).ancestry Vessel.flask, ∀ e ∈ i.annotations,
      (Vessel.classes Vessel.improper ["depth"]).Resolves i.ref e.2) ∧
    (Vessel.classes Vessel.improper ["depth"]).recordFields? Vessel.flask = none ∧
    (∀ n ∈ ["mro", "register", "depth"], (Vessel.classes Vessel.improper ["depth"]).assigns Vessel.flask n = false) ∧
    ∃ fields, (Vessel.classes Vessel.improper ["depth"]).groupFields Vessel.flask = .ok fields ∧
      ⟨"lid", .form .classVar, false⟩ ∈ fields ∧
      (∀ n ∈ ["mro", "register", "depth"], ⟨n, .cls (.builtin .int), true⟩ ∈ fields) ∧
      fields ≠ (Vessel.classes Vessel.improper ["depth"]).fieldsBy Vessel.flask Ann.isClassVar
        ((Vessel.classes Vessel.improper ["depth"]).assigns Vessel.flask) := by
  have hresolves := Vessel.resolves Vessel.improper_settled ["depth"]
  have hlid : (Vessel.classes Vessel.improper ["depth"]).annotation? Vessel.flask "lid" = some (.form .classVar) := rfl
  have hunassigned : ∀ n ∈ ["mro", "register", "depth"],
      (Vessel.classes Vessel.improper ["depth"]).assigns Vessel.flask n = false := by
    have hplain : ∀ n ∈ ["mro", "register", "depth"], n.toList.head? ≠ some '_' ∧ (n == "size") = false := by
      decide
    exact fun n hn => (Vessel.assigns_eq _ _ (hplain n hn).1).trans (hplain n hn).2
  refine ⟨hresolves, rfl, hunassigned, _, Universe.groupFields_of_resolves rfl hresolves, ?_, ?_, fun h => ?_⟩
  · refine List.mem_filterMap.2 ⟨"lid", Universe.mem_annotatedNames.2 ⟨_, hlid⟩, ?_⟩
    have hlends : (Vessel.classes Vessel.improper ["depth"]).lends Vessel.flask "lid" = false := by decide
    rw [Universe.fieldBy_eq_some hlid (by decide +kernel), Vessel.assigns_eq _ _ (by decide), hlends]
    rfl
  · have hlent : ∀ n ∈ ["mro", "register", "depth"], n.startsWith "_" = false ∧
        (Vessel.classes Vessel.improper ["depth"]).lends Vessel.flask n = true := by decide +kernel
    intro n hn
    have ha : (Vessel.classes Vessel.improper ["depth"]).annotation? Vessel.flask n = some (.cls (.builtin .int)) := by
      rcases hn with _ | ⟨_, _ | ⟨_, _ | ⟨_, ⟨⟩⟩⟩⟩ <;> rfl
    obtain ⟨hpublic, hlends⟩ := hlent n hn
    refine List.mem_filterMap.2 ⟨n, Universe.mem_annotatedNames.2 ⟨_, ha⟩, ?_⟩
    rw [Universe.fieldBy_eq_some ha (Bool.or_eq_false_iff.2 ⟨hpublic, rfl⟩), hunassigned n hn, hlends]
    rfl
  · have hsame := (filterMap_eq_filterMap_iff (fun _ _ => Universe.name_of_fieldBy) fun _ _ =>
      Universe.name_of_fieldBy).1 h "lid" (Universe.mem_annotatedNames.2 ⟨_, hlid⟩)
    exact ((Universe.fieldBy_congr_iff hlid).1 hsame).1 (by decide +kernel) rfl

end SchemaAssembly
