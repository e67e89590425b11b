import SchemaAssembly.Class.Conduct
import SchemaAssembly.Proofs.Attempt

/-! Instances that are made and filled without code of their class. Setting an attribute then changes that attribute of
that instance and nothing else, and the generated constructor leaves each field with what it is given for it. -/

namespace SchemaAssembly

@[simp] theorem Action.apply_set (s u : Universe) : (set s : Action Unit).apply u = (.ok (), s) := rfl

namespace Universe
variable {u u' : Universe} {c : ClassRef} {name : String}

/-- There is room for the attribute in an instance of the class: it is no property, and no part that every instance has,
and the instances take any attribute, or have a place for this one. -/
structure Settable (u : Universe) (c : ClassRef) (name : String) : Prop where
  ordinary : isFixedPart name = false
  noProperty : ∀ m, u.slot? c name ≠ some (.property m)
  room : u.isRoomy c = true ∨ u.slot? c name = some .place

/-- Setting the attribute of an instance of the class is left to the engine: no class of the lineage has code for it or
keeps it from changing. -/
structure Writable (u : Universe) (c : ClassRef) (name : String) : Prop extends Settable u c name where
  noHook : ∀ i ∈ u.ancestry c, i.slots.get? "__setattr__" = none
  free : ∀ i ∈ u.ancestry c, (i.fixed && (i.ref == c || (i.fields?.getD []).any (·.name == name))) = false

theorem Settable.of_slot (hordinary : isFixedPart name = false) (hroom : u.isRoomy c = true)
    (h : u.slot? c name = none ∨ ∃ v, u.slot? c name = some (.value v)) : u.Settable c name where
  ordinary := hordinary
  noProperty m hm := by
    rcases h with hnone | ⟨v, hv⟩
    · cases hnone.symm.trans hm
    · cases hv.symm.trans hm
  room := .inl hroom

theorem info_congr (h : u'.classes = u.classes) (c : ClassRef) : u'.info c = u.info c := by
  cases c <;> simp only [info, h]

theorem ancestry_congr (h : u'.classes = u.classes) (c : ClassRef) : u'.ancestry c = u.ancestry c := by
  unfold ancestry lineage
  rw [info_congr h c, List.map_congr_left fun c' _ => info_congr h c']

theorem slot?_congr (h : u'.classes = u.classes) (c : ClassRef) (name : String) : u'.slot? c name = u.slot? c name := by
  unfold slot? slotAt?
  rw [ancestry_congr h]

theorem isRoomy_congr (h : u'.classes = u.classes) (c : ClassRef) : u'.isRoomy c = u.isRoomy c := by
  unfold isRoomy
  rw [ancestry_congr h]

theorem metaAttribute?_congr (h : u'.classes = u.classes) (c : ClassRef) (name : String) :
    u'.metaAttribute? c name = u.metaAttribute? c name := by
  unfold metaAttribute? slotAt?
  rw [info_congr h]
  dsimp only
  rw [ancestry_congr h]

theorem Settable.congr (h : u'.classes = u.classes) (hs : u.Settable c name) : u'.Settable c name where
  ordinary := hs.ordinary
  noProperty := slot?_congr h c name ▸ hs.noProperty
  room := slot?_congr h c name ▸ isRoomy_congr h c ▸ hs.room

theorem Writable.congr (h : u'.classes = u.classes) (hw : u.Writable c name) : u'.Writable c name :=
  ⟨hw.toSettable.congr h, ancestry_congr h c ▸ hw.noHook, ancestry_congr h c ▸ hw.free⟩

/-- The generated constructor in a class can store a field of an instance: it asks no class if its instances cannot
change. -/
def Fillable (u : Universe) (c : ClassRef) (info : ClassInfo) (name : String) : Prop :=
  if info.fixed then u.Settable c name else u.Writable c name

theorem Fillable.congr {info : ClassInfo} (h : u'.classes = u.classes) (hf : u.Fillable c info name) :
    u'.Fillable c info name := by
  unfold Fillable at hf ⊢
  split
  · next hfixed =>
    rw [if_pos hfixed] at hf
    exact hf.congr h
  · next hfixed =>
    rw [if_neg hfixed] at hf
    exact hf.congr h

theorem attributesOf_setAttributes (u : Universe) (c : ClassRef) (fs : Assoc Value) (i : Identity) (fields : Assoc Value) :
    (u.setAttributes i fields).attributesOf (.object c fs (some i)) = fields := by
  simp [setAttributes, attributesOf]

def assign (u : Universe) (c : ClassRef) (fs : Assoc Value) (i : Identity) (name : String) (w : Value) : Universe :=
  u.setAttributes i ((u.attributesOf (.object c fs (some i))).insert name w)

theorem attributesOf_assign (u : Universe) (c : ClassRef) (fs : Assoc Value) (i : Identity) (name : String) (w : Value) :
    (u.assign c fs i name w).attributesOf (.object c fs (some i)) =
      (u.attributesOf (.object c fs (some i))).insert name w :=
  attributesOf_setAttributes _ _ _ _ _

theorem current_object (u : Universe) (c : ClassRef) (fs : Assoc Value) (i : Identity) :
    ∃ fs', u.current (.object c fs (some i)) = .object c fs' (some i) := by
  unfold current current? depthLimit currentAt?
  dsimp only
  rw [if_neg (by simp)]
  rcases List.mapM _ (u.attributesOf (.object c fs (some i))) with _ | fs'
  · exact ⟨fs, rfl⟩
  · exact ⟨fs', rfl⟩

theorem attributesOf_current {i : Identity} (hi : (u.attributes.lookup i).isSome) (c : ClassRef) (fs : Assoc Value) :
    u.attributesOf (u.current (.object c fs (some i))) = u.attributesOf (.object c fs (some i)) := by
  obtain ⟨fs', hfs'⟩ := u.current_object c fs i
  obtain ⟨held, hheld⟩ := Option.isSome_iff_exists.1 hi
  rw [hfs', attributesOf, attributesOf, hheld]
  rfl

theorem get?_foldl_assign (c : ClassRef) (fs : Assoc Value) (i : Identity) (value : String → Value) (names : List String)
    (u : Universe) (n : String) :
    ((names.foldl (fun u n => u.assign c fs i n (value n)) u).attributesOf (.object c fs (some i))).get? n =
      if n ∈ names then some (value n) else (u.attributesOf (.object c fs (some i))).get? n := by
  induction names generalizing u with
  | nil => simp
  | cons m names ih =>
    rw [List.foldl_cons, ih, attributesOf_assign, Assoc.get?_insert]
    by_cases hm : m = n
    · simp [hm]
    · simp [hm, Ne.symm hm]

theorem isSome_lookup_assign (u : Universe) (c : ClassRef) (fs : Assoc Value) (i : Identity) (n : String) (w : Value) :
    ((u.assign c fs i n w).attributes.lookup i).isSome := by
  simp [assign, setAttributes]

theorem isSome_lookup_foldl_assign (c : ClassRef) (fs : Assoc Value) (i : Identity) (value : String → Value)
    {names : List String} (hne : names ≠ []) (u : Universe) :
    ((names.foldl (fun u n => u.assign c fs i n (value n)) u).attributes.lookup i).isSome := by
  obtain ⟨names, n, rfl⟩ := (List.eq_nil_or_concat' names).resolve_left hne
  rw [List.foldl_append]
  exact isSome_lookup_assign _ _ _ _ _ _

theorem isSome_lookup_of_get? {i : Identity} {n : String} {w : Value}
    (h : (u.attributesOf (.object c [] (some i))).get? n = some w) : (u.attributes.lookup i).isSome := by
  cases hi : u.attributes.lookup i with
  | some _ => rfl
  | none =>
    rw [attributesOf, hi] at h
    cases h

end Universe

namespace Conduct
variable {u : Universe} {c : ClassRef} {name : String}

theorem store_apply (h : u.Settable c name) (fs : Assoc Value) (i : Identity) (w : Value) :
    (store c (.object c fs (some i)) name w).apply u = (.ok (), u.assign c fs i name w) := by
  have hordinary := h.ordinary
  simp only [isFixedPart, Bool.or_eq_false_iff, beq_eq_false_iff_ne] at hordinary
  obtain ⟨⟨hclass, hdict⟩, href⟩ := hordinary
  unfold store
  rw [Action.apply_bind_ok (Action.apply_get u)]
  dsimp only
  rcases h.room with hroom | hplace
  · rw [hroom]
    cases hs : u.slot? c name with
    | none =>
      split
      case h_9 => rfl
      all_goals simp_all
    | some s =>
      cases s with
      | property m => exact absurd hs (h.noProperty m)
      | _ => rfl
  · rw [hplace]
    rfl

theorem storeThrough_eq (k : Conduct) (v w : Value) {infos : List ClassInfo}
    (hhook : ∀ i ∈ infos, i.slots.get? "__setattr__" = none)
    (hfree : ∀ i ∈ infos, (i.fixed && (i.ref == c || (i.fields?.getD []).any (·.name == name))) = false) :
    k.storeThrough c v name w infos = store c v name w := by
  induction infos with
  | nil => rfl
  | cons i infos ih =>
    obtain ⟨hi, hinfos⟩ := List.forall_mem_cons.1 hhook
    obtain ⟨hf, hfs⟩ := List.forall_mem_cons.1 hfree
    unfold storeThrough
    simp only [hi, hf, Bool.false_eq_true, if_false]
    exact ih hinfos hfs

theorem writeValue_apply (k : Conduct) (h : u.Writable c name) (fs : Assoc Value) (i : Identity) (w : Value) :
    (k.writeValue (.object c fs (some i)) name w).apply u = (.ok (), u.assign c fs i name w) := by
  unfold writeValue
  rw [Action.apply_bind_ok (Action.apply_get u)]
  dsimp only
  rw [storeThrough_eq k _ w h.noHook h.free]
  exact store_apply h.toSettable fs i w

theorem apply_forIn {α : Type} {as : List α} {body : α → PUnit → Action (ForInStep PUnit)}
    (step : Universe → α → Universe) (hstep : ∀ u a, (step u a).classes = u.classes) (u : Universe)
    (hbody : ∀ a ∈ as, ∀ u', u'.classes = u.classes → (body a ⟨⟩).apply u' = (.ok (.yield ⟨⟩), step u' a)) :
    (forIn as PUnit.unit body).apply u = (.ok ⟨⟩, as.foldl step u) := by
  induction as generalizing u with
  | nil => rfl
  | cons a as ih =>
    obtain ⟨ha, has⟩ := List.forall_mem_cons.1 hbody
    rw [List.forIn_cons, Action.apply_bind_ok (ha u rfl), List.foldl_cons]
    exact ih _ fun a' ha' u' hu' => has a' ha' u' (hu'.trans (hstep u a))

end Conduct

namespace Universe

/-- An instance with a value for an attribute that is told from all others from now on. -/
def keep (u : Universe) (c : ClassRef) (fs : Assoc Value) (i : Identity) (name : String) (w : Value) : Universe :=
  (u.meet w).2.assign c fs i name (u.meet w).1

/-- An instance with what the generated constructor stores for a field. -/
def keepField (c : ClassRef) (fs : Assoc Value) (i : Identity) (received : Assoc Value) (u : Universe) (f : RecordField) :
    Universe :=
  match f.stored? received with
  | some w => u.keep c fs i f.name w
  | none => u

theorem classes_keepField (c : ClassRef) (fs : Assoc Value) (i : Identity) (received : Assoc Value) (u : Universe)
    (f : RecordField) : (keepField c fs i received u f).classes = u.classes := by
  unfold keepField
  split <;> rfl

theorem met_keepField (c : ClassRef) (fs : Assoc Value) (i : Identity) (received : Assoc Value) (u : Universe)
    (f : RecordField) : u.met ≤ (keepField c fs i received u f).met := by
  unfold keepField
  split
  · exact Nat.le_succ _
  · exact Nat.le_refl _

variable {u : Universe} {c : ClassRef} {fs received : Assoc Value} {i : Identity} {fields : List RecordField}

theorem classes_keepFields (u : Universe) :
    (fields.foldl (keepField c fs i received) u).classes = u.classes := by
  induction fields generalizing u with
  | nil => rfl
  | cons f fields ih => rw [List.foldl_cons, ih, classes_keepField]

theorem get?_keepField (u : Universe) (f : RecordField) (n : String) :
    ((keepField c fs i received u f).attributesOf (.object c fs (some i))).get? n =
      if f.name = n then
        ((f.stored? received).map fun w => w.placed (.met u.met)).or ((u.attributesOf (.object c fs (some i))).get? n)
      else (u.attributesOf (.object c fs (some i))).get? n := by
  unfold keepField
  cases f.stored? received with
  | none => simp
  | some w =>
    have hmeet : (u.meet w).2.attributesOf (.object c fs (some i)) = u.attributesOf (.object c fs (some i)) := rfl
    unfold keep
    rw [attributesOf_assign, Assoc.get?_insert, hmeet]
    rfl

theorem get?_keepFields_other {n : String} (hn : n ∉ fields.map (·.name)) (u : Universe) :
    ((fields.foldl (keepField c fs i received) u).attributesOf (.object c fs (some i))).get? n =
      (u.attributesOf (.object c fs (some i))).get? n := by
  induction fields generalizing u with
  | nil => rfl
  | cons f fields ih =>
    obtain ⟨hf, hfs⟩ := not_or.1 (mt List.mem_cons.2 hn)
    rw [List.foldl_cons, ih hfs, get?_keepField, if_neg (Ne.symm hf)]

theorem get?_keepFields (hnd : (fields.map (·.name)).Nodup) {f : RecordField} (hf : f ∈ fields) {w : Value}
    (hw : f.stored? received = some w) (u : Universe) :
    ∃ k ≥ u.met, ((fields.foldl (keepField c fs i received) u).attributesOf (.object c fs (some i))).get? f.name =
      some (w.placed (.met k)) := by
  induction fields generalizing u with
  | nil => cases hf
  | cons g fields ih =>
    obtain ⟨hg, hfields⟩ := List.nodup_cons.1 hnd
    rw [List.foldl_cons]
    rcases List.mem_cons.1 hf with rfl | hf
    · refine ⟨u.met, Nat.le_refl _, ?_⟩
      rw [get?_keepFields_other hg, get?_keepField, if_pos rfl, hw]
      rfl
    · obtain ⟨k, hk, hget⟩ := ih hfields hf (keepField c fs i received u g)
      exact ⟨k, Nat.le_trans (met_keepField _ _ _ _ _ _) hk, hget⟩

end Universe

namespace Conduct

/-- The generated constructor, given arguments that it takes, stores its fields and leaves the rest to what comes after
it. -/
theorem fill_apply (k k' : Conduct) (hk : k.write = k'.writeValue) {u : Universe} {c : ClassRef} {fs : Assoc Value}
    {i : Identity} {info : ClassInfo} {fields : List RecordField} {call : Call} {received : Assoc Value}
    (hbind : (RecordField.signature fields).bind (.object c fs (some i) :: call.positional) call.named = .ok received)
    (hset : ∀ f ∈ fields, u.Fillable c info f.name) :
    (k.fill c (.object c fs (some i)) info fields call).apply u =
      (k.afterInit c (.object c fs (some i)) info (passedOn fields received.tail)).apply
        (fields.foldl (Universe.keepField c fs i received.tail) u) := by
  unfold fill Signature.bindOthers
  rw [hbind, Action.apply_bind_ok (Action.apply_pure _ u), Action.apply_bind_ok
    (apply_forIn (Universe.keepField c fs i received.tail) (Universe.classes_keepField _ _ _ _) u fun f hf u' hu' => ?_)]
  have hmeet (w : Value) : (u'.meet w).2.classes = u'.classes := rfl
  have hset := (hset f hf).congr hu'
  unfold Universe.Fillable at hset
  dsimp only
  unfold Universe.keepField
  cases f.stored? received.tail with
  | none => rfl
  | some w =>
    dsimp only
    rw [Action.apply_bind_ok (Action.apply_get u'), Action.apply_bind_ok (Action.apply_set _ u')]
    cases hfixed : info.fixed with
    | true =>
      rw [hfixed, if_pos rfl] at hset
      rw [if_pos rfl, Action.apply_bind_ok (store_apply (hset.congr (hmeet w)) fs i _)]
      rfl
    | false =>
      rw [hfixed, if_neg Bool.false_ne_true] at hset
      rw [if_neg Bool.false_ne_true, hk, Action.apply_bind_ok (writeValue_apply k' (hset.congr (hmeet w)) fs i _)]
      rfl

end Conduct

/-- The first constructor in the lineage of a class is one that was generated, for the given fields, which have names of
their own. -/
structure Universe.Constructs (u : Universe) (c : ClassRef) (info : ClassInfo) (fields : List RecordField) : Prop where
  first : ∃ before after, u.ancestry c = before ++ info :: after ∧
    ∀ j ∈ before, j.slots.get? "__init__" = none ∧ j.constructor? = none ∧ j.constructorFault? = none
  unwritten : info.slots.get? "__init__" = none
  generated : info.constructor? = some fields
  names : (fields.map (·.name)).Nodup
  named : "" ∉ fields.map (·.name)

/-- Instances of a class are made by a generated constructor, and by no code of the class or of its own class: nothing
else answers when it is called, and the setting of the fields is left to the engine. -/
structure Universe.Generates (u : Universe) (c : ClassRef) (info : ClassInfo) (fields : List RecordField) : Prop
    extends u.Constructs c info fields where
  itself : c ∈ u.lineage c
  uncalled : u.metaAttribute? c "__call__" = none
  unmade : u.slotAt? c "__new__" = none
  noEnum : c.isEnum = false
  noInfo : u.isSubclass c (.builtin .resolveInfo) = false
  fillable : ∀ f ∈ fields, u.Fillable c info f.name

namespace Conduct
variable {u : Universe} {c : ClassRef} {info : ClassInfo} {fields : List RecordField}

theorem initialise_eq_fill (k : Conduct) (v : Value) (call : Call) {before after : List ClassInfo}
    (hbefore : ∀ j ∈ before, j.slots.get? "__init__" = none ∧ j.constructor? = none ∧ j.constructorFault? = none)
    (hown : info.slots.get? "__init__" = none) (hfields : info.constructor? = some fields) :
    k.initialise c v call (before ++ info :: after) = k.fill c v info fields call := by
  induction before with
  | nil =>
    rw [List.nil_append, initialise, hown, hfields]
  | cons j before ih =>
    obtain ⟨⟨hinit, hrecord, hfault⟩, hrest⟩ := List.forall_mem_cons.1 hbefore
    rw [List.cons_append, initialise, hinit, hrecord, hfault]
    exact ih hrest

def newInstance (u : Universe) (c : ClassRef) : Value :=
  .object c [] (some (.met u.met))

def filled (u : Universe) (c : ClassRef) (fields : List RecordField) (received : Assoc Value) : Universe :=
  fields.foldl (Universe.keepField c [] (.met u.met) received) { u with met := u.met + 1 }

theorem classes_filled (u : Universe) (c : ClassRef) (fields : List RecordField) (received : Assoc Value) :
    (filled u c fields received).classes = u.classes :=
  Universe.classes_keepFields { u with met := u.met + 1 }

theorem allocate_apply (k : Conduct) (call : Call) (hnew : u.slotAt? c "__new__" = none) (henum : c.isEnum = false) :
    (k.allocate c call).apply u = (.ok (newInstance u c), { u with met := u.met + 1 }) := by
  have hmeet : u.meet (.object c [] none) = (newInstance u c, { u with met := u.met + 1 }) := by
    unfold Universe.meet newInstance
    rw [Value.placed, henum]
    rfl
  unfold allocate
  rw [Action.apply_bind_ok (Action.apply_get u), hnew]
  dsimp only
  rw [Action.apply_bind_ok (Action.apply_get u), hmeet]
  rfl

/-- Calling a class whose instances are made by a generated constructor fills a new instance. -/
theorem construct_eq_fill (k : Conduct) (h : u.Generates c info fields) (call : Call) :
    (k.construct c call).apply u =
      (do
        k.fill c (newInstance u c) info fields call
        return (← get).current (newInstance u c) : Action Value).apply { u with met := u.met + 1 } := by
  obtain ⟨before, after, hancestry, hbefore⟩ := h.first
  have hitself : ({ u with met := u.met + 1 } : Universe).isSubclass c c = true := List.contains_iff_mem.2 h.itself
  have hclasses : ({ u with met := u.met + 1 } : Universe).classes = u.classes := rfl
  unfold construct
  rw [Action.apply_bind_ok (Action.apply_get u), h.noInfo, h.noEnum]
  simp only [Bool.false_eq_true, if_false]
  rw [Action.apply_bind_ok (allocate_apply k call h.unmade h.noEnum)]
  unfold newInstance
  dsimp only
  rw [Action.apply_bind_ok (Action.apply_get _), hitself, if_pos rfl, Universe.ancestry_congr hclasses, hancestry,
    initialise_eq_fill k _ call hbefore h.unwritten h.generated]

/-- If the constructor takes what it is given, making the instance comes to what is done after that. -/
theorem construct_apply (k k' : Conduct) (hk : k.write = k'.writeValue) (h : u.Generates c info fields) {call : Call}
    {received : Assoc Value}
    (hbind : (RecordField.signature fields).bind (newInstance u c :: call.positional) call.named = .ok received) :
    (k.construct c call).apply u =
      match (k.afterInit c (newInstance u c) info (passedOn fields received.tail)).apply
        (filled u c fields received.tail) with
      | (.ok _, after) => (.ok (after.current (newInstance u c)), after)
      | (.error f, after) => (.error f, after) := by
  have hclasses : ({ u with met := u.met + 1 } : Universe).classes = u.classes := rfl
  have hfill := fill_apply k k' hk hbind fun f hf => (h.fillable f hf).congr hclasses
  rw [construct_eq_fill k h, Action.apply_bind, newInstance, hfill]
  unfold filled
  rcases (k.afterInit c _ info _).apply _ with ⟨_ | _, after⟩
  · rfl
  · rfl

theorem construct_refuses (k : Conduct) (h : u.Generates c info fields) {call : Call} {f : CallFault}
    (hbind : (RecordField.signature fields).bind (newInstance u c :: call.positional) call.named = .error f) :
    (k.construct c call).apply u =
      (.error (.plain .type (f.message s!"{info.ref.name}.__init__")), { u with met := u.met + 1 }) := by
  have hfill : (k.fill c (newInstance u c) info fields call).apply { u with met := u.met + 1 } =
      (.error (.plain .type (f.message s!"{info.ref.name}.__init__")), { u with met := u.met + 1 }) := by
    unfold fill Signature.bindOthers
    rw [hbind]
    rfl
  rw [construct_eq_fill k h, Action.apply_bind, hfill]

/-- Calling a class makes an instance of it, unless the class of the class answers. -/
theorem call_cls_apply (h : u.metaAttribute? c "__call__" = none) (call : Call) :
    (conduct.call (.cls c) call).apply u = ((Conduct.bounded 199).construct c call).apply u := by
  change ((Conduct.bounded 199).callValue (.cls c) call).apply u = _
  unfold callValue
  rw [Action.apply_bind_ok (Action.apply_get u), h]

end Conduct

end SchemaAssembly
