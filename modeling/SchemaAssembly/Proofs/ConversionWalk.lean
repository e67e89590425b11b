import SchemaAssembly.Attempt
import SchemaAssembly.Conversion

/-! The walk of a conversion keeps that a type which is referred to is in the order or about to be visited, and that a
type in the order is converted or about to be. It has as many steps as it can need, so that nothing is left to do in the
end. -/

namespace SchemaAssembly

theorem NamedType.mem_references_of_field {t : NamedType} {f : FieldDef} (h : f ∈ t.fields) :
    f.type.base ∈ t.references :=
  List.mem_append_left _ (List.mem_append_left _ (List.mem_map_of_mem h))

/-- The class at the base of an exposed annotation has the type at the base. -/
theorem Ann.base_of_exposed {key : ClassRef → Option TypeKey} {isInput : ClassRef → Bool} {void : TypeKey} {a : Ann}
    {t : WireType} {c : ClassRef} (h : a.exposed key isInput void = .ok (t, c)) :
    (c = .builtin .noneType ∧ t.base = void) ∨ key c = some t.base := by
  fun_induction Ann.exposed key isInput void a generalizing t c with
  | case1 => cases h
  | case2 =>
    cases h
    exact .inl ⟨rfl, rfl⟩
  | case3 => cases h
  | case4 _ _ _ _ _ _ _ ih =>
    obtain ⟨⟨t', c'⟩, he, heq⟩ := Attempt.map_eq_ok.1 h
    cases heq
    rw [WireType.base_wrap]
    exact ih he
  | case5 => cases h
  | case6 c' _ _ _ _ k hkey =>
    cases h
    rw [WireType.base_wrap]
    exact .inr hkey
  | _ => cases h

namespace Conversion
variable {cv : Conversion}

theorem mem_definitions {u : Universe} {i : ClassInfo} {c : ClassRef} {d : SchemaDefinition} (hi : i ∈ u.ancestry c)
    (hd : i.definition = some d) : d ∈ u.classes.filterMap (·.definition) := by
  have hown : ∀ i ∈ Library.ownClasses.values.flatten, i.definition = none := by decide +kernel
  obtain ⟨r, -, rfl⟩ := List.mem_map.1 hi
  cases r with
  | builtin b =>
    rw [Universe.definition_info_builtin] at hd
    cases hd
  | defined module name mark =>
    simp only [Universe.info] at hd
    cases hfind : u.classes.find? (·.ref = .defined module name mark) with
    | some i =>
      rw [hfind] at hd
      exact List.mem_filterMap.2 ⟨i, List.mem_of_find?_eq_some hfind, hd⟩
    | none =>
      rw [hfind] at hd
      cases hlibrary : Library.ownClass? (.defined module name mark) with
      | some i =>
        rw [hlibrary] at hd
        rw [Option.getD_none, Option.getD_some, hown i (List.mem_of_find?_eq_some hlibrary)] at hd
        cases hd
      | none =>
        rw [hlibrary] at hd
        cases hd

theorem owner?_eq_some {c owner : ClassRef} {d : SchemaDefinition} (h : cv.owner? c = some (owner, d)) :
    ∃ i ∈ cv.defs.ancestry c, i.ref = owner ∧ i.definition = some d := by
  obtain ⟨i, hi, hd⟩ := List.exists_of_findSome?_eq_some h
  obtain ⟨d', hd', heq⟩ := Option.map_eq_some_iff.1 hd
  cases heq
  exact ⟨i, hi, rfl, hd'⟩

theorem owner?_builtin (cv : Conversion) (b : Builtin) : cv.owner? (.builtin b) = none := by
  have hlineage : ∀ r ∈ Lineage.ofBuiltin b, ∃ b', r = .builtin b' := by
    unfold Lineage.ofBuiltin
    split <;> simp [ClassRef.type]
  rw [owner?, List.findSome?_eq_none_iff]
  intro i hi
  obtain ⟨r, hr, rfl⟩ := List.mem_map.1 hi
  have hr : r ∈ Lineage.ofBuiltin b := Universe.lineage_info_builtin cv.defs b ▸ hr
  obtain ⟨b', rfl⟩ := hlineage r hr
  rw [Universe.definition_info_builtin]
  rfl

/-- The type that a visit of a class leads to. -/
def visited? (cv : Conversion) (c : ClassRef) : Option TypeKey :=
  if c = .builtin .noneType then some cv.void.key else (cv.owner? c).map fun e => cv.keyOf e.2.name

theorem visited?_of_owner {c owner : ClassRef} {d : SchemaDefinition} (h : cv.owner? c = some (owner, d)) :
    cv.visited? c = some (cv.keyOf d.name) := by
  have hc : c ≠ .builtin .noneType := by
    rintro rfl
    rw [owner?_builtin] at h
    cases h
  rw [visited?, if_neg hc, h]
  rfl

theorem scalar?_eq_some {c : ClassRef} {t : NamedType} (h : scalar? c = some t) :
    t.key ∈ builtinScalars.values ∧ ∃ b, c = .builtin b := by
  unfold scalar? at h
  split at h <;> cases h <;> exact ⟨by decide, _, rfl⟩

theorem typeKey?_eq_some {c : ClassRef} {k : TypeKey} (h : cv.typeKey? c = some k) :
    k ∈ builtinScalars.values ∨ cv.visited? c = some k := by
  unfold typeKey? at h
  split at h
  · next t ht =>
    cases h
    exact .inl (scalar?_eq_some ht).1
  · obtain ⟨⟨owner, d⟩, he, rfl⟩ := Option.map_eq_some_iff.1 h
    exact .inr (visited?_of_owner he)

theorem typeKey?_of_owner {c owner : ClassRef} {d : SchemaDefinition} (h : cv.owner? c = some (owner, d)) :
    cv.typeKey? c = some (cv.keyOf d.name) := by
  unfold typeKey?
  split
  · next t ht =>
    obtain ⟨-, b, rfl⟩ := scalar?_eq_some ht
    rw [owner?_builtin] at h
    cases h
  · rw [h]
    rfl

/-- The type at the base of a field is a built-in scalar or what a visit of the class at its base leads to. -/
def Based (cv : Conversion) (f : FieldDef × ClassRef) : Prop :=
  f.1.type.base ∈ builtinScalars.values ∨ cv.visited? f.2 = some f.1.type.base

theorem fieldType_eq_ok {module name : String} {a : Ann} {type : WireType} {base : ClassRef}
    (h : cv.fieldType module name a = .ok (type, base)) :
    type.base ∈ builtinScalars.values ∨ cv.visited? base = some type.base := by
  unfold fieldType at h
  split at h
  · cases h
  · split at h
    · rcases Ann.base_of_exposed h with ⟨hbase, htype⟩ | hkey
      · right
        rw [visited?, if_pos hbase, htype]
      · exact typeKey?_eq_some hkey
    · cases h

theorem addField_eq_ok {module : String} {acc acc' : Names × ConvertedFields} {e : String × Ann}
    (h : cv.addField module acc e = .ok acc') :
    ∃ f, acc'.2 = acc.2.insert f.1.name f ∧ cv.Based f := by
  obtain ⟨⟨type, base⟩, htype, h⟩ := Attempt.bind_eq_ok.1 h
  obtain ⟨names, -, h⟩ := Attempt.bind_eq_ok.1 h
  cases h
  exact ⟨({ name := cv.fieldName e.1, type, reads := some e.1 }, base), rfl, fieldType_eq_ok htype⟩

theorem foldlM_addField_eq_ok {module : String} {es : Assoc Ann} {acc acc' : Names × ConvertedFields}
    (h : es.foldlM (cv.addField module) acc = .ok acc') (hacc : ∀ f ∈ acc.2.values, cv.Based f) :
    acc'.2.length ≤ acc.2.length + es.length ∧ ∀ f ∈ acc'.2.values, cv.Based f := by
  induction es generalizing acc with
  | nil =>
    cases h
    exact ⟨Nat.le_refl _, hacc⟩
  | cons e es ih =>
    obtain ⟨next, hnext, hrest⟩ := Attempt.foldlM_cons_eq_ok.1 h
    obtain ⟨f, hinsert, hf⟩ := addField_eq_ok hnext
    have hbased : ∀ f' ∈ next.2.values, cv.Based f' := by
      intro f' hf'
      rw [hinsert] at hf'
      rcases Assoc.mem_values_insert hf' with rfl | hf'
      · exact hf
      · exact hacc f' hf'
    have hlength := Assoc.length_insert_le acc.2 f.1.name f
    rw [← hinsert] at hlength
    obtain ⟨hle, hall⟩ := ih hrest hbased
    refine ⟨?_, hall⟩
    rw [List.length_cons]
    omega

theorem convertFields_eq_ok {names names' : Names} {d : SchemaDefinition} {fields : ConvertedFields}
    (h : cv.convertFields names d = .ok (names', fields)) :
    fields.length ≤ d.fields.length ∧ ∀ f ∈ fields.values, cv.Based f := by
  obtain ⟨⟨names'', fields''⟩, hfields, h⟩ := Attempt.bind_eq_ok.1 h
  obtain ⟨-, -, h⟩ := Attempt.bind_eq_ok.1 h
  cases h
  have hrun := foldlM_addField_eq_ok (Attempt.mapError_eq_ok.1 hfields) fun f hf => by cases hf
  rwa [List.length_nil, Nat.zero_add] at hrun

/-- What a visit does: nothing, or it notes the type of null, or a class with the tasks that this gives. -/
theorem visit_cases (cv : Conversion) (w : Walk) (c : ClassRef) :
    (cv.visit w c = (w, []) ∧ ∀ k, cv.visited? c = some k → k ∈ w.order) ∨
    (c = .builtin .noneType ∧ cv.void.key ∉ w.order ∧
      cv.visit w c = ({ w with order := w.order ++ [cv.void.key], types := w.types ++ [cv.void] }, [])) ∨
    ∃ owner d, cv.owner? c = some (owner, d) ∧ cv.keyOf d.name ∉ w.order ∧
      cv.visit w c =
        ({ w with order := w.order ++ [cv.keyOf d.name] }, d.interfaces.map .visit ++ [.fields owner d]) := by
  unfold visit
  by_cases hc : c = .builtin .noneType
  · rw [if_pos hc]
    by_cases hvoid : cv.void.key ∈ w.order
    · left
      rw [if_pos (List.contains_iff_mem.2 hvoid)]
      refine ⟨rfl, fun k hk => ?_⟩
      rw [visited?, if_pos hc] at hk
      cases hk
      exact hvoid
    · right; left
      rw [if_neg (mt List.contains_iff_mem.1 hvoid)]
      exact ⟨hc, hvoid, rfl⟩
  · rw [if_neg hc]
    cases howner : cv.owner? c with
    | none =>
      refine .inl ⟨rfl, fun k hk => ?_⟩
      rw [visited?, if_neg hc, howner] at hk
      cases hk
    | some e =>
      obtain ⟨owner, d⟩ := e
      by_cases hkey : cv.keyOf d.name ∈ w.order
      · left
        refine ⟨if_pos (List.contains_iff_mem.2 hkey), fun k hk => ?_⟩
        rw [visited?_of_owner howner] at hk
        cases hk
        exact hkey
      · exact .inr (.inr ⟨owner, d, rfl, hkey, if_neg (mt List.contains_iff_mem.1 hkey)⟩)

/-- A type that needs no further visit: a built-in scalar, or one that is in the order or about to be visited. -/
def Covered (cv : Conversion) (tasks : List WalkTask) (w : Walk) (k : TypeKey) : Prop :=
  k ∈ builtinScalars.values ∨ k ∈ w.order ∨ ∃ c, .visit c ∈ tasks ∧ cv.visited? c = some k

/-- What holds all along a walk. The types of the classes given for later are in the order already. -/
structure Sound (cv : Conversion) (later : List TypeKey) (tasks : List WalkTask) (w : Walk) : Prop where
  nodup : w.order.Nodup
  fresh : ∀ k ∈ w.order, k.origin = .converted cv.generation
  /-- A type in the order is converted, is about to be, or belongs to a class given for later. -/
  settled : ∀ k ∈ w.order, k ∈ later ∨ k ∈ w.types.map (·.key) ∨ ∃ c d, .fields c d ∈ tasks ∧ cv.keyOf d.name = k
  closed : ∀ t ∈ w.types, ∀ k ∈ t.references, cv.Covered tasks w k
  /-- The interfaces of a class are visited before its fields are converted. -/
  awaited : ∀ c d, .fields c d ∈ tasks → ∀ i ∈ d.interfaces, ∀ k, cv.typeKey? i = some k → cv.Covered tasks w k

theorem Covered.visit {w : Walk} {c : ClassRef} {rest : List WalkTask} {k : TypeKey}
    (h : cv.Covered (.visit c :: rest) w k) :
    cv.Covered ((cv.visit w c).2 ++ rest) (cv.visit w c).1 k := by
  rcases h with h | h | ⟨c', hc', hk⟩
  · exact .inl h
  · right; left
    rcases cv.visit_cases w c with ⟨heq, -⟩ | ⟨-, -, heq⟩ | ⟨owner, d, -, -, heq⟩
    · rwa [heq]
    · rw [heq]
      exact List.mem_append_left _ h
    · rw [heq]
      exact List.mem_append_left _ h
  · rcases List.mem_cons.1 hc' with heq | hrest
    · cases heq
      right; left
      rcases cv.visit_cases w c with ⟨heq, hin⟩ | ⟨hc, -, heq⟩ | ⟨owner, d, howner, -, heq⟩
      · rw [heq]
        exact hin k hk
      · rw [visited?, if_pos hc] at hk
        cases hk
        rw [heq]
        exact List.mem_append_right _ List.mem_cons_self
      · rw [visited?_of_owner howner] at hk
        cases hk
        rw [heq]
        exact List.mem_append_right _ List.mem_cons_self
    · exact .inr (.inr ⟨c', List.mem_append_right _ hrest, hk⟩)

theorem Covered.mono {tasks tasks' : List WalkTask} {w w' : Walk} {k : TypeKey} (h : cv.Covered tasks w k)
    (horder : ∀ k ∈ w.order, k ∈ w'.order) (htasks : ∀ c, .visit c ∈ tasks → .visit c ∈ tasks') :
    cv.Covered tasks' w' k := by
  rcases h with h | h | ⟨c, hc, hk⟩
  · exact .inl h
  · exact .inr (.inl (horder k h))
  · exact .inr (.inr ⟨c, htasks c hc, hk⟩)

theorem nodup_concat {ks : List TypeKey} {k : TypeKey} (h : ks.Nodup) (hk : k ∉ ks) : (ks ++ [k]).Nodup := by
  refine List.nodup_append.2 ⟨h, List.pairwise_singleton _ k, ?_⟩
  rintro a ha b hb rfl
  exact hk (List.mem_singleton.1 hb ▸ ha)

theorem fields_of_visit {c c' : ClassRef} {d : SchemaDefinition} {rest : List WalkTask}
    (h : .fields c' d ∈ WalkTask.visit c :: rest) : .fields c' d ∈ rest := by
  rcases List.mem_cons.1 h with h | h
  · cases h
  · exact h

theorem Sound.note {later : List TypeKey} {w : Walk} {c : ClassRef} {rest : List WalkTask}
    (h : Sound cv later (.visit c :: rest) w) (hvoid : cv.void.key ∉ w.order)
    (hcovered : ∀ k, cv.Covered (.visit c :: rest) w k →
      cv.Covered rest { w with order := w.order ++ [cv.void.key], types := w.types ++ [cv.void] } k) :
    Sound cv later rest { w with order := w.order ++ [cv.void.key], types := w.types ++ [cv.void] } where
  nodup := nodup_concat h.nodup hvoid
  fresh k hk := by
    rcases List.mem_append.1 hk with hk | hk
    · exact h.fresh k hk
    · rw [List.mem_singleton.1 hk]
      rfl
  settled k hk := by
    rw [List.map_append, List.mem_append]
    rcases List.mem_append.1 hk with hk | hk
    · rcases h.settled k hk with hlater | htype | ⟨c', d, hc', hd⟩
      · exact .inl hlater
      · exact .inr (.inl (.inl htype))
      · exact .inr (.inr ⟨c', d, fields_of_visit hc', hd⟩)
    · exact .inr (.inl (.inr hk))
  closed t ht k hk := by
    rcases List.mem_append.1 ht with ht | ht
    · exact hcovered k (h.closed t ht k hk)
    · rw [List.mem_singleton.1 ht] at hk
      cases hk
  awaited c' d hc' i hi k hk := hcovered k (h.awaited c' d (List.mem_cons_of_mem _ hc') i hi k hk)

/-- Noting a class keeps the walk sound: its interfaces are about to be visited, and then its fields converted. -/
theorem Sound.enter {later : List TypeKey} {w : Walk} {c owner : ClassRef} {d : SchemaDefinition} {rest : List WalkTask}
    (h : Sound cv later (.visit c :: rest) w) (hkey : cv.keyOf d.name ∉ w.order)
    (hcovered : ∀ k, cv.Covered (.visit c :: rest) w k →
      cv.Covered (d.interfaces.map .visit ++ [.fields owner d] ++ rest) { w with order := w.order ++ [cv.keyOf d.name] } k) :
    Sound cv later (d.interfaces.map .visit ++ [.fields owner d] ++ rest)
      { w with order := w.order ++ [cv.keyOf d.name] } where
  nodup := nodup_concat h.nodup hkey
  fresh k hk := by
    rcases List.mem_append.1 hk with hk | hk
    · exact h.fresh k hk
    · rw [List.mem_singleton.1 hk]
      rfl
  settled k hk := by
    rcases List.mem_append.1 hk with hk | hk
    · rcases h.settled k hk with hlater | htype | ⟨c', d', hc', hd'⟩
      · exact .inl hlater
      · exact .inr (.inl htype)
      · exact .inr (.inr ⟨c', d', List.mem_append_right _ (fields_of_visit hc'), hd'⟩)
    · exact .inr (.inr ⟨owner, d, by simp, (List.mem_singleton.1 hk).symm⟩)
  closed t ht k hk := hcovered k (h.closed t ht k hk)
  awaited c' d' hc' i hi k hk := by
    rcases List.mem_append.1 hc' with hnew | hrest
    · have heq : WalkTask.fields c' d' = .fields owner d := by simpa using hnew
      cases heq
      have hvisit : WalkTask.visit i ∈ d.interfaces.map .visit ++ [.fields owner d] ++ rest :=
        List.mem_append_left _ (List.mem_append_left _ (List.mem_map_of_mem hi))
      exact (typeKey?_eq_some hk).imp_right fun hvisited => .inr ⟨i, hvisit, hvisited⟩
    · exact hcovered k (h.awaited c' d' (List.mem_cons_of_mem _ hrest) i hi k hk)

theorem Sound.visit {later : List TypeKey} {w : Walk} {c : ClassRef} {rest : List WalkTask}
    (h : Sound cv later (.visit c :: rest) w) : Sound cv later ((cv.visit w c).2 ++ rest) (cv.visit w c).1 := by
  have hcovered (k : TypeKey) :
      cv.Covered (.visit c :: rest) w k → cv.Covered ((cv.visit w c).2 ++ rest) (cv.visit w c).1 k := Covered.visit
  rcases cv.visit_cases w c with ⟨heq, -⟩ | ⟨-, hvoid, heq⟩ | ⟨owner, d, -, hkey, heq⟩
  · rw [heq] at hcovered ⊢
    refine ⟨h.nodup, h.fresh, fun k hk => ?_, fun t ht k hk => hcovered k (h.closed t ht k hk),
      fun c' d hc' i hi k hk => hcovered k (h.awaited c' d (List.mem_cons_of_mem _ hc') i hi k hk)⟩
    exact (h.settled k hk).imp_right (Or.imp_right fun ⟨c', d, hc', hd⟩ => ⟨c', d, fields_of_visit hc', hd⟩)
  · rw [heq] at hcovered ⊢
    exact h.note hvoid hcovered
  · rw [heq] at hcovered ⊢
    exact h.enter hkey hcovered

theorem mem_fields_convert {c : ClassRef} {d : SchemaDefinition} {fields : List FieldDef} {f : FieldDef}
    (h : f ∈ (cv.convert c d fields).fields) : f ∈ fields := by
  simp only [convert, body, NamedType.fields] at h
  cases hrole : d.role <;> simp only [hrole] at h
  case enum => cases h
  all_goals exact h

theorem members_convert (c : ClassRef) (d : SchemaDefinition) (fields : List FieldDef) :
    (cv.convert c d fields).members = [] := by
  cases hrole : d.role <;> simp only [convert, body, NamedType.members, hrole]

theorem Covered.fields {w w' : Walk} {owner : ClassRef} {d : SchemaDefinition} {rest : List WalkTask} {k : TypeKey}
    (h : cv.Covered (.fields owner d :: rest) w k) (horder : w'.order = w.order) (tasks : List WalkTask) :
    cv.Covered (tasks ++ rest) w' k := by
  refine h.mono (fun _ => by rw [horder]; exact id) fun c hc => List.mem_append_right _ ?_
  rcases List.mem_cons.1 hc with hc | hc
  · cases hc
  · exact hc

/-- Converting the fields of a class keeps the walk sound. -/
theorem Sound.convertFields {later : List TypeKey} {w : Walk} {owner : ClassRef} {d : SchemaDefinition}
    {rest : List WalkTask} {names : Names} {fields : ConvertedFields} (h : Sound cv later (.fields owner d :: rest) w)
    (hfields : cv.convertFields w.names d = .ok (names, fields)) :
    Sound cv later (fields.values.map (fun f => .visit f.2) ++ rest)
      { w with names, types := w.types ++ [cv.convert owner d (fields.values.map (·.1))] } := by
  have hrest {c : ClassRef} {d' : SchemaDefinition}
      (hc : .fields c d' ∈ fields.values.map (fun f => WalkTask.visit f.2) ++ rest) : .fields c d' ∈ rest := by
    rcases List.mem_append.1 hc with hc | hc
    · obtain ⟨f, -, hf⟩ := List.mem_map.1 hc
      cases hf
    · exact hc
  refine ⟨h.nodup, h.fresh, fun k hk => ?_, fun t ht k hk => ?_, fun c d' hc i hi k hk => ?_⟩
  · rw [List.map_append, List.mem_append]
    rcases h.settled k hk with hlater | htype | ⟨c, d', hc, hd⟩
    · exact .inl hlater
    · exact .inr (.inl (.inl htype))
    · rcases List.mem_cons.1 hc with heq | hc
      · cases heq
        exact .inr (.inl (.inr (List.mem_singleton.2 hd.symm)))
      · exact .inr (.inr ⟨c, d', List.mem_append_right _ hc, hd⟩)
  · rcases List.mem_append.1 ht with ht | ht
    · exact (h.closed t ht k hk).fields rfl _
    · rw [List.mem_singleton.1 ht] at hk
      unfold NamedType.references at hk
      rw [members_convert, List.append_nil] at hk
      rcases List.mem_append.1 hk with hk | hk
      · obtain ⟨f, hf, rfl⟩ := List.mem_map.1 hk
        obtain ⟨e, he, rfl⟩ := List.mem_map.1 (mem_fields_convert hf)
        refine ((convertFields_eq_ok hfields).2 e he).imp_right fun hvisited => .inr ⟨e.2, ?_, hvisited⟩
        exact List.mem_append_left _ (List.mem_map_of_mem he)
      · obtain ⟨i, hi, hi'⟩ := List.mem_filterMap.1 hk
        exact (h.awaited owner d List.mem_cons_self i hi k hi').fields rfl _
  · exact (h.awaited c d' (List.mem_cons_of_mem _ (hrest hc)) i hi k hk).fields rfl _

def total {α : Type} (size : α → Nat) : List α → Nat
  | [] => 0
  | a :: as => size a + total size as

theorem total_append {α : Type} (size : α → Nat) (as as' : List α) :
    total size (as ++ as') = total size as + total size as' := by
  induction as with
  | nil => simp [total]
  | cons a as ih => rw [List.cons_append, total, total, ih, Nat.add_assoc]

theorem total_filter_le {α : Type} (size : α → Nat) {p q : α → Bool} (hp : ∀ a, q a → p a) (as : List α) :
    total size (as.filter q) ≤ total size (as.filter p) := by
  induction as with
  | nil => exact Nat.le_refl _
  | cons a as ih =>
    rw [List.filter_cons, List.filter_cons]
    by_cases ha : q a
    · rw [if_pos ha, if_pos (hp a ha)]
      exact Nat.add_le_add_left ih _
    · rw [if_neg ha]
      split
      · exact Nat.le_trans ih (Nat.le_add_left _ _)
      · exact ih

theorem total_filter_add_le {α : Type} (size : α → Nat) {p q : α → Bool} (hp : ∀ a, q a → p a) {as : List α} {a : α}
    (ha : a ∈ as) (hpa : p a) (hqa : ¬ q a) :
    total size (as.filter q) + size a ≤ total size (as.filter p) := by
  induction as with
  | nil => cases ha
  | cons b as ih =>
    rw [List.filter_cons, List.filter_cons]
    rcases List.mem_cons.1 ha with rfl | ha
    · rw [if_neg hqa, if_pos hpa, total, Nat.add_comm]
      exact Nat.add_le_add_left (total_filter_le size hp as) _
    · by_cases hb : q b
      · rw [if_pos hb, if_pos (hp b hb), total, total, Nat.add_assoc]
        exact Nat.add_le_add_left (ih ha) _
      · rw [if_neg hb]
        split
        · exact Nat.le_trans (ih ha) (Nat.le_add_left _ _)
        · exact ih ha

/-- How many tasks come from noting a definition, with those that these lead to. -/
def size (d : SchemaDefinition) : Nat :=
  d.interfaces.length + d.fields.length + 1

/-- What is still to come from the definitions that are not noted yet. -/
def ahead (cv : Conversion) (order : List TypeKey) : Nat :=
  total size ((cv.defs.classes.filterMap (·.definition)).filter fun d => cv.keyOf d.name ∉ order)

def WalkTask.cost : WalkTask → Nat
  | .visit _ => 1
  | .fields _ d => d.fields.length + 1

/-- A bound on the steps that a walk takes. -/
def load (cv : Conversion) (tasks : List WalkTask) (w : Walk) : Nat :=
  total WalkTask.cost tasks + cv.ahead w.order

theorem total_visits (cs : List ClassRef) : total WalkTask.cost (cs.map .visit) = cs.length := by
  induction cs with
  | nil => rfl
  | cons c cs ih =>
    rw [List.map_cons, total, ih, List.length_cons, Nat.add_comm]
    rfl

theorem ahead_append_le (cv : Conversion) (order : List TypeKey) (k : TypeKey) :
    cv.ahead (order ++ [k]) ≤ cv.ahead order := by
  refine total_filter_le size (fun d hd => ?_) _
  rw [decide_eq_true_eq] at hd ⊢
  exact fun hin => hd (List.mem_append_left _ hin)

theorem ahead_enter {c owner : ClassRef} {d : SchemaDefinition} {order : List TypeKey}
    (howner : cv.owner? c = some (owner, d)) (hkey : cv.keyOf d.name ∉ order) :
    cv.ahead (order ++ [cv.keyOf d.name]) + size d ≤ cv.ahead order := by
  obtain ⟨i, hi, -, hd⟩ := owner?_eq_some howner
  refine total_filter_add_le size (fun d hd => ?_) (mem_definitions hi hd) (decide_eq_true hkey) ?_
  · rw [decide_eq_true_eq] at hd ⊢
    exact fun hin => hd (List.mem_append_left _ hin)
  · simp

/-- A walk from one class has as many steps as it can need. -/
theorem load_le_taskBound (cv : Conversion) (c : ClassRef) (w : Walk) : cv.load [.visit c] w ≤ cv.taskBound := by
  have hfoldl (ds : List SchemaDefinition) (n : Nat) :
      ds.foldl (fun n d => n + d.interfaces.length + d.fields.length + 1) n = n + total size ds := by
    induction ds generalizing n with
    | nil => rfl
    | cons d ds ih =>
      rw [List.foldl_cons, ih, total, size]
      omega
  have hahead : cv.ahead w.order ≤ total size (cv.defs.classes.filterMap (·.definition)) := by
    have h := total_filter_le size (p := fun _ => true) (fun d _ => rfl)
      (q := fun d => cv.keyOf d.name ∉ w.order) (cv.defs.classes.filterMap (·.definition))
    rwa [List.filter_eq_self.2 fun _ _ => rfl] at h
  rw [load, taskBound, hfoldl]
  simp only [total, WalkTask.cost]
  omega

theorem load_visit (cv : Conversion) (w : Walk) (c : ClassRef) (rest : List WalkTask) :
    cv.load ((cv.visit w c).2 ++ rest) (cv.visit w c).1 + 1 ≤ cv.load (.visit c :: rest) w := by
  unfold load
  rw [total_append]
  simp only [total, WalkTask.cost]
  rcases cv.visit_cases w c with ⟨heq, -⟩ | ⟨-, -, heq⟩ | ⟨owner, d, howner, hkey, heq⟩
  · rw [heq]
    simp only [total]
    omega
  · rw [heq]
    simp only [total]
    have hahead := cv.ahead_append_le w.order cv.void.key
    omega
  · rw [heq, total_append, total_visits]
    simp only [total, WalkTask.cost]
    have hahead := ahead_enter howner hkey
    unfold size at hahead
    omega

theorem load_fields {w : Walk} {d : SchemaDefinition} {names : Names} {fields : ConvertedFields}
    (h : cv.convertFields w.names d = .ok (names, fields)) (owner : ClassRef) (rest : List WalkTask) :
    cv.load (fields.values.map (fun f => .visit f.2) ++ rest)
      { w with names, types := w.types ++ [cv.convert owner d (fields.values.map (·.1))] } + 1 ≤
        cv.load (.fields owner d :: rest) w := by
  have hvisits := total_visits (fields.values.map (·.2))
  rw [List.map_map, List.length_map, Assoc.values, List.length_map] at hvisits
  have hlength := (convertFields_eq_ok h).1
  have hcost : total WalkTask.cost (fields.values.map fun f => .visit f.2) = fields.length := hvisits
  unfold load
  rw [total_append, hcost]
  simp only [total, WalkTask.cost]
  omega

/-- A walk that has enough steps does all its tasks: it stays sound, and what was covered is covered in the end. -/
theorem walk_sound {later : List TypeKey} {n : Nat} {tasks : List WalkTask} {w w' : Walk}
    (h : Sound cv later tasks w) (hn : cv.load tasks w ≤ n) (hw : cv.walk n tasks w = .ok w') :
    Sound cv later [] w' ∧ ∀ k, cv.Covered tasks w k → cv.Covered [] w' k := by
  induction n generalizing tasks w with
  | zero =>
    cases tasks with
    | nil =>
      cases hw
      exact ⟨h, fun _ => id⟩
    | cons task tasks =>
      cases task <;> simp [load, total, WalkTask.cost] at hn
  | succ n ih =>
    cases tasks with
    | nil =>
      cases hw
      exact ⟨h, fun _ => id⟩
    | cons task rest =>
      cases task with
      | visit c =>
        have hload := cv.load_visit w c rest
        obtain ⟨hsound, hcovered⟩ := ih h.visit (by omega) hw
        exact ⟨hsound, fun k hk => hcovered k hk.visit⟩
      | fields owner d =>
        obtain ⟨⟨w'', tasks⟩, hconvert, hw⟩ := Attempt.bind_eq_ok.1 hw
        obtain ⟨⟨names, fields⟩, hfields, heq⟩ := Attempt.bind_eq_ok.1 hconvert
        cases heq
        have hload := load_fields hfields owner rest
        obtain ⟨hsound, hcovered⟩ := ih (h.convertFields hfields) (by omega) hw
        exact ⟨hsound, fun k hk => hcovered k (hk.fields rfl _)⟩

end Conversion

end SchemaAssembly
