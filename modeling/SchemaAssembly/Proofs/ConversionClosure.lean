import SchemaAssembly.Proofs.ConversionWalk

/-! The types of one conversion refer to each other and to the built-in scalars, and to nothing else. Each class that is
converted has its type among them. -/

namespace SchemaAssembly

namespace Conversion
variable {cv : Conversion}

theorem Covered.nil_iff {w : Walk} {k : TypeKey} :
    cv.Covered [] w k ↔ k ∈ builtinScalars.values ∨ k ∈ w.order := by
  simp [Covered]

theorem Sound.next {later : List TypeKey} {w : Walk} (h : Sound cv later [] w) (c : ClassRef) :
    Sound cv later [.visit c] w := by
  have hcovered (k : TypeKey) (hk : cv.Covered [] w k) : cv.Covered [.visit c] w k :=
    hk.mono (fun _ => id) fun _ hc => by cases hc
  refine ⟨h.nodup, h.fresh, fun k hk => ?_, fun t ht k hk => hcovered k (h.closed t ht k hk),
    fun c' d hc => by simp at hc⟩
  exact (h.settled k hk).imp_right (Or.imp_right fun ⟨c', d, hc, _⟩ => by cases hc)

/-- A walk from a class given earlier takes its type out of the order and puts it there again. -/
theorem walkFrom_sound {c owner : ClassRef} {d : SchemaDefinition} (he : cv.owner? c = some (owner, d))
    {later : List TypeKey} {w w' : Walk} (h : Sound cv (cv.keyOf d.name :: later) [] w)
    (hw : cv.walkFrom w c = .ok w') :
    Sound cv later [] w' ∧ ∀ k, cv.Covered [] w k → cv.Covered [] w' k := by
  have hcovered (k : TypeKey) (hk : cv.Covered [] w k) :
      cv.Covered [.visit c] { w with order := w.order.erase (cv.keyOf d.name) } k := by
    rcases Covered.nil_iff.1 hk with hk | hk
    · exact .inl hk
    · by_cases heq : k = cv.keyOf d.name
      · rw [heq]
        exact .inr (.inr ⟨c, List.mem_cons_self, visited?_of_owner he⟩)
      · exact .inr (.inl ((List.mem_erase_of_ne heq).2 hk))
  have hstart : Sound cv later [.visit c] { w with order := w.order.erase (cv.keyOf d.name) } := by
    refine ⟨h.nodup.erase _, fun k hk => h.fresh k (List.mem_of_mem_erase hk), fun k hk => ?_,
      fun t ht k hk => hcovered k (h.closed t ht k hk), fun c' d' hc' => by simp at hc'⟩
    rcases h.settled k (List.mem_of_mem_erase hk) with hlater | htype | ⟨c', d', hc', -⟩
    · rcases List.mem_cons.1 hlater with rfl | hlater
      · exact absurd hk h.nodup.not_mem_erase
      · exact .inl hlater
    · exact .inr (.inl htype)
    · cases hc'
  unfold walkFrom at hw
  rw [typeKey?_of_owner he] at hw
  obtain ⟨hsound, hall⟩ := walk_sound hstart (cv.load_le_taskBound _ _) hw
  exact ⟨hsound, fun k hk => hall k (hcovered k hk)⟩

def givenKey (cv : Conversion) (c : ClassRef) : TypeKey :=
  cv.keyOf (((cv.owner? c).map (·.2.name)).getD "")

theorem walkFromAll_sound {given : List ClassRef} (hgiven : ∀ c ∈ given, ∃ e, cv.owner? c = some e)
    {w w' : Walk} (h : Sound cv (given.map cv.givenKey) [] w) (hw : given.foldlM cv.walkFrom w = .ok w') :
    Sound cv [] [] w' ∧ ∀ k, cv.Covered [] w k → cv.Covered [] w' k := by
  induction given generalizing w with
  | nil =>
    cases hw
    exact ⟨h, fun _ => id⟩
  | cons c given ih =>
    obtain ⟨⟨⟨owner, d⟩, he⟩, hrest⟩ := List.forall_mem_cons.1 hgiven
    obtain ⟨next, hnext, hw⟩ := Attempt.foldlM_cons_eq_ok.1 hw
    rw [List.map_cons, givenKey, he] at h
    obtain ⟨hsound, hcovered⟩ := walkFrom_sound he h hnext
    obtain ⟨hsound', hcovered'⟩ := ih hrest hsound hw
    exact ⟨hsound', fun k hk => hcovered' k (hcovered k hk)⟩

/-- The types of a walk that has come to its end. -/
theorem closed_of_sound {w : Walk} (h : Sound cv [] [] w) :
    (w.order.filterMap fun k => w.types.find? (·.key = k)).map (·.key) = w.order ∧
      Closed cv.generation (w.order.filterMap fun k => w.types.find? (·.key = k)) := by
  have hfind (k : TypeKey) (hk : k ∈ w.order) : ∃ t, w.types.find? (·.key = k) = some t ∧ t.key = k := by
    rcases h.settled k hk with hlater | htype | ⟨c, d, hc, -⟩
    · cases hlater
    · obtain ⟨t, ht, rfl⟩ := List.mem_map.1 htype
      have hsome : (w.types.find? fun t' => decide (t'.key = t.key)).isSome :=
        List.find?_isSome.2 ⟨t, ht, decide_eq_true rfl⟩
      obtain ⟨t', ht'⟩ := Option.isSome_iff_exists.1 hsome
      exact ⟨t', ht', of_decide_eq_true (List.find?_some (p := fun t' : NamedType => decide (t'.key = t.key)) ht')⟩
    · cases hc
  have hkeys : (w.order.filterMap fun k => w.types.find? (·.key = k)).map (·.key) = w.order := by
    revert hfind
    induction w.order with
    | nil => exact fun _ => rfl
    | cons k ks ih =>
      intro hfind
      obtain ⟨⟨t, ht, hkey⟩, hrest⟩ := List.forall_mem_cons.1 hfind
      rw [List.filterMap_cons, ht, List.map_cons, ih hrest, hkey]
  have hname {k k' : TypeKey} (hk : k ∈ w.order) (hk' : k' ∈ w.order) (heq : k.name = k'.name) : k = k' :=
    (TypeKey.mk.injEq ..).mpr ⟨heq, (h.fresh k hk).trans (h.fresh k' hk').symm⟩
  have hnames : (w.order.map (·.name)).Nodup :=
    List.pairwise_map.2 (h.nodup.imp_of_mem fun hk hk' hne heq => hne (hname hk hk' heq))
  refine ⟨hkeys, ?_, fun t ht => ?_, fun t ht k hk => ?_⟩
  · rw [← hkeys, List.map_map] at hnames
    exact hnames
  · refine h.fresh _ ?_
    rw [← hkeys]
    exact List.mem_map_of_mem ht
  · obtain ⟨k', -, ht'⟩ := List.mem_filterMap.1 ht
    rw [hkeys]
    exact Covered.nil_iff.1 (h.closed t (List.mem_of_find?_eq_some ht') k hk)

theorem owner?_of_definition {c : ClassRef} {d : SchemaDefinition} (h : cv.defs.definition? c = some d) :
    ∃ owner, cv.owner? c = some (owner, d) := by
  obtain ⟨i, hi, hd⟩ := Option.bind_eq_some_iff.1 h
  refine ⟨i.ref, ?_⟩
  unfold owner?
  revert hi
  induction cv.defs.ancestry c with
  | nil => exact fun hi => by cases hi
  | cons i' lineage ih =>
    intro hi
    rw [List.find?_cons] at hi
    rw [List.findSome?_cons]
    split at hi
    · cases hi
      rw [hd]
      rfl
    · next hnot =>
      have hnone : i'.definition = none := by
        cases hdef : i'.definition with
        | none => rfl
        | some d' => simp [hdef] at hnot
      rw [hnone]
      exact ih hi

theorem keyOf_notMem_builtin (cv : Conversion) (name : String) : cv.keyOf name ∉ builtinScalars.values := by
  intro h
  simp [keyOf, builtinScalars, Assoc.values, Wire.string, Wire.int, Wire.boolean, Wire.float, NamedType.builtinScalar] at h

theorem nodup_eraseDups {α : Type} [BEq α] [LawfulBEq α] (as : List α) : as.eraseDups.Nodup := by
  match as with
  | [] => exact List.nodup_nil
  | a :: as =>
    rw [List.eraseDups_cons]
    refine List.nodup_cons.2 ⟨fun h => ?_, nodup_eraseDups _⟩
    simpa using List.mem_eraseDups.1 h
termination_by as.length
decreasing_by exact Nat.lt_succ_of_le (List.length_filter_le _ _)

theorem sound_start {given : List ClassRef} (hgiven : ∀ c ∈ given, ∃ e, cv.owner? c = some e) (names : Names) :
    Sound cv (given.map cv.givenKey) [] { names, order := (given.filterMap cv.typeKey?).eraseDups } := by
  have horder : given.filterMap cv.typeKey? = given.map cv.givenKey := by
    induction given with
    | nil => rfl
    | cons c given ih =>
      obtain ⟨⟨⟨owner, d⟩, he⟩, hrest⟩ := List.forall_mem_cons.1 hgiven
      rw [List.filterMap_cons, typeKey?_of_owner he, List.map_cons, givenKey, he, ih hrest]
      rfl
  refine ⟨nodup_eraseDups _, fun k hk => ?_, fun k hk => ?_, List.forall_mem_nil _, fun c d hc => by cases hc⟩
  · rw [List.mem_eraseDups, horder] at hk
    obtain ⟨c, -, rfl⟩ := List.mem_map.1 hk
    rfl
  · rw [List.mem_eraseDups, horder] at hk
    exact .inl hk

theorem typesOf_closed {batch : List (ClassRef × SchemaDefinition)}
    (hbatch : ∀ e ∈ batch, cv.defs.definition? e.1 = some e.2) {types : List NamedType}
    (h : cv.typesOf batch = .ok types) :
    Closed cv.generation types ∧ ∀ e ∈ batch, cv.keyOf e.2.name ∈ types.map (·.key) := by
  cases batch with
  | nil =>
    cases h
    exact ⟨⟨List.nodup_nil, List.forall_mem_nil _, List.forall_mem_nil _⟩, List.forall_mem_nil _⟩
  | cons e rest =>
    obtain ⟨root, d⟩ := e
    unfold typesOf at h
    dsimp only at h
    split at h
    · cases h
    · obtain ⟨names, -, h⟩ := Attempt.bind_eq_ok.1 h
      obtain ⟨w, hw, h⟩ := Attempt.bind_eq_ok.1 h
      obtain ⟨w', hw', h⟩ := Attempt.bind_eq_ok.1 h
      obtain ⟨-, -, h⟩ := Attempt.bind_eq_ok.1 h
      cases h
      have howner (e : ClassRef × SchemaDefinition) (he : e ∈ (root, d) :: rest) :
          ∃ owner, cv.owner? e.1 = some (owner, e.2) := owner?_of_definition (hbatch e he)
      have hgiven : ∀ c ∈ rest.map (·.1), ∃ e, cv.owner? c = some e := by
        intro c hc
        obtain ⟨e, he, rfl⟩ := List.mem_map.1 hc
        obtain ⟨owner, ho⟩ := howner e (List.mem_cons_of_mem _ he)
        exact ⟨_, ho⟩
      obtain ⟨hsound, hcovered⟩ := walkFromAll_sound hgiven (sound_start hgiven names) hw
      obtain ⟨hsound', hcovered'⟩ := walk_sound (hsound.next root) (cv.load_le_taskBound _ _) hw'
      obtain ⟨hkeys, hclosed⟩ := closed_of_sound hsound'
      refine ⟨hclosed, fun e he => ?_⟩
      have hin : cv.Covered [.visit root] w (cv.keyOf e.2.name) := by
        obtain ⟨owner, ho⟩ := howner e he
        rcases List.mem_cons.1 he with rfl | hrest
        · exact .inr (.inr ⟨root, List.mem_cons_self, visited?_of_owner ho⟩)
        · have hstart : cv.keyOf e.2.name ∈ ((rest.map (·.1)).filterMap cv.typeKey?).eraseDups :=
            List.mem_eraseDups.2 (List.mem_filterMap.2 ⟨e.1, List.mem_map_of_mem hrest, typeKey?_of_owner ho⟩)
          exact (hcovered _ (.inr (.inl hstart))).mono (fun _ => id) fun _ hc => by cases hc
      rw [hkeys]
      exact (Covered.nil_iff.1 (hcovered' _ hin)).resolve_left (cv.keyOf_notMem_builtin _)

theorem definition?_of_definitionOf {shown : TypeItem → String} {item : TypeItem} {e : ClassRef × SchemaDefinition}
    (h : cv.definitionOf shown item = .ok e) : item = .cls e.1 ∧ cv.defs.definition? e.1 = some e.2 := by
  unfold definitionOf at h
  split at h
  · split at h
    · cases h
    · next hd =>
      split at h
      · cases h
      · cases h
        exact ⟨rfl, hd⟩
  · cases h

/-- The types of a conversion are closed, and those of the classes in it are among them. -/
theorem run_closed {shown : TypeItem → String} {items : List TypeItem} {types : List NamedType}
    (h : (cv.run shown items).result = .ok types) :
    Closed cv.generation types ∧ ∀ c, .cls c ∈ items →
      ∃ d, cv.defs.definition? c = some d ∧ cv.keyOf d.name ∈ types.map (·.key) := by
  unfold run at h
  split at h
  · next hempty =>
    cases h
    refine ⟨⟨List.nodup_nil, List.forall_mem_nil _, List.forall_mem_nil _⟩, fun c hc => ?_⟩
    rw [List.isEmpty_iff.1 hempty] at hc
    cases hc
  · obtain ⟨batch, hbatch, h⟩ := Logged.result_bind_eq_ok.1 h
    obtain ⟨types', htypes, h⟩ := Logged.result_bind_eq_ok.1 h
    obtain ⟨-, -, h⟩ := Logged.result_bind_eq_ok.1 h
    cases h
    have hdefinition : ∀ e ∈ batch, cv.defs.definition? e.1 = some e.2 := by
      intro e he
      obtain ⟨item, -, hitem⟩ := Attempt.exists_of_mem_mapM hbatch he
      exact (definition?_of_definitionOf hitem).2
    obtain ⟨hclosed, hin⟩ := typesOf_closed hdefinition htypes
    refine ⟨hclosed, fun c hc => ?_⟩
    obtain ⟨e, he, hitem⟩ := Attempt.exists_of_mem_of_mapM hbatch hc
    obtain ⟨heq, hd⟩ := definition?_of_definitionOf hitem
    cases heq
    exact ⟨e.2, hd, hin e he⟩

end Conversion

namespace Converter

/-- The converter of fields that are classes or lists of classes, and may be null. -/
def standard : Converter where
  run := Conversion.run
  closed h := (Conversion.run_closed h).1
  given h := (Conversion.run_closed h).2

instance : Inhabited Converter := ⟨standard⟩

end Converter

end SchemaAssembly
