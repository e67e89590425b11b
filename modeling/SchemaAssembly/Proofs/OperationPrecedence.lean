import SchemaAssembly.Proofs.EffectiveDefinition
import Mathlib.Data.List.MinMax
import Mathlib.Data.Prod.Lex

/-! Which of several declarations of one operation counts. The sweep over a lineage leaves a function at the place where
it was introduced, also where a class nearer by overrides it. So the declaration that counts is the one whose name was
introduced last, and that is the most derived one only if no other name was introduced after it. -/

namespace SchemaAssembly

namespace ClassInfo

/-- What a class has under a name, if anything, is a function. -/
def keeps (i : ClassInfo) (name : String) : Bool :=
  (i.own? name).all Slot.isFunction

/-- What a class has under a name is a function. -/
def offers (i : ClassInfo) (name : String) : Bool :=
  (i.own? name).any Slot.isFunction

theorem keeps_of_offers {i : ClassInfo} {name : String} (h : i.offers name) : i.keeps name := by
  unfold offers at h
  unfold keeps
  cases hs : i.own? name with
  | none => rfl
  | some s =>
    rw [hs] at h
    exact h

theorem nodup_ownNames (i : ClassInfo) : i.ownNames.Nodup := by
  have h := Assoc.nodup_keys_merge [] ((i.slots.keys ++ furtherNames).map fun n => (n, ())) List.nodup_nil
  rw [Assoc.keys_merge] at h
  simpa [ownNames, Assoc.keys, List.removeAll, Function.comp_def] using h

end ClassInfo

/-- A place of a definition in a lineage: how many classes lie behind the one that has it, and where it stands among
what that class has. -/
abbrev Place := ℕ ×ₗ ℕ

namespace Place

/-- The place of what a class itself has under a name, with the given classes behind it. -/
def own (i : ClassInfo) (behind : List ClassInfo) (attr : String) : Place :=
  toLex (behind.length, i.ownNames.idxOf attr)

/-- The place of the definition that is effective under a name. -/
def effective? (attr : String) : List ClassInfo → Option Place
  | [] => none
  | i :: behind => if (i.own? attr).isSome then some (own i behind attr) else effective? attr behind

/-- The place where the function under a name was introduced. Overriding it leaves it there, and withdrawing it takes
it away. -/
def original? (attr : String) : List ClassInfo → Option Place
  | [] => none
  | i :: behind =>
    if i.keeps attr then (original? attr behind).or (if i.offers attr then some (own i behind attr) else none) else none

theorem length_of_effective? {attr : String} {lineage : List ClassInfo} {p : Place}
    (h : effective? attr lineage = some p) : (ofLex p).1 < lineage.length := by
  induction lineage with
  | nil => cases h
  | cons i behind ih =>
    rw [effective?] at h
    split at h
    · cases h
      exact Nat.lt_succ_self _
    · exact Nat.lt_succ_of_lt (ih h)

/-- No two names have one place. -/
theorem eq_of_effective? {a b : String} {lineage : List ClassInfo} {p : Place} (ha : effective? a lineage = some p)
    (hb : effective? b lineage = some p) : a = b := by
  induction lineage with
  | nil => cases ha
  | cons i behind ih =>
    have hlength {attr : String} (h : effective? attr behind = some p) : (ofLex p).1 ≠ behind.length :=
      Nat.ne_of_lt (length_of_effective? h)
    rw [effective?] at ha hb
    split at ha <;> split at hb
    · next hown _ =>
      obtain ⟨s, hs⟩ := Option.isSome_iff_exists.1 hown
      have hidx : toLex (behind.length, i.ownNames.idxOf a) = toLex (behind.length, i.ownNames.idxOf b) :=
        (Option.some.inj ha).trans (Option.some.inj hb).symm
      exact (List.idxOf_inj (ClassInfo.mem_ownNames hs)).1 (congrArg (fun p => (ofLex p).2) hidx)
    · cases ha
      exact absurd rfl (hlength hb)
    · cases hb
      exact absurd rfl (hlength ha)
    · exact ih ha hb

theorem isSome_effective? (attr : String) (lineage : List ClassInfo) :
    (effective? attr lineage).isSome =
      (lineage.findSome? fun i => (i.own? attr).map fun s => (i.ref, s)).isSome := by
  induction lineage with
  | nil => rfl
  | cons i behind ih =>
    rw [effective?, List.findSome?_cons]
    cases i.own? attr with
    | none => exact ih
    | some s => rfl

theorem length_of_original? {attr : String} {lineage : List ClassInfo} {p : Place}
    (h : original? attr lineage = some p) : (ofLex p).1 < lineage.length := by
  induction lineage with
  | nil => cases h
  | cons i behind ih =>
    rw [original?] at h
    split at h
    · rcases Option.or_eq_some_iff.1 h with h | ⟨-, h⟩
      · exact Nat.lt_succ_of_lt (ih h)
      · split at h
        · cases h
          exact Nat.lt_succ_self _
        · cases h
    · cases h

end Place

namespace Universe

theorem keys_sweepName (i : ClassInfo) (acc : Assoc Slot) (name : String) :
    (sweepName i acc name).keys =
      acc.keys.filter (fun n => n ≠ name ∨ i.keeps n) ++
        if i.offers name ∧ name ∉ acc.keys then [name] else [] := by
  have hsame (h : i.keeps name) : acc.keys.filter (fun n => n ≠ name ∨ i.keeps n) = acc.keys := by
    refine List.filter_eq_self.2 fun n _ => decide_eq_true ?_
    by_cases hn : n = name
    · exact .inr (hn ▸ h)
    · exact .inl hn
  unfold sweepName
  cases hown : i.own? name with
  | none =>
    rw [hsame (by simp [ClassInfo.keeps, hown])]
    simp [ClassInfo.offers, hown]
  | some s =>
    cases hs : s.isFunction with
    | true =>
      simp only [if_true, Assoc.keys_insert, ClassInfo.offers, hown, Option.any_some, hs, true_and,
        hsame (by simp [ClassInfo.keeps, hown, hs])]
      split <;> simp_all
    | false =>
      have herase : (acc.erase name).keys = acc.keys.filter (· ≠ name) := by
        rw [Assoc.erase, Assoc.keys, Assoc.keys, List.filter_map]
        rfl
      have hlost : i.keeps name = false := by simp [ClassInfo.keeps, hown, hs]
      simp only [Bool.false_eq_true, if_false, herase, ClassInfo.offers, hown, Option.any_some, hs, false_and,
        List.append_nil]
      refine List.filter_congr fun n _ => ?_
      by_cases hn : n = name <;> simp [hn, hlost]

/-- A class takes out what it withdraws and puts its new functions behind what was there, in its own order. -/
theorem keys_foldl_sweepName (i : ClassInfo) {names : List String} (hnames : names.Nodup) (acc : Assoc Slot) :
    (names.foldl (sweepName i) acc).keys =
      acc.keys.filter (fun n => n ∉ names ∨ i.keeps n) ++ names.filter (fun n => i.offers n ∧ n ∉ acc.keys) := by
  induction names generalizing acc with
  | nil => simp
  | cons name names ih =>
    obtain ⟨hname, hrest⟩ := List.nodup_cons.1 hnames
    -- whatever the first name does to the map, it does not touch the later ones
    have hlater : names.filter (fun n => i.offers n ∧ n ∉ (sweepName i acc name).keys) =
        names.filter (fun n => i.offers n ∧ n ∉ acc.keys) := by
      refine List.filter_congr fun n hn => ?_
      have hne : n ≠ name := fun c => hname (c ▸ hn)
      have hmem : n ∈ (sweepName i acc name).keys ↔ n ∈ acc.keys := by
        rw [keys_sweepName, List.mem_append, List.mem_filter]
        split <;> simp [hne]
      simp [hmem]
    have hearlier : acc.keys.filter (fun n => n ∉ name :: names ∨ i.keeps n) =
        (acc.keys.filter (fun n => n ≠ name ∨ i.keeps n)).filter (fun n => n ∉ names ∨ i.keeps n) := by
      rw [List.filter_filter]
      refine List.filter_congr fun n _ => ?_
      cases i.keeps n <;> simp [Bool.and_comm]
    rw [List.foldl_cons, ih hrest, hlater, hearlier, keys_sweepName, List.filter_append, List.append_assoc,
      List.filter_cons]
    congr 1
    by_cases h : i.offers name ∧ name ∉ acc.keys <;> simp [h, hname]

theorem keys_sweepClass (acc : Assoc Slot) (i : ClassInfo) :
    (sweepClass acc i).keys =
      acc.keys.filter i.keeps ++ i.ownNames.filter (fun n => i.offers n ∧ n ∉ acc.keys) := by
  rw [sweepClass, keys_foldl_sweepName i i.nodup_ownNames]
  congr 1
  refine List.filter_congr fun n _ => ?_
  cases hown : i.own? n with
  | none => simp [ClassInfo.keeps, hown]
  | some s => simp [ClassInfo.mem_ownNames hown]

def swept (lineage : List ClassInfo) : Assoc Slot :=
  lineage.foldr (fun i acc => sweepClass acc i) []

theorem methods_eq (u : Universe) (c : ClassRef) : u.methods c = swept (u.ancestry c) :=
  List.foldl_reverse

theorem keys_swept_cons (i : ClassInfo) (behind : List ClassInfo) :
    (swept (i :: behind)).keys =
      (swept behind).keys.filter i.keeps ++ i.ownNames.filter (fun n => i.offers n ∧ n ∉ (swept behind).keys) :=
  keys_sweepClass (swept behind) i

theorem mem_keys_swept (lineage : List ClassInfo) (attr : String) :
    attr ∈ (swept lineage).keys ↔ (Place.original? attr lineage).isSome := by
  induction lineage with
  | nil => simp [swept, Place.original?, Assoc.keys]
  | cons i behind ih =>
    simp only [keys_swept_cons, List.mem_append, List.mem_filter, decide_eq_true_eq, ih, Place.original?]
    have hown (h : i.offers attr) : attr ∈ i.ownNames := by
      obtain ⟨s, hs, -⟩ := (Option.any_eq_true _ _).1 h
      exact ClassInfo.mem_ownNames hs
    cases ho : i.offers attr with
    | true =>
      simp only [hown ho, ClassInfo.keeps_of_offers ho, if_true, true_and, and_true, Option.isSome_or, Option.isSome_some,
        Bool.or_true, iff_true]
      exact em _
    | false => cases i.keeps attr <;> simp

/-- Of two names the first one was introduced before the second. -/
def InOrder (lineage : List ClassInfo) (a b : String) : Prop :=
  ∀ p q, Place.original? a lineage = some p → Place.original? b lineage = some q → p < q

theorem original?_of_kept {i : ClassInfo} {behind : List ClassInfo} {a : String} (ha : a ∈ (swept behind).keys)
    (hk : i.keeps a) : Place.original? a (i :: behind) = Place.original? a behind := by
  obtain ⟨p, hp⟩ := Option.isSome_iff_exists.1 ((mem_keys_swept behind a).1 ha)
  rw [Place.original?, if_pos hk, hp, Option.some_or]

theorem original?_of_new {i : ClassInfo} {behind : List ClassInfo} {a : String} (ha : a ∉ (swept behind).keys)
    (ho : i.offers a) : Place.original? a (i :: behind) = some (Place.own i behind a) := by
  rw [mem_keys_swept, Option.not_isSome_iff_eq_none] at ha
  rw [Place.original?, if_pos (ClassInfo.keeps_of_offers ho), ha, if_pos ho, Option.none_or]

theorem pairwise_swept (lineage : List ClassInfo) : (swept lineage).keys.Pairwise (InOrder lineage) := by
  induction lineage with
  | nil => exact List.Pairwise.nil
  | cons i behind ih =>
    rw [keys_swept_cons, List.pairwise_append]
    refine ⟨?kept, ?new, ?between⟩
    case kept =>
      refine (ih.filter _).imp_of_mem fun {a b} ha hb hab p q hp hq => ?_
      obtain ⟨ha, hka⟩ := List.mem_filter.1 ha
      obtain ⟨hb, hkb⟩ := List.mem_filter.1 hb
      exact hab p q (original?_of_kept ha hka ▸ hp) (original?_of_kept hb hkb ▸ hq)
    case new =>
      have hsorted : i.ownNames.Pairwise fun a b => i.ownNames.idxOf a < i.ownNames.idxOf b := by
        refine List.pairwise_iff_getElem.2 fun m n hm hn hmn => ?_
        rw [i.nodup_ownNames.idxOf_getElem, i.nodup_ownNames.idxOf_getElem]
        exact hmn
      refine (hsorted.filter _).imp_of_mem fun {a b} ha hb hab p q hp hq => ?_
      obtain ⟨-, ha⟩ := List.mem_filter.1 ha
      obtain ⟨-, hb⟩ := List.mem_filter.1 hb
      simp only [decide_eq_true_eq] at ha hb
      rw [original?_of_new ha.2 ha.1] at hp
      rw [original?_of_new hb.2 hb.1] at hq
      cases hp
      cases hq
      exact Prod.Lex.toLex_lt_toLex.2 (.inr ⟨rfl, hab⟩)
    case between =>
      intro a ha b hb p q hp hq
      obtain ⟨ha, hka⟩ := List.mem_filter.1 ha
      obtain ⟨-, hb⟩ := List.mem_filter.1 hb
      simp only [decide_eq_true_eq] at hb
      rw [original?_of_kept ha hka] at hp
      rw [original?_of_new hb.2 hb.1] at hq
      cases hq
      exact Prod.Lex.lt_iff.2 (.inl (Place.length_of_original? hp))

end Universe

namespace CompileContext
variable {ctx : CompileContext} {kind : OperationKind}

/-- Where the method of a declaration is defined. -/
def standing (ctx : CompileContext) (d : Declaration) : Place :=
  (Place.effective? d.attr (ctx.defs.ancestry ctx.resolver.cls)).getD (toLex (0, 0))

/-- Where the attribute of a declaration was introduced as a function. -/
def origin (ctx : CompileContext) (d : Declaration) : Place :=
  (Place.original? d.attr (ctx.defs.ancestry ctx.resolver.cls)).getD (toLex (0, 0))

/-- Of the declarations of an operation, the one that is defined in the most derived class, and behind the others that
are defined there. -/
structure MostDerived (ctx : CompileContext) (kind : OperationKind) (name : String) (d : Declaration) : Prop where
  declared : d ∈ ctx.declared kind
  named : d.op.name = name
  ahead : ∀ d' ∈ ctx.declared kind, d'.op.name = name → d'.attr ≠ d.attr → ctx.standing d' < ctx.standing d

theorem attr_of_find? {e : String × Slot} {d : Declaration} (h : Declaration.find? kind e.1 e.2 = some d) :
    d.attr = e.1 := by
  unfold Declaration.find? at h
  split at h
  · obtain ⟨op, -, rfl⟩ := Option.map_eq_some_iff.1 h
    rfl
  · cases h

theorem eq_of_attr_eq {d d' : Declaration} (hd : d ∈ ctx.declared kind) (hd' : d' ∈ ctx.declared kind)
    (h : d.attr = d'.attr) : d = d' := by
  obtain ⟨home, heff, hop⟩ := mem_declared.1 hd
  obtain ⟨home', heff', hop'⟩ := mem_declared.1 hd'
  cases d
  cases d'
  simp only at h heff heff' hop hop'
  subst h
  rw [heff] at heff'
  cases heff'
  rw [hop] at hop'
  cases hop'
  rfl

theorem standing_eq {d : Declaration} (hd : d ∈ ctx.declared kind) :
    Place.effective? d.attr (ctx.defs.ancestry ctx.resolver.cls) = some (ctx.standing d) := by
  obtain ⟨home, heff, -⟩ := mem_declared.1 hd
  have hsome := Place.isSome_effective? d.attr (ctx.defs.ancestry ctx.resolver.cls)
  unfold Universe.effective? at heff
  rw [heff, Option.isSome_some, Option.isSome_iff_exists] at hsome
  obtain ⟨p, hp⟩ := hsome
  rw [standing, hp, Option.getD_some]

theorem origin_eq {d : Declaration} (hd : d ∈ ctx.declared kind) :
    Place.original? d.attr (ctx.defs.ancestry ctx.resolver.cls) = some (ctx.origin d) := by
  obtain ⟨e, he, hfind⟩ := List.mem_filterMap.1 hd
  have hmem : d.attr ∈ (ctx.defs.methods ctx.resolver.cls).keys := attr_of_find? hfind ▸ List.mem_map_of_mem he
  rw [Universe.methods_eq, Universe.mem_keys_swept, Option.isSome_iff_exists] at hmem
  obtain ⟨p, hp⟩ := hmem
  rw [origin, hp, Option.getD_some]

/-- Declarations stand in the order in which their attributes were introduced. -/
theorem pairwise_declared : (ctx.declared kind).Pairwise fun d d' => ctx.origin d < ctx.origin d' := by
  have hmethods : (ctx.defs.methods ctx.resolver.cls).Pairwise fun e e' =>
      Universe.InOrder (ctx.defs.ancestry ctx.resolver.cls) e.1 e'.1 := by
    rw [Universe.methods_eq]
    exact List.pairwise_map.1 (Universe.pairwise_swept _)
  have hordered : (ctx.declared kind).Pairwise fun d d' =>
      Universe.InOrder (ctx.defs.ancestry ctx.resolver.cls) d.attr d'.attr := by
    refine List.pairwise_filterMap.2 (hmethods.imp fun {e e'} h d hd d' hd' => ?_)
    rw [attr_of_find? hd, attr_of_find? hd']
    exact h
  exact hordered.imp_of_mem fun hd hd' h => h _ _ (origin_eq hd) (origin_eq hd')

/-- In a list that an order runs through, a search finds what stands before all others it could find. -/
theorem find?_of_pairwise {α : Type} {r : α → α → Prop} {p : α → Bool} {as : List α}
    (hr : ∀ a b, r a b → ¬r b a) (h : as.Pairwise r) {a : α} :
    as.find? p = some a ↔ a ∈ as ∧ p a ∧ ∀ b ∈ as, p b → b ≠ a → r a b := by
  induction as with
  | nil => simp
  | cons c as ih =>
    obtain ⟨hc, has⟩ := List.pairwise_cons.1 h
    rw [List.find?_cons]
    cases hp : p c with
    | true =>
      constructor
      · rintro ⟨⟩
        exact ⟨List.mem_cons_self, hp, fun b hb _ hne => hc b ((List.mem_cons.1 hb).resolve_left hne)⟩
      · rintro ⟨ha, -, hfirst⟩
        rcases List.mem_cons.1 ha with rfl | ha
        · rfl
        · by_cases hca : c = a
          · rw [hca]
          · exact absurd (hfirst c List.mem_cons_self hp hca) (hr _ _ (hc a ha))
    | false =>
      have hne {b : α} (hb : p b = true) : b ≠ c := fun hbc => by simp [hbc, hp] at hb
      rw [ih has]
      constructor
      · rintro ⟨ha, hpa, hfirst⟩
        exact ⟨List.mem_cons_of_mem _ ha, hpa, fun b hb hpb => hfirst b ((List.mem_cons.1 hb).resolve_left (hne hpb)) hpb⟩
      · rintro ⟨ha, hpa, hfirst⟩
        exact ⟨(List.mem_cons.1 ha).resolve_left (hne hpa), hpa, fun b hb => hfirst b (List.mem_cons_of_mem _ hb)⟩

/-- Of the declarations of an operation, the one whose attribute was introduced last. -/
structure LastIntroduced (ctx : CompileContext) (kind : OperationKind) (name : String) (d : Declaration) : Prop where
  declared : d ∈ ctx.declared kind
  named : d.op.name = name
  ahead : ∀ d' ∈ ctx.declared kind, d'.op.name = name → d'.attr ≠ d.attr → ctx.origin d' < ctx.origin d

theorem find?_declared {name : String} {d : Declaration} :
    (ctx.declared kind).reverse.find? (·.op.name = name) = some d ↔ ctx.LastIntroduced kind name d := by
  have hlast : (ctx.declared kind).reverse.Pairwise fun d d' => ctx.origin d' < ctx.origin d :=
    List.pairwise_reverse.2 pairwise_declared
  rw [find?_of_pairwise (fun _ _ => lt_asymm) hlast]
  simp only [List.mem_reverse, decide_eq_true_eq]
  constructor
  · rintro ⟨hd, hname, hahead⟩
    exact ⟨hd, hname, fun d' hd' hname' hattr => hahead d' hd' hname' fun h => hattr (congrArg _ h)⟩
  · rintro ⟨hd, hname, hahead⟩
    exact ⟨hd, hname, fun d' hd' hname' hne => hahead d' hd' hname' fun h => hne (eq_of_attr_eq hd' hd h)⟩

/-- The operation under a name is compiled from the declaration whose attribute was introduced last. -/
theorem get?_operations {ops : Assoc Operation} (h : (ctx.operations kind).result = .ok ops) {name : String}
    {o : Operation} :
    ops.get? name = some o ↔ ∃ d, ctx.LastIntroduced kind name d ∧ (ctx.compile d).result = .ok o := by
  rw [result_operations] at h
  obtain ⟨named, hnamed, rfl⟩ := Attempt.map_eq_ok.1 h
  have hname (d : Declaration) (e : String × Operation) (he : ctx.compileNamed d = .ok e) : e.1 = d.op.name := by
    obtain ⟨o, -, rfl⟩ := Attempt.map_eq_ok.1 he
    rfl
  have hlast (e : String × Operation) : named.reverse.find? (·.1 = name) = some e ↔
      ∃ d, (ctx.declared kind).reverse.find? (·.op.name = name) = some d ∧ ctx.compileNamed d = .ok e :=
    Attempt.find?_of_mapM hnamed fun d e he => by rw [hname d e he]
  rw [Assoc.get?_merge, Assoc.get?_nil, Option.or_none, Option.map_eq_some_iff]
  simp only [hlast, find?_declared]
  constructor
  · rintro ⟨e, ⟨d, hd, he⟩, rfl⟩
    obtain ⟨o, ho, rfl⟩ := Attempt.map_eq_ok.1 he
    exact ⟨d, hd, ho⟩
  · rintro ⟨d, hd, ho⟩
    exact ⟨(d.op.name, o), ⟨d, hd, Attempt.map_eq_ok.2 ⟨o, ho, rfl⟩⟩, rfl⟩

theorem exists_operation {ops : Assoc Operation} (h : (ctx.operations kind).result = .ok ops) {d : Declaration}
    (hd : d ∈ ctx.declared kind) : ∃ o, ops.get? d.op.name = some o := by
  cases hlast : (ctx.declared kind).reverse.find? (·.op.name = d.op.name) with
  | none =>
    rw [List.find?_eq_none] at hlast
    exact absurd (decide_eq_true rfl) (hlast d (List.mem_reverse.2 hd))
  | some w =>
    have hw := find?_declared.1 hlast
    rw [result_operations] at h
    obtain ⟨named, hnamed, -⟩ := Attempt.map_eq_ok.1 h
    obtain ⟨e, -, he⟩ := Attempt.exists_of_mem_of_mapM hnamed hw.declared
    obtain ⟨o, ho, -⟩ := Attempt.map_eq_ok.1 he
    rw [← result_operations] at h
    exact ⟨o, (get?_operations h).2 ⟨w, hw, ho⟩⟩

/-- Of the declarations of an operation, one is defined in front of all others. -/
theorem exists_mostDerived {d : Declaration} (hd : d ∈ ctx.declared kind) :
    ∃ m, ctx.MostDerived kind d.op.name m := by
  have hmem : d ∈ (ctx.declared kind).filter (·.op.name = d.op.name) := by simp [hd]
  cases hmax : ((ctx.declared kind).filter (·.op.name = d.op.name)).argmax ctx.standing with
  | none =>
    rw [List.argmax_eq_none] at hmax
    rw [hmax] at hmem
    cases hmem
  | some m =>
    have hm := List.argmax_mem hmax
    simp only [List.mem_filter, decide_eq_true_eq] at hm
    refine ⟨m, hm.1, hm.2, fun d' hd' hname hattr => ?_⟩
    have hle : ctx.standing d' ≤ ctx.standing m := List.le_of_mem_argmax (by simp [hd', hname]) hmax
    refine lt_of_le_of_ne hle fun heq => hattr ?_
    exact Place.eq_of_effective? (standing_eq hd') (heq ▸ standing_eq hm.1)

theorem attr_of_compile {d d' : Declaration} {o : Operation} (hd : d ∈ ctx.declared kind)
    (hd' : d' ∈ ctx.declared kind) (h : (ctx.compile d).result = .ok o) (h' : (ctx.compile d').result = .ok o) :
    d.attr = d'.attr := by
  obtain ⟨home, heff⟩ := effective_of_compile hd h
  obtain ⟨home', heff'⟩ := effective_of_compile hd' h'
  have hfunction := heff.function.symm.trans heff'.function
  simp only [FunctionRef.mk.injEq] at hfunction
  exact hfunction.2.1

/-- Of the declarations of an operation one is the most derived. It is compiled to the operation exactly if its
attribute was introduced after those of all others: the sweep leaves a function where it was introduced, also where a
class nearer by overrides it. -/
theorem mostDerived_wins_iff {ops : Assoc Operation} {name : String} (hops : (ctx.operations kind).result = .ok ops)
    (hname : ∃ d ∈ ctx.declared kind, d.op.name = name) :
    (∃ d, ctx.MostDerived kind name d) ∧
    ∀ d, ctx.MostDerived kind name d →
      ((∃ o, ops.get? name = some o ∧ (ctx.compile d).result = .ok o) ↔
        ∀ d' ∈ ctx.declared kind, d'.op.name = name → d'.attr ≠ d.attr → ctx.origin d' < ctx.origin d) := by
  obtain ⟨declared, hdeclared, rfl⟩ := hname
  obtain ⟨o, ho⟩ := exists_operation hops hdeclared
  obtain ⟨w, hw, hcompile⟩ := (get?_operations hops).1 ho
  refine ⟨hw.named ▸ exists_mostDerived hw.declared, fun d hd => ⟨?displaced, fun hlast => ?wins⟩⟩
  case displaced =>
    rintro ⟨o', ho', hcompile'⟩
    have hattr := attr_of_compile hd.declared hw.declared hcompile' (Option.some.inj (ho.symm.trans ho') ▸ hcompile)
    rw [eq_of_attr_eq hd.declared hw.declared hattr]
    exact hw.ahead
  case wins =>
    have hdw : d = w := Option.some.inj
      ((find?_declared.2 ⟨hd.declared, hd.named, hlast⟩).symm.trans (find?_declared.2 hw))
    exact ⟨o, ho, hdw ▸ hcompile⟩

end CompileContext

namespace Heirs

def baseClass : ClassRef := .defined "app" "Base"
def derivedClass : ClassRef := .defined "app" "Derived"

def declares (owner attr name : String) : Method where
  name := attr
  owner
  receiver := some "self"
  operations := [{ kind := some .query, name, returns := .named (.text "string") }]

/-- The method that overrides the first one of its base declares the operation of the second. -/
def classes : Universe where
  classes := [
    { ref := baseClass, lineage := [baseClass, .builtin .resolver, .builtin .object]
      slots := [("find", .method .instance_ (declares "Base" "find" "find")),
        ("list", .method .instance_ (declares "Base" "list" "list"))] },
    { ref := derivedClass, lineage := [derivedClass, baseClass, .builtin .resolver, .builtin .object]
      slots := [("find", .method .instance_ (declares "Derived" "find" "list"))] }]

def context : CompileContext :=
  { defs := classes, registry := {}, resolver := ⟨.object derivedClass [] (some (.resolver 0))⟩ }

def operations : Assoc Operation :=
  (context.operations .query).result.toOption.getD []

theorem operations_eq : (context.operations .query).result = .ok operations :=
  Attempt.eq_ok_of_isOk (by decide) _

def overriding : Declaration := ⟨"find", .instance_, declares "Derived" "find" "list",
  { kind := some .query, name := "list", returns := .named (.text "string") }⟩

theorem overriding_mostDerived : context.MostDerived .query "list" overriding where
  declared := CompileContext.mem_declared.2 ⟨derivedClass, rfl, rfl⟩
  named := rfl
  ahead := by decide

end Heirs

theorem Heirs.list_precedence :
    Heirs.overriding ∈ Heirs.context.declared .query ∧
    ((∃ o, Heirs.operations.get? "list" = some o ∧ (Heirs.context.compile Heirs.overriding).result = .ok o) ↔
      ∀ d' ∈ Heirs.context.declared .query, d'.op.name = "list" → d'.attr ≠ "find" →
        Heirs.context.origin d' < Heirs.context.origin Heirs.overriding) := by
  have hdeclared := Heirs.overriding_mostDerived.declared
  exact ⟨hdeclared, (CompileContext.mostDerived_wins_iff Heirs.operations_eq ⟨_, hdeclared, rfl⟩).2 _
    Heirs.overriding_mostDerived⟩

/-- The overriding method stands where the method it overrides was introduced, so the operation stays with the base. -/
theorem Heirs.list_displaced :
    Heirs.context.MostDerived .query "list" Heirs.overriding ∧
    (Heirs.operations.get? "list").map (·.handler.function.home) = some Heirs.baseClass ∧
    ¬∃ o, Heirs.operations.get? "list" = some o ∧ (Heirs.context.compile Heirs.overriding).result = .ok o := by
  have hbase : (Heirs.operations.get? "list").map (·.handler.function.home) = some Heirs.baseClass := by decide
  have hderived : (Heirs.context.compile Heirs.overriding).result.toOption.map (·.handler.function.home) =
      some Heirs.derivedClass := by decide
  refine ⟨Heirs.overriding_mostDerived, hbase, ?_⟩
  rintro ⟨o, ho, hcompile⟩
  rw [ho] at hbase
  rw [hcompile] at hderived
  exact absurd (hbase.symm.trans hderived) (by decide)

end SchemaAssembly
