import SchemaAssembly.Proofs.CallByName
import SchemaAssembly.Proofs.InstanceMaking
import Mathlib.Data.List.Flatten

/-! Which arguments of an operation can really be left out. The schema lets a caller omit whatever may be null, but a
plain parameter that may be null and has no default must be given all the same; a field of a container with generated
methods need not, since null takes its place, but its constructor may ask for more than the fields, or for others. -/

namespace SchemaAssembly

theorem Assoc.get?_filterMap {α β : Type} {name : α → String} {as : List α} (hn : (as.map name).Nodup)
    (value? : α → Option β) {a : α} (ha : a ∈ as) :
    Assoc.get? (as.filterMap fun a => (value? a).map (Prod.mk (name a))) (name a) = value? a := by
  induction as with
  | nil => cases ha
  | cons a' as ih =>
    obtain ⟨ha', has⟩ := List.nodup_cons.1 hn
    rcases List.mem_cons.1 ha with rfl | ha
    · cases hv : value? a with
      | some v => rw [List.filterMap_cons, hv, Option.map_some, Assoc.get?_cons, if_pos rfl]
      | none =>
        rw [List.filterMap_cons, hv, Option.map_none]
        refine (Assoc.get?_eq_none_iff _ _).2 fun h => ha' ?_
        obtain ⟨e, he, heq⟩ := List.mem_map.1 h
        obtain ⟨b, hb, hbe⟩ := List.mem_filterMap.1 he
        obtain ⟨v, -, rfl⟩ := Option.map_eq_some_iff.1 hbe
        exact List.mem_map.2 ⟨b, hb, heq⟩
    · have hother : name a' ≠ name a := fun h => ha' (h ▸ List.mem_map_of_mem ha)
      rw [List.filterMap_cons]
      cases value? a' with
      | none => exact ih has ha
      | some v =>
        rw [Option.map_some, Assoc.get?_cons, if_neg hother]
        exact ih has ha

/-- The names that a call had to give. -/
def CallFault.lacking : CallFault → List String
  | missing names | missingKeywords names => names
  | _ => []

namespace Signature
variable {s bs : Signature}

/-- A call whose arguments all find places, but which gives nothing to a parameter without a default, fails for lack
of just such parameters. -/
theorem bind_lacking {positional : List Value} {keywords assigned extra : Assoc Value}
    (hfold : keywords.foldlM (assignKeyword s keywords.keys) (s.positionalNames.zip positional, []) =
      .ok (assigned, extra))
    (hleft : positional.drop s.positionalNames.length = [] ∨ s.HasKind .rest) {q : Param} (hq : q ∈ s)
    (hcoll : ¬ q.isCollecting) (hd : q.default = none) (hn : q.name ∉ assigned.keys) :
    ∃ f : CallFault, s.bind positional keywords = .error f ∧ f.lacking ≠ [] ∧
      ∀ n ∈ f.lacking, ∃ p ∈ s, ¬ p.isCollecting ∧ p.default = none ∧ p.name = n ∧ n ∉ assigned.keys := by
  have hlen : s.positionalNames.length = (s.filter Param.isPositional).length := List.length_map _
  have hlacks {p : Param} : (p.default.isNone && !assigned.contains p.name) = true ↔
      p.default = none ∧ p.name ∉ assigned.keys := by
    simp [← Assoc.contains_iff]
  rw [hlen, ← leftover_eq_false] at hleft
  unfold bind
  unfold positionalNames at hfold
  simp only [hfold, Attempt.ok_bind, hleft, Bool.false_eq_true, if_false]
  cases hpos : (s.filter Param.isPositional).filter fun p => p.default.isNone && !assigned.contains p.name with
  | cons p ps =>
    refine ⟨.missing ((p :: ps).map (·.name)), rfl, by simp [CallFault.lacking], ?_⟩
    rw [← hpos]
    intro n hn
    obtain ⟨p, hp, rfl⟩ := List.mem_map.1 hn
    obtain ⟨hp, hl⟩ := List.mem_filter.1 hp
    obtain ⟨hp, hpk⟩ := List.mem_filter.1 hp
    exact ⟨p, hp, Param.not_isCollecting_iff.2 (.inl hpk), (hlacks.1 hl).1, rfl, (hlacks.1 hl).2⟩
  | nil =>
    cases hkw : s.filter fun p => p.kind == .keywordOnly && (p.default.isNone && !assigned.contains p.name) with
    | nil => exact absurd ((filter_lacking_eq_nil s assigned).1 ⟨hpos, hkw⟩ q hq hcoll hd) hn
    | cons p ps =>
      refine ⟨.missingKeywords ((p :: ps).map (·.name)), rfl, by simp [CallFault.lacking], ?_⟩
      rw [← hkw]
      intro n hn
      obtain ⟨p, hp, rfl⟩ := List.mem_map.1 hn
      obtain ⟨hp, hl⟩ := List.mem_filter.1 hp
      obtain ⟨hpk, hl⟩ := Bool.and_eq_true_iff.1 hl
      exact ⟨p, hp, Param.not_isCollecting_iff.2 (.inr (by simpa using hpk)), (hlacks.1 hl).1, rfl, (hlacks.1 hl).2⟩

theorem foldlM_assignKeyword_keys {names : List String} {keywords : Assoc Value} {acc acc' : Assoc Value × Assoc Value}
    (hok : keywords.foldlM (assignKeyword s names) acc = .ok acc') : acc'.1.keys ⊆ acc.1.keys ++ keywords.keys := by
  induction keywords generalizing acc with
  | nil =>
    cases hok
    simp
  | cons arg keywords ih =>
    obtain ⟨mid, hmid, hok⟩ := Attempt.foldlM_cons_eq_ok.1 hok
    have hstep : mid.1.keys ⊆ acc.1.keys ++ [arg.1] := by
      by_cases h : s.HasNamed arg.1
      · obtain ⟨hfresh, rfl⟩ := assignKeyword_own h hmid
        rw [Assoc.keys_insert, if_neg hfresh]
        exact List.Subset.refl _
      · obtain ⟨-, rfl⟩ := assignKeyword_other h hmid
        exact List.subset_append_left _ _
    intro n hn
    rcases List.mem_append.1 (ih hok hn) with h | h
    · rcases List.mem_append.1 (hstep h) with h | h
      · exact List.mem_append_left _ h
      · exact List.mem_append_right _ (List.mem_singleton.1 h ▸ List.mem_cons_self)
    · exact List.mem_append_right _ (List.mem_cons_of_mem _ h)

theorem keys_assignKeyword {names : List String} {acc acc' : Assoc Value × Assoc Value} {arg : String × Value}
    (hok : assignKeyword s names acc arg = .ok acc') : acc.1.keys ⊆ acc'.1.keys := by
  by_cases h : s.HasNamed arg.1
  · obtain ⟨hfresh, rfl⟩ := assignKeyword_own h hok
    rw [Assoc.keys_insert, if_neg hfresh]
    exact List.subset_append_left _ _
  · obtain ⟨-, rfl⟩ := assignKeyword_other h hok
    exact List.Subset.refl _

theorem foldlM_assignKeyword_fresh {names : List String} {keywords : Assoc Value}
    {acc acc' : Assoc Value × Assoc Value} {n : String}
    (hok : keywords.foldlM (assignKeyword s names) acc = .ok acc') (hn : n ∈ keywords.keys) (h : s.HasNamed n) :
    n ∉ acc.1.keys := by
  induction keywords generalizing acc with
  | nil => cases hn
  | cons arg keywords ih =>
    obtain ⟨mid, hmid, hok⟩ := Attempt.foldlM_cons_eq_ok.1 hok
    rcases List.mem_cons.1 hn with rfl | hn
    · exact (assignKeyword_own h hmid).1
    · exact fun c => ih hok hn (keys_assignKeyword hmid c)

variable {c : Call} {binding : Binding} {value? : String → Option Value}

theorem exists_front_fresh (hw : s.WellFormed) (hb : s.boundAs binding = some bs)
    (hlead : c.positional.length ≤ bs.positionalOnlyNames.length) (v : Value) :
    ∃ entry : Assoc Value,
      s.positionalNames.zip (c.withFirst (Method.receiver? v binding)).positional ++ c.named =
        entry ++ Handler.assigned bs.positionalOnlyNames c ∧
      ∀ q ∈ bs, ¬ q.isCollecting → q.name ∉ entry.keys := by
  -- seen from a call that has a value for all other parameters, the receiver has none of their names
  let all : String → Option Value := fun n =>
    if ∃ q ∈ bs, ¬ q.isCollecting ∧ q.name = n then some .null else none
  have hall {n : String} : (all n).isSome ↔ ∃ q ∈ bs, ¬ q.isCollecting ∧ q.name = n := by
    unfold all
    split <;> simp_all
  have hknown : ∀ n, (all n).isSome → ∃ q ∈ bs, ¬ q.isCollecting ∧ q.name = n := fun _ => hall.1
  obtain ⟨entry, left, hfront⟩ := exists_front hw hb hlead hknown v
  refine ⟨entry, hfront.zip_append, fun q hq hcoll hn => ?_⟩
  have hsome : (all q.name).isSome := hall.2 ⟨q, hq, hcoll, rfl⟩
  rw [hfront.fresh _ hn] at hsome
  cases hsome

/-- A call binds only if it gives something to every parameter without a default. -/
theorem given_of_bind (hw : s.WellFormed) (hb : s.boundAs binding = some bs)
    (hlead : c.positional.length ≤ bs.positionalOnlyNames.length) {v : Value} {out : Assoc Value}
    (hok : s.bind (c.withFirst (Method.receiver? v binding)).positional c.named = .ok out) {q : Param} (hq : q ∈ bs)
    (hcoll : ¬ q.isCollecting) (hd : q.default = none) :
    q.name ∈ (Handler.assigned bs.positionalOnlyNames c).keys := by
  obtain ⟨entry, hzip, hfresh⟩ := exists_front_fresh hw hb hlead v
  obtain ⟨assigned, extra, hfold, -, hfull, -⟩ := bind_eq_ok.1 hok
  have hmem := foldlM_assignKeyword_keys hfold (hfull q ((boundAs_suffix hb).subset hq) hcoll hd)
  rw [← Assoc.keys_append, hzip, Assoc.keys_append, List.mem_append] at hmem
  exact hmem.resolve_left (hfresh q hq hcoll)

/-- A call by name fails for lack of parameters without a default that it gives nothing to, if there are any. -/
theorem bind_byName_lacking (hw : s.WellFormed) (hb : s.boundAs binding = some bs)
    (hlead : c.positional.length ≤ bs.positionalOnlyNames.length)
    (honce : (Handler.assigned bs.positionalOnlyNames c).keys.Nodup)
    (hval : ∀ n, (Handler.assigned bs.positionalOnlyNames c).get? n = value? n)
    (hdom : ∀ n, (value? n).isSome → ∃ q ∈ bs, ¬ q.isCollecting ∧ q.name = n)
    (hgap : ∀ n ∈ c.named.keys, n ∉ bs.positionalOnlyNames) (v : Value) {q : Param} (hq : q ∈ bs)
    (hcoll : ¬ q.isCollecting) (hd : q.default = none) (hn : value? q.name = none) :
    ∃ f : CallFault, s.bind (c.withFirst (Method.receiver? v binding)).positional c.named = .error f ∧
      f.lacking ≠ [] ∧ ∀ n ∈ f.lacking, ∃ p ∈ bs, ¬ p.isCollecting ∧ p.default = none ∧ p.name = n ∧
        value? n = none := by
  obtain ⟨entry, left, hfront⟩ := exists_front hw hb hlead hdom v
  obtain ⟨entry', hzip, hfresh⟩ := exists_front_fresh hw hb hlead v
  have hsame : entry' = entry := List.append_cancel_right (hzip.symm.trans hfront.zip_append)
  have hsub := (boundAs_suffix hb).subset
  have hassigned (n : String) :
      n ∈ Assoc.keys (s.positionalNames.zip (c.withFirst (Method.receiver? v binding)).positional ++ c.named) ↔
        n ∈ entry.keys ∨ (value? n).isSome := by
    rw [hfront.zip_append, Assoc.keys_append, List.mem_append, mem_assigned_iff hval]
  have hnd := hfront.nodup_assigned honce hval
  rw [← hfront.zip_append] at hnd
  have hlacks :
      q.name ∉ Assoc.keys (s.positionalNames.zip (c.withFirst (Method.receiver? v binding)).positional ++ c.named) := by
    rw [hassigned, not_or, Option.not_isSome_iff_eq_none]
    exact ⟨hsame ▸ hfresh q hq hcoll, hn⟩
  obtain ⟨f, hf, hne, hall⟩ := bind_lacking
    (foldlM_assignKeyword_named (hasNamed_of_noGap hsub hval hdom hgap) hnd)
    (hfront.drop.symm ▸ hfront.rest) (hsub hq) hcoll hd hlacks
  refine ⟨f, hf, hne, fun n hnf => ?_⟩
  obtain ⟨p, hp, hpcoll, hpd, rfl, hpn⟩ := hall n hnf
  rw [hassigned, not_or, Option.not_isSome_iff_eq_none] at hpn
  exact ⟨p, (hfront.covers p hp).resolve_right hpn.1, hpcoll, hpd, rfl, hpn.2⟩

end Signature

namespace RecordField

theorem default_parameter_eq_none {f : RecordField} : f.parameter.default = none ↔ f.hasDefault = false := by
  simp [parameter, hasDefault, Option.or_eq_none_iff]

theorem isNamed_parameter (f : RecordField) : f.parameter.isNamed := by
  cases h : f.keywordOnly <;> simp [parameter, Param.isNamed, h]

theorem signature_eq {fields : List RecordField} (hne : "" ∉ (fields.filter (·.init)).map (·.name)) :
    ∃ receiver, signature fields = { name := receiver } :: (fields.filter (·.init)).map parameter ∧
      receiver ∉ (fields.filter (·.init)).map (·.name) := by
  refine ⟨_, rfl, ?_⟩
  split
  · exact hne
  · next hself =>
    simp only [List.any_eq_true, beq_iff_eq, not_exists, not_and] at hself
    simp only [List.mem_map, List.mem_filter, not_exists, not_and]
    exact fun f hf => hself f hf.1

theorem received_parameter (f : RecordField) (assigned : Assoc Value) (left : List Value) (extra : Assoc Value) :
    Signature.received assigned left extra f.parameter =
      (assigned.get? f.name).getD ((f.default.or f.factory).getD .null) := by
  cases h : f.keywordOnly <;> simp [Signature.received, parameter, h]

/-- The value of a field: what is supplied for it, or else its default, what its factory makes, or null. -/
def valueFrom (f : RecordField) (supplied : Assoc Value) : Value :=
  (supplied.get? f.name).getD ((f.default.or f.factory).getD .null)

/-- A constructor that was generated for some fields takes what it is given: it knows each name, and it is given something
for each of its parameters that has no default. -/
structure Takes (fields : List RecordField) (given : Assoc Value) : Prop where
  known : given.keys ⊆ (fields.filter (·.init)).map (·.name)
  full : ∀ f ∈ fields.filter (·.init), f.hasDefault = false → f.name ∈ given.keys

variable {fields : List RecordField} {given : Assoc Value}

theorem positionalNames_signature {receiver : String} {params : Signature}
    (hsig : signature fields = { name := receiver } :: params) :
    ∃ rest, (signature fields).positionalNames = receiver :: rest := by
  rw [hsig, Signature.positionalNames, List.filter_cons_of_pos rfl]
  exact ⟨_, rfl⟩

/-- A generated constructor gives each of its parameters what it is given for it, or what stands in for that. -/
theorem bind_of_takes (hne : "" ∉ (fields.filter (·.init)).map (·.name)) (hn : given.keys.Nodup)
    (h : Takes fields given) (v : Value) : ∃ receiver, (signature fields).bind [v] given =
      .ok ((receiver, v) :: (fields.filter (·.init)).map fun f => (f.name, f.valueFrom given)) := by
  obtain ⟨receiver, hsig, hfree⟩ := signature_eq hne
  obtain ⟨rest, hnames⟩ := positionalNames_signature hsig
  have hzip : (signature fields).positionalNames.zip [v] = [(receiver, v)] := by
    rw [hnames, List.zip_cons_cons, List.zip_nil_right]
  refine ⟨receiver, (Signature.bind_of_named ?named ?once ?rest ?full).trans (congrArg Except.ok ?values)⟩
  case named =>
    intro n hn
    obtain ⟨f, hf, rfl⟩ := List.mem_map.1 (h.known hn)
    refine ⟨f.parameter, ?_, f.isNamed_parameter, rfl⟩
    rw [hsig]
    exact List.mem_cons_of_mem _ (List.mem_map_of_mem hf)
  case once =>
    rw [hzip]
    exact List.nodup_cons.2 ⟨fun c => hfree (h.known c), hn⟩
  case rest =>
    rw [hnames, List.length_cons, List.drop_succ_cons, List.drop_nil]
    exact .inl rfl
  case full =>
    intro p hp _ hd
    rw [hzip]
    rw [hsig] at hp
    rcases List.mem_cons.1 hp with rfl | hp
    · exact List.mem_cons_self
    · obtain ⟨f, hf, rfl⟩ := List.mem_map.1 hp
      exact List.mem_cons_of_mem _ (h.full f hf (default_parameter_eq_none.1 hd))
  case values =>
    rw [hzip, hsig, List.map_cons, List.map_map, List.singleton_append]
    refine congrArg₂ List.cons ?_ (List.map_congr_left fun f hf => ?_)
    · exact congrArg (Prod.mk receiver) (by simp [Signature.received, Assoc.get?_cons])
    · have hother : receiver ≠ f.name := fun c => hfree (c ▸ List.mem_map_of_mem hf)
      refine congrArg (Prod.mk f.name) ?_
      rw [received_parameter, Assoc.get?_cons, if_neg hother]
      rfl

/-- A generated constructor that can be called with what it is given takes it. -/
theorem takes_of_bind (hne : "" ∉ (fields.filter (·.init)).map (·.name)) {v : Value} {out : Assoc Value}
    (h : (signature fields).bind [v] given = .ok out) : Takes fields given := by
  obtain ⟨receiver, hsig, hfree⟩ := signature_eq hne
  obtain ⟨rest, hnames⟩ := positionalNames_signature hsig
  obtain ⟨assigned, extra, hfold, -, hfull, -⟩ := Signature.bind_eq_ok.1 h
  rw [hnames, List.zip_cons_cons, List.zip_nil_right] at hfold
  have hkinds : ¬ Signature.HasKind (signature fields) .keywords := by
    rintro ⟨p, hp, hkind⟩
    rw [hsig] at hp
    rcases List.mem_cons.1 hp with rfl | hp
    · cases hkind
    · obtain ⟨f, -, rfl⟩ := List.mem_map.1 hp
      unfold parameter at hkind
      split at hkind <;> cases hkind
  constructor
  case known =>
    intro n hn
    by_cases hnamed : (signature fields).HasNamed n
    · obtain ⟨p, hp, -, rfl⟩ := hnamed
      rw [hsig] at hp
      rcases List.mem_cons.1 hp with rfl | hp
      · exact absurd List.mem_cons_self
          (Signature.foldlM_assignKeyword_fresh hfold hn ⟨_, hsig ▸ List.mem_cons_self, rfl, rfl⟩)
      · obtain ⟨f, hf, rfl⟩ := List.mem_map.1 hp
        exact List.mem_map_of_mem hf
    · exact absurd (Signature.foldlM_assignKeyword_other hn hnamed hfold).1 hkinds
  case full =>
    intro f hf hd
    have hcoll : ¬ f.parameter.isCollecting := by
      cases h : f.keywordOnly <;> simp [parameter, Param.isCollecting, h]
    have hmem := hfull f.parameter (hsig ▸ List.mem_cons_of_mem _ (List.mem_map_of_mem hf)) hcoll
      (default_parameter_eq_none.2 hd)
    rcases List.mem_cons.1 (Signature.foldlM_assignKeyword_keys hfold hmem) with heq | hmem
    · have hname : f.name = receiver := heq
      exact absurd (hname ▸ List.mem_map_of_mem hf) hfree
    · exact hmem

theorem bind_iff_takes (hne : "" ∉ (fields.filter (·.init)).map (·.name)) (hn : given.keys.Nodup) (v : Value) :
    (∃ out, (signature fields).bind [v] given = .ok out) ↔ Takes fields given := by
  refine ⟨fun ⟨out, h⟩ => takes_of_bind hne h, fun h => ?_⟩
  obtain ⟨receiver, hbind⟩ := bind_of_takes hne hn h v
  exact ⟨_, hbind⟩

end RecordField

namespace GroupPlan

theorem keys_constructorArgs_sublist (fields : List RecordField) (supplied : Assoc Value) :
    (constructorArgs fields supplied).keys.Sublist ((fields.filter (·.init)).map (·.name)) := by
  unfold constructorArgs
  generalize fields.filter (·.init) = fs
  induction fs with
  | nil => exact .slnil
  | cons f fs ih =>
    rw [List.filterMap_cons, List.map_cons]
    cases supplied.get? f.name with
    | some w => exact ih.cons_cons f.name
    | none =>
      cases f.hasDefault with
      | false => exact ih.cons_cons f.name
      | true => exact ih.cons f.name

/-- Every parameter of a generated constructor that has no default gets something. -/
theorem mem_keys_constructorArgs {fields : List RecordField} {f : RecordField} (hf : f ∈ fields.filter (·.init))
    (hd : f.hasDefault = false) (supplied : Assoc Value) : f.name ∈ (constructorArgs fields supplied).keys := by
  unfold constructorArgs Assoc.keys
  rw [List.mem_map]
  simp only [List.mem_filterMap]
  refine ⟨(f.name, (supplied.get? f.name).getD .null), ⟨f, hf, ?_⟩, rfl⟩
  cases supplied.get? f.name with
  | some v => rfl
  | none => simp [hd]

/-- What a generated constructor is given for a parameter: what is supplied, or null if there is no default. -/
theorem get?_constructorArgs {fields : List RecordField} (hn : ((fields.filter (·.init)).map (·.name)).Nodup)
    {f : RecordField} (hf : f ∈ fields.filter (·.init)) (supplied : Assoc Value) :
    (constructorArgs fields supplied).get? f.name =
      (supplied.get? f.name).or (if f.hasDefault then none else some .null) := by
  have hentries : constructorArgs fields supplied = (fields.filter (·.init)).filterMap fun f =>
      ((supplied.get? f.name).or (if f.hasDefault then none else some .null)).map (Prod.mk f.name) := by
    refine List.filterMap_congr fun g _ => ?_
    cases supplied.get? g.name with
    | some v => rfl
    | none => cases g.hasDefault <;> rfl
  rw [hentries]
  exact Assoc.get?_filterMap hn _ hf

end GroupPlan

namespace WireType

theorem isNonNull_wrap (key : TypeKey) (isList nullable : Bool) :
    (wrap (.named key) isList nullable).isNonNull = !nullable := by
  cases isList <;> cases nullable <;> rfl

theorem isNonNull_nullable_wrap (key : TypeKey) (isList nullable : Bool) :
    (wrap (.named key) isList nullable).nullable.isNonNull = false := by
  cases isList <;> cases nullable <;> rfl

end WireType

/-- Null may be passed for a parameter exactly if its annotation admits it or it has a default. -/
theorem inferType_isNonNull {names : SchemaNames} {registry : Registry} {a : Ann} {argType : Option ArgType}
    {hasDefault : Bool} {place : String} {t : WireType} (h : inferType names registry a argType hasDefault place = .ok t) :
    t.isNonNull = (!hasDefault && !(Ann.core a).2) := by
  obtain ⟨d, hd, h⟩ := Attempt.bind_eq_ok.1 h
  obtain ⟨-, -, hd⟩ := Attempt.bind_eq_ok.1 hd
  cases hd
  dsimp only at h
  split at h
  · cases h
  split at h
  · cases h
  obtain ⟨key, -, h⟩ := Attempt.bind_eq_ok.1 h
  cases h
  cases hasDefault with
  | true => exact WireType.isNonNull_nullable_wrap _ _ _
  | false => exact WireType.isNonNull_wrap _ _ _

/-- What the schema asks of the arguments of a call: each is known and given once, and none that must not be null is
left out. -/
structure Operation.Admits (o : Operation) (args : Assoc Value) : Prop where
  once : args.keys.Nodup
  known : args.keys ⊆ o.args.keys
  required : ∀ e ∈ o.args, e.2.type.isNonNull → e.1 ∈ args.keys

namespace Roles

/-- A plain parameter that may be null, and for which nothing stands in when it is left out. -/
def Unfilled (e : Param × Role) : Prop :=
  e.2.isPlain ∧ e.1.default = none ∧ (Ann.core e.1.ann).2 = true

theorem Unfilled.given_iff {e : Param × Role} (h : Unfilled e) {args : Assoc Value} :
    Given args e ↔ e.1.name ∈ args.keys := by
  obtain ⟨hplain, -⟩ := h
  rw [Given]
  cases hr : e.2 with
  | plain arg => exact Iff.rfl
  | _ =>
    rw [hr] at hplain
    cases hplain

theorem Unfilled.not_isCollecting {rs : Roles} (hs : rs.Sound) {e : Param × Role} (he : e ∈ rs) (h : Unfilled e) :
    ¬ e.1.isCollecting := by
  obtain ⟨hplain, -⟩ := h
  rw [← hs.collecting e he]
  intro hr
  rw [hr] at hplain
  cases hplain

def Filled (rs : Roles) (args : Assoc Value) : Prop :=
  ∀ e ∈ rs, Unfilled e → e.1.name ∈ args.keys

instance (e : Param × Role) : Decidable (Unfilled e) :=
  inferInstanceAs (Decidable (_ ∧ _ ∧ _))

instance (rs : Roles) (args : Assoc Value) : Decidable (Filled rs args) :=
  inferInstanceAs (Decidable (∀ e ∈ rs, Unfilled e → e.1.name ∈ args.keys))

end Roles

namespace CompileContext
variable {ctx : CompileContext} {attr : String} {binding : Binding} {m : Method} {op : OperationMeta}

theorem role_of_boundRoles {rs : Roles} (hrs : ctx.boundRoles attr binding m = .ok rs) {e : Param × Role}
    (he : e ∈ rs) : (ctx.inModule m.module).role (ctx.place attr) e.1 = .ok e.2 := by
  obtain ⟨params, -, hroles⟩ := Attempt.bind_eq_ok.1 hrs
  exact (roles_eq_ok.1 hroles).2 e he

theorem isNonNull_of_role {place : String} {p : Param} {arg : Argument} (h : ctx.role place p = .ok (.plain arg)) :
    arg.type.isNonNull ↔ p.default = none ∧ (Ann.core p.ann).2 = false := by
  rcases role_cases h with ⟨-, hr⟩ | ⟨-, -, hr⟩ | ⟨-, g, -, hr⟩ | ⟨-, -, arg', harg, hr⟩
  · cases hr
  · cases hr
  · obtain ⟨c, fields, new, -, -, -, -, hr⟩ := groupRole_eq_ok.1 hr
    cases hr
  · cases hr
    obtain ⟨argType, -, harg⟩ := Attempt.bind_eq_ok.1 harg
    obtain ⟨type, htype, harg⟩ := Attempt.bind_eq_ok.1 harg
    cases harg
    rw [inferType_isNonNull htype]
    cases p.default <;> simp

/-- A plan has fields, and if its class has generated methods, they are those that its constructor would be given. -/
def Lists (ctx : CompileContext) (plan : GroupPlan) : Prop :=
  plan.fields ≠ [] ∧ ∀ fields, ctx.defs.recordFields? plan.cls = some fields →
    plan.fields = (fields.filter (·.init)).map (·.name)

theorem lists_of_groupRole {place : String} {p : Param} {g : Group} {plan : GroupPlan} {new : Assoc Argument}
    (h : ctx.groupRole place p g = .ok (.grouped plan new)) : ctx.Lists plan ∧ plan.fields = new.keys := by
  obtain ⟨c, fs, new', -, hfs, hne, hnew, hr⟩ := groupRole_eq_ok.1 h
  cases hr
  refine ⟨⟨fun hnil => hne (List.map_eq_nil_iff.1 hnil), fun fields hf => ?_⟩, keys_groupArguments hnew⟩
  obtain ⟨hints, -, hfs⟩ := Attempt.bind_eq_ok.1 hfs
  simp only [hf] at hfs
  cases hfs
  rw [List.map_map]
  rfl

theorem lists_of_role {place : String} {p : Param} {plan : GroupPlan} {new : Assoc Argument}
    (h : ctx.role place p = .ok (.grouped plan new)) : ctx.Lists plan := by
  rcases role_cases h with ⟨-, hr⟩ | ⟨-, -, hr⟩ | ⟨-, g, -, hr⟩ | ⟨-, -, arg, -, hr⟩
  · cases hr
  · cases hr
  · exact (lists_of_groupRole hr).1
  · cases hr

/-- An admitted call gives something to every parameter without a default, except to those that may be null. -/
theorem unfilled_of_not_given {rs : Roles} {type : WireType} (hrs : ctx.boundRoles attr binding m = .ok rs)
    {args : Assoc Value} (ha : (ctx.operationOf attr binding m op (.ofRoles rs) type).Admits args) {e : Param × Role}
    (he : e ∈ rs) (hcoll : ¬ e.1.isCollecting) (hd : e.1.default = none) (hn : ¬ Roles.Given args e) :
    Roles.Unfilled e ∧ e.1.name ∉ args.keys := by
  have hrole := role_of_boundRoles hrs he
  cases hr : e.2 with
  | collecting => exact absurd ((role_collecting hrole).1 hr) hcoll
  | info => exact absurd (by rw [Roles.Given, hr]; trivial) hn
  | grouped plan new => exact absurd (by rw [Roles.Given, hr]; trivial) hn
  | plain arg =>
    have habsent : e.1.name ∉ args.keys := by
      rw [Roles.Given, hr] at hn
      exact hn
    refine ⟨⟨by rw [hr]; rfl, hd, ?_⟩, habsent⟩
    have hmem : (e.1.name, arg) ∈ (Compiled.ofRoles rs).args := by
      rw [Compiled.args_ofRoles, List.mem_flatMap]
      exact ⟨e, he, by rw [hr]; exact List.mem_singleton_self _⟩
    have hnull : ¬ arg.type.isNonNull := fun c => habsent (ha.required _ hmem c)
    rw [isNonNull_of_role (hr ▸ hrole)] at hnull
    simpa [hd] using hnull

end CompileContext

namespace Handler

/-- A call that gives the parameters of the bound method what is passed to them by name. -/
structure ByName (bs : Signature) (rs : Roles) (args : Assoc Value) (info : Value) (vs : List Value) (c : Call) :
    Prop where
  lead : c.positional.length ≤ bs.positionalOnlyNames.length
  once : (assigned bs.positionalOnlyNames c).keys.Nodup
  values : ∀ n, (assigned bs.positionalOnlyNames c).get? n = rs.passedTo args info vs n
  known : ∀ n, (rs.passedTo args info vs n).isSome → ∃ q ∈ bs, ¬ q.isCollecting ∧ q.name = n
  given : ∀ e ∈ rs, (rs.passedTo args info vs e.1.name).isSome ↔ Roles.Given args e
  gap : (∀ n ∈ c.named.keys, n ∉ bs.positionalOnlyNames) ↔ rs.NoGap args

theorem distribute_byName {h : Handler} {rs : Roles} {bs : Signature} (hs : rs.Sound)
    (hbare : rs.map (·.1.bare) = bs.map Param.bare) (hplans : h.plans = (Compiled.ofRoles rs).plans)
    (hinfos : h.infoParams = (Compiled.ofRoles rs).infoParams)
    (honly : h.positionalOnly = (Compiled.ofRoles rs).positionalOnly) {args : Assoc Value} {vs : List Value}
    {u u' : Universe} (hnd : args.keys.Nodup) (hargs : args.keys ⊆ (Compiled.ofRoles rs).args.keys)
    (hb : (containers h.plans args).apply u = (.ok vs, u')) (info : Value) :
    ∃ c, (h.distribute args info).apply u = (.ok c, u') ∧ ByName bs rs args info vs c := by
  have hvs : vs.length = (Compiled.ofRoles rs).plans.length := hplans ▸ length_of_containers hb
  have hpos : h.positionalOnly = bs.positionalOnlyNames := honly.trans (Roles.positionalOnly_bare hbare)
  have hnames : h.positionalOnly.Nodup := by
    rw [honly, Compiled.positionalOnly_ofRoles]
    exact hs.names.sublist (List.filter_sublist.map _)
  obtain ⟨routed, hc, hnodup, hget⟩ := distribute_routed hs hplans hinfos hnd hargs hb info
  obtain ⟨hlead, honce, hvalues⟩ := routed_takePositional (h := h) hnodup hget
  refine ⟨_, hc, ⟨hpos ▸ hlead, hpos ▸ honce, hpos ▸ hvalues, fun n hn => ?_, fun e he => ?_, ?_⟩⟩
  · obtain ⟨e, he, hcoll, rfl⟩ := hs.exists_of_passedTo hvs hn
    obtain ⟨q, hq, hqe⟩ := Roles.exists_bare_right hbare he
    exact ⟨q, hq, fun c => hcoll (Param.isCollecting_of_bare hqe ▸ c), (Param.eq_of_bare hqe).1⟩
  · exact hs.passedTo_isSome_iff hvs he
  · rw [← hs.noGap_iff hvs hget, ← honly, ← takePositional_named_iff hnames, hpos]

theorem receive_apply_eq_error {h : Handler} {c : Call} {u : Universe} {f : CallFault}
    (hf : h.method.signature.bind
      (c.withFirst (Method.receiver? (u.current h.resolver.value) h.binding)).positional
      (c.withFirst (Method.receiver? (u.current h.resolver.value) h.binding)).named = .error f) :
    (h.receive c).apply u = (.error (.plain .type (f.message h.method.qualifiedName)), u) := by
  have hreceive : (h.receive c).apply u =
      (h.method.receiveAll (c.withFirst (Method.receiver? (u.current h.resolver.value) h.binding)), u) := rfl
  rw [hreceive, Method.receiveAll, hf]

end Handler

namespace CompileContext
variable {ctx : CompileContext} {attr : String} {binding : Binding} {m : Method} {op : OperationMeta}
  {rs : Roles} {type : WireType} {args : Assoc Value} {vs : List Value} {c : Call} {info : Value}

/-- Parameters that are filled by position only, none with a default, are given without a gap once everything that may
be null is. -/
theorem noGap_of_filled (hrs : ctx.boundRoles attr binding m = .ok rs)
    (hpos : ∀ p ∈ m.signature, p.name ∈ (Compiled.ofRoles rs).positionalOnly → p.default = none)
    (ha : (ctx.operationOf attr binding m op (.ofRoles rs) type).Admits args) (hf : rs.Filled args) :
    rs.NoGap args := by
  obtain ⟨bs, hbs, hbare⟩ := boundRoles_bare hrs
  refine List.pairwise_of_forall_mem_list fun e he _ _ _ => ?_
  obtain ⟨he, hk⟩ := List.mem_filter.1 he
  have hkind : e.1.kind = .positionalOnly := by simpa using hk
  have hcoll : ¬ e.1.isCollecting := by
    rw [Param.isCollecting_iff, hkind]
    simp
  obtain ⟨q, hq, hqe⟩ := Roles.exists_bare_right hbare he
  obtain ⟨hname, -, hdefault⟩ := Param.eq_of_bare hqe
  have hd : e.1.default = none := by
    rw [← hdefault]
    refine hpos q ((Signature.boundAs_suffix hbs).subset hq) ?_
    rw [hname, Compiled.positionalOnly_ofRoles]
    exact List.mem_map_of_mem (List.mem_filter.2 ⟨he, hk⟩)
  by_contra hn
  obtain ⟨hu, habsent⟩ := unfilled_of_not_given hrs ha he hcoll hd hn
  exact habsent (hf e he hu)

/-- An admitted call binds exactly if every plain parameter that may be null and has no default is given. -/
theorem bind_isOk_iff {bs : Signature} (hm : m.signature.WellFormed) (hs : rs.Sound)
    (hrs : ctx.boundRoles attr binding m = .ok rs) (hbs : m.signature.boundAs binding = some bs)
    (hbare : rs.map (·.1.bare) = bs.map Param.bare)
    (hpos : ∀ p ∈ m.signature, p.name ∈ (Compiled.ofRoles rs).positionalOnly → p.default = none)
    (ha : (ctx.operationOf attr binding m op (.ofRoles rs) type).Admits args)
    (hc : Handler.ByName bs rs args info vs c) (v : Value) :
    (∃ out, m.signature.bind (c.withFirst (Method.receiver? v binding)).positional
      (c.withFirst (Method.receiver? v binding)).named = .ok out) ↔ rs.Filled args := by
  have hkeys : (c.withFirst (Method.receiver? v binding)).named = c.named := by cases binding <;> rfl
  constructor
  · rintro ⟨out, hok⟩ e he hu
    obtain ⟨q, hq, hqe⟩ := Roles.exists_bare_right hbare he
    obtain ⟨hname, -, hdefault⟩ := Param.eq_of_bare hqe
    have hcoll : ¬ q.isCollecting := Param.isCollecting_of_bare hqe ▸ hu.not_isCollecting hs he
    rw [hkeys] at hok
    have hgiven := Signature.given_of_bind hm hbs hc.lead hok hq hcoll (hdefault.trans hu.2.1)
    rwa [Signature.mem_assigned_iff hc.values, hname, hc.given e he, hu.given_iff] at hgiven
  · intro hf
    refine ⟨_, (Signature.bind_byName_iff hm hbs hc.lead hc.once hc.values hc.known ?_ v).2
      (hc.gap.2 (noGap_of_filled hrs hpos ha hf))⟩
    intro q hq hcoll hd
    obtain ⟨e, he, heq⟩ := Roles.exists_bare_left hbare hq
    obtain ⟨hname, -, hdefault⟩ := Param.eq_of_bare heq
    rw [← hname, hc.given e he]
    by_contra hn
    obtain ⟨hu, habsent⟩ := unfilled_of_not_given hrs ha he (Param.isCollecting_of_bare heq ▸ hcoll)
      (hdefault.trans hd) hn
    exact habsent (hf e he hu)

/-- An admitted call that leaves such a parameter out fails for the lack of it, and of nothing that is not of this
sort. -/
theorem bind_fails {bs : Signature} (hm : m.signature.WellFormed) (hs : rs.Sound)
    (hrs : ctx.boundRoles attr binding m = .ok rs) (hbs : m.signature.boundAs binding = some bs)
    (hbare : rs.map (·.1.bare) = bs.map Param.bare)
    (ha : (ctx.operationOf attr binding m op (.ofRoles rs) type).Admits args)
    (hc : Handler.ByName bs rs args info vs c) (hgap : rs.NoGap args) (hf : ¬ rs.Filled args) (v : Value) :
    ∃ f : CallFault, m.signature.bind (c.withFirst (Method.receiver? v binding)).positional
        (c.withFirst (Method.receiver? v binding)).named = .error f ∧ f.lacking ≠ [] ∧
      ∀ n ∈ f.lacking, ∃ e ∈ rs, Roles.Unfilled e ∧ e.1.name = n ∧ n ∉ args.keys := by
  have hkeys : (c.withFirst (Method.receiver? v binding)).named = c.named := by cases binding <;> rfl
  have habsent {e : Param × Role} (he : e ∈ rs) : ¬ Roles.Given args e ↔ rs.passedTo args info vs e.1.name = none := by
    rw [← hc.given e he, Option.not_isSome_iff_eq_none]
  simp only [Roles.Filled, not_forall] at hf
  obtain ⟨e, he, hu, hn⟩ := hf
  obtain ⟨q, hq, hqe⟩ := Roles.exists_bare_right hbare he
  obtain ⟨hname, -, hdefault⟩ := Param.eq_of_bare hqe
  have hcoll : ¬ q.isCollecting := Param.isCollecting_of_bare hqe ▸ hu.not_isCollecting hs he
  have hnot : ¬ Roles.Given args e := fun h => hn (hu.given_iff.1 h)
  rw [hkeys]
  obtain ⟨f, hbind, hne, hall⟩ := Signature.bind_byName_lacking hm hbs hc.lead hc.once hc.values hc.known
    (hc.gap.2 hgap) v hq hcoll (hdefault.trans hu.2.1) (hname ▸ (habsent he).1 hnot)
  refine ⟨f, hbind, hne, fun n hnf => ?_⟩
  obtain ⟨p, hp, hpcoll, hpd, rfl, hpn⟩ := hall n hnf
  obtain ⟨e', he', heq⟩ := Roles.exists_bare_left hbare hp
  obtain ⟨hname', -, hdefault'⟩ := Param.eq_of_bare heq
  obtain ⟨hu', hn'⟩ := unfilled_of_not_given hrs ha he' (Param.isCollecting_of_bare heq ▸ hpcoll)
    (hdefault'.trans hpd) ((habsent he').2 (hname' ▸ hpn))
  exact ⟨e', he', hu', hname', hname' ▸ hn'⟩

theorem lists_of_plan (hs : rs.Sound) (hrs : ctx.boundRoles attr binding m = .ok rs) {plan : GroupPlan}
    (hp : plan ∈ (Compiled.ofRoles rs).plans) : ctx.Lists plan ∧ plan.fields.Nodup := by
  obtain ⟨e, he, hplan⟩ := Roles.mem_plans.1 hp
  obtain ⟨new, hr⟩ := Role.plan?_eq_some.1 hplan
  have hown : plan.fields = (e.2.args e.1.name).keys := (hs.fields_of_plan he hplan).2
  have hrole := role_of_boundRoles hrs he
  rw [hr] at hrole
  have hsub : plan.fields.Sublist (Compiled.ofRoles rs).args.keys := by
    have hone := (List.singleton_sublist.2 he).flatMap fun e : Param × Role => e.2.args e.1.name
    rw [List.flatMap_singleton] at hone
    rw [hown, Compiled.args_ofRoles]
    exact hone.map Prod.fst
  -- the method may be written in another module, which does not matter here
  have hlists := lists_of_role hrole
  exact ⟨hlists, hs.flat.sublist hsub⟩

end CompileContext

namespace GroupPlan
variable {u : Universe} {c : ClassRef} {info : ClassInfo} {fields params : List RecordField}

/-- Whatever of the fields is supplied, the constructor of the class that they are fields of takes it, exactly if there
is a default for whatever else it has to hand on. -/
theorem takes_own_iff (hc : u.Constructs c info params) (hfields : info.fields? = some fields) (supplied : Assoc Value) :
    RecordField.Takes params (constructorArgs fields supplied) ↔
      ∀ f ∈ params, f.passed = true → f.init = true → f.hasDefault = true := by
  have hown : fields = params.filter fun f => !f.passed := by
    have hgenerated := hc.generated
    unfold ClassInfo.constructor? at hgenerated
    split at hgenerated
    · unfold ClassInfo.fields? at hfields
      obtain ⟨record, hrecord, rfl⟩ := Option.map_eq_some_iff.1 hgenerated
      rw [hrecord, Option.map_some, Option.some.injEq] at hfields
      rw [← hfields, List.filter_filter]
      exact List.filter_congr fun f _ => Bool.and_comm _ _
    · cases hgenerated
  have hkeys := keys_constructorArgs_sublist fields supplied
  constructor
  · intro h f hf hpassed hinit
    by_contra hd
    obtain ⟨g, hg, hname⟩ := List.mem_map.1
      (hkeys.subset (h.full f (List.mem_filter.2 ⟨hf, hinit⟩) (Bool.eq_false_iff.2 hd)))
    have hg : g ∈ params.filter fun f => !f.passed := hown ▸ List.mem_of_mem_filter hg
    obtain ⟨hg, hstored⟩ := List.mem_filter.1 hg
    rw [List.inj_on_of_nodup_map hc.names hg hf hname, hpassed] at hstored
    cases hstored
  · intro h
    refine ⟨fun n hn => ?_, fun f hf hd => ?_⟩
    · obtain ⟨g, hg, rfl⟩ := List.mem_map.1 (hkeys.subset hn)
      obtain ⟨hg, hinit⟩ := List.mem_filter.1 hg
      exact List.mem_map_of_mem (List.mem_filter.2 ⟨List.mem_of_mem_filter (hown ▸ hg), hinit⟩)
    · obtain ⟨hf, hinit⟩ := List.mem_filter.1 hf
      refine mem_keys_constructorArgs (List.mem_filter.2 ⟨hown ▸ List.mem_filter.2 ⟨hf, ?_⟩, hinit⟩) hd supplied
      cases hpassed : f.passed with
      | false => rfl
      | true =>
        rw [h f hf hpassed hinit] at hd
        cases hd

end GroupPlan

/-- Which arguments an admitted call may leave out. A plain argument may be null if its parameter has a default or an
annotation with null; but the method is called exactly if each plain parameter with null in its annotation and no default
is given, and else it misses some of these. The fields of a container with generated methods may be left out as far as the
constructor of its class goes that takes them, which it does exactly if there is a default for whatever it has to hand on;
a constructor that was generated for another class takes what it knows, if that is all it has to be given. -/
theorem CompileContext.admitted_binds_iff {ctx : CompileContext} {attr : String} {binding : Binding} {m : Method}
    {op : OperationMeta} {o : Operation} (hm : m.signature.WellFormed)
    (ho : (ctx.compileMethod attr binding m op).result = .ok o)
    (hpos : ∀ p ∈ m.signature, p.name ∈ o.handler.positionalOnly → p.default = none)
    {args : Assoc Value} (ha : o.Admits args) :
    ∃ rs, ctx.boundRoles attr binding m = .ok rs ∧
      (∀ e ∈ rs, ∀ arg, e.2 = .plain arg →
        (arg.type.isNonNull ↔ e.1.default = none ∧ (Ann.core e.1.ann).2 = false)) ∧
      (∀ plan ∈ o.handler.plans, ∀ fields, ctx.defs.recordFields? plan.cls = some fields →
        ∀ info params, ctx.defs.Constructs plan.cls info params →
          (∀ v, (∃ received, (RecordField.signature params).bind [v]
              (GroupPlan.constructorArgs fields (plan.supplied args)) = .ok received) ↔
            RecordField.Takes params (GroupPlan.constructorArgs fields (plan.supplied args))) ∧
          (info.fields? = some fields →
            (RecordField.Takes params (GroupPlan.constructorArgs fields (plan.supplied args)) ↔
              ∀ f ∈ params, f.passed = true → f.init = true → f.hasDefault = true))) ∧
      ∀ vs u u' info, (Handler.containers o.handler.plans args).apply u = (.ok vs, u') →
        ∃ c, (o.handler.distribute args info).apply u = (.ok c, u') ∧
          ((∃ out, (o.handler.receive c).apply u' = (.ok out, u')) ↔ rs.Filled args) ∧
          (rs.NoGap args → ¬ rs.Filled args → ∃ f : CallFault,
            (o.handler.receive c).apply u' = (.error (.plain .type (f.message m.qualifiedName)), u') ∧
            f.lacking ≠ [] ∧ ∀ n ∈ f.lacking, ∃ e ∈ rs, Roles.Unfilled e ∧ e.1.name = n ∧ n ∉ args.keys) := by
  obtain ⟨rs, type, hrs, hs, rfl⟩ := sound_of_compileMethod hm.names ho
  refine ⟨rs, hrs, ?nullable, ?groups, ?call⟩
  case nullable => exact fun e he arg hr => isNonNull_of_role (hr ▸ role_of_boundRoles hrs he)
  case groups =>
    intro plan hp fields hf info params hc
    obtain ⟨⟨-, hlists⟩, hnd⟩ := lists_of_plan hs hrs hp
    have hkeys := GroupPlan.keys_constructorArgs_sublist fields (plan.supplied args)
    have hnamed : "" ∉ (params.filter (·.init)).map (·.name) := fun c =>
      hc.named ((List.filter_sublist.map _).subset c)
    exact ⟨RecordField.bind_iff_takes hnamed ((hlists fields hf ▸ hnd).sublist hkeys),
      fun hown => GroupPlan.takes_own_iff hc hown _⟩
  case call =>
    intro vs u u' info hb
    obtain ⟨bs, hbs, hbare⟩ := boundRoles_bare hrs
    obtain ⟨c, hc, hname⟩ := Handler.distribute_byName hs hbare rfl rfl rfl ha.once ha.known hb info
    refine ⟨c, hc, ?_, fun hgap hf => ?_⟩
    · simp only [Handler.receive_apply_eq_ok]
      exact bind_isOk_iff hm hs hrs hbs hbare hpos ha hname _
    · obtain ⟨f, hbind, hne, hall⟩ := bind_fails hm hs hrs hbs hbare ha hname hgap hf _
      exact ⟨f, Handler.receive_apply_eq_error hbind, hne, hall⟩

namespace Finder

def resolverClass : ClassRef := .defined "app" "Finder"

def filterClass : ClassRef := .defined "app" "Filter"

def optionalText : Ann := .union .aliased [.cls (.builtin .str), .noneType]

def findMeta : OperationMeta :=
  { kind := some .query, name := "find", returns := .named (.text "string") }

/-- A method with a group and a plain parameter, both of which a caller may leave out as far as the schema tells. -/
def find : Method where
  name := "find"
  owner := "Finder"
  receiver := some "self"
  params := [
    { name := "filter", ann := .annotated (.cls filterClass) [.group .annotated] },
    { name := "term", ann := optionalText }]
  operations := [findMeta]

def genre : RecordField := { name := "genre", ann := optionalText }

def rows : RecordField := { name := "rows", ann := .cls (.builtin .int), default := some (.int 10) }

def scale : RecordField :=
  { name := "scale", ann := .cls .passed, default := some (.int 1), passed := true }

def filterInfo : ClassInfo where
  ref := filterClass
  lineage := [filterClass, .builtin .object]
  annotations := [("genre", optionalText), ("rows", .cls (.builtin .int)), ("scale", .cls .passed)]
  record := some [genre, rows, scale]

def resolverInfo : ClassInfo where
  ref := resolverClass
  lineage := [resolverClass, .builtin .resolver, .builtin .object]
  slots := [("find", .method .instance_ find)]

def classes : Universe where
  classes := [filterInfo, resolverInfo]

def context : CompileContext :=
  { defs := classes, registry := {}, resolver := ⟨.object resolverClass [] (some (.resolver 0))⟩ }

def compiled : Except Failure Operation :=
  (context.compileMethod "find" .instance_ find findMeta).result

def operation : Operation :=
  compiled.toOption.getD default

theorem compiled_eq : compiled = .ok operation :=
  Attempt.eq_ok_of_isOk (by decide +kernel) _

theorem filter_constructs : context.defs.Constructs filterClass filterInfo [genre, rows, scale] where
  first := ⟨[], [Universe.builtinInfo .object], rfl, fun j hj => absurd hj List.not_mem_nil⟩
  unwritten := rfl
  generated := rfl
  names := by decide
  named := by decide

def filterPlan : GroupPlan := ⟨filterClass, ["genre", "rows"], "filter"⟩

theorem plans_eq : operation.handler.plans = [filterPlan] := by decide +kernel

theorem admits (args : Assoc Value) (honce : args.keys.Nodup) (hknown : args.keys ⊆ operation.args.keys) :
    operation.Admits args where
  once := honce
  known := hknown
  required := by
    have hnone : ∀ e ∈ operation.args, e.2.type.isNonNull = false := by decide +kernel
    intro e he h
    rw [hnone e he] at h
    cases h

def info : Value := .info (.text "find") []

def outcome (args : Assoc Value) : Option (FaultKind × String) :=
  match (operation.handler.dispatch args info).result classes with
  | .error f => some (f.kind, f.message)
  | .ok _ => none

end Finder

/-- With the term given, and nothing of the filter, the filter can be made and the method is called. -/
theorem Finder.term_given :
    Finder.find.signature.WellFormed ∧ Finder.compiled = .ok Finder.operation ∧
      (∀ p ∈ Finder.find.signature, p.name ∈ Finder.operation.handler.positionalOnly → p.default = none) ∧
      Finder.operation.Admits [("term", .text "verse")] ∧
      Finder.context.defs.Constructs Finder.filterClass Finder.filterInfo [Finder.genre, Finder.rows, Finder.scale] ∧
      (∀ v, ∃ received, (RecordField.signature [Finder.genre, Finder.rows, Finder.scale]).bind [v]
        (GroupPlan.constructorArgs [Finder.genre, Finder.rows]
          (Finder.filterPlan.supplied [("term", .text "verse")])) = .ok received) ∧
      ∃ c u' out, (Finder.operation.handler.distribute [("term", .text "verse")] Finder.info).apply Finder.classes =
        (.ok c, u') ∧ (Finder.operation.handler.receive c).apply u' = (.ok out, u') := by
  have hm : Finder.find.signature.WellFormed := ⟨by decide, by decide⟩
  have hpos : ∀ p ∈ Finder.find.signature, p.name ∈ Finder.operation.handler.positionalOnly → p.default = none := by
    decide +kernel
  have ha := Finder.admits [("term", .text "verse")] (by decide +kernel) (by decide +kernel)
  obtain ⟨rs, hrs, -, hgroups, hcall⟩ := CompileContext.admitted_binds_iff hm Finder.compiled_eq hpos ha
  refine ⟨hm, Finder.compiled_eq, hpos, ha, Finder.filter_constructs, fun v => ?_, ?_⟩
  · obtain ⟨hbind, htakes⟩ := hgroups Finder.filterPlan (Finder.plans_eq ▸ List.mem_singleton_self _)
      [Finder.genre, Finder.rows] rfl _ _ Finder.filter_constructs
    refine (hbind v).2 ((htakes rfl).2 ?_)
    rintro f (_ | ⟨_, _ | ⟨_, _ | ⟨_, ⟨⟩⟩⟩⟩) hpassed
    · cases hpassed
    · cases hpassed
    · exact fun _ => rfl
  · have hfilled : ((Finder.context.boundRoles "find" .instance_ Finder.find).toOption.getD []).Filled
        [("term", .text "verse")] := by decide +kernel
    rw [hrs] at hfilled
    have hbuilt : ((Handler.containers Finder.operation.handler.plans [("term", .text "verse")]).apply
        Finder.classes).1.isOk := by decide +kernel
    obtain ⟨c, hc, hbinds, -⟩ := hcall _ _ _ Finder.info (Prod.ext (Attempt.eq_ok_of_isOk hbuilt []) rfl)
    obtain ⟨out, hout⟩ := hbinds.2 hfilled
    exact ⟨c, _, out, hc, hout⟩

/-- Nothing must be given, and the container is built from nothing, but the method misses an argument. -/
theorem Finder.term_missing :
    Finder.compiled = .ok Finder.operation ∧ Finder.operation.handler.positionalOnly = [] ∧
      Finder.operation.Admits [] ∧
      ((Handler.containers Finder.operation.handler.plans []).result Finder.classes).isOk ∧
      Finder.outcome [] = some (.type, "Finder.find() missing 1 required positional argument: 'term'") :=
  ⟨Finder.compiled_eq, by decide +kernel, Finder.admits [] List.nodup_nil (List.nil_subset _), by decide +kernel,
    by decide +kernel⟩

end SchemaAssembly
