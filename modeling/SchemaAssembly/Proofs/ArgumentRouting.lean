import SchemaAssembly.Proofs.GroupContainers

/-! Where the flat arguments of a call go. Since no name serves two parameters, the call that is made assigns every
parameter its own value, and nothing else. -/

namespace SchemaAssembly

namespace Handler

/-- What a call assigns to names: its positional values to the first of the given names, and its named ones. -/
def assigned (names : List String) (c : Call) : Assoc Value :=
  names.zip c.positional ++ c.named

theorem length_takePositional (names : List String) (args : Assoc Value) :
    (takePositional names args).positional.length ≤ names.length := by
  induction names generalizing args with
  | nil => simp [takePositional]
  | cons n ns ih =>
    unfold takePositional
    split
    · simp
    · exact Nat.succ_le_succ (ih _)

/-- Taking leading names out of the arguments assigns the same values to the same names. -/
theorem get?_assigned_takePositional (names : List String) (args : Assoc Value) (n : String) :
    (assigned names (takePositional names args)).get? n = args.get? n := by
  induction names generalizing args with
  | nil => rfl
  | cons k ks ih =>
    unfold takePositional
    split
    · rfl
    · next v hv =>
      have : (assigned ks (takePositional ks (args.erase k))).get? n = (args.erase k).get? n := ih _
      simp only [assigned, List.zip_cons_cons, List.cons_append, Assoc.get?_cons] at this ⊢
      rw [this, Assoc.get?_erase]
      split
      · next h => rw [← hv, h]
      · rfl

theorem notMem_keys_assigned_takePositional (names : List String) (args : Assoc Value) (k : String) :
    k ∉ (assigned names (takePositional names (args.erase k))).keys := by
  rw [← Assoc.get?_eq_none_iff, get?_assigned_takePositional, Assoc.get?_erase, if_pos rfl]

theorem nodup_keys_assigned_takePositional (names : List String) {args : Assoc Value} (h : args.keys.Nodup) :
    (assigned names (takePositional names args)).keys.Nodup := by
  induction names generalizing args with
  | nil => exact h
  | cons k ks ih =>
    unfold takePositional
    split
    · simpa [assigned] using h
    · exact List.nodup_cons.2 ⟨notMem_keys_assigned_takePositional ks args k, ih (Assoc.nodup_keys_erase _ _ h)⟩

end Handler

namespace Roles

def containersOf (rs : Roles) (vs : List Value) : Assoc Value :=
  ((Compiled.ofRoles rs).plans.map (·.parameter)).zip vs

def passed (args : Assoc Value) (info : Value) (containers : Assoc Value) (e : Param × Role) : Option Value :=
  match e.2 with
  | .collecting => none
  | .info => some info
  | .grouped .. => containers.get? e.1.name
  | .plain _ => args.get? e.1.name

/-- What a call by name assigns to a name. -/
def passedTo (rs : Roles) (args : Assoc Value) (info : Value) (vs : List Value) (n : String) : Option Value :=
  (rs.find? (·.1.name = n)).bind (passed args info (rs.containersOf vs))

theorem mem_flat {rs : Roles} {n : String} :
    n ∈ (Compiled.ofRoles rs).args.keys ↔ ∃ e ∈ rs, n ∈ (e.2.args e.1.name).keys := by
  rw [Compiled.args_ofRoles, Assoc.keys, List.map_flatMap, List.mem_flatMap]
  rfl

theorem mem_plans {rs : Roles} {plan : GroupPlan} :
    plan ∈ (Compiled.ofRoles rs).plans ↔ ∃ e ∈ rs, e.2.plan? = some plan := by
  rw [Compiled.plans_ofRoles, List.mem_filterMap]

theorem mem_infoParams {rs : Roles} {n : String} :
    n ∈ (Compiled.ofRoles rs).infoParams ↔ ∃ e ∈ rs, e.2 = .info ∧ e.1.name = n := by
  rw [Compiled.infoParams_ofRoles, List.mem_map]
  simp only [List.mem_filter, and_assoc, Role.isInfo_iff]

namespace Sound
variable {rs : Roles} (hs : Sound rs)
include hs

theorem eq_of_name_eq {e e' : Param × Role} (he : e ∈ rs) (he' : e' ∈ rs) (h : e.1.name = e'.1.name) : e = e' :=
  List.inj_on_of_nodup_map hs.names he he' h

theorem args_disjoint {e e' : Param × Role} (he : e ∈ rs) (he' : e' ∈ rs) (h : e ≠ e') {n : String}
    (hn : n ∈ (e.2.args e.1.name).keys) : n ∉ (e'.2.args e'.1.name).keys := by
  have hflat := hs.flat
  rw [Compiled.args_ofRoles, Assoc.keys, List.map_flatMap, List.nodup_flatMap] at hflat
  have hsymm : Std.Symm (Function.onFun List.Disjoint fun e : Param × Role => (e.2.args e.1.name).map (·.1)) :=
    ⟨fun _ _ hd n hn hn' => hd hn' hn⟩
  exact fun hn' => hflat.2.forall he he' h hn hn'

theorem fields_of_plan {e : Param × Role} {plan : GroupPlan} (he : e ∈ rs) (hp : e.2.plan? = some plan) :
    plan.parameter = e.1.name ∧ plan.fields = (e.2.args e.1.name).keys := by
  obtain ⟨new, hr⟩ := Role.plan?_eq_some.1 hp
  rw [hr]
  exact hs.grouped e he plan new hr

theorem parameter_notMem {e e' : Param × Role} {plan : GroupPlan} (he : e ∈ rs) (he' : e' ∈ rs) (h : e ≠ e')
    (hp : e.2.plan? = some plan) : e.1.name ∉ (e'.2.args e'.1.name).keys := by
  obtain ⟨hparam, hfields⟩ := hs.fields_of_plan he hp
  intro hn
  have hown : plan.parameter ∈ plan.fields :=
    hs.apart plan (mem_plans.2 ⟨e, he, hp⟩) (mem_flat.2 ⟨e', he', hparam ▸ hn⟩)
  rw [hparam, hfields] at hown
  exact hs.args_disjoint he he' h hown hn

theorem apart_of_ne {e e' : Param × Role} {plan plan' : GroupPlan} (he : e ∈ rs) (he' : e' ∈ rs) (h : e ≠ e')
    (hp : e.2.plan? = some plan) (hp' : e'.2.plan? = some plan') : plan.Apart plan' := by
  obtain ⟨hparam, hfields⟩ := hs.fields_of_plan he hp
  obtain ⟨hparam', hfields'⟩ := hs.fields_of_plan he' hp'
  refine ⟨?_, ?_, ?_, ?_⟩
  · rw [hparam, hparam']
    exact fun c => h (hs.eq_of_name_eq he he' c)
  · rw [hparam, hfields']
    exact hs.parameter_notMem he he' h hp
  · rw [hparam', hfields]
    exact hs.parameter_notMem he' he h.symm hp'
  · rw [hfields, hfields']
    exact fun n hn => hs.args_disjoint he he' h hn

theorem pairwise_apart : (Compiled.ofRoles rs).plans.Pairwise GroupPlan.Apart := by
  rw [Compiled.plans_ofRoles, List.pairwise_filterMap]
  refine (List.pairwise_map.1 hs.names).imp_of_mem ?_
  intro e e' he he' hne plan hplan plan' hplan'
  exact hs.apart_of_ne he he' (fun c => hne (congrArg (·.1.name) c)) hplan hplan'

theorem mem_parameters {n : String} :
    n ∈ (Compiled.ofRoles rs).plans.map (·.parameter) ↔ ∃ e ∈ rs, e.1.name = n ∧ e.2.plan?.isSome := by
  simp only [List.mem_map, mem_plans]
  constructor
  · rintro ⟨plan, ⟨e, he, hp⟩, rfl⟩
    exact ⟨e, he, (hs.fields_of_plan he hp).1.symm, by rw [hp]; rfl⟩
  · rintro ⟨e, he, rfl, hsome⟩
    obtain ⟨plan, hp⟩ := Option.isSome_iff_exists.1 hsome
    exact ⟨plan, ⟨e, he, hp⟩, (hs.fields_of_plan he hp).1⟩

theorem mem_fields {n : String} :
    (∃ plan ∈ (Compiled.ofRoles rs).plans, n ∈ plan.fields) ↔
      ∃ e ∈ rs, e.2.plan?.isSome ∧ n ∈ (e.2.args e.1.name).keys := by
  simp only [mem_plans]
  constructor
  · rintro ⟨plan, ⟨e, he, hp⟩, hn⟩
    exact ⟨e, he, by rw [hp]; rfl, (hs.fields_of_plan he hp).2 ▸ hn⟩
  · rintro ⟨e, he, hsome, hn⟩
    obtain ⟨plan, hp⟩ := Option.isSome_iff_exists.1 hsome
    exact ⟨plan, ⟨e, he, hp⟩, (hs.fields_of_plan he hp).2 ▸ hn⟩

theorem plain_of_notMem_fields {n : String} (hn : n ∈ (Compiled.ofRoles rs).args.keys)
    (hf : ¬ ∃ plan ∈ (Compiled.ofRoles rs).plans, n ∈ plan.fields) : ∃ e ∈ rs, e.1.name = n ∧ e.2.isPlain := by
  obtain ⟨e, he, hne⟩ := mem_flat.1 hn
  cases hr : e.2 with
  | plain arg =>
    rw [hr] at hne
    exact ⟨e, he, (List.mem_singleton.1 hne).symm, by rw [hr]; rfl⟩
  | grouped plan new => exact absurd (hs.mem_fields.2 ⟨e, he, by rw [hr]; rfl, hne⟩) hf
  | _ => rw [hr] at hne; cases hne

omit hs in
theorem keys_containersOf {vs : List Value} (hvs : vs.length = (Compiled.ofRoles rs).plans.length) :
    (rs.containersOf vs).keys = (Compiled.ofRoles rs).plans.map (·.parameter) :=
  List.map_fst_zip (Nat.le_of_eq (by rw [List.length_map, hvs]))

theorem passedTo_name {e : Param × Role} (he : e ∈ rs) (args : Assoc Value) (info : Value) (vs : List Value) :
    rs.passedTo args info vs e.1.name = passed args info (rs.containersOf vs) e := by
  have hfind : rs.find? (·.1.name = e.1.name) = some e := by
    cases h : rs.find? (·.1.name = e.1.name) with
    | none => simpa using List.find?_eq_none.1 h e he
    | some e' =>
      have hname : e'.1.name = e.1.name := by simpa using List.find?_some h
      rw [hs.eq_of_name_eq (List.mem_of_find?_eq_some h) he hname]
  rw [passedTo, hfind, Option.bind_some]

variable {args : Assoc Value} {vs : List Value} (hargs : args.keys ⊆ (Compiled.ofRoles rs).args.keys)
  (hvs : vs.length = (Compiled.ofRoles rs).plans.length)

include hvs in
theorem containersOf_isSome_iff {n : String} :
    ((rs.containersOf vs).get? n).isSome ↔ ∃ e ∈ rs, e.1.name = n ∧ e.2.plan?.isSome := by
  have hcontains := Assoc.contains_iff (rs.containersOf vs) n
  rw [keys_containersOf hvs, hs.mem_parameters] at hcontains
  exact hcontains

include hargs in
theorem rest_eq_none {n : String} (h : ¬ ∃ e ∈ rs, e.1.name = n ∧ e.2.isPlain) :
    (if ∃ plan ∈ (Compiled.ofRoles rs).plans, n ∈ plan.fields then none else args.get? n) = none := by
  split
  · rfl
  · next hf => exact (Assoc.get?_eq_none_iff _ _).2 fun c => h (hs.plain_of_notMem_fields (hargs c) hf)

include hargs hvs

theorem get?_filled_of_none (info : Value) {n : String} (h : ∀ e ∈ rs, e.1.name ≠ n) :
    (Handler.filled (Compiled.ofRoles rs).plans (Compiled.ofRoles rs).infoParams args info vs).get? n = none := by
  have hinfo : n ∉ (Compiled.ofRoles rs).infoParams := by
    rw [mem_infoParams]
    rintro ⟨e, he, -, hn⟩
    exact h e he hn
  have hcont : (rs.containersOf vs).get? n = none := by
    rw [← Option.not_isSome_iff_eq_none, hs.containersOf_isSome_iff hvs]
    rintro ⟨e, he, hn, -⟩
    exact h e he hn
  rw [containersOf] at hcont
  rw [Handler.get?_filled hs.pairwise_apart _ _ _ hvs, if_neg hinfo, hcont, Option.none_or, hs.rest_eq_none hargs]
  rintro ⟨e, he, hn, -⟩
  exact h e he hn

/-- A parameter has in the end what it is to be passed. -/
theorem get?_filled_of_mem (info : Value) {e : Param × Role} (he : e ∈ rs) :
    (Handler.filled (Compiled.ofRoles rs).plans (Compiled.ofRoles rs).infoParams args info vs).get? e.1.name =
      passed args info (rs.containersOf vs) e := by
  have huniq {e'} (he' : e' ∈ rs) (hn : e'.1.name = e.1.name) : e' = e := hs.eq_of_name_eq he' he hn
  have hinfo : e.1.name ∈ (Compiled.ofRoles rs).infoParams ↔ e.2 = .info := by
    rw [mem_infoParams]
    exact ⟨fun ⟨e', he', hi, hn⟩ => huniq he' hn ▸ hi, fun hi => ⟨e, he, hi, rfl⟩⟩
  have hcont : ((rs.containersOf vs).get? e.1.name).isSome ↔ e.2.plan?.isSome := by
    rw [hs.containersOf_isSome_iff hvs]
    exact ⟨fun ⟨e', he', hn, hp⟩ => huniq he' hn ▸ hp, fun hp => ⟨e, he, rfl, hp⟩⟩
  have hplain : (∃ e' ∈ rs, e'.1.name = e.1.name ∧ e'.2.isPlain) ↔ e.2.isPlain :=
    ⟨fun ⟨e', he', hn, hp⟩ => huniq he' hn ▸ hp, fun hp => ⟨e, he, rfl, hp⟩⟩
  have hrest (h : e.2.isPlain = false) :
      (if ∃ plan ∈ (Compiled.ofRoles rs).plans, e.1.name ∈ plan.fields then none else args.get? e.1.name) = none := by
    apply hs.rest_eq_none hargs
    rw [hplain, h]
    exact Bool.false_ne_true
  have hget := Handler.get?_filled hs.pairwise_apart (Compiled.ofRoles rs).infoParams args info hvs e.1.name
  rw [← containersOf] at hget
  rw [hget, passed]
  cases hr : e.2 with
  | info => rw [if_pos (hinfo.2 hr)]
  | collecting =>
    have hnone : (rs.containersOf vs).get? e.1.name = none := by
      rw [← Option.not_isSome_iff_eq_none, hcont, hr]
      exact Bool.false_ne_true
    rw [if_neg (fun c => by rw [hinfo, hr] at c; cases c), hnone, hrest (by rw [hr]; rfl)]
    rfl
  | grouped plan new =>
    obtain ⟨v, hv⟩ := Option.isSome_iff_exists.1 (hcont.2 (by rw [hr]; rfl))
    rw [if_neg (fun c => by rw [hinfo, hr] at c; cases c), hv]
    rfl
  | plain arg =>
    have hown : e.1.name ∈ (e.2.args e.1.name).keys := by
      rw [hr]
      exact List.mem_singleton_self _
    have hnot : ¬ ∃ plan ∈ (Compiled.ofRoles rs).plans, e.1.name ∈ plan.fields := by
      rw [hs.mem_fields]
      rintro ⟨e', he', hp, hn⟩
      refine hs.args_disjoint he he' ?_ hown hn
      rintro rfl
      simp [hr, Role.plan?] at hp
    have hnone : (rs.containersOf vs).get? e.1.name = none := by
      rw [← Option.not_isSome_iff_eq_none, hcont, hr]
      exact Bool.false_ne_true
    rw [if_neg (fun c => by rw [hinfo, hr] at c; cases c), hnone, if_neg hnot]
    rfl

/-- The value at a name after every container and the resolve information took their places is the one that the
parameter of that name is to be passed. -/
theorem get?_filled (info : Value) (n : String) :
    (Handler.filled (Compiled.ofRoles rs).plans (Compiled.ofRoles rs).infoParams args info vs).get? n =
      rs.passedTo args info vs n := by
  by_cases h : ∃ e ∈ rs, e.1.name = n
  · obtain ⟨e, he, rfl⟩ := h
    rw [hs.get?_filled_of_mem hargs hvs info he, hs.passedTo_name he]
  · have hno : ∀ e ∈ rs, e.1.name ≠ n := fun e he hn => h ⟨e, he, hn⟩
    rw [hs.get?_filled_of_none hargs hvs info hno, passedTo, List.find?_eq_none.2 (by simpa using hno)]
    rfl

end Sound

end Roles

namespace Handler

def invoke (h : Handler) (c : Call) : Action Value := do
  conduct.start h.function h.method h.binding (← h.receive c)

theorem call_eq (h : Handler) (args : Assoc Value) (info : Value) :
    h.call args info = h.distribute args info >>= h.invoke :=
  rfl

theorem distribute_eq {h : Handler} (hp : h.plans.Pairwise GroupPlan.Apart) (args : Assoc Value) (info : Value) :
    h.distribute args info = do
      let vs ← containers h.plans args
      return takePositional h.positionalOnly (filled h.plans h.infoParams args info vs) := by
  unfold distribute
  rw [foldlM_addContainer hp, bind_assoc]
  simp only [pure_bind]
  rfl

/-- A call that passes every parameter what it is to be passed, once, and nothing else. -/
structure Routed (h : Handler) (rs : Roles) (args : Assoc Value) (info : Value) (vs : List Value) (c : Call) :
    Prop where
  leading : c.positional.length ≤ h.positionalOnly.length
  once : (assigned h.positionalOnly c).keys.Nodup
  values : ∀ n, (assigned h.positionalOnly c).get? n = rs.passedTo args info vs n

/-- The call that is made once the containers are there: it takes the leading names out of a map that has for every
parameter what it is to be passed. -/
theorem distribute_routed {h : Handler} {rs : Roles} (hs : rs.Sound) (hplans : h.plans = (Compiled.ofRoles rs).plans)
    (hinfos : h.infoParams = (Compiled.ofRoles rs).infoParams) {args : Assoc Value} {vs : List Value} {u u' : Universe}
    (hnd : args.keys.Nodup) (hargs : args.keys ⊆ (Compiled.ofRoles rs).args.keys)
    (hb : (containers h.plans args).apply u = (.ok vs, u')) (info : Value) :
    ∃ routed, (h.distribute args info).apply u = (.ok (takePositional h.positionalOnly routed), u') ∧
      routed.keys.Nodup ∧ ∀ n, routed.get? n = rs.passedTo args info vs n := by
  have hlen : vs.length = (Compiled.ofRoles rs).plans.length := hplans ▸ length_of_containers hb
  rw [distribute_eq (hplans ▸ hs.pairwise_apart), Action.apply_bind_ok hb, Action.apply_pure]
  refine ⟨_, rfl, nodup_keys_filled _ _ _ _ hnd, fun n => ?_⟩
  rw [hinfos, hplans, hs.get?_filled hargs hlen]

theorem routed_takePositional {h : Handler} {rs : Roles} {args routed : Assoc Value} {info : Value} {vs : List Value}
    (hnd : routed.keys.Nodup) (hget : ∀ n, routed.get? n = rs.passedTo args info vs n) :
    h.Routed rs args info vs (takePositional h.positionalOnly routed) where
  leading := length_takePositional _ _
  once := nodup_keys_assigned_takePositional _ hnd
  values := fun n => by rw [get?_assigned_takePositional, hget]

end Handler

end SchemaAssembly
