import SchemaAssembly.Proofs.Compilation

/-! The containers of a call. The plans of an operation run one after the other on one map, but plans that have no name
in common find their own arguments untouched, so that every container is built from the arguments as they were
given. -/

namespace SchemaAssembly

namespace GroupPlan

def own (plan : GroupPlan) (args : Assoc Value) : Assoc Value :=
  args.filter fun e => plan.fields.contains e.1

theorem get?_own (plan : GroupPlan) (args : Assoc Value) (n : String) :
    (plan.own args).get? n = if n ∈ plan.fields then args.get? n else none := by
  rw [own, Assoc.get?_filter]
  simp

theorem supplied_congr {plan : GroupPlan} {args args' : Assoc Value}
    (h : ∀ n ∈ plan.fields, args.get? n = args'.get? n) : plan.supplied args = plan.supplied args' := by
  unfold supplied
  generalize ([] : Assoc Value) = acc
  generalize plan.fields = ns at h
  induction ns generalizing acc with
  | nil => rfl
  | cons n ns ih =>
    obtain ⟨hn, hns⟩ := List.forall_mem_cons.1 h
    rw [List.foldl_cons, List.foldl_cons, hn]
    exact ih _ hns

/-- A container depends on the arguments of its group only. -/
theorem instance_congr {plan : GroupPlan} {args args' : Assoc Value}
    (h : ∀ n ∈ plan.fields, args.get? n = args'.get? n) : plan.instance_ args = plan.instance_ args' := by
  unfold instance_
  rw [supplied_congr h]

theorem instance_own (plan : GroupPlan) (args : Assoc Value) : plan.instance_ (plan.own args) = plan.instance_ args :=
  instance_congr fun n hn => by rw [get?_own, if_pos hn]

theorem get?_remaining (plan : GroupPlan) (args : Assoc Value) (n : String) :
    (plan.remaining args).get? n = if n ∈ plan.fields then none else args.get? n := by
  unfold remaining
  induction plan.fields generalizing args with
  | nil => simp
  | cons m ms ih =>
    rw [List.foldl_cons, ih, Assoc.get?_erase]
    by_cases hm : m = n
    · simp [hm]
    · simp [hm, Ne.symm hm]

theorem nodup_keys_remaining (plan : GroupPlan) {args : Assoc Value} (h : args.keys.Nodup) :
    (plan.remaining args).keys.Nodup := by
  unfold remaining
  induction plan.fields generalizing args with
  | nil => exact h
  | cons m ms ih => exact ih (Assoc.nodup_keys_erase _ _ h)

/-- The arguments with a container in the place of its fields. -/
def place (args : Assoc Value) (e : GroupPlan × Value) : Assoc Value :=
  (e.1.remaining args).insert e.1.parameter e.2

theorem get?_place (args : Assoc Value) (e : GroupPlan × Value) (n : String) :
    (place args e).get? n =
      if e.1.parameter = n then some e.2 else if n ∈ e.1.fields then none else args.get? n := by
  rw [place, Assoc.get?_insert, get?_remaining]

/-- Two plans have no name in common. -/
structure Apart (p q : GroupPlan) : Prop where
  parameters : p.parameter ≠ q.parameter
  left : p.parameter ∉ q.fields
  right : q.parameter ∉ p.fields
  fields : ∀ n ∈ p.fields, n ∉ q.fields

theorem own_place {p q : GroupPlan} (h : p.Apart q) (args : Assoc Value) (v : Value) :
    ∀ n ∈ q.fields, (place args (p, v)).get? n = args.get? n := by
  intro n hn
  have hp : p.parameter ≠ n := fun c => h.left (c ▸ hn)
  rw [get?_place, if_neg hp, if_neg (fun c => h.fields n c hn)]

end GroupPlan

namespace Handler

/-- The containers of a call in order, each built from nothing but the arguments of its own group. -/
def containers (plans : List GroupPlan) (args : Assoc Value) : Action (List Value) :=
  plans.mapM fun plan => plan.instance_ (plan.own args)

theorem containers_nil (args : Assoc Value) : containers [] args = pure [] :=
  List.mapM_nil

theorem containers_cons (plan : GroupPlan) (plans : List GroupPlan) (args : Assoc Value) :
    containers (plan :: plans) args = do
      let v ← plan.instance_ (plan.own args)
      let vs ← containers plans args
      return v :: vs := by
  rw [containers, List.mapM_cons]
  rfl

theorem containers_congr {plans : List GroupPlan} {args args' : Assoc Value}
    (h : ∀ plan ∈ plans, ∀ n ∈ plan.fields, args.get? n = args'.get? n) :
    containers plans args = containers plans args' := by
  induction plans with
  | nil => rw [containers_nil, containers_nil]
  | cons plan plans ih =>
    obtain ⟨hp, hps⟩ := List.forall_mem_cons.1 h
    have hi : plan.instance_ (plan.own args) = plan.instance_ (plan.own args') := by
      rw [GroupPlan.instance_own, GroupPlan.instance_own, GroupPlan.instance_congr hp]
    rw [containers_cons, containers_cons, ih hps, hi]

theorem addContainer_eq (args : Assoc Value) (plan : GroupPlan) :
    addContainer args plan = do
      let v ← plan.instance_ (plan.own args)
      return GroupPlan.place args (plan, v) := by
  rw [GroupPlan.instance_own]
  unfold addContainer GroupPlan.build
  rw [bind_assoc]
  rfl

/-- Running the plans one after the other comes to building all containers from the arguments as they were given,
and then putting them in their places. -/
theorem foldlM_addContainer {plans : List GroupPlan} (h : plans.Pairwise GroupPlan.Apart) (args : Assoc Value) :
    plans.foldlM addContainer args = do
      let vs ← containers plans args
      return (plans.zip vs).foldl GroupPlan.place args := by
  induction plans generalizing args with
  | nil => rw [containers_nil, pure_bind]; rfl
  | cons plan plans ih =>
    obtain ⟨hp, hps⟩ := List.pairwise_cons.1 h
    -- the plans that follow find their own arguments as they were
    have hframe (v : Value) : containers plans (GroupPlan.place args (plan, v)) = containers plans args :=
      containers_congr fun q hq => GroupPlan.own_place (hp q hq) args v
    rw [List.foldlM_cons, addContainer_eq, containers_cons]
    simp only [bind_assoc, pure_bind, ih hps, hframe, List.zip_cons_cons, List.foldl_cons]

theorem containers_cons_eq_ok {plan : GroupPlan} {plans : List GroupPlan} {args : Assoc Value} {u u' : Universe}
    {vs : List Value} (h : (containers (plan :: plans) args).apply u = (.ok vs, u')) :
    ∃ v ws u₁, (plan.instance_ args).apply u = (.ok v, u₁) ∧ (containers plans args).apply u₁ = (.ok ws, u') ∧
      vs = v :: ws := by
  rw [containers_cons, GroupPlan.instance_own] at h
  obtain ⟨v, u₁, hv, h⟩ := Action.apply_bind_eq_ok.1 h
  obtain ⟨ws, u₂, hws, h⟩ := Action.apply_bind_eq_ok.1 h
  cases h
  exact ⟨v, ws, u₁, hv, hws, rfl⟩

theorem length_of_containers {plans : List GroupPlan} {args : Assoc Value} {u u' : Universe} {vs : List Value}
    (h : (containers plans args).apply u = (.ok vs, u')) : vs.length = plans.length := by
  induction plans generalizing u vs with
  | nil =>
    rw [containers_nil] at h
    cases h
    rfl
  | cons plan plans ih =>
    obtain ⟨v, ws, u₁, -, hws, rfl⟩ := containers_cons_eq_ok h
    rw [List.length_cons, List.length_cons, ih hws]

/-- What is at a name after containers took their places: the container of that name, or else what was there,
unless it went into a container. -/
theorem get?_foldl_place {es : List (GroupPlan × Value)} (h : (es.map (·.1)).Pairwise GroupPlan.Apart)
    (args : Assoc Value) (n : String) :
    (es.foldl GroupPlan.place args).get? n =
      (Assoc.get? (es.map fun e => (e.1.parameter, e.2)) n).or
        (if ∃ e ∈ es, n ∈ e.1.fields then none else args.get? n) := by
  induction es generalizing args with
  | nil => simp
  | cons e es ih =>
    obtain ⟨he, hes⟩ := List.pairwise_cons.1 h
    rw [List.foldl_cons, ih hes, GroupPlan.get?_place, List.map_cons, Assoc.get?_cons]
    by_cases hn : e.1.parameter = n
    -- no later container takes the place of this one, and none takes it for a field
    · have hkey : n ∉ Assoc.keys (es.map fun e => (e.1.parameter, e.2)) := by
        simp only [Assoc.keys, List.map_map, List.mem_map, not_exists, not_and]
        exact fun e' he' c => (he e'.1 (List.mem_map_of_mem he')).parameters (hn.trans c.symm)
      have hfield : ¬ ∃ e' ∈ es, n ∈ e'.1.fields := by
        rintro ⟨e', he', c⟩
        exact (he e'.1 (List.mem_map_of_mem he')).left (hn ▸ c)
      rw [(Assoc.get?_eq_none_iff _ _).2 hkey, if_neg hfield, if_pos hn, if_pos hn]
      rfl
    · rw [if_neg hn, if_neg hn]
      by_cases hes' : ∃ e' ∈ es, n ∈ e'.1.fields <;> by_cases hf : n ∈ e.1.fields <;> simp [hes', hf]

theorem nodup_keys_foldl_place {es : List (GroupPlan × Value)} {args : Assoc Value} (h : args.keys.Nodup) :
    (es.foldl GroupPlan.place args).keys.Nodup := by
  induction es generalizing args with
  | nil => exact h
  | cons e es ih => exact ih (Assoc.nodup_keys_insert _ _ _ (e.1.nodup_keys_remaining h))

theorem get?_foldl_insert (names : List String) (v : Value) (m : Assoc Value) (n : String) :
    (names.foldl (fun acc k => Assoc.insert acc k v) m).get? n = if n ∈ names then some v else m.get? n := by
  induction names generalizing m with
  | nil => simp
  | cons k ks ih =>
    rw [List.foldl_cons, ih, Assoc.get?_insert]
    by_cases hk : k = n
    · simp [hk]
    · simp [hk, Ne.symm hk]

theorem nodup_keys_foldl_insert (names : List String) (v : Value) {m : Assoc Value} (h : m.keys.Nodup) :
    (names.foldl (fun acc k => Assoc.insert acc k v) m).keys.Nodup := by
  induction names generalizing m with
  | nil => exact h
  | cons k ks ih => exact ih (Assoc.nodup_keys_insert _ _ _ h)

/-- The arguments with the containers and the resolve information in their places. -/
def filled (plans : List GroupPlan) (infoParams : List String) (args : Assoc Value) (info : Value) (vs : List Value) :
    Assoc Value :=
  infoParams.foldl (fun acc n => Assoc.insert acc n info) ((plans.zip vs).foldl GroupPlan.place args)

theorem nodup_keys_filled (plans : List GroupPlan) (infoParams : List String) {args : Assoc Value} (info : Value)
    (vs : List Value) (h : args.keys.Nodup) : (filled plans infoParams args info vs).keys.Nodup :=
  nodup_keys_foldl_insert _ _ (nodup_keys_foldl_place h)

/-- What is at a name in the end: the resolve information or a container, or else the argument, unless it went into a
container. -/
theorem get?_filled {plans : List GroupPlan} (h : plans.Pairwise GroupPlan.Apart) (infoParams : List String)
    (args : Assoc Value) (info : Value) {vs : List Value} (hvs : vs.length = plans.length) (n : String) :
    (filled plans infoParams args info vs).get? n =
      if n ∈ infoParams then some info
      else (Assoc.get? ((plans.map (·.parameter)).zip vs) n).or
        (if ∃ plan ∈ plans, n ∈ plan.fields then none else args.get? n) := by
  have hzip : (plans.zip vs).map (·.1) = plans := List.map_fst_zip (Nat.le_of_eq hvs.symm)
  have hcont : ((plans.zip vs).map fun e => (e.1.parameter, e.2)) = (plans.map (·.parameter)).zip vs := by
    rw [List.zip_map_left]
    rfl
  have hfields : (∃ e ∈ plans.zip vs, n ∈ e.1.fields) ↔ ∃ plan ∈ plans, n ∈ plan.fields := by
    conv_rhs => rw [← hzip]
    simp only [List.mem_map, exists_exists_and_eq_and]
  rw [filled, get?_foldl_insert, get?_foldl_place (hzip.symm ▸ h), hcont]
  simp only [hfields]

end Handler

end SchemaAssembly
