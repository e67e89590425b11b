import SchemaAssembly.Proofs.ArgumentRouting
import SchemaAssembly.Proofs.CallBinding

/-! What a method receives when an operation is called with some of its arguments. It is what a call by name passes,
with defaults in the place of what is omitted, as long as no parameter that is filled by position is omitted before
another one that is given. -/

namespace SchemaAssembly

namespace Param

/-- What a parameter receives from a call by name; nothing is left over from such a call. -/
def receivedByName (value? : String → Option Value) (p : Param) : Value :=
  match p.kind with
  | .rest => .tuple []
  | .keywords => .dict []
  | _ => ((value? p.name).or p.default).getD .null

def receivedSelf (self : Value) (p : Param) : Value :=
  if p.kind = .rest then .tuple [self] else self

end Param

namespace Signature

def receivedByName (s : Signature) (self? : Option Value) (value? : String → Option Value) : Assoc Value :=
  match self?, s with
  | some self, p :: ps => (p.name, p.receivedSelf self) :: ps.map fun p => (p.name, p.receivedByName value?)
  | _, s => s.map fun p => (p.name, p.receivedByName value?)

theorem received_eq {assigned : Assoc Value} {left : List Value} {value? : String → Option Value} {p : Param}
    (hget : assigned.get? p.name = value? p.name) (hleft : p.kind = .rest → left = []) :
    received assigned left [] p = p.receivedByName value? := by
  unfold received Param.receivedByName
  rw [hget]
  cases hk : p.kind with
  | rest => rw [hleft hk]
  | keywords => rfl
  | _ => cases value? p.name <;> rfl

theorem WellFormed.tail {p : Param} {ps : Signature} (hw : WellFormed (p :: ps)) : WellFormed ps :=
  ⟨(List.nodup_cons.1 hw.names).2, (List.pairwise_cons.1 hw.kinds).2⟩

/-- How the receiver goes before a call of the other parameters: `entry` is what it is assigned to, unless it is left
over for the parameter that takes all leftovers. -/
structure Front (s bs : Signature) (self? : Option Value) (c : Call) (value? : String → Option Value)
    (entry : Assoc Value) (left : List Value) : Prop where
  taken : s.positionalNames.zip (c.withFirst self?).positional = entry ++ bs.positionalOnlyNames.zip c.positional
  drop : (c.withFirst self?).positional.drop s.positionalNames.length = left
  rest : left = [] ∨ s.HasKind .rest
  fresh : ∀ n ∈ entry.keys, value? n = none
  nodup : entry.keys.Nodup
  covers : ∀ p ∈ s, p ∈ bs ∨ p.name ∈ entry.keys
  received : ∀ assigned : Assoc Value, (∀ n, assigned.get? n = (entry.get? n).or (value? n)) →
    s.receivedByName self? value? = s.map fun p => (p.name, received assigned left [] p)

variable {s bs ps : Signature} {p : Param} {c : Call} {value? : String → Option Value} {self : Value}

theorem front_static (hw : s.WellFormed) (hlead : c.positional.length ≤ s.positionalOnlyNames.length) :
    Front s s none c value? [] [] where
  taken := zip_of_prefix hw.prefix_positionalNames hlead
  drop := List.drop_eq_nil_of_le (Nat.le_trans hlead hw.prefix_positionalNames.length_le)
  rest := .inl rfl
  fresh := by simp [Assoc.keys]
  nodup := List.nodup_nil
  covers := fun _ hp => .inl hp
  received := by
    intro assigned hget
    have hmap : s.receivedByName none value? = s.map fun p => (p.name, p.receivedByName value?) := by
      cases s <;> rfl
    rw [hmap]
    exact List.map_congr_left fun p _ => by rw [received_eq (hget p.name) fun _ => rfl]

theorem front_first (hw : WellFormed (p :: ps)) (hp : p.isPositional)
    (hlead : c.positional.length ≤ ps.positionalOnlyNames.length)
    (hdom : ∀ n, (value? n).isSome → ∃ q ∈ ps, ¬ q.isCollecting ∧ q.name = n) :
    Front (p :: ps) ps (some self) c value? [(p.name, self)] [] := by
  have hnames : positionalNames (p :: ps) = p.name :: ps.positionalNames := by
    rw [positionalNames, List.filter_cons_of_pos hp]
    rfl
  have hfresh : ∀ q ∈ ps, q.name ≠ p.name := fun q hq c =>
    (List.nodup_cons.1 hw.names).1 (List.mem_map.2 ⟨q, hq, c⟩)
  have hpre := hw.tail.prefix_positionalNames
  refine ⟨?_, ?_, .inl rfl, ?_, List.nodup_singleton _, ?_, ?_⟩
  · rw [hnames, Call.withFirst, List.zip_cons_cons, zip_of_prefix hpre hlead]
    rfl
  · rw [hnames, Call.withFirst, List.length_cons, List.drop_succ_cons]
    exact List.drop_eq_nil_of_le (Nat.le_trans hlead hpre.length_le)
  · intro n hn
    rw [List.mem_singleton.1 hn]
    refine Option.not_isSome_iff_eq_none.1 fun hsome => ?_
    obtain ⟨q, hq, -, hname⟩ := hdom _ hsome
    exact hfresh q hq hname
  · intro q hq
    rcases List.mem_cons.1 hq with rfl | hq
    · exact .inr (List.mem_singleton_self _)
    · exact .inl hq
  · intro assigned hget
    have hfirst : received assigned [] [] p = p.receivedSelf self := by
      unfold received Param.receivedSelf
      rw [hget, Assoc.get?_cons, if_pos rfl]
      rcases Param.isPositional_iff.1 hp with hk | hk <;> rw [hk] <;> rfl
    rw [List.map_cons, hfirst, receivedByName]
    refine congrArg _ (List.map_congr_left fun q hq => ?_)
    rw [received_eq ?_ fun _ => rfl]
    rw [hget, Assoc.get?_cons, if_neg (Ne.symm (hfresh q hq))]
    rfl

theorem front_rest (hw : WellFormed (p :: ps)) (hp : p.kind = .rest)
    (hlead : c.positional.length ≤ (positionalOnlyNames (p :: ps)).length) :
    Front (p :: ps) (p :: ps) (some self) c value? [] [self] := by
  have hnames := hw.positionalNames_of_rest hp
  have hnone : positionalOnlyNames (p :: ps) = [] := List.prefix_nil.1 (hnames ▸ hw.prefix_positionalNames)
  have hpos : c.positional = [] := by
    rw [hnone] at hlead
    exact List.length_eq_zero_iff.1 (Nat.le_zero.1 hlead)
  refine ⟨?_, ?_, .inr ⟨p, List.mem_cons_self, hp⟩, by simp [Assoc.keys], List.nodup_nil, fun _ hq => .inl hq, ?_⟩
  · rw [hnames, hnone]
    rfl
  · rw [hnames, Call.withFirst, hpos]
    rfl
  · intro assigned hget
    have hfirst : received assigned [self] [] p = p.receivedSelf self := by
      unfold received Param.receivedSelf
      rw [hp, if_pos rfl]
    rw [List.map_cons, hfirst, receivedByName]
    refine congrArg _ (List.map_congr_left fun q hq => ?_)
    rw [received_eq (hget q.name) fun c => absurd c (hw.kind_ne_rest hp hq)]

/-- Whether and how a function is bound, its receiver goes before the other arguments in one of three ways. -/
theorem exists_front {binding : Binding} (hw : s.WellFormed) (hb : s.boundAs binding = some bs)
    (hlead : c.positional.length ≤ bs.positionalOnlyNames.length)
    (hdom : ∀ n, (value? n).isSome → ∃ q ∈ bs, ¬ q.isCollecting ∧ q.name = n) (v : Value) :
    ∃ entry left, Front s bs (Method.receiver? v binding) c value? entry left := by
  have hbound (self : Value) (h : s.bound? = some bs) : ∃ entry left, Front s bs (some self) c value? entry left := by
    cases s with
    | nil => cases h
    | cons p ps =>
      unfold bound? at h
      have hpos : p.isPositional ∧ bs = ps ∨ p.kind = .rest ∧ bs = p :: ps := by
        rw [Param.isPositional_iff]
        cases hk : p.kind <;> simp [hk] at h <;> simp [h]
      rcases hpos with ⟨hp, rfl⟩ | ⟨hp, rfl⟩
      · exact ⟨_, _, front_first hw hp hlead hdom⟩
      · exact ⟨_, _, front_rest hw hp hlead⟩
  unfold boundAs at hb
  cases binding with
  | static =>
    cases hb
    exact ⟨_, _, front_static hw hlead⟩
  | instance_ => exact hbound _ hb
  | class_ => exact hbound _ hb

/-- What a call with a receiver assigns: the receiver, and what the call without it assigns. -/
theorem Front.zip_append {self? : Option Value} {entry : Assoc Value} {left : List Value}
    (hf : Front s bs self? c value? entry left) :
    s.positionalNames.zip (c.withFirst self?).positional ++ c.named =
      entry ++ Handler.assigned bs.positionalOnlyNames c := by
  rw [hf.taken, List.append_assoc]
  rfl

theorem mem_assigned_iff (hval : ∀ n, (Handler.assigned bs.positionalOnlyNames c).get? n = value? n) (n : String) :
    n ∈ (Handler.assigned bs.positionalOnlyNames c).keys ↔ (value? n).isSome := by
  rw [← Assoc.contains_iff, Assoc.contains, hval]

theorem Front.nodup_assigned {self? : Option Value} {entry : Assoc Value} {left : List Value}
    (hf : Front s bs self? c value? entry left) (honce : (Handler.assigned bs.positionalOnlyNames c).keys.Nodup)
    (hval : ∀ n, (Handler.assigned bs.positionalOnlyNames c).get? n = value? n) :
    (Assoc.keys (entry ++ Handler.assigned bs.positionalOnlyNames c)).Nodup := by
  rw [Assoc.keys_append]
  refine List.nodup_append.2 ⟨hf.nodup, honce, ?_⟩
  rintro n hn _ hn' rfl
  rw [mem_assigned_iff hval, hf.fresh n hn] at hn'
  cases hn'

/-- The keywords of a call by name have parameters of their own, unless one of them is filled by position only. -/
theorem hasNamed_of_noGap (hsub : bs ⊆ s)
    (hval : ∀ n, (Handler.assigned bs.positionalOnlyNames c).get? n = value? n)
    (hdom : ∀ n, (value? n).isSome → ∃ q ∈ bs, ¬ q.isCollecting ∧ q.name = n)
    (hgap : ∀ n ∈ c.named.keys, n ∉ bs.positionalOnlyNames) : ∀ n ∈ c.named.keys, s.HasNamed n := by
  intro n hn
  have hsome : (value? n).isSome := (mem_assigned_iff hval n).1 (by
    rw [Handler.assigned, Assoc.keys_append]
    exact List.mem_append_right _ hn)
  obtain ⟨q, hq, hcoll, rfl⟩ := hdom n hsome
  refine ⟨q, hsub hq, ?_, rfl⟩
  have hpos : q.kind ≠ .positionalOnly := fun hk =>
    hgap _ hn (List.mem_map_of_mem (List.mem_filter.2 ⟨hq, by simpa using hk⟩))
  rw [Param.isCollecting_iff] at hcoll
  rw [Param.isNamed_iff]
  cases hk : q.kind <;> simp_all

/-- A call that assigns values by name binds to just these values, unless a name that is filled by position only is
among its keywords. -/
theorem bind_byName_iff {binding : Binding} (hw : s.WellFormed) (hb : s.boundAs binding = some bs)
    (hlead : c.positional.length ≤ bs.positionalOnlyNames.length)
    (honce : (Handler.assigned bs.positionalOnlyNames c).keys.Nodup)
    (hval : ∀ n, (Handler.assigned bs.positionalOnlyNames c).get? n = value? n)
    (hdom : ∀ n, (value? n).isSome → ∃ q ∈ bs, ¬ q.isCollecting ∧ q.name = n)
    (hreq : ∀ q ∈ bs, ¬ q.isCollecting → q.default = none → (value? q.name).isSome) (v : Value) :
    s.bind (c.withFirst (Method.receiver? v binding)).positional (c.withFirst (Method.receiver? v binding)).named =
        .ok (s.receivedByName (Method.receiver? v binding) value?) ↔
      ∀ n ∈ c.named.keys, n ∉ bs.positionalOnlyNames := by
  obtain ⟨entry, left, hfront⟩ := exists_front hw hb hlead hdom v
  generalize Method.receiver? v binding = self? at hfront ⊢
  have hsub := (boundAs_suffix hb).subset
  have hkeys : (c.withFirst self?).named = c.named := by cases self? <;> rfl
  have hassigned := hfront.zip_append
  have hout := hfront.received (entry ++ Handler.assigned bs.positionalOnlyNames c) fun n => by
    rw [Assoc.get?_append, hval]
  rw [hkeys]
  constructor
  · intro hok n hn hpos
    -- the keyword has no parameter of its own, so at best it is diverted, and that shows in what is received
    obtain ⟨p, hp, rfl⟩ := List.mem_map.1 hpos
    obtain ⟨hp, hk⟩ := List.mem_filter.1 hp
    have hnot : ¬ s.HasNamed p.name := by
      rintro ⟨q, hq, hnamed, hname⟩
      have hqp : q = p := List.inj_on_of_nodup_map hw.names hq (hsub hp) hname
      rw [hqp, Param.isNamed_iff] at hnamed
      rcases hnamed with h | h <;> simp [h] at hk
    obtain ⟨q, hq, hqk, hne⟩ := bind_diverts hw.names hn hnot hok
    rw [hout, get?_map hw.names _ hq, received, hqk] at hne
    exact hne rfl
  · intro hgap
    rw [hout, ← hassigned, ← hfront.drop]
    apply bind_of_named
    · exact hasNamed_of_noGap hsub hval hdom hgap
    · rw [hassigned]
      exact hfront.nodup_assigned honce hval
    · rw [hfront.drop]
      exact hfront.rest
    · intro q hq hcoll hd
      rw [hassigned, Assoc.keys_append, List.mem_append, mem_assigned_iff hval]
      rcases hfront.covers q hq with hq | hq
      · exact .inr (hreq q hq hcoll hd)
      · exact .inl hq

end Signature

namespace Handler

/-- No name that could be taken stays behind exactly if none is there without all those before it. -/
theorem takePositional_named_iff {names : List String} (hn : names.Nodup) (args : Assoc Value) :
    (∀ n ∈ (takePositional names args).named.keys, n ∉ names) ↔
      names.Pairwise fun m n => n ∈ args.keys → m ∈ args.keys := by
  induction names generalizing args with
  | nil => simp
  | cons k ks ih =>
    obtain ⟨hk, hks⟩ := List.nodup_cons.1 hn
    rw [List.pairwise_cons]
    unfold takePositional
    split
    · next hnone =>
      have hkargs : k ∉ args.keys := (Assoc.get?_eq_none_iff _ _).1 hnone
      constructor
      · intro h
        have hno : ∀ n ∈ ks, n ∉ args.keys := fun n hn c => h n c (List.mem_cons_of_mem _ hn)
        refine ⟨fun n hn c => absurd c (hno n hn), ?_⟩
        exact List.pairwise_of_forall_mem_list fun _ _ n hn c => absurd c (hno n hn)
      · rintro ⟨hhead, -⟩ n hn' c
        rcases List.mem_cons.1 c with rfl | c
        · exact hkargs hn'
        · exact hkargs (hhead n c hn')
    · next v hv =>
      have hkargs : k ∈ args.keys := by
        rw [← Assoc.contains_iff, Assoc.contains, hv]
        rfl
      have hgone : k ∉ (takePositional ks (args.erase k)).named.keys := by
        have hnone := notMem_keys_assigned_takePositional ks args k
        rw [assigned, Assoc.keys_append] at hnone
        exact fun c => hnone (List.mem_append_right _ c)
      have herase (n : String) (h : n ∈ ks) : n ∈ (args.erase k).keys ↔ n ∈ args.keys := by
        rw [← Assoc.contains_iff, ← Assoc.contains_iff, Assoc.contains, Assoc.contains, Assoc.get?_erase,
          if_neg (fun c : k = n => hk (c ▸ h))]
      have hpair : ks.Pairwise (fun m n => n ∈ (args.erase k).keys → m ∈ (args.erase k).keys) ↔
          ks.Pairwise fun m n => n ∈ args.keys → m ∈ args.keys :=
        List.Pairwise.iff_of_mem fun hm hn => by rw [herase _ hm, herase _ hn]
      rw [← hpair, ← ih hks]
      constructor
      · exact fun h => ⟨fun _ _ _ => hkargs, fun n hn' c => h n hn' (List.mem_cons_of_mem _ c)⟩
      · rintro ⟨-, h⟩ n hn' c
        rcases List.mem_cons.1 c with rfl | c
        · exact hgone hn'
        · exact h n hn' c

theorem receive_apply_eq_ok {h : Handler} {c : Call} {u : Universe} {out : Assoc Value} :
    (h.receive c).apply u = (.ok out, u) ↔
      h.method.signature.bind (c.withFirst (Method.receiver? (u.current h.resolver.value) h.binding)).positional
        (c.withFirst (Method.receiver? (u.current h.resolver.value) h.binding)).named = .ok out := by
  have hreceive : (h.receive c).apply u =
      (h.method.receiveAll (c.withFirst (Method.receiver? (u.current h.resolver.value) h.binding)), u) := rfl
  rw [hreceive, Prod.mk.injEq, and_iff_left rfl, Method.receiveAll]
  split
  · next hbind => simp [hbind]
  · next hbind => simp [hbind]

end Handler

namespace Roles

/-- Whether a call with the given flat arguments passes anything to a parameter. Containers and the resolve information
are always there. -/
def Given (args : Assoc Value) (e : Param × Role) : Prop :=
  match e.2 with
  | .collecting => False
  | .plain _ => e.1.name ∈ args.keys
  | _ => True

/-- No positional-only parameter is omitted before one that is given. -/
def NoGap (rs : Roles) (args : Assoc Value) : Prop :=
  (rs.filter (·.1.kind = .positionalOnly)).Pairwise fun e f => Given args f → Given args e

namespace Sound
variable {rs : Roles} (hs : Sound rs) {args : Assoc Value} {info : Value} {vs : List Value}
  (hvs : vs.length = (Compiled.ofRoles rs).plans.length)
include hs hvs

theorem passedTo_isSome_iff {e : Param × Role} (he : e ∈ rs) :
    (rs.passedTo args info vs e.1.name).isSome ↔ Given args e := by
  rw [hs.passedTo_name he, passed, Given]
  cases hr : e.2 with
  | collecting => simp
  | info => simp
  | plain arg => exact Assoc.contains_iff args e.1.name
  | grouped plan new =>
    exact iff_of_true ((hs.containersOf_isSome_iff hvs).2 ⟨e, he, rfl, by rw [hr]; rfl⟩) trivial

theorem exists_of_passedTo {n : String} (h : (rs.passedTo args info vs n).isSome) :
    ∃ e ∈ rs, ¬ e.1.isCollecting ∧ e.1.name = n := by
  cases hfind : rs.find? (·.1.name = n) with
  | none =>
    rw [passedTo, hfind] at h
    cases h
  | some e =>
    have he := List.mem_of_find?_eq_some hfind
    have hname : e.1.name = n := by simpa using List.find?_some hfind
    refine ⟨e, he, fun hc => ?_, hname⟩
    rw [← hname, hs.passedTo_isSome_iff hvs he, Given, (hs.collecting e he).2 hc] at h
    exact h

/-- The names that are filled by position are taken without a gap exactly if the parameters are given without one. -/
theorem noGap_iff {routed : Assoc Value} (hget : ∀ n, routed.get? n = rs.passedTo args info vs n) :
    (Compiled.ofRoles rs).positionalOnly.Pairwise (fun m n => n ∈ routed.keys → m ∈ routed.keys) ↔ rs.NoGap args := by
  have hmem (e) (he : e ∈ rs) : e.1.name ∈ routed.keys ↔ Given args e := by
    rw [← Assoc.contains_iff, Assoc.contains, hget, hs.passedTo_isSome_iff hvs he]
  rw [Compiled.positionalOnly_ofRoles, List.pairwise_map, NoGap]
  refine List.Pairwise.iff_of_mem fun he hf => ?_
  rw [hmem _ (List.mem_filter.1 he).1, hmem _ (List.mem_filter.1 hf).1]

end Sound

theorem positionalOnly_bare {rs : Roles} {bs : Signature} (h : rs.map (·.1.bare) = bs.map Param.bare) :
    (Compiled.ofRoles rs).positionalOnly = bs.positionalOnlyNames := by
  have hrs : (Compiled.ofRoles rs).positionalOnly = Signature.positionalOnlyNames (rs.map (·.1.bare)) := by
    rw [Compiled.positionalOnly_ofRoles, Signature.positionalOnlyNames, List.filter_map, List.map_map]
    rfl
  have hbs : Signature.positionalOnlyNames (bs.map Param.bare) = bs.positionalOnlyNames := by
    rw [Signature.positionalOnlyNames, List.filter_map, List.map_map]
    rfl
  rw [hrs, h, hbs]

theorem exists_bare_left {rs : Roles} {bs : Signature} (h : rs.map (·.1.bare) = bs.map Param.bare) {q : Param}
    (hq : q ∈ bs) : ∃ e ∈ rs, e.1.bare = q.bare :=
  List.mem_map.1 (h ▸ List.mem_map_of_mem hq)

theorem exists_bare_right {rs : Roles} {bs : Signature} (h : rs.map (·.1.bare) = bs.map Param.bare)
    {e : Param × Role} (he : e ∈ rs) : ∃ q ∈ bs, q.bare = e.1.bare :=
  List.mem_map.1 (h ▸ List.mem_map_of_mem he)

end Roles

/-- Whatever parameters a method has, and whichever arguments with a default are left out: the method receives what a
call by name passes exactly if no parameter that is filled by position only is left out before one that is given. -/
theorem CompileContext.receives_byName_iff {ctx : CompileContext} {attr : String} {binding : Binding} {m : Method}
    {op : OperationMeta} {o : Operation} (hm : m.signature.WellFormed)
    (ho : (ctx.compileMethod attr binding m op).result = .ok o) {args : Assoc Value} {vs : List Value}
    {u u' : Universe} (hnd : args.keys.Nodup) (hargs : args.keys ⊆ o.args.keys)
    (hb : (Handler.containers o.handler.plans args).apply u = (.ok vs, u')) (info : Value) :
    ∃ rs c, ctx.boundRoles attr binding m = .ok rs ∧ (o.handler.distribute args info).apply u = (.ok c, u') ∧
      ((∀ e ∈ rs, e.2.isPlain → e.1.default = none → e.1.name ∈ args.keys) →
        ((o.handler.receive c).apply u' = (.ok (m.signature.receivedByName
            (Method.receiver? (u'.current o.handler.resolver.value) binding) (rs.passedTo args info vs)), u') ↔
          rs.NoGap args)) := by
  obtain ⟨rs, type, hrs, hs, rfl⟩ := sound_of_compileMethod hm.names ho
  obtain ⟨routed, hc, hnodup, hget⟩ := Handler.distribute_routed hs rfl rfl hnd hargs hb info
  refine ⟨rs, _, hrs, hc, fun hreq => ?_⟩
  have hvs := Handler.length_of_containers hb
  obtain ⟨bs, hbs, hbare⟩ := boundRoles_bare hrs
  obtain ⟨hlead, honce, hexact⟩ :=
    Handler.routed_takePositional (h := (ctx.operationOf attr binding m op (.ofRoles rs) type).handler) hnodup hget
  have hpos : (ctx.operationOf attr binding m op (.ofRoles rs) type).handler.positionalOnly = bs.positionalOnlyNames :=
    Roles.positionalOnly_bare hbare
  have hdom (n : String) (h : (rs.passedTo args info vs n).isSome) : ∃ q ∈ bs, ¬ q.isCollecting ∧ q.name = n := by
    obtain ⟨e, he, hcoll, rfl⟩ := hs.exists_of_passedTo hvs h
    obtain ⟨q, hq, hqe⟩ := Roles.exists_bare_right hbare he
    exact ⟨q, hq, fun c => hcoll (Param.isCollecting_of_bare hqe ▸ c), (Param.eq_of_bare hqe).1⟩
  have hfull (q) (hq : q ∈ bs) (hcoll : ¬ q.isCollecting) (hd : q.default = none) :
      (rs.passedTo args info vs q.name).isSome := by
    obtain ⟨e, he, heq⟩ := Roles.exists_bare_left hbare hq
    obtain ⟨hname, -, hdefault⟩ := Param.eq_of_bare heq
    rw [← hname, hs.passedTo_isSome_iff hvs he, Roles.Given]
    cases hr : e.2 with
    | collecting => exact hcoll (Param.isCollecting_of_bare heq ▸ (hs.collecting e he).1 hr)
    | plain arg => exact hreq e he (by rw [hr]; rfl) (hdefault.trans hd)
    | _ => trivial
  have hnames : (Compiled.ofRoles rs).positionalOnly.Nodup := by
    rw [Compiled.positionalOnly_ofRoles]
    exact hs.names.sublist (List.filter_sublist.map _)
  rw [hpos] at hlead honce hexact
  rw [Handler.receive_apply_eq_ok, ← hs.noGap_iff hvs hget, ← Handler.takePositional_named_iff hnames,
    Roles.positionalOnly_bare hbare, hpos]
  exact Signature.bind_byName_iff hm hbs hlead honce hexact hdom hfull _

namespace Shelf

def resolverClass : ClassRef := .defined "app" "Shelf"

def pageClass : ClassRef := .defined "app" "Page"

def findMeta : OperationMeta :=
  { kind := some .query, name := "find", returns := .named (.text "string") }

/-- A method with a container at a positional-only parameter that has the name of its own field. -/
def find : Method where
  name := "find"
  owner := "Shelf"
  receiver := some "self"
  params := [
    { name := "page", kind := .positionalOnly, ann := .annotated (.cls pageClass) [.group .annotated] },
    { name := "genre", kind := .positionalOnly, ann := .cls (.builtin .str), default := some (.text "any") },
    { name := "row", kind := .positionalOnly, ann := .cls (.builtin .int), default := some (.int 0) },
    { name := "info", ann := .cls (.builtin .resolveInfo) },
    { name := "strict", kind := .keywordOnly, ann := .cls (.builtin .bool), default := some (.bool false) }]
  operations := [findMeta]

def pageInfo : ClassInfo where
  ref := pageClass
  lineage := [pageClass, .builtin .object]
  annotations := [("page", .cls (.builtin .int)), ("size", .cls (.builtin .int))]
  record := some [
    { name := "page", ann := .cls (.builtin .int) },
    { name := "size", ann := .cls (.builtin .int), default := some (.int 10) }]

def resolverInfo : ClassInfo where
  ref := resolverClass
  lineage := [resolverClass, .builtin .resolver, .builtin .object]
  slots := [("find", .method .instance_ find)]

def classes : Universe where
  classes := [pageInfo, resolverInfo]

def context : CompileContext :=
  { defs := classes, registry := {}, resolver := ⟨.object resolverClass [] (some (.resolver 0))⟩ }

def compiled : Except Failure Operation :=
  (context.compileMethod "find" .instance_ find findMeta).result

def operation : Operation :=
  compiled.toOption.getD default

theorem compiled_eq : compiled = .ok operation :=
  Attempt.eq_ok_of_isOk (by decide +kernel) _

def built (args : Assoc Value) : Except Fault (List Value) × Universe :=
  (Handler.containers operation.handler.plans args).apply classes

theorem built_eq (args : Assoc Value) (h : (built args).1.isOk) :
    built args = (.ok ((built args).1.toOption.getD []), (built args).2) :=
  Prod.ext (Attempt.eq_ok_of_isOk h _) rfl

def args : Assoc Value := [("strict", .bool true), ("page", .int 2), ("genre", .text "verse")]

def info : Value := .info (.text "find") []

end Shelf

theorem Shelf.find_byName :
    Shelf.find.signature.WellFormed ∧ Shelf.compiled = .ok Shelf.operation ∧ Shelf.args.keys.Nodup ∧
      Shelf.args.keys ⊆ Shelf.operation.args.keys ∧ ∃ vs u', Shelf.built Shelf.args = (.ok vs, u') ∧
      ∃ rs c, Shelf.context.boundRoles "find" .instance_ Shelf.find = .ok rs ∧
        (Shelf.operation.handler.distribute Shelf.args Shelf.info).apply Shelf.classes = (.ok c, u') ∧
        ((∀ e ∈ rs, e.2.isPlain → e.1.default = none → e.1.name ∈ Shelf.args.keys) →
          ((Shelf.operation.handler.receive c).apply u' = (.ok (Shelf.find.signature.receivedByName
              (Method.receiver? (u'.current Shelf.operation.handler.resolver.value) .instance_)
              (rs.passedTo Shelf.args Shelf.info vs)), u') ↔ rs.NoGap Shelf.args)) := by
  have hm : Shelf.find.signature.WellFormed := ⟨by decide, by decide⟩
  have hnd : Shelf.args.keys.Nodup := by decide
  have hargs : Shelf.args.keys ⊆ Shelf.operation.args.keys := by decide +kernel
  have hb := Shelf.built_eq Shelf.args (by decide +kernel)
  exact ⟨hm, Shelf.compiled_eq, hnd, hargs, _, _, hb,
    CompileContext.receives_byName_iff hm Shelf.compiled_eq hnd hargs hb _⟩

def Shelf.gap : Assoc Value := [("row", .int 3)]

/-- All arguments without a default are given, and the container can be built, but the call does not bind. -/
theorem Shelf.row_without_genre :
    Shelf.compiled = .ok Shelf.operation ∧ Shelf.gap.keys ⊆ Shelf.operation.args.keys ∧
      (Shelf.find.params.all fun p => p.default.isSome || p.name ∈ ["page", "info"]) ∧ (Shelf.built Shelf.gap).1.isOk ∧
      ((Shelf.operation.handler.distribute Shelf.gap Shelf.info >>= Shelf.operation.handler.receive).apply
        Shelf.classes).1.isOk = false :=
  ⟨Shelf.compiled_eq, by decide +kernel, by decide +kernel, by decide +kernel, by decide +kernel⟩

end SchemaAssembly
