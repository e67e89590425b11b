import SchemaAssembly.Proofs.Attempt
import SchemaAssembly.Schema.Basic
import Mathlib.Data.List.Nodup

/-! The types of an assembled schema are those that a walk from the registered types and the roots meets. The walk is done
before its bound on steps is reached, so that types which it does not meet make no difference to it. -/

namespace SchemaAssembly

namespace Wire

/-- How many keys the types that were not met yet can still add to what is pending. -/
def unmet (next : TypeKey → List TypeKey) (keys seen : List TypeKey) : Nat :=
  ((keys.filter (· ∉ seen)).flatMap next).length

variable {next next' : TypeKey → List TypeKey} {keys keys' given roots pending seen : List TypeKey} {n n' : Nat}
  {K : TypeKey → Prop}

theorem unmet_cons (next : TypeKey → List TypeKey) (k : TypeKey) (keys seen : List TypeKey) :
    unmet next (k :: keys) seen = (if k ∈ seen then 0 else (next k).length) + unmet next keys seen := by
  unfold unmet
  by_cases hk : k ∈ seen <;> simp [hk]

theorem unmet_le (next : TypeKey → List TypeKey) (keys seen : List TypeKey) :
    unmet next keys seen ≤ (keys.flatMap next).length := by
  induction keys with
  | nil => exact Nat.le_refl 0
  | cons k keys ih =>
    rw [unmet_cons, List.flatMap_cons, List.length_append]
    split <;> omega

theorem unmet_met {k : TypeKey} (hk : k ∉ seen) :
    (if k ∈ keys then (next k).length else 0) + unmet next keys (seen ++ [k]) ≤ unmet next keys seen := by
  induction keys with
  | nil => simp [unmet]
  | cons a keys ih =>
    rw [unmet_cons, unmet_cons]
    by_cases ha : a = k
    · subst ha
      simp only [List.mem_cons, true_or, if_true, List.mem_append, or_true, if_neg hk]
      split at ih <;> omega
    · have hmet : a ∈ seen ++ [k] ↔ a ∈ seen := by simp [ha]
      have hin : k ∈ a :: keys ↔ k ∈ keys := by simp [Ne.symm ha]
      simp only [hmet, hin]
      omega

theorem unmet_append_le (hkeys : ∀ k, next k ≠ [] → k ∈ keys) {k : TypeKey} (hk : k ∉ seen) :
    unmet next keys (seen ++ [k]) + (next k ++ pending).length ≤ unmet next keys seen + pending.length := by
  have hmet : (if k ∈ keys then (next k).length else 0) + unmet next keys (seen ++ [k]) ≤ unmet next keys seen :=
    unmet_met hk
  have hadded : (next k).length ≤ if k ∈ keys then (next k).length else 0 := by
    split
    · exact Nat.le_refl _
    · next hin => simp [not_imp_comm.1 (hkeys k) hin]
  rw [List.length_append]
  omega

theorem visit_nil (next : TypeKey → List TypeKey) (n : Nat) (seen : List TypeKey) : visit next n [] seen = seen := by
  cases n <;> rfl

/-- A walk that has a step for each key that can come up does not depend on how many more steps it has. -/
theorem visit_enough (hkeys : ∀ k, next k ≠ [] → k ∈ keys) (h : unmet next keys seen + pending.length ≤ n)
    (h' : unmet next keys seen + pending.length ≤ n') : visit next n pending seen = visit next n' pending seen := by
  induction n generalizing n' pending seen with
  | zero =>
    obtain rfl : pending = [] := List.eq_nil_of_length_eq_zero (by omega)
    exact (visit_nil next n' seen).symm
  | succ n ih =>
    cases pending with
    | nil => exact (visit_nil next n' seen).symm
    | cons k pending =>
      obtain ⟨n', rfl⟩ : ∃ m, n' = m + 1 := ⟨n' - 1, by simp only [List.length_cons] at h'; omega⟩
      rw [List.length_cons] at h h'
      simp only [visit]
      split
      · exact ih (by omega) (by omega)
      · next hk =>
        have hmet : unmet next keys (seen ++ [k]) + (next k ++ pending).length ≤
          unmet next keys seen + pending.length := unmet_append_le hkeys (by simpa using hk)
        exact ih (by omega) (by omega)

/-- A walk stays among keys that lead only to each other. -/
theorem mem_visit (hclosed : ∀ k, K k → ∀ k' ∈ next k, K k') (hpending : ∀ k ∈ pending, K k)
    (hseen : ∀ k ∈ seen, K k) : ∀ k ∈ visit next n pending seen, K k := by
  induction n generalizing pending seen with
  | zero => exact hseen
  | succ n ih =>
    cases pending with
    | nil => exact hseen
    | cons k pending =>
      obtain ⟨hk, hpending⟩ := List.forall_mem_cons.1 hpending
      simp only [visit]
      split
      · exact ih hpending hseen
      · exact ih (List.forall_mem_append.2 ⟨hclosed k hk, hpending⟩) (List.forall_mem_append.2 ⟨hseen, by simpa using hk⟩)

/-- What the keys lead to that a walk does not meet makes no difference. -/
theorem visit_agree (hclosed : ∀ k, K k → ∀ k' ∈ next k, K k') (hsame : ∀ k, K k → next' k = next k)
    (hpending : ∀ k ∈ pending, K k) : visit next' n pending seen = visit next n pending seen := by
  induction n generalizing pending seen with
  | zero => rfl
  | succ n ih =>
    cases pending with
    | nil => rfl
    | cons k pending =>
      obtain ⟨hk, hpending⟩ := List.forall_mem_cons.1 hpending
      simp only [visit]
      split
      · exact ih hpending
      · rw [hsame k hk]
        exact ih (List.forall_mem_append.2 ⟨hclosed k hk, hpending⟩)

/-- Among keys that lead only to each other, what is reached depends on nothing else. -/
theorem reach_agree (hclosed : ∀ k, K k → ∀ k' ∈ next k, K k') (hsame : ∀ k, K k → next' k = next k)
    (hkeys : ∀ k, next k ≠ [] → k ∈ keys) (hkeys' : ∀ k, next' k ≠ [] → k ∈ keys') (hgiven : ∀ k ∈ given, K k)
    (hroots : ∀ k ∈ roots, K k) :
    reach next' (stepBound next' keys') given roots = reach next (stepBound next keys) given roots := by
  have hvisit {pending seen : List TypeKey} (m : Nat) (hm : pending.length ≤ m + 1) (hpending : ∀ k ∈ pending, K k) :
      visit next' (stepBound next' keys' + m) pending seen = visit next (stepBound next keys + m) pending seen := by
    have hle := unmet_le next keys seen
    have hle' := unmet_le next' keys' seen
    unfold stepBound
    calc visit next' ((keys'.flatMap next').length + keys'.length + 1 + m) pending seen
        = visit next' (((keys'.flatMap next').length + keys'.length + 1 + m) +
            ((keys.flatMap next).length + keys.length + 1 + m)) pending seen :=
          visit_enough hkeys' (by omega) (by omega)
      _ = visit next (((keys'.flatMap next').length + keys'.length + 1 + m) +
            ((keys.flatMap next).length + keys.length + 1 + m)) pending seen := visit_agree hclosed hsame hpending
      _ = visit next ((keys.flatMap next).length + keys.length + 1 + m) pending seen :=
          visit_enough hkeys (by omega) (by omega)
  have hsettled (seen : List TypeKey) : given.foldl (settle next' (stepBound next' keys')) seen =
      given.foldl (settle next (stepBound next keys)) seen := by
    induction given generalizing seen with
    | nil => rfl
    | cons k given ih =>
      obtain ⟨hk, hgiven⟩ := List.forall_mem_cons.1 hgiven
      have hone : settle next' (stepBound next' keys') seen k = settle next (stepBound next keys) seen k :=
        hvisit 0 (Nat.le_refl 1) (by simpa using hk)
      rw [List.foldl_cons, List.foldl_cons, hone, ih hgiven]
  unfold reach
  rw [hsettled]
  exact hvisit roots.length (Nat.le_succ _) hroots

/-- What is reached stays among keys that lead only to each other. -/
theorem mem_reach (hclosed : ∀ k, K k → ∀ k' ∈ next k, K k') (hgiven : ∀ k ∈ given, K k) (hroots : ∀ k ∈ roots, K k) :
    ∀ k ∈ reach next n given roots, K k := by
  have hsettled {seen : List TypeKey} (hseen : ∀ k ∈ seen, K k) : ∀ k ∈ given.foldl (settle next n) seen, K k := by
    induction given generalizing seen with
    | nil => exact hseen
    | cons k given ih =>
      obtain ⟨hk, hgiven⟩ := List.forall_mem_cons.1 hgiven
      exact ih hgiven (mem_visit hclosed (by simpa using hk) fun k' hk' => hseen k' (List.mem_of_mem_erase hk'))
  exact mem_visit hclosed hroots (hsettled hgiven)

/-- A walk that has a step for each key that can come up keeps what was met, meets what is pending, and whatever it meets
leads to nothing else. -/
theorem visit_complete (hkeys : ∀ k, next k ≠ [] → k ∈ keys) (h : unmet next keys seen + pending.length ≤ n) :
    seen ⊆ visit next n pending seen ∧ pending ⊆ visit next n pending seen ∧
      ∀ k ∈ visit next n pending seen, k ∈ seen ∨ next k ⊆ visit next n pending seen := by
  induction n generalizing pending seen with
  | zero =>
    obtain rfl : pending = [] := List.eq_nil_of_length_eq_zero (by omega)
    exact ⟨List.Subset.refl _, List.nil_subset _, fun k hk => .inl hk⟩
  | succ n ih =>
    cases pending with
    | nil => exact ⟨List.Subset.refl _, List.nil_subset _, fun k hk => .inl hk⟩
    | cons k pending =>
      simp only [visit]
      split
      · next hk =>
        have hless : unmet next keys seen + pending.length ≤ n := by
          rw [List.length_cons] at h
          omega
        obtain ⟨hseen, hpending, hmet⟩ := ih hless
        exact ⟨hseen, List.cons_subset.2 ⟨hseen (by simpa using hk), hpending⟩, hmet⟩
      · next hk =>
        have hless : unmet next keys (seen ++ [k]) + (next k ++ pending).length ≤ n := by
          have hadded : unmet next keys (seen ++ [k]) + (next k ++ pending).length ≤
            unmet next keys seen + pending.length := unmet_append_le hkeys (by simpa using hk)
          rw [List.length_cons] at h
          omega
        obtain ⟨hseen, hpending, hmet⟩ := ih hless
        obtain ⟨hseen, hk⟩ := List.append_subset.1 hseen
        obtain ⟨hnext, hpending⟩ := List.append_subset.1 hpending
        refine ⟨hseen, List.cons_subset.2 ⟨hk List.mem_cons_self, hpending⟩, fun j hj => ?_⟩
        rcases hmet j hj with hj | hj
        · rcases List.mem_append.1 hj with hj | hj
          · exact .inl hj
          · obtain rfl := List.mem_singleton.1 hj
            exact .inr hnext
        · exact .inr hj

theorem nodup_visit (h : seen.Nodup) : (visit next n pending seen).Nodup := by
  induction n generalizing pending seen with
  | zero => exact h
  | succ n ih =>
    cases pending with
    | nil => exact h
    | cons k pending =>
      simp only [visit]
      split
      · exact ih h
      · next hk =>
        have hk : k ∉ seen := by simpa using hk
        refine ih (List.nodup_append.2 ⟨h, by simp, fun j hj k' hk' => ?_⟩)
        rw [List.mem_singleton.1 hk']
        exact fun heq => hk (heq ▸ hj)

/-- Keys that are settled one after the other stay, and in the end all keys lead only to each other, if each of those
that do not yet is still to be settled. -/
theorem settle_complete (hkeys : ∀ k, next k ≠ [] → k ∈ keys) (hnodup : seen.Nodup)
    (hclosed : ∀ k ∈ seen, k ∈ given ∨ next k ⊆ seen) :
    seen ⊆ given.foldl (settle next (stepBound next keys)) seen ∧
      ∀ k ∈ given.foldl (settle next (stepBound next keys)) seen,
        next k ⊆ given.foldl (settle next (stepBound next keys)) seen := by
  induction given generalizing seen with
  | nil => exact ⟨List.Subset.refl _, fun k hk => (hclosed k hk).resolve_left List.not_mem_nil⟩
  | cons k given ih =>
    have henough : unmet next keys (seen.erase k) + [k].length ≤ stepBound next keys := by
      have hle := unmet_le next keys (seen.erase k)
      unfold stepBound
      rw [List.length_singleton]
      omega
    obtain ⟨hkept, hpending, hmet⟩ := visit_complete hkeys henough
    -- a key that is moved to the end is met again, so nothing is lost
    have hseen : seen ⊆ settle next (stepBound next keys) seen k := by
      intro j hj
      by_cases hjk : j = k
      · exact hpending (hjk ▸ List.mem_cons_self)
      · exact hkept ((List.mem_erase_of_ne hjk).2 hj)
    have hsettled : ∀ j ∈ settle next (stepBound next keys) seen k,
        j ∈ given ∨ next j ⊆ settle next (stepBound next keys) seen k := by
      intro j hj
      rcases hmet j hj with hj | hj
      · obtain ⟨hne, hj⟩ := hnodup.mem_erase_iff.1 hj
        rcases hclosed j hj with hgiven | hnext
        · exact .inl ((List.mem_cons.1 hgiven).resolve_left hne)
        · exact .inr (List.Subset.trans hnext hseen)
      · exact .inr hj
    obtain ⟨hrest, hall⟩ := ih (nodup_visit (hnodup.erase k)) hsettled
    exact ⟨List.Subset.trans hseen hrest, hall⟩

/-- What is reached has the given keys, the roots, and all that these lead to. -/
theorem reach_complete (hkeys : ∀ k, next k ≠ [] → k ∈ keys) (hnodup : given.Nodup) :
    given ⊆ reach next (stepBound next keys) given roots ∧ roots ⊆ reach next (stepBound next keys) given roots ∧
      ∀ k ∈ reach next (stepBound next keys) given roots, next k ⊆ reach next (stepBound next keys) given roots := by
  unfold reach
  obtain ⟨hgiven, hclosed⟩ := settle_complete hkeys hnodup fun k hk => .inl hk
  have henough : unmet next keys (given.foldl (settle next (stepBound next keys)) given) + roots.length ≤
      stepBound next keys + roots.length := by
    have hle := unmet_le next keys (given.foldl (settle next (stepBound next keys)) given)
    have hbound : (keys.flatMap next).length ≤ stepBound next keys := by
      unfold stepBound
      omega
    omega
  obtain ⟨hseen, hroots, hmet⟩ := visit_complete hkeys henough
  refine ⟨List.Subset.trans hgiven hseen, hroots, fun k hk => ?_⟩
  rcases hmet k hk with hk | hk
  · exact List.Subset.trans (hclosed k hk) hseen
  · exact hk

end Wire

namespace Schema

variable {all all' : List SchemaType} {registered roots : List TypeKey} {K : TypeKey → Prop}

theorem mem_keys_of_mentions {k : TypeKey} (hk : ((all.find? (·.key = k)).map SchemaType.mentions).getD [] ≠ []) :
    k ∈ all.map (·.key) := by
  cases hfind : all.find? (·.key = k) with
  | none =>
    rw [hfind] at hk
    exact absurd rfl hk
  | some t =>
    have hkey := List.find?_some hfind
    exact List.mem_map.2 ⟨t, List.mem_of_find?_eq_some hfind, of_decide_eq_true hkey⟩

/-- Among keys of types that mention only each other, the types that are collected depend on nothing else. -/
theorem collect_agree (hsame : ∀ k, K k → all'.find? (·.key = k) = all.find? (·.key = k))
    (hclosed : ∀ t ∈ all, K t.key → ∀ k ∈ t.mentions, K k) (hregistered : ∀ k ∈ registered, K k)
    (hroots : ∀ k ∈ roots, K k) {types types' : List SchemaType} (h : collect all registered roots = .ok types)
    (h' : collect all' registered roots = .ok types') : types' = types := by
  obtain ⟨-, -, h⟩ := Attempt.bind_eq_ok.1 h
  obtain ⟨-, -, h'⟩ := Attempt.bind_eq_ok.1 h'
  cases h
  cases h'
  have hnext (k : TypeKey) (hk : K k) : ((all'.find? (·.key = k)).map SchemaType.mentions).getD [] =
      ((all.find? (·.key = k)).map SchemaType.mentions).getD [] := by
    rw [hsame k hk]
  have hwithin (k : TypeKey) (hk : K k) : ∀ k' ∈ ((all.find? (·.key = k)).map SchemaType.mentions).getD [], K k' := by
    intro k' hk'
    cases hfind : all.find? (·.key = k) with
    | none =>
      rw [hfind] at hk'
      cases hk'
    | some t =>
      rw [hfind] at hk'
      have hkey := List.find?_some hfind
      obtain rfl : t.key = k := of_decide_eq_true hkey
      exact hclosed t (List.mem_of_find?_eq_some hfind) hk k' hk'
  rw [Wire.reach_agree hwithin hnext (fun _ => mem_keys_of_mentions) (fun _ => mem_keys_of_mentions) hregistered hroots]
  exact List.filterMap_congr fun k hk => hsame k (Wire.mem_reach hwithin hregistered hroots k hk)

/-- The registered types, the roots and all that they mention are collected. -/
theorem collect_complete (hnodup : registered.Nodup) {types : List SchemaType}
    (h : collect all registered roots = .ok types) :
    (∀ k, k ∈ registered ∨ k ∈ roots → ∀ t, all.find? (·.key = k) = some t → t ∈ types) ∧
      ∀ t ∈ types, ∀ k ∈ t.mentions, ∀ t', all.find? (·.key = k) = some t' → t' ∈ types := by
  obtain ⟨-, -, h⟩ := Attempt.bind_eq_ok.1 h
  cases h
  obtain ⟨hregistered, hroots, hclosed⟩ :=
    @Wire.reach_complete _ (all.map (·.key)) registered roots (fun _ => mem_keys_of_mentions) hnodup
  constructor
  · intro k hk t ht
    exact List.mem_filterMap.2 ⟨k, hk.elim (hregistered ·) (hroots ·), ht⟩
  · intro t ht k hk t' ht'
    obtain ⟨j, hj, hfind⟩ := List.mem_filterMap.1 ht
    refine List.mem_filterMap.2 ⟨k, hclosed j hj ?_, ht'⟩
    rw [hfind]
    exact hk

theorem clash?_eq_none {seen : List String} {ks : List TypeKey} :
    clash? seen ks = none ↔ (∀ k ∈ ks, k.name ∉ seen) ∧ (ks.map (·.name)).Nodup := by
  induction ks generalizing seen with
  | nil => simp [clash?]
  | cons k ks ih =>
    unfold clash?
    by_cases hk : k.name ∈ seen
    · simp [hk]
    · rw [if_neg (by simpa using hk), ih, List.map_cons, List.nodup_cons, List.forall_mem_cons]
      constructor
      · rintro ⟨hseen, hnodup⟩
        refine ⟨⟨hk, fun k' hk' => ?_⟩, fun hin => ?_, hnodup⟩
        · exact fun hin => hseen k' hk' (List.mem_cons_of_mem _ hin)
        · obtain ⟨k', hk', hname⟩ := List.mem_map.1 hin
          exact hseen k' hk' (hname ▸ List.mem_cons_self)
      · rintro ⟨⟨-, hseen⟩, hin, hnodup⟩
        refine ⟨fun k' hk' hmem => ?_, hnodup⟩
        rcases List.mem_cons.1 hmem with hname | hmem
        · exact hin (List.mem_map.2 ⟨k', hk', hname⟩)
        · exact hseen k' hk' hmem

variable {types types' : List NamedType} {queries mutations : Assoc RootField}

/-- The roots of a schema have the fields that it was assembled from. -/
theorem roots_of_assemble {s : Schema} (h : assemble types registered queries mutations = .ok s) :
    s.query = .ofRoot "Query" queries ∧
      s.mutation = if mutations.isEmpty then none else some (.ofRoot "Mutation" mutations) := by
  obtain ⟨collected, -, h⟩ := Attempt.bind_eq_ok.1 h
  split at h
  · cases h
  · cases h
    exact ⟨rfl, rfl⟩

theorem mem_keys_of_find? {k : TypeKey} (hk : ∃ t ∈ all, t.key = k) {types : List SchemaType}
    (hfirst : ∀ t, all.find? (·.key = k) = some t → t ∈ types) : k ∈ types.map (·.key) := by
  obtain ⟨t, ht, rfl⟩ := hk
  have hsome : (all.find? (·.key = t.key)).isSome := List.find?_isSome.2 ⟨t, ht, decide_eq_true rfl⟩
  obtain ⟨t', ht'⟩ := Option.isSome_iff_exists.1 hsome
  have hkey := List.find?_some ht'
  exact List.mem_map.2 ⟨t', hfirst t' ht', of_decide_eq_true hkey⟩

/-- In an assembled schema a registered type is the only one of its name that a root mentions. -/
theorem eq_of_assemble (hnodup : registered.Nodup) {s : Schema}
    (h : assemble types registered queries mutations = .ok s) {k k' : TypeKey} (hk : k ∈ registered)
    (hmentions : k' ∈ (SchemaType.ofRoot "Query" queries).mentions ∨ k' ∈ (SchemaType.ofRoot "Mutation" mutations).mentions)
    (htype : ∃ t ∈ types, t.key = k) (htype' : ∃ t ∈ types, t.key = k') (hname : k.name = k'.name) : k = k' := by
  obtain ⟨collected, hcollected, h⟩ := Attempt.bind_eq_ok.1 h
  obtain ⟨hgiven, hmet⟩ := collect_complete hnodup hcollected
  have hnames : ((collected.map (·.key)).map (·.name)).Nodup := by
    split at h
    · cases h
    · next hclash => exact (clash?_eq_none.1 hclash).2
  have hthere {k : TypeKey} (htype : ∃ t ∈ types, t.key = k) (roots : List SchemaType) :
      ∃ t ∈ roots ++ types.map SchemaType.ofNamed, t.key = k := by
    obtain ⟨t, ht, hkey⟩ := htype
    exact ⟨.ofNamed t, List.mem_append_right _ (List.mem_map_of_mem ht), hkey⟩
  have hregistered : k ∈ collected.map (·.key) := mem_keys_of_find? (hthere htype _) (hgiven k (.inl hk))
  have hmentioned : k' ∈ collected.map (·.key) := by
    rcases hmentions with hquery | hmutation
    · have hroot := hgiven (SchemaType.rootKey "Query") (.inr List.mem_cons_self) _ rfl
      exact mem_keys_of_find? (hthere htype' _) (hmet _ hroot k' hquery)
    · cases hempty : mutations.isEmpty with
      | true =>
        rw [List.isEmpty_iff.1 hempty] at hmutation
        cases hmutation
      | false =>
        simp only [hempty] at hgiven hmet
        have hin : SchemaType.rootKey "Mutation" ∈ [SchemaType.rootKey "Query", SchemaType.rootKey "Mutation"] :=
          List.mem_cons_of_mem _ List.mem_cons_self
        have hroot := hgiven (SchemaType.rootKey "Mutation") (.inr (List.mem_append_left _ hin)) _ rfl
        exact mem_keys_of_find? (hthere htype' _) (hmet _ hroot k' hmutation)
  exact List.inj_on_of_nodup_map hnames hregistered hmentioned hname

/-- A schema is the same if it is assembled among further types that nothing in it mentions. -/
theorem assemble_agree (hsame : ∀ k, K k → types'.find? (·.key = k) = types.find? (·.key = k))
    (hclosed : ∀ t ∈ types, K t.key → ∀ k ∈ (SchemaType.ofNamed t).mentions, K k) (hregistered : ∀ k ∈ registered, K k)
    (hspecial : ∀ k : TypeKey, k.origin = .root ∨ k.origin = .builtin → K k)
    (hqueries : ∀ k ∈ (SchemaType.ofRoot "Query" queries).mentions, K k)
    (hmutations : ∀ k ∈ (SchemaType.ofRoot "Mutation" mutations).mentions, K k) {s s' : Schema}
    (h : assemble types registered queries mutations = .ok s)
    (h' : assemble types' registered queries mutations = .ok s') : s' = s := by
  obtain ⟨collected, hcollected, h⟩ := Attempt.bind_eq_ok.1 h
  obtain ⟨collected', hcollected', h'⟩ := Attempt.bind_eq_ok.1 h'
  have hagree : collected' = collected := by
    refine collect_agree (K := K) (fun k hk => ?_) (fun t ht hkey => ?_) hregistered ?_ hcollected hcollected'
    · rw [List.find?_append, List.find?_append]
      congr 1
      rw [List.find?_map, List.find?_map]
      exact congrArg (Option.map SchemaType.ofNamed) (hsame k hk)
    · rcases List.mem_append.1 ht with ht | ht
      · rcases List.mem_cons.1 ht with rfl | ht
        · exact hqueries
        · split at ht
          · cases ht
          · obtain rfl := List.mem_singleton.1 ht
            exact hmutations
      · obtain ⟨t', ht', rfl⟩ := List.mem_map.1 ht
        exact hclosed t' ht' hkey
    · intro k hk
      apply hspecial
      rcases List.mem_append.1 hk with hk | hk
      · rcases List.mem_cons.1 hk with rfl | hk
        · exact .inl rfl
        · split at hk
          · cases hk
          · exact .inl (List.mem_singleton.1 hk ▸ rfl)
      · rcases List.mem_cons.1 hk with rfl | hk
        · exact .inr rfl
        · exact .inr (List.mem_singleton.1 hk ▸ rfl)
  rw [hagree] at h'
  exact Except.ok.inj (h'.symm.trans h)

end Schema

end SchemaAssembly
