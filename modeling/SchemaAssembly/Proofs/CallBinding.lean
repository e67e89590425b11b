import SchemaAssembly.Proofs.Attempt
import SchemaAssembly.Signature
import Mathlib.Data.List.Nodup

/-! How a call is distributed over parameters. It succeeds exactly if every keyword finds a place, no positional
argument is left over and nothing required is missing; a keyword that names no parameter ends up among the
leftover ones at best. -/

namespace SchemaAssembly

def ParamKind.rank : ParamKind → Nat
  | positionalOnly => 0
  | normal => 1
  | rest => 2
  | keywordOnly => 3
  | keywords => 4

namespace Param

theorem isCollecting_iff {p : Param} : p.isCollecting = true ↔ p.kind = .rest ∨ p.kind = .keywords := by
  simp [isCollecting]

theorem isPositional_iff {p : Param} : p.isPositional = true ↔ p.kind = .positionalOnly ∨ p.kind = .normal := by
  simp [isPositional]

theorem isNamed_iff {p : Param} : p.isNamed = true ↔ p.kind = .normal ∨ p.kind = .keywordOnly := by
  simp [isNamed]

theorem not_isCollecting_iff {p : Param} : ¬ p.isCollecting ↔ p.isPositional ∨ p.kind = .keywordOnly := by
  rw [isCollecting_iff, isPositional_iff]
  cases p.kind <;> simp

end Param

namespace Signature

/-- What holds of the parameters of any function: they have distinct names and stand in the order of their kinds, one
at most for each sort of leftovers. -/
structure WellFormed (s : Signature) : Prop where
  names : (s.map (·.name)).Nodup
  kinds : s.Pairwise fun p q => p.kind.rank < q.kind.rank ∨ (p.kind = q.kind ∧ ¬ p.isCollecting)

/-- The names of the parameters that positional arguments fill. -/
def positionalNames (s : Signature) : List String :=
  (s.filter Param.isPositional).map (·.name)

/-- Whether a keyword of the name has a parameter of its own. -/
def HasNamed (s : Signature) (n : String) : Prop :=
  ∃ p ∈ s, p.isNamed ∧ p.name = n

def HasKind (s : Signature) (k : ParamKind) : Prop :=
  ∃ p ∈ s, p.kind = k

variable {s : Signature}

theorem any_hasKind (s : Signature) (k : ParamKind) : s.any (·.kind == k) = true ↔ s.HasKind k := by
  simp [HasKind]

theorem any_hasNamed (s : Signature) (n : String) :
    (s.any fun p => p.isNamed && p.name == n) = true ↔ s.HasNamed n := by
  simp [HasNamed]

theorem assignKeyword_named {names : List String} {acc : Assoc Value × Assoc Value} {arg : String × Value}
    (h : s.HasNamed arg.1) (hn : arg.1 ∉ acc.1.keys) :
    assignKeyword s names acc arg = .ok (acc.1 ++ [arg], acc.2) := by
  unfold assignKeyword
  rw [if_pos ((any_hasNamed s arg.1).2 h), if_neg (fun c => hn ((Assoc.contains_iff _ _).1 c)),
    Assoc.insert_of_notMem _ _ _ hn]

/-- Keywords that all have a parameter of their own are assigned in order. -/
theorem foldlM_assignKeyword_named {names : List String} {keywords assigned extra : Assoc Value}
    (h : ∀ n ∈ keywords.keys, s.HasNamed n) (hnd : (assigned ++ keywords).keys.Nodup) :
    keywords.foldlM (assignKeyword s names) (assigned, extra) = .ok (assigned ++ keywords, extra) := by
  induction keywords generalizing assigned with
  | nil => simp [pure, Except.pure]
  | cons arg keywords ih =>
    obtain ⟨harg, hrest⟩ := List.forall_mem_cons.1 h
    rw [List.append_cons] at hnd ⊢
    have hn : arg.1 ∉ assigned.keys := by
      rw [Assoc.keys_append] at hnd
      exact ((Assoc.nodup_keys_concat _ _).1 (List.nodup_append.1 hnd).1).1
    rw [List.foldlM_cons, assignKeyword_named harg hn, Attempt.ok_bind, ih hrest hnd]

/-- A keyword with a parameter of its own is given to it, if nothing was before. -/
theorem assignKeyword_own {names : List String} {acc acc' : Assoc Value × Assoc Value} {arg : String × Value}
    (h : s.HasNamed arg.1) (hok : assignKeyword s names acc arg = .ok acc') :
    arg.1 ∉ acc.1.keys ∧ acc' = (acc.1.insert arg.1 arg.2, acc.2) := by
  unfold assignKeyword at hok
  rw [if_pos ((any_hasNamed s arg.1).2 h)] at hok
  split at hok
  · cases hok
  · next hfresh =>
    cases hok
    exact ⟨fun c => hfresh ((Assoc.contains_iff _ _).2 c), rfl⟩

/-- A keyword without a parameter of its own is left over, if there is a parameter for that. -/
theorem assignKeyword_other {names : List String} {acc acc' : Assoc Value × Assoc Value} {arg : String × Value}
    (h : ¬ s.HasNamed arg.1) (hok : assignKeyword s names acc arg = .ok acc') :
    s.HasKind .keywords ∧ acc' = (acc.1, acc.2.insert arg.1 arg.2) := by
  unfold assignKeyword at hok
  rw [if_neg (fun c => h ((any_hasNamed s arg.1).1 c))] at hok
  split at hok
  · next hk =>
    cases hok
    exact ⟨(any_hasKind s _).1 hk, rfl⟩
  · split at hok <;> cases hok

theorem assignKeyword_extra {names : List String} {acc acc' : Assoc Value × Assoc Value} {arg : String × Value}
    (hok : assignKeyword s names acc arg = .ok acc') : acc.2.keys ⊆ acc'.2.keys := by
  by_cases h : s.HasNamed arg.1
  · obtain ⟨-, rfl⟩ := assignKeyword_own h hok
    exact List.Subset.refl _
  · obtain ⟨-, rfl⟩ := assignKeyword_other h hok
    intro n hn
    rw [Assoc.keys_insert]
    split
    · exact hn
    · exact List.mem_append_left _ hn

theorem foldlM_assignKeyword_extra {names : List String} {keywords : Assoc Value} {acc acc' : Assoc Value × Assoc Value}
    (hok : keywords.foldlM (assignKeyword s names) acc = .ok acc') : acc.2.keys ⊆ acc'.2.keys := by
  induction keywords generalizing acc with
  | nil =>
    cases hok
    exact List.Subset.refl _
  | cons arg keywords ih =>
    obtain ⟨mid, hmid, hok⟩ := Attempt.foldlM_cons_eq_ok.1 hok
    exact List.Subset.trans (assignKeyword_extra hmid) (ih hok)

theorem foldlM_assignKeyword_other {names : List String} {keywords : Assoc Value}
    {acc acc' : Assoc Value × Assoc Value} {n : String} (hn : n ∈ keywords.keys) (h : ¬ s.HasNamed n)
    (hok : keywords.foldlM (assignKeyword s names) acc = .ok acc') : s.HasKind .keywords ∧ n ∈ acc'.2.keys := by
  induction keywords generalizing acc with
  | nil => cases hn
  | cons arg keywords ih =>
    obtain ⟨mid, hmid, hok⟩ := Attempt.foldlM_cons_eq_ok.1 hok
    rcases List.mem_cons.1 hn with rfl | hn
    · obtain ⟨hk, rfl⟩ := assignKeyword_other h hmid
      refine ⟨hk, foldlM_assignKeyword_extra hok ?_⟩
      rw [← Assoc.contains_iff, Assoc.contains, Assoc.get?_insert, if_pos rfl]
      rfl
    · exact ih hn hok

theorem leftover_eq_false (s : Signature) (left : List Value) :
    (!left.isEmpty && !s.any (·.kind == .rest)) = false ↔ left = [] ∨ s.HasKind .rest := by
  rw [← any_hasKind]
  cases left <;> simp

theorem filter_lacking_eq_nil (s : Signature) (assigned : Assoc Value) :
    ((s.filter Param.isPositional).filter fun p => p.default.isNone && !assigned.contains p.name) = [] ∧
      (s.filter fun p => p.kind == .keywordOnly && (p.default.isNone && !assigned.contains p.name)) = [] ↔
      ∀ p ∈ s, ¬ p.isCollecting → p.default = none → p.name ∈ assigned.keys := by
  simp only [List.filter_eq_nil_iff, List.mem_filter, Param.not_isCollecting_iff, ← Assoc.contains_iff]
  constructor
  · rintro ⟨hp, hk⟩ p hmem hkind hd
    rcases hkind with hpos | hkw
    · simpa [hd] using hp p ⟨hmem, hpos⟩
    · simpa [hd, hkw] using hk p hmem
  · intro h
    refine ⟨fun p hp => ?_, fun p hp hk => ?_⟩
    · cases hd : p.default with
      | none => simpa using h p hp.1 (.inl hp.2) hd
      | some v => simp
    · simp only [Bool.and_eq_true, beq_iff_eq, Option.isNone_iff_eq_none] at hk
      simp [h p hp (.inr hk.1) hk.2.1] at hk

/-- A call binds exactly if its keywords can be assigned, its positional arguments find places and every parameter
without a default is assigned. -/
theorem bind_eq_ok {positional : List Value} {keywords out : Assoc Value} :
    s.bind positional keywords = .ok out ↔
      ∃ assigned extra,
        keywords.foldlM (assignKeyword s keywords.keys) (s.positionalNames.zip positional, []) = .ok (assigned, extra) ∧
        (positional.drop s.positionalNames.length = [] ∨ s.HasKind .rest) ∧
        (∀ p ∈ s, ¬ p.isCollecting → p.default = none → p.name ∈ assigned.keys) ∧
        out = s.map fun p =>
          (p.name, received assigned (positional.drop s.positionalNames.length) extra p) := by
  have hlen : s.positionalNames.length = (s.filter Param.isPositional).length := List.length_map _
  simp only [← leftover_eq_false, ← filter_lacking_eq_nil, hlen]
  unfold bind positionalNames
  constructor
  · intro h
    obtain ⟨⟨assigned, extra⟩, hfold, h⟩ := Attempt.bind_eq_ok.1 h
    refine ⟨assigned, extra, hfold, ?_⟩
    dsimp only at h
    split at h
    · cases h
    next hleft =>
    split at h
    · next hnone =>
      split at h
      · next hnone' =>
        cases h
        exact ⟨Bool.eq_false_iff.2 hleft, ⟨List.map_eq_nil_iff.1 hnone, List.map_eq_nil_iff.1 hnone'⟩, rfl⟩
      · cases h
    · cases h
  · rintro ⟨assigned, extra, hfold, hleft, ⟨hnone, hnone'⟩, rfl⟩
    simp only [hfold, Attempt.ok_bind, hleft, hnone, hnone', Bool.false_eq_true, if_false, List.map_nil]
    rfl

/-- A call binds if all its keywords have parameters of their own. -/
theorem bind_of_named {positional : List Value} {keywords : Assoc Value} (hnamed : ∀ n ∈ keywords.keys, s.HasNamed n)
    (hnd : (Assoc.keys (s.positionalNames.zip positional ++ keywords)).Nodup)
    (hrest : positional.drop s.positionalNames.length = [] ∨ s.HasKind .rest)
    (hfull : ∀ p ∈ s, ¬ p.isCollecting → p.default = none →
      p.name ∈ Assoc.keys (s.positionalNames.zip positional ++ keywords)) :
    s.bind positional keywords = .ok (s.map fun p => (p.name,
      received (s.positionalNames.zip positional ++ keywords) (positional.drop s.positionalNames.length) [] p)) :=
  bind_eq_ok.2 ⟨_, _, foldlM_assignKeyword_named hnamed hnd, hrest, hfull, rfl⟩

theorem get?_map (hn : (s.map (·.name)).Nodup) (f : Param → Value) {p : Param} (hp : p ∈ s) :
    Assoc.get? (s.map fun p => (p.name, f p)) p.name = some (f p) := by
  induction s with
  | nil => cases hp
  | cons q s ih =>
    obtain ⟨hq, hs⟩ := List.nodup_cons.1 hn
    rw [List.map_cons, Assoc.get?_cons]
    rcases List.mem_cons.1 hp with rfl | hp
    · exact if_pos rfl
    · rw [if_neg (fun c => hq (List.mem_map.2 ⟨p, hp, c.symm⟩)), ih hs hp]

/-- A keyword without a parameter of its own is diverted, if the call binds at all. -/
theorem bind_diverts (hn : (s.map (·.name)).Nodup) {positional : List Value} {keywords out : Assoc Value} {n : String}
    (hk : n ∈ keywords.keys) (h : ¬ s.HasNamed n) (hok : s.bind positional keywords = .ok out) :
    ∃ p ∈ s, p.kind = .keywords ∧ out.get? p.name ≠ some (.dict []) := by
  obtain ⟨assigned, extra, hfold, -, -, rfl⟩ := bind_eq_ok.1 hok
  obtain ⟨⟨p, hp, hkind⟩, hextra⟩ := foldlM_assignKeyword_other hk h hfold
  refine ⟨p, hp, hkind, ?_⟩
  rw [get?_map hn _ hp, received, hkind]
  intro c
  cases c
  cases hextra

def positionalOnlyNames (s : Signature) : List String :=
  (s.filter (·.kind = .positionalOnly)).map (·.name)

/-- Parameters that are filled by position only come first. -/
theorem WellFormed.prefix_positionalNames (hw : s.WellFormed) : s.positionalOnlyNames <+: s.positionalNames := by
  have hkinds := hw.kinds
  clear hw
  unfold positionalOnlyNames positionalNames
  induction s with
  | nil => exact List.prefix_refl _
  | cons p s ih =>
    obtain ⟨hp, hs⟩ := List.pairwise_cons.1 hkinds
    by_cases ho : p.kind = .positionalOnly
    · rw [List.filter_cons_of_pos (by simpa using ho), List.filter_cons_of_pos (by simp [Param.isPositional, ho]),
        List.map_cons, List.map_cons]
      exact List.cons_prefix_cons.2 ⟨rfl, ih hs⟩
    · -- nothing behind a parameter of another kind is positional-only
      have hnone : s.filter (·.kind = .positionalOnly) = [] := by
        rw [List.filter_eq_nil_iff]
        intro q hq c
        have hq0 : q.kind = .positionalOnly := by simpa using c
        rcases hp q hq with hlt | ⟨heq, -⟩
        · rw [hq0] at hlt
          exact absurd hlt (Nat.not_lt_zero _)
        · exact ho (heq.trans hq0)
      rw [List.filter_cons_of_neg (by simpa using ho), hnone]
      exact List.nil_prefix

theorem WellFormed.positionalNames_of_rest {p : Param} {ps : Signature} (hw : WellFormed (p :: ps))
    (hp : p.kind = .rest) : positionalNames (p :: ps) = [] := by
  rw [positionalNames, List.map_eq_nil_iff, List.filter_eq_nil_iff]
  intro q hq c
  rw [Param.isPositional_iff] at c
  rcases List.mem_cons.1 hq with rfl | hq
  · rw [hp] at c
    simp at c
  · rcases (List.pairwise_cons.1 hw.kinds).1 q hq with hlt | ⟨heq, -⟩
    · rw [hp] at hlt
      rcases c with c | c <;> rw [c] at hlt <;> exact absurd hlt (by decide)
    · rw [← heq, hp] at c
      simp at c

theorem WellFormed.kind_ne_rest {p q : Param} {ps : Signature} (hw : WellFormed (p :: ps)) (hp : p.kind = .rest)
    (hq : q ∈ ps) : q.kind ≠ .rest := by
  intro c
  rcases (List.pairwise_cons.1 hw.kinds).1 q hq with hlt | ⟨-, hnot⟩
  · rw [hp, c] at hlt
    exact absurd hlt (Nat.lt_irrefl _)
  · exact hnot (Param.isCollecting_iff.2 (.inl hp))

/-- Values for the leading names go to them, however many names there are. -/
theorem zip_of_prefix {names names' : List String} {values : List Value} (h : names <+: names')
    (hl : values.length ≤ names.length) : names'.zip values = names.zip values := by
  induction values generalizing names names' with
  | nil => simp
  | cons v values ih =>
    cases names with
    | nil => cases hl
    | cons n names =>
      obtain ⟨_, rfl⟩ := h
      rw [List.cons_append, List.zip_cons_cons, List.zip_cons_cons,
        ih (List.prefix_append _ _) (Nat.le_of_succ_le_succ hl)]

end Signature

end SchemaAssembly
