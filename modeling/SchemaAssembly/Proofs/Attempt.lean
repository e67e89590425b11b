import SchemaAssembly.Attempt
import SchemaAssembly.Class.Action
import Mathlib.Data.List.Forall2

/-! A sequence of attempts succeeds exactly if each of them does, and the results are theirs. It fails as the first one
that fails. What code does to a universe comes apart in the same way. -/

namespace SchemaAssembly

namespace Attempt
variable {ε ε' α β : Type}

theorem mapM_eq_ok {f : α → Except ε β} {as : List α} {bs : List β} :
    as.mapM f = .ok bs ↔ List.Forall₂ (fun a b => f a = .ok b) as bs := by
  induction as generalizing bs with
  | nil =>
    rw [List.mapM_nil, List.forall₂_nil_left_iff]
    exact ⟨fun h => by cases h; rfl, fun h => by rw [h]; rfl⟩
  | cons a as ih =>
    rw [List.mapM_cons, bind_eq_ok, List.forall₂_cons_left_iff]
    constructor
    · rintro ⟨b, hb, h⟩
      obtain ⟨bs', hbs, h⟩ := bind_eq_ok.1 h
      cases h
      exact ⟨b, bs', hb, ih.1 hbs, rfl⟩
    · rintro ⟨b, bs', hb, hbs, rfl⟩
      exact ⟨b, hb, bind_eq_ok.2 ⟨bs', ih.2 hbs, rfl⟩⟩

theorem getElem?_of_mapM {f : α → Except ε β} {as : List α} {bs : List β} (h : as.mapM f = .ok bs) {i : Nat} {a : α}
    (ha : as[i]? = some a) : ∃ b, bs[i]? = some b ∧ f a = .ok b := by
  induction mapM_eq_ok.1 h generalizing i with
  | nil => cases ha
  | cons hab hrest ih =>
    cases i with
    | zero =>
      cases ha
      exact ⟨_, rfl, hab⟩
    | succ i => exact ih (mapM_eq_ok.2 hrest) ha

theorem mapM_of_firstFailure {f : α → Except ε β} {as : List α} {a : α} {e : ε}
    (h : firstFailure? f as = some (a, e)) : as.mapM f = .error e := by
  unfold firstFailure? at h
  induction as with
  | nil => cases h
  | cons a' as ih =>
    rw [List.mapM_cons]
    rw [List.findSome?_cons] at h
    cases ha : f a' with
    | error e' =>
      rw [ha] at h
      cases h
      rfl
    | ok b =>
      rw [ha] at h
      rw [ok_bind, ih h]
      rfl

/-- If only one thing makes a sequence of attempts fail, the sequence fails as it does. -/
theorem mapM_of_lone_failure {f : α → Except ε β} {as : List α} {a : α} {e : ε} (ha : a ∈ as) (hf : f a = .error e)
    (hothers : ∀ a' ∈ as, a' ≠ a → ∃ b, f a' = .ok b) : as.mapM f = .error e := by
  induction as with
  | nil => cases ha
  | cons a' as ih =>
    rw [List.mapM_cons]
    by_cases h : a' = a
    · rw [h, hf]
      rfl
    · obtain ⟨b, hb⟩ := hothers a' List.mem_cons_self h
      have hmem : a ∈ as := (List.mem_cons.1 ha).resolve_left (Ne.symm h)
      rw [hb, ok_bind, ih hmem fun a'' h'' => hothers a'' (List.mem_cons_of_mem _ h'')]
      rfl

theorem mem_of_firstFailure {f : α → Except ε β} {as : List α} {a : α} {e : ε}
    (h : firstFailure? f as = some (a, e)) : a ∈ as := by
  obtain ⟨a', ha', h⟩ := List.exists_of_findSome?_eq_some h
  split at h
  · cases h
    exact ha'
  · cases h

theorem firstFailure?_append {f : α → Except ε β} {as as' : List α} {r : α × ε}
    (h : firstFailure? f (as ++ as') = some r) : firstFailure? f as = some r ∨ firstFailure? f as' = some r := by
  unfold firstFailure? at h ⊢
  rw [List.findSome?_append] at h
  exact (Option.or_eq_some_iff.1 h).imp_right And.right

theorem exists_mapM {f : α → Except ε β} {as : List α} (h : ∀ a ∈ as, ∃ b, f a = .ok b) : ∃ bs, as.mapM f = .ok bs := by
  simp only [mapM_eq_ok]
  induction as with
  | nil => exact ⟨[], .nil⟩
  | cons a as ih =>
    obtain ⟨ha, has⟩ := List.forall_mem_cons.1 h
    obtain ⟨b, hb⟩ := ha
    obtain ⟨bs, hbs⟩ := ih has
    exact ⟨b :: bs, .cons hb hbs⟩

theorem mapM_of_failure {f : α → Except ε β} {before after : List α} {a : α} {e : ε}
    (hbefore : ∀ a' ∈ before, ∃ b, f a' = .ok b) (ha : f a = .error e) : (before ++ a :: after).mapM f = .error e := by
  obtain ⟨bs, hbs⟩ := exists_mapM hbefore
  rw [List.mapM_append, hbs, ok_bind, List.mapM_cons, ha]
  rfl

theorem foldlM_of_failure {f : β → α → Except ε β} {before after : List α} {a : α} {b c : β} {e : ε}
    (hbefore : before.foldlM f b = .ok c) (ha : f c a = .error e) :
    (before ++ a :: after).foldlM f b = .error e := by
  rw [List.foldlM_append, hbefore, ok_bind, List.foldlM_cons, ha]
  rfl

/-- Two runs over the same items give the same if no item gives different things. -/
theorem mapM_unique {f g : α → Except ε β} {as : List α} {bs bs' : List β}
    (hfg : ∀ a ∈ as, ∀ b b', f a = .ok b → g a = .ok b' → b = b') (h : as.mapM f = .ok bs) (h' : as.mapM g = .ok bs') :
    bs = bs' := by
  rw [mapM_eq_ok] at h h'
  induction as generalizing bs bs' with
  | nil =>
    cases h
    cases h'
    rfl
  | cons a as ih =>
    obtain ⟨b, rest, hb, hrest, rfl⟩ := List.forall₂_cons_left_iff.1 h
    obtain ⟨b', rest', hb', hrest', rfl⟩ := List.forall₂_cons_left_iff.1 h'
    obtain ⟨ha, has⟩ := List.forall_mem_cons.1 hfg
    rw [ha b b' hb hb', ih has hrest hrest']

/-- The last result of a sort comes from the last input of that sort. -/
theorem find?_of_mapM {f : α → Except ε β} {as : List α} {bs : List β} (h : as.mapM f = .ok bs) {p : α → Bool}
    {q : β → Bool} (hpq : ∀ a b, f a = .ok b → q b = p a) {b : β} :
    bs.reverse.find? q = some b ↔ ∃ a, as.reverse.find? p = some a ∧ f a = .ok b := by
  have hrev : List.Forall₂ (fun a b => f a = .ok b) as.reverse bs.reverse :=
    List.forall₂_reverse_iff.2 (mapM_eq_ok.1 h)
  generalize as.reverse = as', bs.reverse = bs' at hrev ⊢
  induction hrev with
  | nil => simp
  | cons hab _ ih =>
    rw [List.find?_cons, List.find?_cons, hpq _ _ hab]
    split
    · simp [hab]
    · exact ih

theorem keys_of_mapM {f : α → Except ε (String × β)} {as : List α} {es : Assoc β} (h : as.mapM f = .ok es)
    {name : α → String} (hname : ∀ a e, f a = .ok e → e.1 = name a) : es.keys = as.map name := by
  induction mapM_eq_ok.1 h with
  | nil => rfl
  | cons he hes ih =>
    rw [List.map_cons, ← ih (mapM_eq_ok.2 hes), ← hname _ _ he]
    rfl

theorem mapM_eq_ok_map {f : α → Except ε β} {P : α → Prop} {g : α → β} (hf : ∀ a b, f a = .ok b ↔ P a ∧ b = g a)
    {as : List α} {bs : List β} : as.mapM f = .ok bs ↔ (∀ a ∈ as, P a) ∧ bs = as.map g := by
  rw [mapM_eq_ok]
  induction as generalizing bs with
  | nil => simp
  | cons a as ih =>
    rw [List.forall₂_cons_left_iff, List.forall_mem_cons, List.map_cons]
    constructor
    · rintro ⟨b, rest, hb, hrest, rfl⟩
      obtain ⟨ha, rfl⟩ := (hf a b).1 hb
      obtain ⟨has, rfl⟩ := ih.1 hrest
      exact ⟨⟨ha, has⟩, rfl⟩
    · rintro ⟨⟨ha, has⟩, rfl⟩
      exact ⟨g a, as.map g, (hf a _).2 ⟨ha, rfl⟩, ih.2 ⟨has, rfl⟩, rfl⟩

theorem findSome?_eq_some_iff {f : α → Option β} {as : List α} {b : β} :
    as.findSome? f = some b ↔ ∃ a, as.find? (fun a => (f a).isSome) = some a ∧ f a = some b := by
  induction as with
  | nil => simp
  | cons a as ih =>
    rw [List.findSome?_cons, List.find?_cons]
    cases hf : f a with
    | some b' => simp [hf]
    | none => simp [ih]

end Attempt

namespace Action
variable {α β : Type}

@[simp] theorem apply_pure (a : α) (u : Universe) : (pure a : Action α).apply u = (.ok a, u) := rfl

theorem apply_bind (a : Action α) (f : α → Action β) (u : Universe) :
    (a >>= f).apply u =
      match a.apply u with
      | (.ok x, u') => (f x).apply u'
      | (.error e, u') => (.error e, u') := by
  change (ExceptT.run (a >>= f)).run u = _
  rw [ExceptT.run_bind, StateT.run_bind]
  change _ = match (ExceptT.run a).run u with | (.ok x, u') => (f x).apply u' | (.error e, u') => (.error e, u')
  rcases (ExceptT.run a).run u with ⟨r, u'⟩
  cases r <;> rfl

theorem apply_bind_ok {a : Action α} {u u' : Universe} {x : α} (h : a.apply u = (.ok x, u')) (f : α → Action β) :
    (a >>= f).apply u = (f x).apply u' := by
  rw [apply_bind, h]

theorem apply_bind_eq_ok {a : Action α} {f : α → Action β} {u u' : Universe} {y : β} :
    (a >>= f).apply u = (.ok y, u') ↔ ∃ x u₁, a.apply u = (.ok x, u₁) ∧ (f x).apply u₁ = (.ok y, u') := by
  rw [apply_bind]
  constructor
  · intro h
    rcases ha : a.apply u with ⟨_ | x, u₁⟩
    all_goals rw [ha] at h
    · cases h
    · exact ⟨x, u₁, rfl, h⟩
  · rintro ⟨x, u₁, hx, h⟩
    rw [hx]
    exact h

@[simp] theorem apply_get (u : Universe) : (get : Action Universe).apply u = (.ok u, u) := rfl

theorem apply_tryCatch_ok {a : Action α} {u u' : Universe} {x : α} (h : a.apply u = (.ok x, u'))
    (handler : Fault → Action α) : (tryCatch a handler).apply u = (.ok x, u') := by
  have hrun : a u = (.ok x, u') := h
  unfold Action.apply
  simp only [tryCatch, tryCatchThe, MonadExceptOf.tryCatch, ExceptT.tryCatch, ExceptT.mk, ExceptT.run, StateT.run, bind,
    StateT.bind, hrun]
  rfl

theorem apply_tryCatch_error {a : Action α} {u u' : Universe} {f : Fault} (h : a.apply u = (.error f, u'))
    (handler : Fault → Action α) : (tryCatch a handler).apply u = (handler f).apply u' := by
  have hrun : a u = (.error f, u') := h
  unfold Action.apply
  simp only [tryCatch, tryCatchThe, MonadExceptOf.tryCatch, ExceptT.tryCatch, ExceptT.mk, ExceptT.run, StateT.run, bind,
    StateT.bind, hrun]

end Action

end SchemaAssembly
