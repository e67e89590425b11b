/-! A map from names that keeps the order of first insertion: writing a present name changes its value
in place, a new name goes to the end, and erasing closes the gap. -/

namespace SchemaAssembly

abbrev Assoc (α : Type _) := List (String × α)

namespace Assoc
variable {α β : Type _}

def get? (m : Assoc α) (k : String) : Option α :=
  match m with
  | [] => none
  | e :: rest => if e.1 = k then some e.2 else get? rest k

def contains (m : Assoc α) (k : String) : Bool :=
  (get? m k).isSome

def insert (m : Assoc α) (k : String) (v : α) : Assoc α :=
  match m with
  | [] => [(k, v)]
  | e :: rest => if e.1 = k then (k, v) :: rest else e :: insert rest k v

def erase (m : Assoc α) (k : String) : Assoc α :=
  m.filter fun e => e.1 ≠ k

def keys (m : Assoc α) : List String :=
  m.map Prod.fst

def values (m : Assoc α) : List α :=
  m.map Prod.snd

/-- Writes the entries of `extra` one after the other. -/
def merge (m extra : Assoc α) : Assoc α :=
  extra.foldl (fun acc e => insert acc e.1 e.2) m

@[simp] theorem get?_nil (k : String) : get? ([] : Assoc α) k = none := rfl

theorem get?_cons (e : String × α) (m : Assoc α) (k : String) :
    get? (e :: m) k = if e.1 = k then some e.2 else get? m k := rfl

theorem get?_insert (m : Assoc α) (k : String) (v : α) (x : String) :
    get? (insert m k v) x = if k = x then some v else get? m x := by
  induction m with
  | nil => simp [insert, get?_cons]
  | cons e rest ih =>
    by_cases h : e.1 = k
    · simp only [insert, h, if_true, get?_cons]
      split <;> simp_all
    · simp only [insert, h, if_false, get?_cons, ih]
      by_cases hx : e.1 = x <;> by_cases hk : k = x <;> simp_all

theorem get?_erase (m : Assoc α) (k x : String) :
    get? (erase m k) x = if k = x then none else get? m x := by
  induction m with
  | nil => simp [erase]
  | cons e rest ih =>
    simp only [erase] at ih
    by_cases h : e.1 = k
    · simp only [erase, List.filter_cons, h, ne_eq, not_true, decide_false, Bool.false_eq_true, if_false,
        get?_cons, ih]
      split <;> simp_all
    · simp only [erase, List.filter_cons, ne_eq, h, not_false_eq_true, decide_true, if_true, get?_cons, ih]
      by_cases hx : e.1 = x <;> by_cases hk : k = x <;> simp_all

theorem keys_insert (m : Assoc α) (k : String) (v : α) :
    keys (insert m k v) = if k ∈ keys m then keys m else keys m ++ [k] := by
  induction m with
  | nil => simp [insert, keys]
  | cons e rest ih =>
    by_cases h : e.1 = k
    · simp [insert, h, keys]
    · have h' : k ≠ e.1 := fun c => h c.symm
      simp only [keys] at ih
      simp only [insert, h, if_false, keys, List.map_cons, ih, List.mem_cons, h', false_or]
      by_cases hk : k ∈ List.map Prod.fst rest <;> simp [hk]

@[simp] theorem keys_append (m m' : Assoc α) : keys (m ++ m') = keys m ++ keys m' := List.map_append

theorem get?_eq_none_iff (m : Assoc α) (k : String) : get? m k = none ↔ k ∉ keys m := by
  induction m with
  | nil => simp [keys]
  | cons e rest ih =>
    by_cases h : e.1 = k
    · simp [get?_cons, keys, h]
    · have h' : k ≠ e.1 := fun c => h c.symm
      simp only [keys] at ih
      simp [get?_cons, keys, h, h', ih]

theorem contains_iff (m : Assoc α) (k : String) : contains m k = true ↔ k ∈ keys m := by
  rw [contains, Option.isSome_iff_ne_none, ne_eq, get?_eq_none_iff, Decidable.not_not]

theorem mem_of_get? {m : Assoc α} {k : String} {v : α} (h : get? m k = some v) : (k, v) ∈ m := by
  induction m with
  | nil => cases h
  | cons e rest ih =>
    rw [get?_cons] at h
    split at h
    · next hk =>
      cases h
      exact hk ▸ List.mem_cons_self
    · exact List.mem_cons_of_mem _ (ih h)

theorem get?_of_mem {m : Assoc α} {k : String} {v : α} (hd : (keys m).Nodup) (h : (k, v) ∈ m) : get? m k = some v := by
  induction m with
  | nil => cases h
  | cons e rest ih =>
    obtain ⟨hn, hrest⟩ := List.nodup_cons.1 hd
    rw [get?_cons]
    rcases List.mem_cons.1 h with rfl | h
    · rw [if_pos rfl]
    · have hne : e.1 ≠ k := fun hk => hn (hk ▸ List.mem_map_of_mem h)
      rw [if_neg hne, ih hrest h]

theorem get?_append (m m' : Assoc α) (k : String) : get? (m ++ m') k = (get? m k).or (get? m' k) := by
  induction m with
  | nil => rfl
  | cons e rest ih =>
    rw [List.cons_append, get?_cons, get?_cons, ih]
    split <;> rfl

theorem get?_filter (m : Assoc α) (p : String → Bool) (k : String) :
    get? (m.filter fun e => p e.1) k = if p k then get? m k else none := by
  induction m with
  | nil => simp
  | cons e rest ih =>
    by_cases hk : e.1 = k
    · by_cases hp : p k <;> simp [get?_cons, hk, hp, ih]
    · by_cases hp : p e.1 <;> simp [get?_cons, hk, hp, ih]

theorem insert_of_notMem (m : Assoc α) (k : String) (v : α) (h : k ∉ keys m) : insert m k v = m ++ [(k, v)] := by
  induction m with
  | nil => rfl
  | cons e rest ih =>
    simp only [keys, List.map_cons, List.mem_cons, not_or] at h
    have h' : e.1 ≠ k := fun c => h.1 c.symm
    rw [insert, if_neg h', ih h.2, List.cons_append]

theorem insert_eq_self (m : Assoc α) (k : String) (v : α) (h : get? m k = some v) : insert m k v = m := by
  induction m with
  | nil => cases h
  | cons e rest ih =>
    rw [get?_cons] at h
    by_cases hk : e.1 = k
    · rw [if_pos hk] at h
      cases h
      rw [insert, if_pos hk, ← hk]
    · rw [if_neg hk] at h
      rw [insert, if_neg hk, ih h]

theorem insert_insert (m : Assoc α) (k : String) (v w : α) : insert (insert m k v) k w = insert m k w := by
  induction m with
  | nil => simp [insert]
  | cons e rest ih => by_cases hk : e.1 = k <;> simp [insert, hk, ih]

theorem mem_values_insert {m : Assoc α} {k : String} {v w : α} (h : w ∈ values (insert m k v)) :
    w = v ∨ w ∈ values m := by
  induction m with
  | nil => exact .inl (List.mem_singleton.1 h)
  | cons e rest ih =>
    rw [insert] at h
    split at h
    · exact (List.mem_cons.1 h).imp_right (List.mem_cons_of_mem _)
    · rcases List.mem_cons.1 h with h | h
      · exact .inr (h ▸ List.mem_cons_self)
      · exact (ih h).imp_right (List.mem_cons_of_mem _)

theorem length_insert_le (m : Assoc α) (k : String) (v : α) : (insert m k v).length ≤ m.length + 1 := by
  induction m with
  | nil => exact Nat.le_refl _
  | cons e rest ih =>
    rw [insert]
    split
    · exact Nat.le_succ _
    · exact Nat.succ_le_succ ih

theorem insert_comm (m : Assoc α) (k k' : String) (v v' : α) (hne : k ≠ k') (hk : k ∈ keys m) :
    insert (insert m k v) k' v' = insert (insert m k' v') k v := by
  induction m with
  | nil => cases hk
  | cons e rest ih =>
    by_cases he : e.1 = k
    · have he' : e.1 ≠ k' := fun c => hne (he.symm.trans c)
      simp [insert, he, hne]
    · have hrest : k ∈ keys rest := (List.mem_cons.1 hk).resolve_left fun c => he c.symm
      by_cases he' : e.1 = k'
      · simp [insert, he', Ne.symm hne]
      · simp [insert, he, he', ih hrest]

theorem nodup_keys_concat (m : Assoc α) (e : String × α) :
    (keys (m ++ [e])).Nodup ↔ e.1 ∉ keys m ∧ (keys m).Nodup := by
  rw [keys_append, List.nodup_append]
  constructor
  · rintro ⟨hm, -, hd⟩
    exact ⟨fun h => hd _ h _ (by simp [keys]) rfl, hm⟩
  · rintro ⟨he, hm⟩
    refine ⟨hm, by simp [keys], ?_⟩
    intro a ha b hb
    simp only [keys, List.map_cons, List.map_nil, List.mem_singleton] at hb
    rw [hb]
    exact fun h => he (h ▸ ha)

theorem nodup_keys_insert (m : Assoc α) (k : String) (v : α) (h : (keys m).Nodup) : (keys (insert m k v)).Nodup := by
  by_cases hk : k ∈ keys m
  · rw [keys_insert, if_pos hk]
    exact h
  · rw [insert_of_notMem m k v hk]
    exact (nodup_keys_concat m (k, v)).2 ⟨hk, h⟩

theorem mem_or_of_get?_merge {m extra : Assoc α} {k : String} {v : α} (h : get? (merge m extra) k = some v) :
    (k, v) ∈ extra ∨ get? m k = some v := by
  induction extra generalizing m with
  | nil => exact .inr h
  | cons e extra ih =>
    rcases ih h with hin | hget
    · exact .inl (List.mem_cons_of_mem _ hin)
    · rw [get?_insert] at hget
      split at hget
      · next hk =>
        cases hget
        exact .inl (hk ▸ List.mem_cons_self)
      · exact .inr hget

theorem mem_keys_merge (m extra : Assoc α) (k : String) : k ∈ keys (merge m extra) ↔ k ∈ keys m ∨ k ∈ keys extra := by
  unfold merge
  induction extra generalizing m with
  | nil => simp [keys]
  | cons e extra ih =>
    have hinsert : k ∈ keys (insert m e.1 e.2) ↔ k ∈ keys m ∨ k = e.1 := by
      rw [keys_insert]
      split
      · next he => exact ⟨.inl, fun h => h.elim id fun hk => hk ▸ he⟩
      · simp
    rw [List.foldl_cons, ih, hinsert, or_assoc]
    simp [keys]

theorem nodup_keys_merge (m extra : Assoc α) (h : (keys m).Nodup) : (keys (merge m extra)).Nodup := by
  unfold merge
  induction extra generalizing m with
  | nil => exact h
  | cons e extra ih => exact ih _ (nodup_keys_insert m e.1 e.2 h)

theorem mem_of_mem_merge_nil {extra : Assoc α} {e : String × α} (h : e ∈ merge [] extra) : e ∈ extra := by
  have hget := get?_of_mem (nodup_keys_merge [] extra List.nodup_nil) h
  exact (mem_or_of_get?_merge hget).resolve_right fun hnone => by cases hnone

/-- Entries that are written one after the other leave their names behind those that are there, each where it came
first. -/
theorem keys_merge (m extra : Assoc α) : keys (merge m extra) = keys m ++ ((keys extra).removeAll (keys m)).eraseDups := by
  unfold merge
  induction extra generalizing m with
  | nil => simp [keys, List.removeAll]
  | cons e extra ih =>
    have hkeys : keys (e :: extra) = e.1 :: keys extra := rfl
    rw [List.foldl_cons, ih, keys_insert, hkeys]
    by_cases he : e.1 ∈ keys m
    · simp [he, List.removeAll]
    · simp [he, List.removeAll, List.eraseDups_cons, Bool.and_comm, List.filter_filter, Bool.beq_eq_decide_eq]

/-- Of the entries of a name the last one counts. -/
theorem get?_merge (m extra : Assoc α) (k : String) :
    get? (merge m extra) k = ((extra.reverse.find? (·.1 = k)).map (·.2)).or (get? m k) := by
  unfold merge
  induction extra generalizing m with
  | nil => rfl
  | cons e extra ih =>
    rw [List.foldl_cons, ih, get?_insert, List.reverse_cons, List.find?_append]
    cases extra.reverse.find? (·.1 = k) with
    | some e' => rfl
    | none => by_cases hk : e.1 = k <;> simp [hk]

theorem merge_of_nodup (m extra : Assoc α) (h : (keys (m ++ extra)).Nodup) : merge m extra = m ++ extra := by
  unfold merge
  induction extra generalizing m with
  | nil => simp
  | cons e extra ih =>
    rw [List.append_cons] at h ⊢
    have he : e.1 ∉ keys m := by
      rw [keys_append] at h
      exact ((nodup_keys_concat m e).1 (List.nodup_append.1 h).1).1
    rw [List.foldl_cons, insert_of_notMem _ _ _ he, ih _ h]

/-- A name that is there, and not among the entries, can be written before or after them. -/
theorem insert_merge {m extra : Assoc α} {k : String} (v : α) (hm : k ∈ keys m) (he : k ∉ keys extra) :
    insert (merge m extra) k v = merge (insert m k v) extra := by
  unfold merge
  induction extra generalizing m with
  | nil => rfl
  | cons e extra ih =>
    obtain ⟨hne, hrest⟩ := not_or.1 (mt List.mem_cons.2 he)
    have hkeys : k ∈ keys (insert m e.1 e.2) := (mem_keys_merge m [e] k).2 (.inl hm)
    rw [List.foldl_cons, List.foldl_cons, insert_comm _ _ _ _ _ hne hm, ih hkeys hrest]

/-- Writing entries of distinct names with one more comes to writing that one last. -/
theorem merge_insert (m : Assoc α) {extra : Assoc α} (h : (keys extra).Nodup) (k : String) (v : α) :
    merge m (insert extra k v) = insert (merge m extra) k v := by
  induction extra generalizing m with
  | nil => rfl
  | cons e extra ih =>
    obtain ⟨he, hrest⟩ := List.nodup_cons.1 h
    rw [insert]
    split
    · next hk =>
      subst hk
      have hkeys : e.1 ∈ keys (insert m e.1 e.2) := (mem_keys_merge m [e] e.1).2 (.inr List.mem_cons_self)
      change merge (insert m e.1 v) extra = insert (merge (insert m e.1 e.2) extra) e.1 v
      rw [insert_merge v hkeys he, insert_insert]
    · exact ih (insert m e.1 e.2) hrest

/-- Entries that were written to another map first are written as they are. -/
theorem merge_merge (m : Assoc α) {m' : Assoc α} (h : (keys m').Nodup) (extra : Assoc α) :
    merge m (merge m' extra) = merge (merge m m') extra := by
  induction extra generalizing m' with
  | nil => rfl
  | cons e extra ih =>
    change merge m (merge (insert m' e.1 e.2) extra) = merge (insert (merge m m') e.1 e.2) extra
    rw [ih (nodup_keys_insert m' e.1 e.2 h), merge_insert m h]

theorem get?_map_values (m : Assoc α) (f : String → α → β) (k : String) :
    get? (m.map fun e => (e.1, f e.1 e.2)) k = (get? m k).map (f k) := by
  induction m with
  | nil => rfl
  | cons e rest ih =>
    rw [List.map_cons, get?_cons, get?_cons, ih]
    split
    · next h => rw [h, Option.map_some]
    · rfl

theorem get?_map_keys {m : Assoc α} {f : String → String} (hf : ∀ a ∈ keys m, ∀ b ∈ keys m, f a = f b → a = b)
    {k : String} (hk : k ∈ keys m) : get? (m.map fun e => (f e.1, e.2)) (f k) = get? m k := by
  induction m with
  | nil => cases hk
  | cons e rest ih =>
    rw [List.map_cons, get?_cons, get?_cons]
    by_cases he : e.1 = k
    · rw [if_pos he, if_pos (congrArg f he)]
    · rw [if_neg he, if_neg fun h => he (hf _ List.mem_cons_self _ hk h)]
      refine ih (fun a ha b hb => hf a (List.mem_cons_of_mem _ ha) b (List.mem_cons_of_mem _ hb)) ?_
      exact (List.mem_cons.1 hk).resolve_left fun h => he h.symm

theorem nodup_keys_erase (m : Assoc α) (k : String) (h : (keys m).Nodup) : (keys (erase m k)).Nodup :=
  h.sublist (List.filter_sublist.map _)

end Assoc

end SchemaAssembly
