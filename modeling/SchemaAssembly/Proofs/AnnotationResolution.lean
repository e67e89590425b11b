import SchemaAssembly.Annotation.Evaluate
import SchemaAssembly.Proofs.Attempt

/-! Annotations in which nothing is quoted. Evaluating an annotation at every depth leaves such a one as it is, whatever
the quoted parts of others stand for. -/

namespace SchemaAssembly

namespace Ann

/-- The union of some members is already the one that is made of them. -/
def IsJoined : Spelling → List Ann → Prop
  | .aliased, ms => unionOf ms = .ok (union .aliased ms)
  | .direct, [] => False
  | .direct, m :: ms => m.bars ms = .ok (union .direct (m :: ms))

/-- Nothing in an annotation is quoted, and it is in normal form. -/
inductive Settled : Ann → Prop where
  | cls (c : ClassRef) : Settled (cls c)
  | null : Settled null
  | form (f : Form) : Settled (form f)
  | bareAlias (name : String) (origin : Builtin) : Settled (bareAlias name origin)
  | ellipsis : Settled ellipsis
  | literal (values : List Value) : Settled (literal values)
  | tuple (items : List Ann) : Settled (tuple items)
  | value (v : Value) : Settled (value v)
  | generic (spelling : Spelling) (origin : Builtin) {args : List Ann} (h : ∀ a ∈ args, Settled a) :
    Settled (generic spelling origin args)
  | classVar {inner : Ann} (h : Settled inner) : Settled (classVar inner)
  | union (spelling : Spelling) {members : List Ann} (h : ∀ m ∈ members, Settled m)
    (hjoined : IsJoined spelling members) : Settled (union spelling members)
  | annotated {base : Ann} (metadata : List Meta) (h : Settled base) (hlayer : base.strip = base) :
    Settled (annotated base metadata)

theorem annotate_of_strip {base : Ann} (h : base.strip = base) (ms : List Meta) :
    base.annotate ms = annotated base ms := by
  cases base with
  | annotated inner ns =>
    have hsize := sizeOf_strip_le inner
    rw [strip] at h
    rw [h] at hsize
    simp only [annotated.sizeOf_spec] at hsize
    omega
  | _ => rfl

theorem refer_of_isReference {s : String} (hs : s ≠ "") (hnull : s.contains nullCharacter = false)
    (h : Expression.isReference s = true) (whole : Bool) : refer s whole = .ok (reference s whole) := by
  unfold refer
  rw [if_neg hs, hnull, if_neg Bool.false_ne_true, if_pos h]

theorem Settled.not_text {a : Ann} (h : Settled a) (s : String) : a ≠ text s := by
  rintro rfl
  cases h

end Ann

namespace Scope
variable {lookup : String → Bool → Ann.Built} {args : List Ann}

theorem resolveAllWith_of_forall (h : ∀ a ∈ args, resolveWith lookup a = .ok a) :
    resolveAllWith lookup args = .ok args := by
  induction args with
  | nil => rfl
  | cons a args ih =>
    obtain ⟨ha, hargs⟩ := List.forall_mem_cons.1 h
    rw [resolveAllWith, ha, ih hargs]
    rfl

theorem referTexts_of_forall (h : ∀ a ∈ args, ∀ s, a ≠ .text s) : referTexts args = .ok () := by
  induction args with
  | nil => rfl
  | cons a args ih =>
    obtain ⟨ha, hargs⟩ := List.forall_mem_cons.1 h
    rw [referTexts]
    · exact ih hargs
    · exact ha

theorem resolveArguments_of_forall (htext : ∀ a ∈ args, ∀ s, a ≠ .text s)
    (h : ∀ a ∈ args, resolveWith lookup a = .ok a) : resolveArguments lookup args = .ok args := by
  induction args with
  | nil => rfl
  | cons a args ih =>
    obtain ⟨ha, hargs⟩ := List.forall_mem_cons.1 h
    obtain ⟨hta, htargs⟩ := List.forall_mem_cons.1 htext
    rw [resolveArguments, ha, ih htargs hargs]
    · rfl
    · exact hta

theorem resolveWith_of_settled {a : Ann} (h : a.Settled) : resolveWith lookup a = .ok a := by
  induction h with
  | generic spelling origin hargs ih =>
    cases spelling with
    | aliased =>
      rw [resolveWith, resolveAllWith_of_forall ih]
      rfl
    | direct =>
      have htext := fun a ha => (hargs a ha).not_text
      rw [resolveWith, referTexts_of_forall htext, Attempt.ok_bind, resolveArguments_of_forall htext ih]
      rfl
  | classVar _ ih =>
    rw [resolveWith, ih]
    rfl
  | @union spelling members _ hjoined ih =>
    cases spelling with
    | aliased =>
      rw [resolveWith, resolveAllWith_of_forall ih]
      exact hjoined
    | direct =>
      rw [resolveWith, resolveAllWith_of_forall ih]
      cases members with
      | nil => exact hjoined.elim
      | cons m ms => exact hjoined
  | annotated metadata _ hlayer ih =>
    rw [resolveWith, ih, Attempt.ok_bind, Ann.annotate_of_strip hlayer]
    rfl
  | _ => rfl

/-- A text without a star in front denotes a type in which nothing is quoted. -/
structure Spells (scope : Scope) (s : String) (a : Ann) : Prop where
  denotes : scope.evaluate s = .ok a
  unstarred : Expression.starred? s = none
  settled : a.Settled
  checked : ∀ whole, a.checked "Forward references must evaluate to types." whole = .ok a

theorem chainBound_pos (scope : Scope) (s : String) : 0 < chainBound scope s := by
  unfold chainBound
  refine Nat.add_pos_right _ ?_
  refine List.foldlRecOn (motive := fun n => 0 < n) _ _ Nat.one_pos fun n hn e _ => ?_
  split
  · exact Nat.succ_pos _
  · exact hn

theorem followText_of_spells {scope : Scope} {s : String} {a : Ann} (h : scope.Spells s a) (whole : Bool) :
    followText scope s whole = .ok a := by
  obtain ⟨n, hn⟩ := Nat.exists_eq_succ_of_ne_zero (Nat.ne_of_gt (chainBound_pos scope s))
  unfold followText
  rw [hn, follow, if_neg List.not_mem_nil, evaluateReference, h.unstarred, h.denotes, Attempt.ok_bind, h.checked,
    Attempt.ok_bind, resolveWith_of_settled h.settled]

/-- A text that can be the name of a type means what it denotes. -/
theorem resolve_of_spells {scope : Scope} {s : String} {a : Ann} (h : scope.Spells s a)
    (hrefer : Ann.refer s true = .ok (.reference s true)) : scope.resolve (.text s) = .ok a := by
  rw [resolve, hrefer, Attempt.ok_bind, followText_of_spells h]

theorem resolve_of_settled {scope : Scope} {a : Ann} (h : a.Settled) (hnull : a ≠ .null) :
    scope.resolve a = .ok a := by
  have hwith : resolveWith (followText scope) a = .ok a := resolveWith_of_settled h
  cases a with
  | null => exact absurd rfl hnull
  | text s => exact absurd rfl (h.not_text s)
  | _ => exact hwith

end Scope

end SchemaAssembly
