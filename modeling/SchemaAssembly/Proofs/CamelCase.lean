import SchemaAssembly.Naming
import SchemaAssembly.Wire.Name
import Mathlib

/-! Camel case as a normal form. A name keeps the underscores in front of it. If underscores part what follows, the parts
are put together, each one behind the first with its first character in upper case; any other name stays as it is, so
that a name in camel case does. The upper case of a character brings no underscore in, and keeps what can stand in a name
of the schema. -/

namespace SchemaAssembly

namespace Text
variable {c : Char}

theorem ofNat_eq_underscore {n : Nat} (h : Char.ofNat n = '_') : n = 0x5f := by
  unfold Char.ofNat at h
  split at h
  · exact congrArg Char.toNat h
  · exact absurd h (by decide)

theorem underscore_notMem_upperCodes {n : Nat} (hn : n ≠ 0x5f) : 0x5f ∉ upperCodes n := by
  have hexpansions : ∀ e ∈ upperExpansions, 0x5f ∉ e.2 := by decide +kernel
  have hruns : ∀ r ∈ upperRuns, 0x5f < r.2.2.2 ∨ r.2.2.2 + (r.2.1 - r.1) < 0x5f := by decide +kernel
  unfold upperCodes
  split
  · next codes h =>
    obtain ⟨before, after, hsplit, -⟩ := List.lookup_eq_some_iff.1 h
    exact hexpansions (n, codes) (hsplit ▸ List.mem_append_right _ List.mem_cons_self)
  split
  · next r hr =>
    have hrange := List.find?_some hr
    have htarget := hruns r (List.mem_of_find?_eq_some hr)
    simp only [Bool.and_eq_true, decide_eq_true_eq] at hrange
    rw [List.mem_singleton]
    omega
  · rw [List.mem_singleton]
    exact Ne.symm hn

theorem underscore_notMem_upper (hc : c ≠ '_') : '_' ∉ upper c := by
  by_cases hascii : c.toNat < 0x80
  · have hupper : ∀ n < 0x80, Char.ofNat n ≠ '_' → '_' ≠ (Char.ofNat n).toUpper := by decide
    rw [upper_ascii hascii, List.mem_singleton]
    exact of_ascii (P := fun c => c ≠ '_' → '_' ≠ c.toUpper) hupper hascii hc
  · unfold upper
    rw [if_neg hascii, List.mem_map]
    rintro ⟨n, hn, heq⟩
    rw [ofNat_eq_underscore heq] at hn
    exact underscore_notMem_upperCodes (fun h => hascii (by omega)) hn

theorem ascii_of_isNameContinue (hc : Wire.isNameContinue c = true) : c.toNat < 0x80 := by
  have hbound {b : Char} (h : c.val ≤ b.val) (hb : b.toNat < 0x80) : c.toNat < 0x80 :=
    Nat.lt_of_le_of_lt (UInt32.le_iff_toNat_le.1 h) hb
  simp only [Wire.isNameContinue, Char.isAlphanum, Char.isAlpha, Char.isUpper, Char.isLower, Char.isDigit,
    Bool.or_eq_true, Bool.and_eq_true, decide_eq_true_eq, beq_iff_eq] at hc
  rcases hc with ((⟨-, h⟩ | ⟨-, h⟩) | ⟨-, h⟩) | rfl
  · exact hbound h (by decide)
  · exact hbound h (by decide)
  · exact hbound h (by decide)
  · decide

theorem isNameContinue_upper (hc : Wire.isNameContinue c = true) : ∀ d ∈ upper c, Wire.isNameContinue d = true := by
  have hascii := ascii_of_isNameContinue hc
  have hupper : ∀ n < 0x80, Wire.isNameContinue (Char.ofNat n) = true →
      Wire.isNameContinue (Char.ofNat n).toUpper = true := by decide
  rw [upper_ascii hascii]
  exact List.forall_mem_singleton.2
    (of_ascii (P := fun c => Wire.isNameContinue c = true → Wire.isNameContinue c.toUpper = true) hupper hascii hc)

end Text

/-- A name is accepted if it begins with a letter or an underscore, and only letters, digits and underscores follow. -/
theorem Wire.checkName_eq_ok {name : String} :
    Wire.checkName name = .ok () ↔
      name.toList.head?.any Wire.isNameStart = true ∧ ∀ c ∈ name.toList, Wire.isNameContinue c = true := by
  have hstart {c : Char} (h : Wire.isNameStart c = true) : Wire.isNameContinue c = true := by
    unfold Wire.isNameStart at h
    unfold Wire.isNameContinue Char.isAlphanum
    simp only [Bool.or_eq_true] at h ⊢
    exact h.imp_left .inl
  unfold Wire.checkName Wire.nameFault?
  cases name.toList with
  | nil => simp
  | cons c cs =>
    rw [List.head?_cons, Option.any_some, List.forall_mem_cons, ← List.all_eq_true]
    dsimp only
    generalize cs.all Wire.isNameContinue = later
    cases later with
    | false => simp
    | true =>
      cases hc : Wire.isNameStart c with
      | false => simp
      | true => simp [hstart hc]

namespace Naming
variable {cs first s : List Char} {rest : List (List Char)}

section Segments

theorem modifyHead_nil_append (parts : List (List Char)) : parts.modifyHead ([] ++ ·) = parts := by
  cases parts <;> rfl

theorem segmentsFrom_eq (cur cs : List Char) :
    segmentsFrom cur cs = ((cs.splitOn '_').modifyHead (cur ++ ·)).filter (· ≠ []) := by
  induction cs generalizing cur with
  | nil => cases cur <;> simp [segmentsFrom]
  | cons c cs ih =>
    rw [segmentsFrom, List.splitOn_cons_eq_if_modifyHead]
    by_cases hc : c = '_'
    · rw [if_pos hc, ih, modifyHead_nil_append]
      cases cur <;> simp [hc]
    · simp [hc, ih, Function.comp_def]

/-- The segments are what stands between the underscores, as far as anything does. -/
theorem segments_eq_splitOn (cs : List Char) : segments cs = (cs.splitOn '_').filter (· ≠ []) := by
  unfold segments
  rw [segmentsFrom_eq, modifyHead_nil_append]

theorem mem_segmentsFrom {cur : List Char} (hcur : '_' ∉ cur) (h : s ∈ segmentsFrom cur cs) :
    s ≠ [] ∧ '_' ∉ s ∧ s ⊆ cur ++ cs := by
  have hread {cur : List Char} (hcur : '_' ∉ cur) (h : s ∈ if cur.isEmpty then [] else [cur]) :
      s ≠ [] ∧ '_' ∉ s ∧ s ⊆ cur := by
    split at h
    · cases h
    · next hne =>
      rw [List.mem_singleton.1 h]
      exact ⟨fun hnil => hne (List.isEmpty_iff.2 hnil), hcur, List.Subset.refl _⟩
  induction cs generalizing cur with
  | nil =>
    rw [List.append_nil]
    exact hread hcur h
  | cons c cs ih =>
    rw [segmentsFrom] at h
    split at h
    · rcases List.mem_append.1 h with h | h
      · obtain ⟨hne, hunderscore, hsub⟩ := hread hcur h
        exact ⟨hne, hunderscore, fun _ hd => List.mem_append_left _ (hsub hd)⟩
      · obtain ⟨hne, hunderscore, hsub⟩ := ih List.not_mem_nil h
        exact ⟨hne, hunderscore, fun _ hd => List.mem_append_right _ (List.mem_cons_of_mem _ (hsub hd))⟩
    · next hc =>
      have hnext := ih (List.not_mem_append hcur (mt List.mem_singleton.1 (Ne.symm hc))) h
      rwa [List.append_assoc] at hnext

theorem mem_segments (h : s ∈ segments cs) : s ≠ [] ∧ '_' ∉ s ∧ s ⊆ cs :=
  mem_segmentsFrom List.not_mem_nil h

theorem segments_of_notMem (hne : cs ≠ []) (h : '_' ∉ cs) : segments cs = [cs] := by
  rw [segments_eq_splitOn, List.splitOn_eq_singleton h]
  exact List.filter_cons_of_pos (decide_eq_true hne)

theorem segments_replicate_append (n : Nat) (cs : List Char) : segments (List.replicate n '_' ++ cs) = segments cs := by
  induction n with
  | zero => rfl
  | succ n ih => exact ih

end Segments

section Leading

def leading (cs : List Char) : List Char :=
  cs.takeWhile (· = '_')

theorem eq_of_mem_leading {c : Char} (h : c ∈ leading cs) : c = '_' :=
  of_decide_eq_true (List.all_eq_true.1 List.all_takeWhile c h)

theorem segments_leading_append (cs s : List Char) : segments (leading cs ++ s) = segments s := by
  have hreplicate : leading cs = List.replicate (leading cs).length '_' :=
    List.eq_replicate_iff.2 ⟨rfl, fun _ => eq_of_mem_leading⟩
  rw [hreplicate]
  exact segments_replicate_append _ s

theorem leading_leading_append (h : '_' ∉ s) : leading (leading cs ++ s) = leading cs := by
  have hnone : leading s = [] := List.eq_nil_iff_forall_not_mem.2 fun c hc =>
    h (eq_of_mem_leading hc ▸ (List.takeWhile_sublist _).subset hc)
  change (leading cs ++ s).takeWhile _ = _
  rw [List.takeWhile_append_of_pos fun c hc => decide_eq_true (eq_of_mem_leading hc)]
  change leading cs ++ leading s = _
  rw [hnone, List.append_nil]

theorem head?_leading_append (h : segments cs = first :: rest) : (leading cs ++ first).head? = cs.head? := by
  cases cs with
  | nil => cases h
  | cons c cs =>
    by_cases hc : c = '_'
    · simp [leading, hc]
    · have hfirst : segments (c :: cs) = segmentsFrom [c] cs := if_neg hc
      have hnone : leading (c :: cs) = [] := by simp [leading, hc]
      rw [hnone, List.nil_append]
      obtain ⟨part, parts, hsplit⟩ := List.exists_cons_of_ne_nil (List.splitOn_ne_nil '_' cs)
      rw [hfirst, segmentsFrom_eq, hsplit] at h
      cases h
      rfl

end Leading

section Camel
variable {second : List Char}

/-- Segments as one word, the later ones with their first characters in upper case. -/
def joined (first : List Char) (rest : List (List Char)) : List Char :=
  first ++ rest.flatMap fun s => (s.take 1).flatMap Text.upper ++ s.drop 1

theorem capitalize_eq (s : List Char) : capitalize s = (s.take 1).flatMap Text.upper ++ s.drop 1 := by
  cases s with
  | nil => rfl
  | cons c cs =>
    rw [capitalize, List.take_succ_cons, List.take_zero, List.flatMap_singleton]
    rfl

theorem mem_capitalize {c : Char} (h : c ∈ capitalize s) : c ∈ s ∨ ∃ d ∈ s, c ∈ Text.upper d := by
  cases s with
  | nil => exact .inl h
  | cons d cs =>
    rcases List.mem_append.1 h with h | h
    · exact .inr ⟨d, List.mem_cons_self, h⟩
    · exact .inl (List.mem_cons_of_mem _ h)

/-- What is joined consists of characters of the segments, as they are or in upper case. -/
theorem mem_joined {c : Char} (h : c ∈ joined first rest) :
    ∃ s ∈ first :: rest, c ∈ s ∨ ∃ d ∈ s, c ∈ Text.upper d := by
  rcases List.mem_append.1 h with h | h
  · exact ⟨first, List.mem_cons_self, .inl h⟩
  · obtain ⟨s, hs, hc⟩ := List.mem_flatMap.1 h
    rw [← capitalize_eq] at hc
    exact ⟨s, List.mem_cons_of_mem _ hs, mem_capitalize hc⟩

theorem underscore_notMem_joined (h : segments cs = first :: rest) : '_' ∉ joined first rest := by
  intro hmem
  obtain ⟨s, hs, hc⟩ := mem_joined hmem
  have hnone := (mem_segments (h ▸ hs)).2.1
  rcases hc with hc | ⟨d, hd, hc⟩
  · exact hnone hc
  · exact Text.underscore_notMem_upper (fun heq => hnone (heq ▸ hd)) hc

theorem joined_ne_nil (h : segments cs = first :: rest) : joined first rest ≠ [] := fun hnil =>
  (mem_segments (h ▸ List.mem_cons_self)).1 (List.append_eq_nil_iff.1 hnil).1

theorem camelChars_of_segments (h : segments cs = first :: second :: rest) :
    camelChars cs = leading cs ++ joined first (second :: rest) := by
  unfold camelChars joined
  rw [h]
  simp only [← capitalize_eq, ← List.append_assoc]
  rfl

theorem camelChars_of_length_le (h : (segments cs).length ≤ 1) : camelChars cs = cs := by
  unfold camelChars
  split
  · next first second rest hsegments =>
    rw [hsegments] at h
    exact absurd h (by simp)
  · rfl

theorem exists_of_length_gt (h : ¬ (segments cs).length ≤ 1) :
    ∃ first second rest, segments cs = first :: second :: rest := by
  match hsegments : segments cs with
  | [] | [_] => simp [hsegments] at h
  | first :: second :: rest => exact ⟨first, second, rest, rfl⟩

/-- What is left in camel case is at most one segment. -/
theorem length_segments_camelChars (cs : List Char) : (segments (camelChars cs)).length ≤ 1 := by
  by_cases h : (segments cs).length ≤ 1
  · rwa [camelChars_of_length_le h]
  · obtain ⟨first, second, rest, hsegments⟩ := exists_of_length_gt h
    rw [camelChars_of_segments hsegments, segments_leading_append,
      segments_of_notMem (joined_ne_nil hsegments) (underscore_notMem_joined hsegments)]
    exact Nat.le_refl 1

theorem head?_camelChars (cs : List Char) : (camelChars cs).head? = cs.head? := by
  by_cases h : (segments cs).length ≤ 1
  · rw [camelChars_of_length_le h]
  · obtain ⟨first, second, rest, hsegments⟩ := exists_of_length_gt h
    obtain ⟨c, front, hfront⟩ := List.exists_cons_of_ne_nil fun hnil : leading cs ++ first = [] =>
      (mem_segments (hsegments ▸ List.mem_cons_self)).1 (List.append_eq_nil_iff.1 hnil).2
    rw [camelChars_of_segments hsegments, joined, ← List.append_assoc, ← head?_leading_append hsegments, hfront]
    rfl

/-- Every character is one of the name, or of the upper case of one of the name. -/
theorem mem_camelChars {c : Char} (h : c ∈ camelChars cs) : c ∈ cs ∨ ∃ d ∈ cs, c ∈ Text.upper d := by
  by_cases hlength : (segments cs).length ≤ 1
  · rw [camelChars_of_length_le hlength] at h
    exact .inl h
  obtain ⟨first, second, rest, hsegments⟩ := exists_of_length_gt hlength
  rw [camelChars_of_segments hsegments] at h
  rcases List.mem_append.1 h with h | h
  · exact .inl ((List.takeWhile_sublist _).subset h)
  · obtain ⟨s, hs, hc⟩ := mem_joined h
    have hsub := (mem_segments (hsegments ▸ hs)).2.2
    exact hc.imp (fun hc => hsub hc) fun ⟨d, hd, hc⟩ => ⟨d, hsub hd, hc⟩

theorem camelChars_idem (cs : List Char) : camelChars (camelChars cs) = camelChars cs :=
  camelChars_of_length_le (length_segments_camelChars cs)

theorem leading_camelChars (cs : List Char) : leading (camelChars cs) = leading cs := by
  by_cases h : (segments cs).length ≤ 1
  · rw [camelChars_of_length_le h]
  · obtain ⟨first, second, rest, hsegments⟩ := exists_of_length_gt h
    rw [camelChars_of_segments hsegments, leading_leading_append (underscore_notMem_joined hsegments)]

theorem camelChars_eq_self_iff (cs : List Char) : camelChars cs = cs ↔ (segments cs).length ≤ 1 :=
  ⟨fun h => h ▸ length_segments_camelChars cs, camelChars_of_length_le⟩

end Camel

theorem toList_camel (name : String) : (camel name).toList = camelChars name.toList :=
  String.toList_ofList

/-- A name that the schema accepts is accepted in camel case. -/
theorem checkName_camel {name : String} (h : Wire.checkName name = .ok ()) : Wire.checkName (camel name) = .ok () := by
  rw [Wire.checkName_eq_ok, toList_camel] at *
  rw [head?_camelChars]
  refine ⟨h.1, fun c hc => ?_⟩
  rcases mem_camelChars hc with hc | ⟨d, hd, hc⟩
  · exact h.2 c hc
  · exact Text.isNameContinue_upper (h.2 d hd) c hc

/-- Camel case is a normal form. It keeps the leading underscores, and changes a name exactly if it has several
segments. Then there is no underscore behind the leading ones, but the segments put together, each but the first with
its first character in upper case. What the schema accepts as a name stays one. -/
theorem camel_normalForm (name : String) :
    camel (camel name) = camel name ∧
    leading (camel name).toList = leading name.toList ∧
    (camel name = name ↔ ((name.toList.splitOn '_').filter (· ≠ [])).length ≤ 1) ∧
    (∀ first second rest, (name.toList.splitOn '_').filter (· ≠ []) = first :: second :: rest →
      (camel name).toList = leading name.toList ++ joined first (second :: rest) ∧
        '_' ∉ joined first (second :: rest)) ∧
    (Wire.checkName name = .ok () → Wire.checkName (camel name) = .ok ()) := by
  refine ⟨?_, ?_, ?_, fun first second rest hsegments => ?_, checkName_camel⟩
  · rw [← String.toList_inj, toList_camel, toList_camel, camelChars_idem]
  · rw [toList_camel, leading_camelChars]
  · rw [← String.toList_inj, toList_camel, camelChars_eq_self_iff, segments_eq_splitOn]
  · rw [← segments_eq_splitOn] at hsegments
    exact ⟨by rw [toList_camel, camelChars_of_segments hsegments], underscore_notMem_joined hsegments⟩

/-- A character whose upper case is two characters. -/
example : camel "_a__ßb_" = "_aSSb" := by decide +kernel

/-- A name with three segments, which the schema accepts. -/
theorem find_by_id_normalForm :
    ("_find_by__id_".toList.splitOn '_').filter (· ≠ []) = ["find".toList, "by".toList, "id".toList] ∧
    (camel "_find_by__id_").toList = leading "_find_by__id_".toList ++ joined "find".toList ["by".toList, "id".toList] ∧
    Wire.checkName "_find_by__id_" = .ok () ∧ Wire.checkName (camel "_find_by__id_") = .ok () := by
  obtain ⟨-, -, -, hjoined, hname⟩ := camel_normalForm "_find_by__id_"
  have hsegments : ("_find_by__id_".toList.splitOn '_').filter (· ≠ []) =
      ["find".toList, "by".toList, "id".toList] := by decide
  have hchecked : Wire.checkName "_find_by__id_" = .ok () :=
    Wire.checkName_eq_ok.2 (by simp [Wire.isNameStart, Wire.isNameContinue])
  exact ⟨hsegments, (hjoined _ _ _ hsegments).1, hchecked, hname hchecked⟩

end Naming

end SchemaAssembly
