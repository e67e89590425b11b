import SchemaAssembly.Failure
import SchemaAssembly.Proofs.Attempt
import Mathlib.Data.List.TakeWhile

/-! The options that an environment sets. Each depends on one entry, whose value is read in lower case and without the
blanks around it. Lower case leads to two ASCII letters from elsewhere, `i` and `k`, and no word that is looked for has
them. So a value is accepted exactly if it is one of the words but for the case of its ASCII letters and the blanks
around it. -/

namespace SchemaAssembly

namespace Text
variable {c d : Char} {cs ds core word : List Char}

section LowerCase

/-- The same text but for the case of ASCII letters, the only ones that `Char.toLower` changes. -/
def CaseVariant (cs ds : List Char) : Prop :=
  cs.map Char.toLower = ds.map Char.toLower

instance (cs ds : List Char) : Decidable (CaseVariant cs ds) :=
  inferInstanceAs (Decidable (_ = _))

theorem CaseVariant.symm (h : CaseVariant cs ds) : CaseVariant ds cs :=
  Eq.symm h

theorem CaseVariant.trans {es : List Char} (h : CaseVariant cs ds) (h' : CaseVariant ds es) : CaseVariant cs es :=
  Eq.trans h h'

theorem toLower_of_not_ascii (h : ¬ c.toNat < 0x80) : c.toLower = c := by
  unfold Char.toLower
  refine dif_neg fun hupper => h ?_
  exact Nat.lt_of_le_of_lt (UInt32.le_iff_toNat_le.1 hupper.2) (by decide)

/-- Another code point leads to an ASCII one only by way of the capital I with a dot or the Kelvin sign. -/
theorem mem_lowerCodes {n m : Nat} (hn : ¬ n < 0x80) (hvalid : n.isValidChar) (hm : m ∈ lowerCodes n) :
    m = 0x69 ∨ m = 0x6b ∨ ¬ m < 0x80 ∧ m.isValidChar := by
  have hruns : ∀ r ∈ lowerRuns, r.2.1 < 0x80 ∨ r = (0x212a, 0x212a, 1, 0x6b) ∨ 0x80 ≤ r.2.2.2 ∧
      (r.2.2.2 + (r.2.1 - r.1) < 0xd800 ∨ 0xdfff < r.2.2.2 ∧ r.2.2.2 + (r.2.1 - r.1) < 0x110000) := by decide +kernel
  unfold lowerCodes at hm
  unfold Nat.isValidChar at hvalid ⊢
  split at hm
  · simp only [List.mem_cons, List.not_mem_nil, or_false] at hm
    omega
  split at hm
  · next r hr =>
    have hrange := List.find?_some hr
    simp only [Bool.and_eq_true, decide_eq_true_eq] at hrange
    rw [List.mem_singleton] at hm
    rcases hruns r (List.mem_of_find?_eq_some hr) with hascii | rfl | htarget
    · omega
    · dsimp only at hrange hm
      omega
    · omega
  · rw [List.mem_singleton] at hm
    omega

theorem mem_lower (hc : ¬ c.toNat < 0x80) (hd : d ∈ lower c) : d = 'i' ∨ d = 'k' ∨ ¬ d.toNat < 0x80 := by
  unfold lower at hd
  rw [if_neg hc, List.mem_map] at hd
  obtain ⟨m, hm, rfl⟩ := hd
  rcases mem_lowerCodes hc c.valid hm with rfl | rfl | ⟨hm, hvalid⟩
  · exact .inl rfl
  · exact .inr (.inl rfl)
  · refine .inr (.inr ?_)
    unfold Char.ofNat
    rwa [dif_pos hvalid]

theorem lower_ne_nil (c : Char) : lower c ≠ [] := by
  unfold lower lowerCodes
  split
  · exact List.cons_ne_nil _ _
  · repeat' split
    all_goals exact List.cons_ne_nil _ _

theorem lowerAfter_ascii (h : ∀ c ∈ cs, c.toNat < 0x80) (before : Bool) :
    lowerAfter before cs = cs.map Char.toLower := by
  induction cs generalizing before with
  | nil => rfl
  | cons c cs ih =>
    obtain ⟨hc, hcs⟩ := List.forall_mem_cons.1 h
    have hsigma : c.toNat ≠ 0x3a3 := by omega
    rw [lowerAfter, if_neg hsigma, lower_ascii hc, ih hcs]
    rfl

/-- A text is ASCII if its lower case is, without the letters that lower case brings in. -/
theorem ascii_of_lowerAfter (before : Bool) (h : ∀ d ∈ lowerAfter before cs, d.toNat < 0x80 ∧ d ≠ 'i' ∧ d ≠ 'k') :
    ∀ c ∈ cs, c.toNat < 0x80 := by
  induction cs generalizing before with
  | nil => exact fun _ h => nomatch h
  | cons c cs ih =>
    rw [lowerAfter] at h
    obtain ⟨hhead, htail⟩ := List.forall_mem_append.1 h
    refine List.forall_mem_cons.2 ⟨?_, ih _ htail⟩
    by_contra hc
    split at hhead
    · have hsigma := (List.forall_mem_singleton.1 hhead).1
      revert hsigma
      split <;> decide
    · obtain ⟨d, hd⟩ := List.exists_mem_of_ne_nil _ (lower_ne_nil c)
      obtain ⟨hascii, hi, hk⟩ := hhead d hd
      rcases mem_lower hc hd with h | h | h
      · exact hi h
      · exact hk h
      · exact h hascii

/-- A word in lower case that lower case can come to from ASCII characters only. -/
def Plain (word : List Char) : Prop :=
  ∀ d ∈ word, d.toNat < 0x80 ∧ d ≠ 'i' ∧ d ≠ 'k' ∧ d.toLower = d

instance (word : List Char) : Decidable (Plain word) :=
  List.decidableBAll _ word

theorem lowercase_eq_iff (hword : Plain word) : lowercase cs = word ↔ CaseVariant cs word := by
  have hlower : word.map Char.toLower = word :=
    (List.map_congr_left fun d hd => (hword d hd).2.2.2).trans (List.map_id' word)
  unfold lowercase CaseVariant
  rw [hlower]
  constructor
  · intro h
    have hascii : ∀ c ∈ cs, c.toNat < 0x80 := by
      refine ascii_of_lowerAfter false fun d hd => ?_
      rw [h] at hd
      obtain ⟨hascii, hi, hk, -⟩ := hword d hd
      exact ⟨hascii, hi, hk⟩
    rwa [lowerAfter_ascii hascii] at h
  · intro h
    have hascii : ∀ c ∈ cs, c.toNat < 0x80 := by
      intro c hc
      by_contra hnot
      have hmem : c.toLower ∈ word := h ▸ List.mem_map_of_mem hc
      rw [toLower_of_not_ascii hnot] at hmem
      exact hnot (hword c hmem).1
    rw [lowerAfter_ascii hascii, h]

end LowerCase

section Blanks

/-- A text with nothing but blanks around it. -/
def Padded (core cs : List Char) : Prop :=
  ∃ before after, (∀ c ∈ before, isBlank c) ∧ (∀ c ∈ after, isBlank c) ∧ cs = before ++ core ++ after

theorem padded_trim (cs : List Char) : Padded (trim cs) cs := by
  refine ⟨cs.takeWhile isBlank, ((cs.dropWhile isBlank).reverse.takeWhile isBlank).reverse, ?_, ?_, ?_⟩
  · exact fun c hc => List.mem_takeWhile_imp hc
  · exact fun c hc => List.mem_takeWhile_imp (List.mem_reverse.1 hc)
  · rw [trim, trimBy, List.append_assoc, ← List.reverse_append, List.takeWhile_append_dropWhile, List.reverse_reverse,
      List.takeWhile_append_dropWhile]

theorem trim_of_padded (h : Padded core cs) : trim cs = trim core := by
  obtain ⟨before, after, hbefore, hafter, rfl⟩ := h
  have hreverse : ∀ c ∈ after.reverse, isBlank c := fun c hc => hafter c (List.mem_reverse.1 hc)
  unfold trim trimBy
  rw [List.append_assoc, List.dropWhile_append_of_pos hbefore, List.dropWhile_append]
  split
  · next hnil =>
    rw [List.isEmpty_iff.1 hnil, List.dropWhile_eq_nil_iff.2 hafter]
  · rw [List.reverse_append, List.dropWhile_append_of_pos hreverse]

theorem isBlank_toLower (c : Char) : isBlank c.toLower = isBlank c := by
  by_cases hc : c.toNat < 0x80
  · exact of_ascii (P := fun c => isBlank c.toLower = isBlank c) (by decide) hc
  · rw [toLower_of_not_ascii hc]

theorem trim_map_toLower (cs : List Char) : trim (cs.map Char.toLower) = (trim cs).map Char.toLower := by
  have hblank : isBlank ∘ Char.toLower = isBlank := funext isBlank_toLower
  unfold trim trimBy
  rw [List.dropWhile_map, hblank, ← List.map_reverse, List.dropWhile_map, hblank, ← List.map_reverse]

theorem CaseVariant.trim (h : CaseVariant cs ds) : CaseVariant (trim cs) (trim ds) := by
  unfold CaseVariant at h ⊢
  rw [← trim_map_toLower, h, trim_map_toLower]

end Blanks

end Text

namespace Config
variable {raw raw' word pre key : String} {env env' : Assoc String}

/-- A value that is a word but for the case of ASCII letters and the blanks around it. -/
def Spells (raw word : String) : Prop :=
  ∃ core, Text.Padded core raw.toList ∧ Text.CaseVariant core word.toList

/-- Two values that are the same but for the case of ASCII letters and the blanks around them. -/
def Alike (raw raw' : String) : Prop :=
  ∃ core core', Text.Padded core raw.toList ∧ Text.Padded core' raw'.toList ∧ Text.CaseVariant core core'

def words (on : Bool) : List String :=
  if on then truthy else falsy

theorem plain_of_mem_words {on : Bool} (h : word ∈ words on) :
    Text.Plain word.toList ∧ Text.trim word.toList = word.toList := by
  have hwords : ∀ on, ∀ w ∈ words on, Text.Plain w.toList ∧ Text.trim w.toList = w.toList := by decide
  exact hwords on word h

theorem spells_iff_trim {on : Bool} (h : word ∈ words on) :
    Spells raw word ↔ Text.CaseVariant (Text.trim raw.toList) word.toList := by
  constructor
  · rintro ⟨core, hpadded, hcase⟩
    rw [Text.trim_of_padded hpadded, ← (plain_of_mem_words h).2]
    exact hcase.trim
  · exact fun hcase => ⟨_, Text.padded_trim _, hcase⟩

theorem normalize_eq_iff {on : Bool} (h : word ∈ words on) : normalize raw = word ↔ Spells raw word := by
  rw [spells_iff_trim h, ← Text.lowercase_eq_iff (plain_of_mem_words h).1, normalize, ← String.toList_inj,
    String.toList_ofList]

theorem normalize_mem_iff (on : Bool) : normalize raw ∈ words on ↔ ∃ word ∈ words on, Spells raw word := by
  constructor
  · exact fun h => ⟨_, h, (normalize_eq_iff h).1 rfl⟩
  · rintro ⟨word, hword, hspells⟩
    rwa [(normalize_eq_iff hword).2 hspells]

theorem flag?_eq_some (on : Bool) : flag? raw = some on ↔ ∃ word ∈ words on, Spells raw word := by
  have hapart : ∀ w ∈ falsy, w ∉ truthy := by decide
  rw [← normalize_mem_iff]
  unfold flag?
  cases on with
  | true => by_cases h : normalize raw ∈ truthy <;> simp [words, h]
  | false =>
    by_cases h : normalize raw ∈ falsy
    · simp [words, h, hapart _ h]
    · by_cases h' : normalize raw ∈ truthy <;> simp [words, h, h']

theorem flag?_eq_none : flag? raw = none ↔ ∀ word ∈ truthy ++ falsy, ¬ Spells raw word := by
  rw [Option.eq_none_iff_forall_ne_some]
  simp only [ne_eq, flag?_eq_some, not_exists, not_and, Bool.forall_bool, List.forall_mem_append]
  exact And.comm

theorem alike_iff_trim : Alike raw raw' ↔ Text.CaseVariant (Text.trim raw.toList) (Text.trim raw'.toList) := by
  constructor
  · rintro ⟨core, core', hcore, hcore', hcase⟩
    rw [Text.trim_of_padded hcore, Text.trim_of_padded hcore']
    exact hcase.trim
  · exact fun hcase => ⟨_, _, Text.padded_trim _, Text.padded_trim _, hcase⟩

theorem flag?_congr (h : Alike raw raw') : flag? raw = flag? raw' := by
  have htrim := alike_iff_trim.1 h
  have hspells {on : Bool} {word : String} (hword : word ∈ words on) : Spells raw word ↔ Spells raw' word := by
    rw [spells_iff_trim hword, spells_iff_trim hword]
    exact ⟨htrim.symm.trans, htrim.trans⟩
  refine Option.ext fun on => ?_
  rw [flag?_eq_some, flag?_eq_some]
  exact exists_congr fun word => and_congr_right hspells

def keys (pre : String) : List String :=
  [pre ++ "DEBUG", pre ++ "AUTO_CAMEL_CASE"]

/-- There is an entry, and it spells a word for on. -/
def Sets (env : Assoc String) (key : String) : Prop :=
  ∃ raw, env.get? key = some raw ∧ ∃ word ∈ truthy, Spells raw word

/-- There is an entry, and it spells no word. -/
def Offends (env : Assoc String) (key raw : String) : Prop :=
  env.get? key = some raw ∧ ∀ word ∈ truthy ++ falsy, ¬ Spells raw word

/-- The first entry of the options that spells no word, with its value. -/
def FirstOffence (pre : String) (env : Assoc String) (e : BadFlag) : Prop :=
  Offends env e.key e.raw ∧
    ∃ before after, keys pre = before ++ e.key :: after ∧ ∀ key ∈ before, ∀ raw, ¬ Offends env key raw

theorem offends_iff : Offends env key raw ↔ env.get? key = some raw ∧ flag? raw = none :=
  and_congr_right fun _ => flag?_eq_none.symm

theorem readFlag_eq_error {e : BadFlag} : readFlag env key = .error e ↔ e.key = key ∧ Offends env key e.raw := by
  rw [offends_iff]
  unfold readFlag
  cases env.get? key with
  | none => simp
  | some raw =>
    dsimp only
    cases hflag : flag? raw with
    | some on =>
      simp only [reduceCtorEq, Option.some.injEq, false_iff, not_and]
      rintro - rfl
      simp [hflag]
    | none =>
      simp only [Except.error.injEq, Option.some.injEq]
      constructor
      · rintro rfl
        exact ⟨rfl, rfl, hflag⟩
      · rintro ⟨rfl, rfl, -⟩
        rfl

theorem readFlag_eq_ok {on : Bool} :
    readFlag env key = .ok on ↔ (∀ raw, ¬ Offends env key raw) ∧ (on = true ↔ Sets env key) := by
  have hsets : Sets env key ↔ ∃ raw, env.get? key = some raw ∧ flag? raw = some true :=
    exists_congr fun raw => and_congr_right fun _ => (flag?_eq_some true).symm
  simp only [offends_iff, hsets]
  unfold readFlag
  cases env.get? key with
  | none => cases on <;> simp
  | some raw =>
    dsimp only
    cases hflag : flag? raw with
    | none => simp [hflag]
    | some on' => cases on <;> cases on' <;> simp [hflag]

theorem readFlag_congr (h : Option.Rel Alike (env.get? key) (env'.get? key)) :
    (readFlag env key).mapError BadFlag.key = (readFlag env' key).mapError BadFlag.key := by
  unfold readFlag
  generalize env.get? key = value, env'.get? key = value' at h
  cases h with
  | none => rfl
  | some halike =>
    dsimp only
    rw [flag?_congr halike]
    split <;> rfl

theorem ofEnvironment_eq_ok {c : Config} : ofEnvironment pre env = .ok c ↔
    readFlag env (pre ++ "DEBUG") = .ok c.debug ∧ readFlag env (pre ++ "AUTO_CAMEL_CASE") = .ok c.autoCamelCase := by
  unfold ofEnvironment
  simp only [Attempt.bind_eq_ok]
  constructor
  · rintro ⟨debug, hdebug, camel, hcamel, heq⟩
    cases heq
    exact ⟨hdebug, hcamel⟩
  · rintro ⟨hdebug, hcamel⟩
    exact ⟨_, hdebug, _, hcamel, rfl⟩

theorem ofEnvironment_eq_error {e : BadFlag} : ofEnvironment pre env = .error e ↔ FirstOffence pre env e := by
  have hreads : ofEnvironment pre env = .error e ↔ readFlag env (pre ++ "DEBUG") = .error e ∨
      ∃ on, readFlag env (pre ++ "DEBUG") = .ok on ∧ readFlag env (pre ++ "AUTO_CAMEL_CASE") = .error e := by
    unfold ofEnvironment
    rw [Attempt.bind_eq_error]
    refine or_congr_right (exists_congr fun on => and_congr_right fun _ => ?_)
    rw [Attempt.bind_eq_error]
    exact or_iff_left fun ⟨_, _, h⟩ => nomatch h
  rw [hreads]
  constructor
  · rintro (h | ⟨on, hdebug, h⟩)
    · obtain ⟨hkey, hoffends⟩ := readFlag_eq_error.1 h
      exact ⟨hkey ▸ hoffends, [], [pre ++ "AUTO_CAMEL_CASE"], by rw [hkey]; rfl, fun _ h => nomatch h⟩
    · obtain ⟨hkey, hoffends⟩ := readFlag_eq_error.1 h
      exact ⟨hkey ▸ hoffends, [pre ++ "DEBUG"], [], by rw [hkey]; rfl,
        List.forall_mem_singleton.2 (readFlag_eq_ok.1 hdebug).1⟩
  · rintro ⟨hoffends, before, after, hkeys, hearlier⟩
    rcases before with _ | ⟨first, _ | ⟨second, before⟩⟩
    · obtain ⟨hkey, -⟩ := List.cons.inj hkeys
      exact .inl (readFlag_eq_error.2 ⟨hkey.symm, hkey ▸ hoffends⟩)
    · obtain ⟨rfl, hrest⟩ := List.cons.inj hkeys
      obtain ⟨hkey, -⟩ := List.cons.inj hrest
      refine .inr ?_
      cases hdebug : readFlag env (pre ++ "DEBUG") with
      | error e' => exact absurd (readFlag_eq_error.1 hdebug).2 (hearlier _ List.mem_cons_self _)
      | ok on => exact ⟨on, rfl, readFlag_eq_error.2 ⟨hkey.symm, hkey ▸ hoffends⟩⟩
    · simp [keys] at hkeys

/-- The options are decided by two entries. Reading them fails exactly if one of the two spells none of the words, and
then names the first one that does and its value; if it does not fail, an option is on exactly if its entry spells a
word for on. Environments that agree on the two entries, but for the case of ASCII letters and blanks around the values,
give the same options, or fail alike. -/
theorem ofEnvironment_determined (pre : String) (env : Assoc String) :
    ((∃ e, ofEnvironment pre env = .error e) ↔ ∃ key ∈ keys pre, ∃ raw, Offends env key raw) ∧
    (∀ e, ofEnvironment pre env = .error e → FirstOffence pre env e ∧
      e.message = "Invalid boolean for " ++ e.key ++ ": " ++ Text.quoted e.raw) ∧
    (∀ c, ofEnvironment pre env = .ok c →
      (c.debug = true ↔ Sets env (pre ++ "DEBUG")) ∧ (c.autoCamelCase = true ↔ Sets env (pre ++ "AUTO_CAMEL_CASE"))) ∧
    ∀ env', (∀ key ∈ keys pre, Option.Rel Alike (env.get? key) (env'.get? key)) →
      (ofEnvironment pre env).mapError BadFlag.key = (ofEnvironment pre env').mapError BadFlag.key := by
  refine ⟨⟨?offends, ?fails⟩, fun e he => ⟨ofEnvironment_eq_error.1 he, ?message⟩, fun c hc => ?flags,
    fun env' h => ?alike⟩
  case offends =>
    rintro ⟨e, he⟩
    obtain ⟨hoffends, before, after, hkeys, -⟩ := ofEnvironment_eq_error.1 he
    exact ⟨e.key, hkeys ▸ List.mem_append_right _ List.mem_cons_self, e.raw, hoffends⟩
  case fails =>
    rintro ⟨key, hkey, raw, hoffends⟩
    cases hread : ofEnvironment pre env with
    | error e => exact ⟨e, rfl⟩
    | ok c =>
      obtain ⟨hdebug, hcamel⟩ := ofEnvironment_eq_ok.1 hread
      simp only [keys, List.mem_cons, List.not_mem_nil, or_false] at hkey
      rcases hkey with rfl | rfl
      · exact absurd hoffends ((readFlag_eq_ok.1 hdebug).1 raw)
      · exact absurd hoffends ((readFlag_eq_ok.1 hcamel).1 raw)
  case message =>
    unfold BadFlag.message
    simp only [toString]
  case flags =>
    obtain ⟨hdebug, hcamel⟩ := ofEnvironment_eq_ok.1 hc
    exact ⟨(readFlag_eq_ok.1 hdebug).2, (readFlag_eq_ok.1 hcamel).2⟩
  case alike =>
    have hdebug := readFlag_congr (h (pre ++ "DEBUG") List.mem_cons_self)
    have hcamel := readFlag_congr (h (pre ++ "AUTO_CAMEL_CASE") (List.mem_cons_of_mem _ List.mem_cons_self))
    unfold ofEnvironment
    simp only [Attempt.mapError_bind, hdebug, hcamel]

end Config

namespace Deployment

/-- Both options in unusual spellings, next to an entry that belongs to another prefix. -/
def stated : Assoc String :=
  [("RESOLVERQL_DEBUG", "maybe"), ("APP_DEBUG", "\u2003yEs\t"), ("APP_AUTO_CAMEL_CASE", "OFF\u3000")]

def restated : Assoc String :=
  [("APP_AUTO_CAMEL_CASE", "\noff"), ("APP_DEBUG", "YES")]

/-- The first value ends in the long s, whose upper case is an ASCII letter. -/
def misspelled : Assoc String :=
  [("APP_AUTO_CAMEL_CASE", "maybe"), ("APP_DEBUG", "ye\u017f")]

theorem stated_read : Config.ofEnvironment "APP_" stated = .ok { debug := true } := by
  decide

theorem misspelled_read : Config.ofEnvironment "APP_" misspelled = .error ⟨"APP_DEBUG", "ye\u017f"⟩ := by
  decide

theorem restated_alike : ∀ key ∈ Config.keys "APP_", Option.Rel Config.Alike (stated.get? key) (restated.get? key) := by
  have hdebug : Config.Alike "\u2003yEs\t" "YES" := Config.alike_iff_trim.2 (by decide)
  have hcamel : Config.Alike "OFF\u3000" "\noff" := Config.alike_iff_trim.2 (by decide)
  exact List.forall_mem_cons.2 ⟨.some hdebug, List.forall_mem_singleton.2 (.some hcamel)⟩

end Deployment

/-- Spellings that differ give the same options, and the first value that is no spelling is reported. -/
theorem Deployment.options_read :
    (Config.ofEnvironment "APP_" Deployment.stated = .ok { debug := true } ∧
      Config.Sets Deployment.stated "APP_DEBUG" ∧ ¬ Config.Sets Deployment.stated "APP_AUTO_CAMEL_CASE") ∧
    ((∀ key ∈ Config.keys "APP_", Option.Rel Config.Alike (Deployment.stated.get? key) (Deployment.restated.get? key)) ∧
      (Config.ofEnvironment "APP_" Deployment.restated).mapError Config.BadFlag.key = .ok { debug := true }) ∧
    Config.ofEnvironment "APP_" Deployment.misspelled = .error ⟨"APP_DEBUG", "ye\u017f"⟩ ∧
      Config.FirstOffence "APP_" Deployment.misspelled ⟨"APP_DEBUG", "ye\u017f"⟩ := by
  obtain ⟨-, -, hread, halike⟩ := Config.ofEnvironment_determined "APP_" Deployment.stated
  obtain ⟨-, hfault, -⟩ := Config.ofEnvironment_determined "APP_" Deployment.misspelled
  obtain ⟨hdebug, hcamel⟩ := hread _ Deployment.stated_read
  refine ⟨⟨Deployment.stated_read, hdebug.1 rfl, fun h => nomatch hcamel.2 h⟩, ⟨Deployment.restated_alike, ?_⟩,
    Deployment.misspelled_read, (hfault _ Deployment.misspelled_read).1⟩
  rw [← halike _ Deployment.restated_alike, Deployment.stated_read]
  rfl

end SchemaAssembly
