import SchemaAssembly.Class.Declare
import SchemaAssembly.Proofs.EffectiveDefinition

/-! What declaring a class brings about. The class is the last one known and the first one of its lineage, and it has
what its body says, so that a member of its body is the effective definition of its name. -/

namespace SchemaAssembly

def Slot.inClass (s : Slot) (c : ClassRef) (attr : String) : Slot :=
  (s.rebound attr).placed (.attribute_ c attr)

namespace Universe
variable {u u' : Universe} {spec : ClassSpec} {lineage : List ClassRef} {info : ClassInfo} {attr : String}

theorem head?_of_lineageOf (h : u.lineageOf spec = .ok lineage) : lineage.head? = some spec.ref := by
  have hbases (h : (Lineage.ofBases spec.ref spec.bases (spec.bases.map u.lineage)).mapError
      (fun cs => ClassFault.inconsistentBases (cs.map (·.name))) = .ok lineage) : lineage.head? = some spec.ref := by
    obtain ⟨rest, -, rfl⟩ := Attempt.map_eq_ok.1 (Attempt.mapError_eq_ok.1 h)
    rfl
  unfold lineageOf at h
  simp only at h
  split at h <;> split at h
  · cases h
  · cases h
  · cases h
  · exact hbases h

theorem classInfo_eq_ok {body : ClassInfo} (h : u.classInfo spec body = .ok info) :
    info.ref = body.ref ∧ info.lineage = body.lineage ∧ info.slots = body.slots := by
  unfold classInfo at h
  simp only at h
  split at h
  all_goals
    obtain ⟨record, -, h⟩ := Attempt.bind_eq_ok.1 h
    obtain ⟨definition, -, h⟩ := Attempt.bind_eq_ok.1 h
    cases h
    exact ⟨rfl, rfl, rfl⟩

theorem declare_eq_ok (h : u.declare spec = .ok u') : ∃ metaclass lineage info,
    u.lineageOf spec.placed = .ok lineage ∧
    u.classInfo spec.placed (bodyInfo spec.placed metaclass lineage) = .ok info ∧ u'.classes = u.classes ++ [info] := by
  unfold declare at h
  simp only [Attempt.bind_eq_ok, Attempt.mapError_eq_ok] at h
  obtain ⟨metaclass, -, lineage, hlineage, -, -, info, hinfo, h⟩ := h
  cases h
  exact ⟨metaclass, lineage, info, hlineage, hinfo, rfl⟩

/-- A class that is not known yet, in whose body a name is bound to a slot and to nothing else. -/
structure Writes (u : Universe) (spec : ClassSpec) (attr : String) (s : Slot) : Prop where
  fresh : ∀ i ∈ u.classes, i.ref ≠ spec.ref
  named : ∃ module name mark, spec.ref = .defined module name mark
  body : spec.slots.get? attr = some s
  apart : ∀ f ∈ spec.fields, f.name ≠ attr

/-- A member of its body is what a class has under the name. -/
theorem effective?_declare {s : Slot} (h : u.declare spec = .ok u') (hs : u.Writes spec attr s) :
    u'.effective? spec.ref attr = some (spec.ref, s.inClass spec.ref attr) := by
  obtain ⟨metaclass, lineage, info, hlineage, hinfo, hclasses⟩ := declare_eq_ok h
  obtain ⟨href, hline, hslots⟩ := classInfo_eq_ok hinfo
  obtain ⟨rest, hrest⟩ := List.head?_eq_some_iff.1 (head?_of_lineageOf hlineage)
  have hfound : u'.info spec.ref = info := by
    obtain ⟨module, name, mark, hname⟩ := hs.named
    have hnone : u.classes.find? (·.ref = spec.ref) = none :=
      List.find?_eq_none.2 fun i hi => by simpa using hs.fresh i hi
    have hhere : decide (info.ref = spec.ref) = true := decide_eq_true href
    rw [hname] at hnone hhere ⊢
    simp only [Universe.info, hclasses, List.find?_append, hnone, Option.none_or, List.find?_cons, hhere,
      Option.getD_some]
  have hfields : Assoc.get? (spec.placed.fields.filterMap fun f => f.default.map fun v => (f.name, Slot.value v)) attr =
      none := by
    rw [Assoc.get?_eq_none_iff, Assoc.keys, List.mem_map]
    rintro ⟨e, he, hname⟩
    obtain ⟨f, hf, hvalue⟩ := List.mem_filterMap.1 he
    obtain ⟨v, -, rfl⟩ := Option.map_eq_some_iff.1 hvalue
    obtain ⟨f', hf', rfl⟩ := List.mem_map.1 hf
    exact hs.apart f' hf' hname
  have hbody : spec.placed.slots.get? attr = some (s.inClass spec.ref attr) := by
    have hmap := Assoc.get?_map_values spec.slots (fun name s => s.inClass spec.ref name) attr
    rwa [hs.body] at hmap
  have hown : info.own? attr = some (s.inClass spec.ref attr) := by
    rw [ClassInfo.own?, hslots, bodyInfo, ClassSpec.bodySlots, Assoc.get?_append, Assoc.get?_append, hfields, hbody]
    rfl
  have hlineage' : u'.lineage spec.ref = spec.ref :: rest := by
    rw [Universe.lineage, hfound, hline, bodyInfo, hrest]
    rfl
  rw [effective?, ancestry, hlineage', List.map_cons, List.findSome?_cons, hfound, hown]
  exact congrArg some (congrArg (·, s.inClass spec.ref attr) href)

end Universe

end SchemaAssembly
