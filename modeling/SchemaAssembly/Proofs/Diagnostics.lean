import SchemaAssembly.Proofs.CompilationLookup
import SchemaAssembly.Proofs.ErrorMasking

/-! What debug mode and the options of a service change. The schema is that of the loader, however often services were
built from it before, and an answer in debug mode is the one without it, with diagnostics among the extensions of each
problem that is hidden. -/

namespace SchemaAssembly

open Execution (Problem ExecutionResult)

namespace Loader

/-- Closing a loader changes nothing that is compiled. -/
theorem operations_close (u : Universe) (l : Loader) (kind : OperationKind) :
    l.close.operations u kind = l.operations u kind := by
  have hstep : l.close.addResolver u kind = l.addResolver u kind := by
    funext acc r
    have hcontext : (l.close.context u r).operations kind = (l.context u r).operations kind :=
      CompileContext.operations_congr (Registry.close_resolvesLike l.registry) u r mainModule kind
    unfold addResolver
    rw [hcontext]
  unfold operations
  rw [hstep]
  rfl

theorem compiledFields_close (u : Universe) (l : Loader) (kind : OperationKind) :
    l.close.compiledFields u kind = l.compiledFields u kind := by
  unfold compiledFields
  rw [operations_close]
  rfl

end Loader

namespace Service

theorem assemble_close (u : Universe) (l : Loader) : assemble u l.close = assemble u l := by
  unfold assemble Loader.mutationFields Loader.queryFields
  rw [Loader.compiledFields_close, Loader.compiledFields_close]
  rfl

/-- What is built has the assembled schema; the options decide on debug mode alone. -/
theorem result_build (u : Universe) (l : Loader) (config : Option Config) :
    (build u l config).logged.result =
      ((assemble u l).result.map fun s => (⟨s, (config.getD l.config).debug⟩ : Service)).mapError unwrap := by
  cases h : (assemble u l).result with
  | ok s => exact (build_of_assemble h config).2
  | error f => exact (build_of_assemble_error h config).2

/-- The loader after services were built from it, or failed to be, with some options. -/
def afterBuilds (u : Universe) (l : Loader) (configs : List (Option Config)) : Loader :=
  configs.foldl (fun l config => (build u l config).state) l

theorem assemble_afterBuilds (u : Universe) (l : Loader) (configs : List (Option Config)) :
    assemble u (afterBuilds u l configs) = assemble u l := by
  induction configs generalizing l with
  | nil => rfl
  | cons config configs ih =>
    have hstate : (build u l config).state = l ∨ (build u l config).state = l.close := by
      cases h : (assemble u l).result with
      | ok s => exact .inr (build_of_assemble h config).1
      | error f => exact .inl (build_of_assemble_error h config).1
    change assemble u (afterBuilds u (build u l config).state configs) = _
    rw [ih]
    rcases hstate with hstate | hstate
    · rw [hstate]
    · rw [hstate, assemble_close]

/-- The service after debug mode was turned on or off some times. -/
def toggled (s : Service) (modes : List Bool) : Service :=
  modes.foldl setDebug s

theorem schema_toggled (s : Service) (modes : List Bool) : (s.toggled modes).schema = s.schema := by
  induction modes generalizing s with
  | nil => rfl
  | cons mode modes ih => exact ih (s.setDebug mode)

end Service

namespace Execution

/-- Extensions to which something can be added: those that are a dictionary or missing, and those that make one. -/
def Problem.Readable (p : Problem) : Prop :=
  ∃ es, Response.extensionEntries p.extensions = .ok es

theorem Problem.readable_of_table {p : Problem} (h : p.extensions = .null ∨ ∃ es, p.extensions = .dict es) :
    p.Readable := by
  rcases h with h | ⟨es, h⟩
  · exact ⟨[], by rw [h]; rfl⟩
  · exact ⟨es, by rw [h]; rfl⟩

/-- All problems whose cause is not meant for clients have extensions to which something can be added. -/
def ExecutionResult.Readable (r : ExecutionResult) : Prop :=
  ∀ i p, r.problem? i = some p → p.Hidden → p.Readable

end Execution

/-- The entry `e'` is `e` with the text of a fault and the calls that led to it among the extensions. -/
structure ErrorEntry.Diagnosed (f : Fault) (frames : List String) (e e' : ErrorEntry) : Prop where
  message : e'.message = e.message
  locations : e'.locations = e.locations
  path : e'.path = e.path
  extensions : ∃ es es' : Assoc Value, Response.extensionEntries e.extensions = .ok es ∧ e'.extensions = .dict es' ∧
    es'.get? "debugMessage" = some (.text f.text) ∧ es'.get? "trace" = some (.list (frames.map .text)) ∧
    ∀ k, k ≠ "debugMessage" → k ≠ "trace" → es'.get? k = es.get? k

namespace Response

variable {debug debug' : Bool} {p : Problem} {r : ExecutionResult} {extensions : Option Value} {e e' : ErrorEntry}

theorem entry_of_visible (h : ¬ p.Hidden) (debug : Bool) : entry debug p = .ok (quietEntry p) := by
  unfold entry quietEntry
  cases hcause : p.cause with
  | none => rfl
  | some f =>
    cases hsafe : isClientSafe f with
    | true => simp [hsafe]
    | false => exact absurd ⟨f, hcause, hsafe⟩ h

/-- In debug mode the diagnostics of a hidden problem are added to its extensions. -/
theorem entry_of_hidden {f : Fault} (hcause : p.cause = some f) (hsafe : isClientSafe f = false) :
    entry true p = (extensionEntries p.extensions).map fun es =>
      { hiddenEntry p with extensions := .dict (diagnostics f p.frames es), origin := none } := by
  unfold entry
  simp only [hcause, hsafe]
  rfl

/-- What stands in the way of an entry is a hidden problem with other extensions, in debug mode. -/
theorem entry_ok_iff : (∃ e, entry debug p = .ok e) ↔ (debug = true → p.Hidden → p.Readable) := by
  by_cases h : p.Hidden
  · cases debug with
    | false => exact iff_of_true ⟨_, entry_false p⟩ fun hdebug => by cases hdebug
    | true =>
      obtain ⟨f, hcause, hsafe⟩ := h
      rw [entry_of_hidden hcause hsafe]
      constructor
      · rintro ⟨e, he⟩ - -
        obtain ⟨es, hes, -⟩ := Attempt.map_eq_ok.1 he
        exact ⟨es, hes⟩
      · intro hreadable
        obtain ⟨es, hes⟩ := hreadable rfl ⟨f, hcause, hsafe⟩
        exact ⟨_, Attempt.map_eq_ok.2 ⟨es, hes, rfl⟩⟩
  · exact iff_of_true ⟨_, entry_of_visible h debug⟩ fun _ hhidden => absurd hhidden h

theorem quietEntry_of_hidden {f : Fault} (hcause : p.cause = some f) (hsafe : isClientSafe f = false) :
    quietEntry p = hiddenEntry p := by
  unfold quietEntry
  simp [hcause, hsafe]

theorem diagnosed_of_entry {f : Fault} (hcause : p.cause = some f) (hsafe : isClientSafe f = false)
    (h : entry true p = .ok e) : (quietEntry p).Diagnosed f p.frames e := by
  rw [entry_of_hidden hcause hsafe] at h
  obtain ⟨es, hes, rfl⟩ := Attempt.map_eq_ok.1 h
  rw [quietEntry_of_hidden hcause hsafe]
  refine ⟨rfl, rfl, rfl, es, diagnostics f p.frames es, hes, rfl, ?_, ?_, fun k hmessage htrace => ?_⟩
  · simp [diagnostics, Assoc.get?_insert]
  · simp [diagnostics, Assoc.get?_insert]
  · simp [diagnostics, Assoc.get?_insert, Ne.symm hmessage, Ne.symm htrace]

/-- What a problem is reported with in two modes. -/
structure EntriesAlike (debug debug' : Bool) (p : Problem) (e e' : ErrorEntry) : Prop where
  message : e'.message = e.message
  locations : e'.locations = e.locations
  path : e'.path = e.path
  visible : ¬ p.Hidden → e' = e
  sameMode : debug' = debug → e' = e
  diagnosed : ∀ f, p.cause = some f → isClientSafe f = false → debug = false → debug' = true →
    e.Diagnosed f p.frames e'

theorem entries_alike (h : entry debug p = .ok e) (h' : entry debug' p = .ok e') :
    EntriesAlike debug debug' p e e' := by
  have hsame : debug' = debug → e' = e := by
    rintro rfl
    exact Except.ok.inj (h'.symm.trans h)
  by_cases hhidden : p.Hidden
  · obtain ⟨f, hcause, hsafe⟩ := hhidden
    have hvisible : ¬ p.Hidden → e' = e := absurd ⟨f, hcause, hsafe⟩
    cases debug <;> cases debug'
    case false.true =>
      rw [entry_false] at h
      cases h
      have hdiagnosed := diagnosed_of_entry hcause hsafe h'
      refine ⟨hdiagnosed.message, hdiagnosed.locations, hdiagnosed.path, hvisible, hsame, fun g hg _ _ _ => ?_⟩
      rw [hcause] at hg
      cases hg
      exact hdiagnosed
    case true.false =>
      rw [entry_false] at h'
      cases h'
      have hdiagnosed := diagnosed_of_entry hcause hsafe h
      exact ⟨hdiagnosed.message.symm, hdiagnosed.locations.symm, hdiagnosed.path.symm, hvisible, hsame,
        fun _ _ _ hquiet => by cases hquiet⟩
    all_goals
      obtain rfl := hsame rfl
      exact ⟨rfl, rfl, rfl, hvisible, hsame, fun _ _ _ hquiet hloud => by cases hquiet <;> cases hloud⟩
  · rw [entry_of_visible hhidden] at h h'
    cases h
    cases h'
    exact ⟨rfl, rfl, rfl, fun _ => rfl, hsame, fun f hcause hsafe => absurd ⟨f, hcause, hsafe⟩ hhidden⟩

/-- An answer has the data of the result, and an entry for each of its problems in their order. -/
theorem ofResult_eq_ok {out : Response} (h : ofResult debug r extensions = .ok out) :
    out.data = r.data ∧ out.extensions = extensions ∧ out.errors.map List.length = r.problems.map List.length ∧
      ∀ i p, r.problem? i = some p → ∃ e, out.error? i = some e ∧ entry debug p = .ok e := by
  obtain ⟨errors, herrors, h⟩ := Attempt.bind_eq_ok.1 h
  cases h
  obtain ⟨data, problems⟩ := r
  cases problems with
  | none =>
    cases herrors
    exact ⟨rfl, rfl, rfl, fun i p hp => by cases hp⟩
  | some ps =>
    rw [Option.mapM_some] at herrors
    obtain ⟨es, hes, rfl⟩ := Attempt.map_eq_ok.1 herrors
    exact ⟨rfl, rfl, congrArg some (Attempt.mapM_eq_ok.1 hes).length_eq.symm, fun i p hp => Attempt.getElem?_of_mapM hes hp⟩

theorem ofResult_ok_iff : (∃ out, ofResult debug r extensions = .ok out) ↔ (debug = true → r.Readable) := by
  constructor
  · rintro ⟨out, h⟩ hdebug i p hp
    obtain ⟨e, -, he⟩ := (ofResult_eq_ok h).2.2.2 i p hp
    exact entry_ok_iff.1 ⟨e, he⟩ hdebug
  · intro h
    obtain ⟨data, problems⟩ := r
    cases problems with
    | none => exact ⟨_, rfl⟩
    | some ps =>
      have hentry : ∀ p ∈ ps, ∃ e, entry debug p = .ok e := by
        intro p hp
        obtain ⟨i, hi⟩ := List.mem_iff_getElem?.1 hp
        exact entry_ok_iff.2 fun hdebug => h hdebug i p hi
      obtain ⟨es, hes⟩ := Attempt.exists_mapM hentry
      refine ⟨⟨data, some es, extensions⟩, ?_⟩
      unfold ofResult
      simp only [Option.mapM_some, hes]
      rfl

/-- Two answers that tell the same, up to diagnostics. -/
structure Alike (r : ExecutionResult) (debug debug' : Bool) (out out' : Response) : Prop where
  data : out'.data = out.data
  extensions : out'.extensions = out.extensions
  lengths : out.errors.map List.length = r.problems.map List.length ∧
    out'.errors.map List.length = r.problems.map List.length
  entries : ∀ i p, r.problem? i = some p →
    ∃ e e', out.error? i = some e ∧ out'.error? i = some e' ∧ EntriesAlike debug debug' p e e'

theorem alike_of_ofResult {out out' : Response} (h : ofResult debug r extensions = .ok out)
    (h' : ofResult debug' r extensions = .ok out') : Alike r debug debug' out out' := by
  obtain ⟨hdata, hextensions, hlength, hentry⟩ := ofResult_eq_ok h
  obtain ⟨hdata', hextensions', hlength', hentry'⟩ := ofResult_eq_ok h'
  refine ⟨hdata'.trans hdata.symm, hextensions'.trans hextensions.symm, ⟨hlength, hlength'⟩, fun i p hp => ?_⟩
  obtain ⟨e, he, hmade⟩ := hentry i p hp
  obtain ⟨e', he', hmade'⟩ := hentry' i p hp
  exact ⟨e, e', he, he', entries_alike hmade hmade'⟩

end Response

/-- A service answers, unless it is in debug mode and cannot add diagnostics to a hidden problem. -/
theorem Service.respond_ok_iff {s : Service} {r : ExecutionResult} {extensions : Option Value} :
    (∃ out, s.respond r extensions = .ok out) ↔ (s.debug = true → r.Readable) := by
  unfold respond
  simp only [Attempt.mapError_eq_ok]
  exact Response.ofResult_ok_iff

/-- Whatever services are built from a loader, with whatever options, they have one schema, also after debug mode was turned
on or off. Their answers to one result tell the same data and the same problems, in the same order and with the same
messages, places and paths. In debug mode the entries of hidden problems have the text of the fault and the calls that led to
it besides their extensions, and these alone can stand in the way of an answer, if nothing can be added to them. -/
theorem Service.diagnostics_only (u : Universe) (l : Loader) (configs : List (Option Config))
    (config config' : Option Config) :
    (build u (afterBuilds u l configs) config').logged.result.map (·.schema) =
        (build u l config).logged.result.map (·.schema) ∧
      ∀ s s', (build u l config).logged.result = .ok s →
        (build u (afterBuilds u l configs) config').logged.result = .ok s' →
        ∀ modes modes', (s'.toggled modes').schema = (s.toggled modes).schema ∧
          ∀ r extensions,
            ((∃ out, (s.toggled modes).respond r extensions = .ok out) ↔ ((s.toggled modes).debug = true → r.Readable)) ∧
            ∀ out out', (s.toggled modes).respond r extensions = .ok out →
              (s'.toggled modes').respond r extensions = .ok out' →
              Response.Alike r (s.toggled modes).debug (s'.toggled modes').debug out out' := by
  have hschemas : (build u (afterBuilds u l configs) config').logged.result.map (·.schema) =
      (build u l config).logged.result.map (·.schema) := by
    rw [result_build, result_build, assemble_afterBuilds]
    cases (assemble u l).result <;> rfl
  refine ⟨hschemas, fun s s' hs hs' modes modes' =>
    ⟨?_, fun r extensions => ⟨respond_ok_iff, fun out out' hout hout' => ?_⟩⟩⟩
  · rw [hs, hs'] at hschemas
    rw [schema_toggled, schema_toggled]
    exact Except.ok.inj hschemas
  · exact Response.alike_of_ofResult (Attempt.mapError_eq_ok.1 hout) (Attempt.mapError_eq_ok.1 hout')

namespace Frail

def resolverClass : ClassRef := .defined "app" "Frail"

def findMeta : OperationMeta :=
  { kind := some .query, name := "find", returns := .named (.text "string") }

def find : Method where
  name := "find"
  owner := "Frail"
  receiver := some "self"
  operations := [findMeta]

def classes : Universe where
  classes := [
    { ref := resolverClass, lineage := [resolverClass, .builtin .resolver, .builtin .object]
      slots := [("find", .method .instance_ find)] }]

def loader : Loader where
  executors := [⟨.object resolverClass [] (some (.resolver 0))⟩]

def used : Loader :=
  Service.afterBuilds classes loader [none]

def debugging : Option Config :=
  some { debug := true }

def first : Service :=
  (Service.build classes loader none).logged.result.toOption.getD default

def second : Service :=
  (Service.build classes used debugging).logged.result.toOption.getD default

theorem first_built : (Service.build classes loader none).logged.result = .ok first :=
  Attempt.eq_ok_of_isOk (by decide +kernel) default

theorem second_built : (Service.build classes used debugging).logged.result = .ok second :=
  Attempt.eq_ok_of_isOk (by decide +kernel) default

theorem first_quiet : first.debug = false := by decide +kernel

theorem second_debugs : second.debug = true := by decide +kernel

def fault (extensions : Value) : Fault :=
  { kind := .value, message := "no row", extensions }

def frames : List String :=
  ["  File \"app.py\", line 4, in find\n    raise ValueError(\"no row\")\n"]

def raised (extensions : Value) : ExecutionResult :=
  ⟨.dict [("find", .null)], some [{ Problem.ofFault [⟨1, 3⟩] [.field "find"] (fault extensions) with frames }]⟩

def reported (extensions : Value) : ExecutionResult :=
  ⟨.dict [("find", .null)], some [.reported "no row" [.field "find"] (some (fault .null)) (some extensions)]⟩

def coded : Value := .dict [("code", .int 7)]

end Frail

theorem Frail.code_kept :
    (Service.build Frail.classes Frail.loader none).logged.result = .ok Frail.first ∧
      (Service.build Frail.classes Frail.used Frail.debugging).logged.result = .ok Frail.second ∧
      Frail.second.schema = Frail.first.schema ∧
      ∃ out out' e e', Frail.first.respond (Frail.raised Frail.coded) none = .ok out ∧
        Frail.second.respond (Frail.raised Frail.coded) none = .ok out' ∧ out'.data = out.data ∧
        out.error? 0 = some e ∧ out'.error? 0 = some e' ∧ e.Diagnosed (Frail.fault Frail.coded) Frail.frames e' := by
  obtain ⟨-, hservices⟩ := Service.diagnostics_only Frail.classes Frail.loader [none] none Frail.debugging
  obtain ⟨hschema, hanswers⟩ := hservices _ _ Frail.first_built Frail.second_built [] []
  obtain ⟨-, halike⟩ := hanswers (Frail.raised Frail.coded) none
  have hreadable : (Frail.raised Frail.coded).Readable := by
    rintro i p hp -
    cases i with
    | zero =>
      cases hp
      exact Execution.Problem.readable_of_table (.inr ⟨_, rfl⟩)
    | succ i => cases hp
  obtain ⟨out, hout⟩ := Service.respond_ok_iff.2 fun _ => hreadable
  obtain ⟨out', hout'⟩ := Service.respond_ok_iff.2 fun _ => hreadable
  obtain ⟨hdata, -, -, hentries⟩ := halike out out' hout hout'
  obtain ⟨e, e', he, he', hentry⟩ := hentries 0 _ rfl
  exact ⟨Frail.first_built, Frail.second_built, hschema, out, out', e, e', hout, hout', hdata, he, he',
    hentry.diagnosed _ rfl rfl Frail.first_quiet Frail.second_debugs⟩

/-- Extensions that are a text are shown without debug mode, but then nothing can be added to them. -/
theorem Frail.debug_unanswered :
    (Service.build Frail.classes Frail.loader none).logged.result = .ok Frail.first ∧
      (Service.build Frail.classes Frail.used Frail.debugging).logged.result = .ok Frail.second ∧
      (∃ out, Frail.first.respond (Frail.reported (.text "e")) none = .ok out) ∧
      ¬ ∃ out, Frail.second.respond (Frail.reported (.text "e")) none = .ok out := by
  refine ⟨Frail.first_built, Frail.second_built, ?_, fun hanswered => ?_⟩
  · exact Service.respond_ok_iff.2 fun hdebug => by cases Frail.first_quiet.symm.trans hdebug
  · obtain ⟨es, hes⟩ := Service.respond_ok_iff.1 hanswered Frail.second_debugs 0 _ rfl ⟨Frail.fault .null, rfl, rfl⟩
    cases hes

end SchemaAssembly
