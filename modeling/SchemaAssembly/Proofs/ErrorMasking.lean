import SchemaAssembly.Proofs.Attempt
import SchemaAssembly.Service

/-! What a client learns of a fault that is not meant for clients. The message never tells faults apart, and neither do
the place and the path, which are those of the field. The extensions of the fault are shown, though, and they are all
that is. -/

namespace SchemaAssembly

open Execution (Problem ExecutionResult)

namespace Response

def quietEntry (p : Problem) : ErrorEntry :=
  match p.cause with
  | none => plainEntry p
  | some f => if isClientSafe f then plainEntry p else hiddenEntry p

theorem entry_false (p : Problem) : entry false p = .ok (quietEntry p) := by
  unfold entry quietEntry
  cases p.cause with
  | none => rfl
  | some f => cases hf : isClientSafe f <;> simp [hf]

theorem ofResult_false (r : ExecutionResult) (extensions : Option Value) :
    ofResult false r extensions =
      .ok { data := r.data, errors := r.problems.map (·.map quietEntry), extensions } := by
  have hentries (ps : List Problem) : ps.mapM (entry false) = .ok (ps.map quietEntry) := by
    rw [funext entry_false]
    exact List.mapM_pure
  unfold ofResult
  cases r.problems with
  | none => rfl
  | some ps =>
    rw [Option.mapM_some, hentries]
    rfl

def error? (r : Response) (i : Nat) : Option ErrorEntry :=
  r.errors.bind (·[i]?)

/-- What a client may be told of a fault that is not meant for clients. -/
def masked (locations : List Request.Location) (path : Execution.Path) : ErrorEntry where
  message := internalMessage
  locations
  path
  extensions := .null

end Response

namespace ErrorEntry

/-- An entry as a client sees it: extensions are shown if there are any, and where they come from is not. -/
def visible (e : ErrorEntry) : ErrorEntry :=
  { e with extensions := if e.extensions.truthy then e.extensions else .null, origin := none }

end ErrorEntry

namespace Execution

def ExecutionResult.problem? (r : ExecutionResult) (i : Nat) : Option Problem :=
  r.problems.bind (·[i]?)

namespace Problem

/-- A problem whose cause is not meant for clients. -/
def Hidden (p : Problem) : Prop :=
  ∃ f, p.cause = some f ∧ Response.isClientSafe f = false

def shownExtensions (p : Problem) : Value :=
  if p.extensions.truthy then p.extensions else .null

theorem quietEntry_visible {p : Problem} (h : p.Hidden) :
    (Response.quietEntry p).visible =
      { Response.masked p.locations p.path with extensions := p.shownExtensions } := by
  obtain ⟨f, hcause, hf⟩ := h
  simp only [Response.quietEntry, hcause, hf]
  rfl

end Problem

end Execution

/-- Two executions that meet hidden faults at one place: whatever else the faults are, what a client is told differs
exactly if their extensions do, and is the bare mask exactly if there are none. -/
theorem Service.respond_hides_iff {s : Service} (hs : s.debug = false) (r r' : ExecutionResult)
    (extensions : Option Value) :
    ∃ out out', s.respond r extensions = .ok out ∧ s.respond r' extensions = .ok out' ∧
      ∀ i p p', r.problem? i = some p → r'.problem? i = some p' → p.Hidden → p'.Hidden →
        p.locations = p'.locations → p.path = p'.path →
        ∃ e e', out.error? i = some e ∧ out'.error? i = some e' ∧
          (e.visible = e'.visible ↔ p.shownExtensions = p'.shownExtensions) ∧
          (e.visible = Response.masked p.locations p.path ↔ p.shownExtensions = .null) := by
  have hrespond (r : ExecutionResult) : s.respond r extensions =
      .ok { data := r.data, errors := r.problems.map (·.map Response.quietEntry), extensions } := by
    rw [respond, hs, Response.ofResult_false]
    rfl
  have herror {r : ExecutionResult} {i : Nat} {p : Problem} (h : r.problem? i = some p) :
      Response.error? { data := r.data, errors := r.problems.map (·.map Response.quietEntry), extensions } i =
        some (Response.quietEntry p) := by
    unfold ExecutionResult.problem? at h
    obtain ⟨ps, hps, hp⟩ := Option.bind_eq_some_iff.1 h
    simp [Response.error?, hps, hp]
  refine ⟨_, _, hrespond r, hrespond r', ?_⟩
  intro i p p' hp hp' hh hh' hlocations hpath
  refine ⟨_, _, herror hp, herror hp', ?_, ?_⟩
  · rw [Execution.Problem.quietEntry_visible hh, Execution.Problem.quietEntry_visible hh', hlocations, hpath]
    simp
  · rw [Execution.Problem.quietEntry_visible hh]
    simp [Response.masked]

namespace Boom

def problem (extensions : Value) : Problem :=
  .ofFault [⟨1, 3⟩] [.field "boom" (some "Query")] { kind := .runtime, message := "kaboom", extensions }

def result (extensions : Value) : ExecutionResult :=
  ⟨.dict [("boom", .null)], some [problem extensions]⟩

def service : Service := ⟨default, false⟩

def secret : Value := .dict [("secret", .int 1)]

theorem problem_hidden (extensions : Value) : (problem extensions).Hidden :=
  ⟨_, rfl, rfl⟩

end Boom

theorem Boom.respond_compared :
    Boom.service.debug = false ∧ ∃ out out' e e', Boom.service.respond (Boom.result .null) none = .ok out ∧
      Boom.service.respond (Boom.result Boom.secret) none = .ok out' ∧ out.error? 0 = some e ∧ out'.error? 0 = some e' ∧
      (e.visible = e'.visible ↔
        (Boom.problem .null).shownExtensions = (Boom.problem Boom.secret).shownExtensions) ∧
      (e.visible = Response.masked (Boom.problem .null).locations (Boom.problem .null).path ↔
        (Boom.problem .null).shownExtensions = .null) := by
  have hs : Boom.service.debug = false := rfl
  obtain ⟨out, out', hout, hout', h⟩ :=
    Service.respond_hides_iff hs (Boom.result .null) (Boom.result Boom.secret) none
  obtain ⟨e, e', he, he', hiff⟩ :=
    h 0 _ _ rfl rfl (Boom.problem_hidden .null) (Boom.problem_hidden Boom.secret) rfl rfl
  exact ⟨hs, out, out', e, e', hout, hout', he, he', hiff⟩

/-- The extensions of a hidden fault reach the client. -/
theorem Boom.secret_shown :
    Boom.service.debug = false ∧ (Boom.problem Boom.secret).Hidden ∧
      ∃ out e, Boom.service.respond (Boom.result Boom.secret) none = .ok out ∧ out.error? 0 = some e ∧
        e.extensions = Boom.secret ∧
        e.visible ≠ Response.masked (Boom.problem Boom.secret).locations (Boom.problem Boom.secret).path := by
  refine ⟨rfl, Boom.problem_hidden _, _, _, rfl, rfl, rfl, fun h => ?_⟩
  cases congrArg ErrorEntry.extensions h

end SchemaAssembly
