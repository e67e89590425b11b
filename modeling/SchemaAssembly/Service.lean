import SchemaAssembly.Loader
import SchemaAssembly.Response
import SchemaAssembly.Schema.Print
import SchemaAssembly.Schema.Validate

/-! The assembled schema in service. It is built once from a loader, which is sealed by that; a failure to
build it leaves the loader as it was. -/

namespace SchemaAssembly

structure Service where
  schema : Schema
  debug : Bool
  deriving Inhabited

namespace Service

def flagText (b : Bool) : String :=
  if b then "True" else "False"

/-- Options about names come from the loader; those of the service are ignored, with a warning. -/
def checkConfig (l : Loader) (config : Config) : Logged Unit :=
  if config.autoCamelCase = l.config.autoCamelCase then return ()
  else
    Logged.write .warning .service
      (s!"Service config auto_camel_case={flagText config.autoCamelCase} is ignored; the loader config "
        ++ s!"(auto_camel_case={flagText l.config.autoCamelCase}) decides field names")

/-- A configuration failure that is wrapped by another failure comes out by itself. -/
def unwrap (f : Failure) : Failure :=
  match f with
  | .typeFields .. => f.configurationCause?.getD f
  | _ => f

/-- The schema of all that is registered: mutations are compiled first, then queries. -/
def assemble (u : Universe) (l : Loader) : Logged Schema := do
  let mutations ← l.mutationFields u
  discard (Logged.ofExcept (Loader.checkNames mutations))
  Logged.ofExcept (Schema.checkRegistered (l.types u) l.registry.types.values)
  let queries ← l.queryFields u
  Logged.ofExcept ((Schema.assemble (l.types u) l.registry.types.values queries mutations).bind Schema.validate)

def announce (l : Loader) (s : Schema) : Logged Unit :=
  let mutations := (s.mutation.map fun t => t.fields.length).getD 0
  Logged.write .info .service
    (s!"Built schema with {s.query.fields.length} query field(s), {mutations} mutation field(s) "
      ++ s!"and {l.registry.types.length} custom type(s)")

def make (u : Universe) (l : Loader) (config : Config) : Logged Service := do
  checkConfig l config
  let schema ← assemble u l
  announce l schema
  return ⟨schema, config.debug⟩

def build (u : Universe) (l : Loader) (config : Option Config) : Outcome Loader Service :=
  let run := make u l (config.getD l.config)
  match run.result with
  | .ok _ => ⟨l.close, run⟩
  | .error f => ⟨l, ⟨run.log, .error (unwrap f)⟩⟩

def setDebug (s : Service) (debug : Bool) : Service :=
  { s with debug }

def respond (s : Service) (r : Execution.ExecutionResult) (extensions : Option Value := none) :
    Except Failure Response :=
  (Response.ofResult s.debug r extensions).mapError Failure.raised

/-- Answers a request; `none` if it is rejected. -/
def process (u : Universe) (s : Service) (env : Execution.Environment) (source : String) :
    Except Failure (Option Response) × Universe :=
  let (r, u) := Execution.Setting.run s.schema env u source
  (r.mapM s.respond, u)

end Service

end SchemaAssembly
