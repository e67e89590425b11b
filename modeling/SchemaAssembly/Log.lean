import SchemaAssembly.Failure

/-! Computations that write a log and may fail. What was written before a failure stays written. -/

namespace SchemaAssembly

inductive Level where
  | debug | info | warning
  deriving DecidableEq, Repr, Inhabited

namespace Level

def rank : Level → Nat
  | debug => 0 | info => 1 | warning => 2

def name : Level → String
  | debug => "DEBUG" | info => "INFO" | warning => "WARNING"

end Level

inductive Source where
  | compiler | loader | service | registry | conversion
  deriving DecidableEq, Repr, Inhabited

def Source.path : Source → String
  | compiler => "resolverql.executor" | loader => "resolverql.loader" | service => "resolverql.service"
  | registry => "resolverql.type_registry" | conversion => "resolverql.strawberry_types"

structure LogEntry where
  level : Level
  source : Source
  message : String
  deriving DecidableEq, Repr

structure Logged (α : Type _) where
  log : List LogEntry
  result : Except Failure α

namespace Logged
variable {α β : Type _}

def pure (a : α) : Logged α :=
  ⟨[], .ok a⟩

def bind (x : Logged α) (f : α → Logged β) : Logged β :=
  match x.result with
  | .error e => ⟨x.log, .error e⟩
  | .ok a => ⟨x.log ++ (f a).log, (f a).result⟩

instance : Monad Logged where
  pure := pure
  bind := bind

def fail (e : Failure) : Logged α :=
  ⟨[], .error e⟩

def ofExcept (r : Except Failure α) : Logged α :=
  ⟨[], r⟩

def write (level : Level) (source : Source) (message : String) : Logged Unit :=
  ⟨[⟨level, source, message⟩], .ok ()⟩

theorem result_bind (x : Logged α) (f : α → Logged β) :
    (x >>= f).result = x.result >>= fun a => (f a).result := by
  change (bind x f).result = _
  unfold bind
  cases x.result <;> rfl

end Logged

end SchemaAssembly
