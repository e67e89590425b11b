import SchemaAssembly.Operation

/-! Calling the method of an operation with named arguments. `Handler.distribute` puts the flat arguments
together again: containers and the resolve information take their parameters, and what is positional-only
is taken out of the named arguments. -/

namespace SchemaAssembly

namespace Handler

def addContainer (args : Assoc Value) (plan : GroupPlan) : Action (Assoc Value) := do
  let (v, rest) ← plan.build args
  return rest.insert plan.parameter v

/-- Takes the leading names out of the arguments, up to the first that has none. -/
def takePositional : List String → Assoc Value → Call
  | [], args => ⟨[], args⟩
  | n :: ns, args =>
    match args.get? n with
    | none => ⟨[], args⟩
    | some v =>
      let c := takePositional ns (Assoc.erase args n)
      { c with positional := v :: c.positional }

def distribute (h : Handler) (args : Assoc Value) (info : Value) : Action Call := do
  let grouped ← h.plans.foldlM addContainer args
  let informed := h.infoParams.foldl (fun acc n => Assoc.insert acc n info) grouped
  return takePositional h.positionalOnly informed

/-- What the parameters of the method receive from a call of the method bound to the resolver. -/
def receive (h : Handler) (c : Call) : Action (Assoc Value) := do
  let self := (← get).current h.resolver.value
  Action.ofExcept (h.method.receiveAll (c.withFirst (Method.receiver? self h.binding)))

/-- Calls the method of an operation on the resolver it is bound to. A method that answers later leaves a coroutine. -/
def call (h : Handler) (args : Assoc Value) (info : Value) : Action Value := do
  let c ← h.distribute args info
  conduct.start h.function h.method h.binding (← h.receive c)

def dispatch (h : Handler) (args : Assoc Value) (info : Value) : Action Value := do
  conduct.resume (← h.call args info)

end Handler

end SchemaAssembly
