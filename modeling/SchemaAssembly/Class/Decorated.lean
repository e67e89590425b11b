import SchemaAssembly.Class.Basic

/-! Functions of a class body as their decorators leave them. The innermost decorator is applied first. One that
declares an operation attaches it, in front of what is attached already; one that makes a static or a class method
wraps what it is given. What is attached to a wrapper goes to what stands in it. -/

namespace SchemaAssembly

inductive Wrapper where
  | static | class_
  deriving DecidableEq, Repr, Inhabited

def Wrapper.binding : Wrapper → Binding
  | static => .static
  | class_ => .class_

/-- A function, or a wrapper that `holds` what is attached to the wrapper itself. -/
inductive Decorated where
  | function (m : Method)
  | wrapped (w : Wrapper) (holds : List OperationMeta) (inner : Decorated)
  deriving Inhabited

namespace Decorated

def target : Decorated → Decorated
  | wrapped _ _ inner => inner
  | d => d

def kept : Decorated → List OperationMeta
  | function m => m.operations
  | wrapped _ holds _ => holds

def keep (ops : List OperationMeta) : Decorated → Decorated
  | function m => function { m with operations := ops }
  | wrapped w _ inner => wrapped w ops inner

def attached (d : Decorated) : List OperationMeta :=
  d.target.kept

def attach (op : OperationMeta) (d : Decorated) : Decorated :=
  let ops := op :: d.attached
  match d with
  | wrapped w holds inner => wrapped w holds (inner.keep ops)
  | d => d.keep ops

/-- What a class has under the name of a function. A wrapper around another wrapper is no function. -/
def slot? : Decorated → Option Slot
  | function m => some (.method .instance_ m)
  | wrapped w _ (function m) => some (.method w.binding m)
  | wrapped _ _ (wrapped ..) => none

end Decorated

inductive Decorator where
  | operation (op : OperationMeta)
  | wrapper (w : Wrapper)
  deriving Inhabited

def Decorator.apply : Decorator → Decorated → Decorated
  | operation op, d => d.attach op
  | wrapper w, d => .wrapped w [] d

/-- A function under decorators, which are listed from the topmost on. -/
def Method.decorated (m : Method) (ds : List Decorator) : Decorated :=
  ds.foldr Decorator.apply (.function m)

end SchemaAssembly
