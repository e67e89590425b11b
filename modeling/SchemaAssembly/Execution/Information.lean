import SchemaAssembly.Execution.Problem

/-! The resolve information: what a method may ask about the field for which it is called. -/

namespace SchemaAssembly.Execution

open Request (FieldNode OperationNode Span)

def nodeAt (cls kind : String) (span : Span) (parts : List (String × Value)) : Value :=
  let place := Value.node "Location" span.text [("start", .int span.first), ("end", .int span.last)]
  .node cls s!"{cls} at {span.text}" ([("kind", .text kind), ("loc", place)] ++ parts)

def nameNode (name : String) (span : Span) : Value :=
  nodeAt "NameNode" "name" span [("value", .text name)]

def fieldNode (f : FieldNode) : Value :=
  let alias_ := f.alias_.map fun a => nameNode a ⟨f.span.first, f.span.first + a.length⟩
  nodeAt "FieldNode" "field" f.span [("name", nameNode f.name f.nameSpan), ("alias", alias_.getD .null)]

def operationType (kind : OperationKind) : Value :=
  let (name, value) := match kind with | .query => ("QUERY", "query") | .mutation => ("MUTATION", "mutation")
  .node "OperationType" s!"OperationType.{name}" [("name", .text name), ("value", .text value)]

def operationNode (op : OperationNode) : Value :=
  let name := op.name.map fun n => nameNode n op.nameSpan
  nodeAt "OperationDefinitionNode" "operation_definition" op.span
    [("operation", (op.kind.map operationType).getD .null), ("name", name.getD .null)]

/-- A function of the engine, which may be bound to an object of the engine. -/
def engineFunction (name : String) (self : Option Value) : Value :=
  .function ⟨.builtin .resolveInfo, name, name⟩ self []

/-- The parts of the resolve information that are the same for all fields of a request, from the schema on. -/
def sharedParts (op : OperationNode) (bound : Assoc Value) (root context : Value) (waits : Bool) : Assoc Value :=
  [("schema", .node "GraphQLSchema" "<graphql.type.schema.GraphQLSchema object>" []),
    ("fragments", .dict []),
    ("root_value", root),
    ("operation", operationNode op),
    ("variable_values", .record "VariableValues" [("sources", .dict []), ("coerced", .dict bound)]),
    ("context", context),
    ("is_awaitable", engineFunction (if waits then "is_awaitable" else "assume_not_awaitable") none),
    ("abort_signal", .null),
    ("async_helpers", .tuple (["gather_async_work", "track_async_work"].map fun n => engineFunction n (some .null)))]

def fieldInformation (shared : Assoc Value) (parent field : String) (nodes : List FieldNode) (type : WireType)
    (path : Path) : Value :=
  .info (.text field) ([("field_nodes", .list (nodes.map fieldNode)), ("return_type", .wire type.text),
    ("parent_type", .wire parent), ("path", path.chain)] ++ shared)

end SchemaAssembly.Execution
