import Typeforge.Schema.Node
import Typeforge.Schema.Pointer

/-!
# Documents

A document holds named components and operations. Its events are what a generator has to look at, in the
order of the document: the schemas, the parameters, the request bodies, and then the operations.
-/

namespace Typeforge.Schema

/-- Where a parameter is sent. -/
inductive Location where
  | path
  | query
  | header
  | cookie
deriving DecidableEq

structure Parameter where
  name : String
  location : Location
  required : Bool := false
  schema : Node := {}

structure RequestBody where
  required : Bool := false
  schema : Node := {}

/-- An endpoint. -/
structure Operation where
  id : String
  method : String
  path : String
  summary : Option String := none
  description : Option String := none
  deprecated : Bool := false
  parameters : List Parameter := []
  body : Option RequestBody := none
  /-- The schema of a successful response. -/
  response : Option Node := none

structure Components where
  schemas : Keyed Node := []
  parameters : Keyed Parameter := []
  requestBodies : Keyed RequestBody := []

structure Document where
  components : Components := {}
  operations : List Operation := []

/-- The schema of the component that a pointer leads to. -/
def Components.find? (c : Components) (family : Pointer.Family) (name : String) : Option Node :=
  match family with
  | .schemas => Keyed.get? c.schemas name
  | .parameters => (Keyed.get? c.parameters name).map (·.schema)
  | .requestBodies => (Keyed.get? c.requestBodies name).map (·.schema)

/-- The schema that a reference leads to. -/
def Document.resolve? (d : Document) (reference : String) : Option Node :=
  (Pointer.target? reference).bind fun (family, name) => d.components.find? family name

/-- One thing that generators look at; a component comes with the pointer to it. -/
inductive Event where
  | schema (reference : String) (node : Node)
  | parameter (reference : String) (parameter : Parameter)
  | requestBody (reference : String) (body : RequestBody)
  | operation (operation : Operation)

inductive EventKind where
  | schema
  | parameter
  | requestBody
  | operation
deriving DecidableEq

namespace Event

def kind : Event → EventKind
  | .schema .. => .schema
  | .parameter .. => .parameter
  | .requestBody .. => .requestBody
  | .operation .. => .operation

def reference? : Event → Option String
  | .schema r _ | .parameter r _ | .requestBody r _ => some r
  | .operation _ => none

def node? : Event → Option Node
  | .schema _ n => some n
  | .parameter _ p => some p.schema
  | .requestBody _ b => some b.schema
  | .operation _ => none

end Event

def Document.events (d : Document) : List Event :=
  d.components.schemas.map (fun (name, n) => .schema (Pointer.toComponent .schemas name) n)
  ++ d.components.parameters.map (fun (name, p) => .parameter (Pointer.toComponent .parameters name) p)
  ++ d.components.requestBodies.map (fun (name, b) => .requestBody (Pointer.toComponent .requestBodies name) b)
  ++ d.operations.map .operation

/-- Goes through the events of some kinds in order. -/
def Document.visit {m : Type → Type} [Monad m] (d : Document) (kinds : List EventKind)
    (handle : Event → m Unit) : m Unit :=
  (d.events.filter fun e => kinds.contains e.kind).forM handle

mutual

/-- The references in a node, in the order in which they are met. -/
def Node.references : Node → List String
  | ⟨a, items, properties, additional⟩ =>
    a.reference.toList
      ++ (match items with
        | some ns => referencesOf ns
        | none => [])
      ++ (match properties with
        | some ps => fieldReferences ps
        | none => [])
      ++ (match additional with
        | some n => n.references
        | none => [])

def referencesOf : List Node → List String
  | [] => []
  | n :: ns => n.references ++ referencesOf ns

def fieldReferences : List (String × Node) → List String
  | [] => []
  | (_, n) :: ps => n.references ++ fieldReferences ps

end

def Components.nodes (c : Components) : List Node :=
  c.schemas.map (·.2) ++ c.parameters.map (·.2.schema) ++ c.requestBodies.map (·.2.schema)

def Components.references (c : Components) : List String := referencesOf c.nodes

end Typeforge.Schema
