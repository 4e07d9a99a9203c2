import Typeforge.Schema.Document

/-!
# Requests

All that a request carries is one object: the body, the parameters in the path, those in the query and, if
there are any, those in the headers. What an operation does not take is there as a property that admits no
value. A part is required when something in it is.
-/

namespace Typeforge.Schema

/-- The parts of a request that parameters are sent in. -/
def Location.sections : List (String × Location) :=
  [("headers", .header), ("path", .path), ("query", .query)]

namespace Operation

/-- The parameters that are sent in one part of the request. -/
def sentIn (o : Operation) (location : Location) : List Parameter :=
  o.parameters.filter fun p => p.location = location

def objectNode (properties : Keyed Node) (required : List String) : Node :=
  { kind := some .object, properties := some properties, required := some required }

/-- The object of parameters; of those with one name the last counts, at the place of the first. -/
def parametersNode (ps : List Parameter) : Node :=
  objectNode (Keyed.ofEntries (ps.map fun p => (p.name, p.schema))) ((ps.filter (·.required)).map (·.name))

/-- The parts of a request by what the operation says of its parameters. -/
def parameterSections (o : Operation) : List (String × List Parameter) :=
  (Location.sections.map fun (name, location) => (name, o.sentIn location)).filter fun s => !s.2.isEmpty

/-- The parts of a request. -/
def requestProperties (o : Operation) : Keyed Node :=
  let never : Node := .ofKind .never
  let body := match o.body with
    | some b => b.schema
    | none => never
  o.parameterSections.foldl (fun m s => Keyed.put m s.1 (parametersNode s.2))
    [("body", body), ("path", never), ("query", never)]

def requestRequired (o : Operation) : List String :=
  (if o.body.any (·.required) then ["body"] else [])
    ++ (o.parameterSections.filter fun s => s.2.any (·.required)).map Prod.fst

def requestNode (o : Operation) : Node := objectNode o.requestProperties o.requestRequired

/-- The reference that stands for the request of an operation. -/
def requestReference (o : Operation) : String := "#/operations/data/" ++ o.id

/-- The reference that stands for the response to an operation. -/
def responseReference (o : Operation) : String := "#/operations/response/" ++ o.id

end Operation

end Typeforge.Schema
