import Typeforge.Json.Decoder
import Typeforge.Json.Reader
import Typeforge.Schema.Document

/-!
# Documents in JSON

Names that no field has are passed over. An attribute of a node may be null, which means that it is
absent, except for the two that hold values. What a document, its components, a parameter or a body leave
out has a default.
-/

namespace Typeforge.Schema

open Json Decoder

def Kind.words : List (String × Kind) :=
  [("array", .array), ("boolean", .boolean), ("enum", .enumeration), ("integer", .integer), ("never", .never),
    ("null", .null), ("number", .number), ("object", .object), ("string", .string), ("tuple", .tuple),
    ("undefined", .undefined), ("unknown", .unknown), ("void", .void)]

def Operator.words : List (String × Operator) := [("and", .and), ("or", .or)]

def AccessScope.words : List (String × AccessScope) := [("read", .read), ("write", .write)]

def Location.words : List (String × Location) :=
  [("path", .path), ("query", .query), ("header", .header), ("cookie", .cookie)]

/-- The names of a node's fields, in the order of the array form. -/
def Node.fieldNames : List String :=
  ["type", "$ref", "items", "logicalOperator", "properties", "required", "additionalProperties", "format", "pattern",
    "minLength", "maxLength", "minimum", "maximum", "exclusiveMinimum", "exclusiveMaximum", "minItems", "maxItems",
    "const", "default", "title", "description", "deprecated", "accessScope"]

def Attributes.decode (fields : Keyed Raw) (levels : Nat) : Option Attributes := do
  return {
    kind := ← optional (word Kind.words) fields levels "type"
    reference := ← optional string fields levels "$ref"
    operator := ← optional (word Operator.words) fields levels "logicalOperator"
    required := ← optional (list string) fields levels "required"
    format := ← optional string fields levels "format"
    pattern := ← optional string fields levels "pattern"
    minLength := ← optional count fields levels "minLength"
    maxLength := ← optional count fields levels "maxLength"
    minimum := ← optional double fields levels "minimum"
    maximum := ← optional double fields levels "maximum"
    exclusiveMinimum := ← optional double fields levels "exclusiveMinimum"
    exclusiveMaximum := ← optional double fields levels "exclusiveMaximum"
    minItems := ← optional count fields levels "minItems"
    maxItems := ← optional count fields levels "maxItems"
    const := ← present value fields levels "const"
    default := ← present value fields levels "default"
    title := ← optional string fields levels "title"
    description := ← optional string fields levels "description"
    deprecated := ← optional bool fields levels "deprecated"
    accessScope := ← optional (word AccessScope.words) fields levels "accessScope" }

/-- A node; the nodes in its items and properties lie two levels down, the schema of further properties
one. -/
def Node.decode : Decoder Node
  | 0, _ => none
  | levels + 1, raw => do
    let inside : Raw → Option Node :=
      match levels with
      | 0 => fun _ => none
      | below + 1 => Node.decode below
    let fields ← fields? Node.fieldNames .ignored raw
    if shorterThan Node.fieldNames.length raw then none
    let attributes ← Attributes.decode fields levels
    let items ← optional (list fun _ => inside) fields levels "items"
    let properties ← optional (keyed fun _ => inside) fields levels "properties"
    let additional ← optional (fun _ => Node.decode levels) fields levels "additionalProperties"
    return { attributes with items, properties, additional }

def Parameter.decode : Decoder Parameter
  | 0, _ => none
  | levels + 1, raw => do
    let fields ← fields? ["name", "in", "required", "schema"] .ignored raw
    return {
      name := ← needed string fields levels "name"
      location := ← needed (word Location.words) fields levels "in"
      required := ← withDefault bool false fields levels "required"
      schema := ← withDefault Node.decode {} fields levels "schema" }

def RequestBody.decode : Decoder RequestBody
  | 0, _ => none
  | levels + 1, raw => do
    let fields ← fields? ["required", "schema"] .ignored raw
    return {
      required := ← withDefault bool false fields levels "required"
      schema := ← withDefault Node.decode {} fields levels "schema" }

/-- The names of an operation's fields, in the order of the array form. -/
def Operation.fieldNames : List String :=
  ["id", "method", "path", "summary", "description", "deprecated", "parameters", "body", "response"]

def Operation.decode : Decoder Operation
  | 0, _ => none
  | levels + 1, raw => do
    let fields ← fields? Operation.fieldNames .ignored raw
    if shorterThan Operation.fieldNames.length raw then none
    return {
      id := ← needed string fields levels "id"
      method := ← needed string fields levels "method"
      path := ← needed string fields levels "path"
      summary := ← optional string fields levels "summary"
      description := ← optional string fields levels "description"
      deprecated := ← withDefault bool false fields levels "deprecated"
      parameters := ← withDefault (list Parameter.decode) [] fields levels "parameters"
      body := ← optional RequestBody.decode fields levels "body"
      response := ← optional Node.decode fields levels "response" }

def Components.decode : Decoder Components
  | 0, _ => none
  | levels + 1, raw => do
    let fields ← fields? ["schemas", "parameters", "requestBodies"] .ignored raw
    return {
      schemas := ← withDefault (keyed Node.decode) [] fields levels "schemas"
      parameters := ← withDefault (keyed Parameter.decode) [] fields levels "parameters"
      requestBodies := ← withDefault (keyed RequestBody.decode) [] fields levels "requestBodies" }

def Document.decode : Decoder Document
  | 0, _ => none
  | levels + 1, raw => do
    let fields ← fields? ["components", "operations"] .ignored raw
    return {
      components := ← withDefault Components.decode {} fields levels "components"
      operations := ← withDefault (list Operation.decode) [] fields levels "operations" }

def Document.parse? (text : String) : Option Document := do
  Document.decode maxLevels (← Raw.parse? text)

end Typeforge.Schema
