import Typeforge.Proofs.Keyed
import Typeforge.Schema.Request

/-!
# What a request carries

A request is one object with a property for each of its parts. The parameters that are sent in a part are one object
themselves, in which parameters of one name are one property: it stands where the first of them does, admits what the
last of them admits, and is required if any of them is (`parametersNode_carries`). Whether a part is there and required
depends on what is sent in it alone (`requestNode_describes`).
-/

namespace Typeforge.Schema.Operation

/-- The node is an object of which nothing is said but what its properties are, and which of them are required. -/
structure PlainObject (n : Node) : Prop where
  plain : n = objectNode n.propertyList (n.required.getD [])
  /-- Each property is there once. -/
  once : (Keyed.keys n.propertyList).Nodup
  /-- What is required is a property. -/
  known : ∀ name, n.isRequired name = true → name ∈ Keyed.keys n.propertyList

/-- The node is the object of some parameters. -/
structure Carries (ps : List Parameter) (n : Node) : Prop extends PlainObject n where
  /-- Each name is a property, in the order in which the names come first. -/
  names : Keyed.keys n.propertyList = firsts (· == ·) (ps.map (·.name))
  /-- The last parameter of a name says what the property admits. -/
  schema : ∀ name, Keyed.get? n.propertyList name = (ps.filter (·.name = name)).getLast?.map (·.schema)
  /-- A property is required just if some parameter of its name is. -/
  required : ∀ name, n.isRequired name = true ↔ ∃ p ∈ ps, p.name = name ∧ p.required = true

/-- The node is the object of all that a request of the operation carries. -/
structure Describes (o : Operation) (n : Node) : Prop extends PlainObject n where
  /-- The headers are there just if a parameter is sent in them. -/
  names : Keyed.keys n.propertyList =
    ["body", "path", "query"] ++ if ∃ p ∈ o.parameters, p.location = .header then ["headers"] else []
  /-- The body admits what the operation says, or nothing. -/
  body : Keyed.get? n.propertyList "body" = some ((o.body.map (·.schema)).getD (.ofKind .never))
  /-- A part in which nothing is sent admits nothing. -/
  bare : ∀ part ∈ [("path", Location.path), ("query", .query)], o.sentIn part.2 = [] →
    Keyed.get? n.propertyList part.1 = some (.ofKind .never)
  /-- A part in which something is sent is the object of that. -/
  parts : ∀ part ∈ Location.sections, o.sentIn part.2 ≠ [] →
    ∃ m, Keyed.get? n.propertyList part.1 = some m ∧ Carries (o.sentIn part.2) m
  /-- The body is required just if the operation says so, another part just if something in it is. -/
  required : ∀ name, n.isRequired name = true ↔
    (name = "body" ∧ ∃ b, o.body = some b ∧ b.required = true) ∨
    ∃ part ∈ Location.sections, name = part.1 ∧ ∃ p ∈ o.sentIn part.2, p.required = true

section Objects

variable {properties : Keyed Node} {required : List String} {name : String}

@[simp] theorem propertyList_objectNode : (objectNode properties required).propertyList = properties := rfl

@[simp] theorem isRequired_objectNode : (objectNode properties required).isRequired name = true ↔ name ∈ required := by
  simp [Node.isRequired, objectNode]

theorem plainObject (hkeys : (Keyed.keys properties).Nodup) (hsub : required ⊆ Keyed.keys properties) :
    PlainObject (objectNode properties required) :=
  ⟨rfl, hkeys, fun _ h => hsub (isRequired_objectNode.1 h)⟩

end Objects

/-- **Parameters of one name are one property.** -/
theorem parametersNode_carries (ps : List Parameter) : Carries ps (parametersNode ps) := by
  have hkeys : Keyed.keys (Keyed.ofEntries (ps.map fun p => (p.name, p.schema))) =
      firsts (· == ·) (ps.map (·.name)) := by
    rw [Keyed.keys_ofEntries, List.map_map]
    rfl
  refine { toPlainObject := plainObject (Keyed.nodup_keys_ofEntries _) ?_, names := hkeys, schema := ?_,
           required := ?_ }
  · intro name h
    obtain ⟨p, hp, rfl⟩ := List.mem_map.1 h
    rw [hkeys, mem_firsts_beq]
    exact List.mem_map_of_mem (List.mem_of_mem_filter hp)
  · intro name
    rw [parametersNode, propertyList_objectNode, Keyed.get?_ofEntries, List.filter_map, List.getLast?_map,
      Option.map_map]
    rfl
  · intro name
    rw [parametersNode, isRequired_objectNode]
    simp only [List.mem_map, List.mem_filter]
    exact ⟨fun ⟨p, ⟨hp, hr⟩, hn⟩ => ⟨p, hp, hn, hr⟩, fun ⟨p, hp, hn, hr⟩ => ⟨p, ⟨hp, hr⟩, hn⟩⟩

/-! ### The parts of a request -/

/-- The node of a part by what is sent in it. -/
def partNode (ps : List Parameter) : Node := if ps = [] then .ofKind .never else parametersNode ps

section Parts

variable {o : Operation}

theorem mem_sections {part : String × Location} : part ∈ Location.sections ↔
    part = ("headers", .header) ∨ part = ("path", .path) ∨ part = ("query", .query) := by
  simp [Location.sections]

theorem sentIn_ne_nil_iff {location : Location} :
    o.sentIn location ≠ [] ↔ ∃ p ∈ o.parameters, p.location = location := by
  simp [sentIn]

theorem parameterSections_eq (o : Operation) : o.parameterSections =
    (if o.sentIn .header = [] then [] else [("headers", o.sentIn .header)]) ++
    (if o.sentIn .path = [] then [] else [("path", o.sentIn .path)]) ++
    if o.sentIn .query = [] then [] else [("query", o.sentIn .query)] := by
  simp only [parameterSections, Location.sections, List.map_cons, List.map_nil, List.filter_cons, List.filter_nil,
    Bool.not_eq_true', List.isEmpty_eq_false_iff]
  split <;> split <;> split <;> simp_all

theorem requestProperties_eq (o : Operation) : o.requestProperties =
    [("body", (o.body.map (·.schema)).getD (.ofKind .never)), ("path", partNode (o.sentIn .path)),
      ("query", partNode (o.sentIn .query))] ++
    if o.sentIn .header = [] then [] else [("headers", parametersNode (o.sentIn .header))] := by
  rw [requestProperties, parameterSections_eq]
  by_cases hheader : o.sentIn .header = [] <;> by_cases hpath : o.sentIn .path = [] <;>
    by_cases hquery : o.sentIn .query = [] <;> cases o.body <;>
    simp [hheader, hpath, hquery, Keyed.put, partNode]

theorem keys_requestProperties (o : Operation) : Keyed.keys o.requestProperties =
    ["body", "path", "query"] ++ if o.sentIn .header = [] then [] else ["headers"] := by
  rw [requestProperties_eq]
  by_cases hheader : o.sentIn .header = [] <;> simp [hheader, Keyed.keys]

theorem nodup_keys_requestProperties (o : Operation) : (Keyed.keys o.requestProperties).Nodup := by
  rw [keys_requestProperties]
  split <;> simp

theorem get?_requestProperties {part : String × Location} (h : part ∈ Location.sections)
    (hsent : part.2 = .header → o.sentIn .header ≠ []) :
    Keyed.get? o.requestProperties part.1 = some (partNode (o.sentIn part.2)) := by
  rw [requestProperties_eq]
  rcases mem_sections.1 h with rfl | rfl | rfl
  · simp [Keyed.get?, hsent rfl, partNode]
  · simp [Keyed.get?]
  · simp [Keyed.get?]

theorem mem_requestRequired {name : String} : name ∈ o.requestRequired ↔
    (name = "body" ∧ ∃ b, o.body = some b ∧ b.required = true) ∨
    ∃ part ∈ Location.sections, name = part.1 ∧ ∃ p ∈ o.sentIn part.2, p.required = true := by
  rw [requestRequired, List.mem_append]
  refine or_congr ?_ ?_
  · cases hbody : o.body with
    | none => simp
    | some b => cases hrequired : b.required <;> simp [hrequired]
  · simp only [parameterSections, List.mem_map, List.mem_filter, List.any_eq_true]
    constructor
    · rintro ⟨s, ⟨⟨⟨part, hpart, rfl⟩, -⟩, hany⟩, rfl⟩
      exact ⟨part, hpart, rfl, hany⟩
    · rintro ⟨part, hpart, rfl, p, hp, hrequired⟩
      refine ⟨(part.1, o.sentIn part.2), ⟨⟨⟨part, hpart, rfl⟩, ?_⟩, p, hp, hrequired⟩, rfl⟩
      simpa using List.ne_nil_of_mem hp

/-- What is required is there: something is sent in it, or it is always there. -/
theorem requestRequired_subset (o : Operation) : o.requestRequired ⊆ Keyed.keys o.requestProperties := by
  intro name h
  rw [keys_requestProperties]
  rcases mem_requestRequired.1 h with ⟨rfl, -⟩ | ⟨part, hpart, rfl, p, hp, -⟩
  · simp
  · rcases mem_sections.1 hpart with rfl | rfl | rfl
    · simp [List.ne_nil_of_mem hp]
    · simp
    · simp

theorem requestNode_congr {o' : Operation} (hbody : o'.body = o.body)
    (hsent : ∀ part ∈ Location.sections, o'.sentIn part.2 = o.sentIn part.2) : o'.requestNode = o.requestNode := by
  have hsections : o'.parameterSections = o.parameterSections := by
    unfold parameterSections
    rw [List.map_congr_left fun part hpart => congrArg (Prod.mk part.1) (hsent part hpart)]
  rw [requestNode, requestNode, requestProperties, requestProperties, requestRequired, requestRequired, hsections,
    hbody]

theorem sentIn_filter {location : Location} {q : Parameter → Bool}
    (h : ∀ p : Parameter, p.location = location → q p = true) :
    sentIn { o with parameters := o.parameters.filter q } location = o.sentIn location := by
  simp only [sentIn, List.filter_filter]
  refine List.filter_congr fun p _ => ?_
  by_cases hp : p.location = location <;> simp [hp, h]

theorem requestNode_without_cookies (o : Operation) :
    requestNode { o with parameters := o.parameters.filter (·.location ≠ .cookie) } = o.requestNode := by
  refine requestNode_congr rfl fun part hpart => sentIn_filter fun p hp => ?_
  rcases mem_sections.1 hpart with rfl | rfl | rfl <;> simp [hp]

end Parts

/-- **The schema of a request is made of what the operation says of its body and parameters.** Cookies have no part in
it. -/
theorem requestNode_describes (o : Operation) : Describes o o.requestNode ∧
    requestNode { o with parameters := o.parameters.filter (·.location ≠ .cookie) } = o.requestNode := by
  refine ⟨{ toPlainObject := plainObject o.nodup_keys_requestProperties o.requestRequired_subset, names := ?_,
            body := ?_, bare := ?_, parts := ?_, required := ?_ }, o.requestNode_without_cookies⟩
  · rw [requestNode, propertyList_objectNode, keys_requestProperties, ← ite_not]
    simp only [← sentIn_ne_nil_iff]
  · rw [requestNode, propertyList_objectNode, requestProperties_eq]
    rfl
  · intro part hpart hnil
    have hsection : part ∈ Location.sections ∧ part.2 ≠ .header := by
      simp only [List.mem_cons, List.not_mem_nil, or_false] at hpart
      rcases hpart with rfl | rfl <;> simp [mem_sections]
    rw [requestNode, propertyList_objectNode, get?_requestProperties hsection.1 fun h => absurd h hsection.2, hnil]
    rfl
  · intro part hpart hsent
    refine ⟨parametersNode (o.sentIn part.2), ?_, parametersNode_carries _⟩
    rw [requestNode, propertyList_objectNode, get?_requestProperties hpart fun h => h ▸ hsent, partNode, if_neg hsent]
  · intro name
    rw [requestNode, isRequired_objectNode, mem_requestRequired]

/-- Two parameters of one name, a third one between them and a cookie. -/
example : requestNode {
    id := "find", method := "get", path := "/pets"
    parameters := [⟨"tag", .query, true, .ofKind .string⟩, ⟨"page", .query, false, .ofKind .integer⟩,
      ⟨"tag", .query, false, .ofKind .boolean⟩, ⟨"session", .cookie, true, .ofKind .string⟩] } =
    objectNode [("body", .ofKind .never), ("path", .ofKind .never),
      ("query", objectNode [("tag", .ofKind .boolean), ("page", .ofKind .integer)] ["tag"])] ["query"] := rfl

end Typeforge.Schema.Operation
