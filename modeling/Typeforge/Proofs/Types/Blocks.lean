import Typeforge.Proofs.Output.Blocks
import Typeforge.Proofs.Types.Closed

/-!
# What the file of types is made of

The statements of the file are blocks, one for each component: a comment, if there is any, and the declaration it is
on. They come in the order of the document, whatever the components refer to. A component that is referred to before
its turn has its name from then on, and its block has the same name when its turn comes (`Declares`).

* `ends_declare_block`: declaring a component adds its block;
* `ends_declareAll_blocks`: so declaring several adds theirs, in order;
* `decoded_listing`: the file of a decoded document, in which no two blocks have one name.
-/

namespace Typeforge.Types

open Code Schema Naming

/-- The block declares the node `n` under the name that the file has for the reference `r`. -/
structure Declares (options : Options) (d : Document) (file : File) (r : String) (n : Node) (b : Block Shape) :
    Prop where
  named : file.nameOf? r = some b.name
  /-- The comment is the one on the node, if there are to be comments. -/
  comment : b.comment = if options.comments then commentOn n.toAttributes else []
  /-- The declaration is the shape of the node, with the names of the references in it. -/
  shape : ∃ names, b.declared = (Shape.ofNode n).renamed names ∧ List.Forall₂ (Names d file) (Shape.ofNode n).refs names

/-! ### One component after the other -/

section Run

variable {options : Options} {d : Document} {s t u : File} {r : String} {n : Node} {b : Block Shape}

/-- A block still declares the node when more names are given out. -/
theorem Declares.stays (h : Declares options d s r n b) (hstays : Stays s t) : Declares options d t r n b := by
  obtain ⟨names, hshape, hnames⟩ := h.shape
  have hnames' : List.Forall₂ (Names d t) (Shape.ofNode n).refs names :=
    hnames.imp fun r' name hr => ⟨hr.1, hstays r' name hr.2⟩
  exact ⟨hstays r b.name h.named, h.comment, names, hshape, hnames'⟩

theorem body_addShape (name : String) (shape : Shape) : (addShape options n name shape s).body = s.body ++
    (Block.mk (if options.comments then commentOn n.toAttributes else []) name shape).statements Shape.statement := by
  cases hc : (if options.comments then commentOn n.toAttributes else []).isEmpty
  · simp [addShape, hc, Block.statements, File.add]
  · simp [addShape, hc, Block.statements, File.add]

theorem Asks.body_eq {rs : List String} (h : Asks options rs s t) : t.body = s.body := by
  cases h
  rfl

/-- **Declaring a component adds its block**, and nothing else to the statements. -/
theorem ends_declare_block (h : Ends (declare options d r n) s (.ok ()) t) :
    ∃ b, Declares options d t r n b ∧ t.body = s.body ++ b.statements Shape.statement := by
  rw [declare_eq, ends_bind_ok] at h
  obtain ⟨name, u, hname, h⟩ := h
  obtain ⟨names, v, hnames, h⟩ := ends_bind_ok.1 h
  obtain ⟨-, rfl⟩ := ends_modify.1 h
  obtain ⟨hasks, hself⟩ := ends_assignName hname
  have hasks' : Asks options (Shape.ofNode n).refs u v := ends_namesOfTargets hnames
  have hrefs : List.Forall₂ (Names d v) (Shape.ofNode n).refs names := names_of_targets hnames
  have hbody : v.body = s.body := hasks'.body_eq.trans hasks.body_eq
  -- the statements are added last and change no name
  have hstays : Stays v (addShape options n name ((Shape.ofNode n).renamed names) v) := by
    intro r' name' hr'
    rw [File.nameOf?, names_addShape]
    exact hr'
  have hblock : Declares options d v r n
      ⟨if options.comments then commentOn n.toAttributes else [], name, (Shape.ofNode n).renamed names⟩ :=
    ⟨hasks'.stays r name hself, rfl, names, rfl, hrefs⟩
  exact ⟨_, hblock.stays hstays, by rw [body_addShape, hbody]⟩

theorem ends_declareAll_blocks {ps : List (String × Node)}
    (h : Ends (ps.forM fun p => declare options d p.1 p.2) s (.ok ()) t) :
    ∃ blocks, List.Forall₂ (fun p => Declares options d t p.1 p.2) ps blocks ∧
      t.body = s.body ++ blocks.flatMap (Block.statements Shape.statement) := by
  induction ps generalizing s with
  | nil =>
    obtain ⟨-, rfl⟩ := ends_pure.1 h
    exact ⟨[], .nil, by simp⟩
  | cons p ps ih =>
    obtain ⟨⟨⟩, u, hp, hps⟩ := ends_bind_ok.1 h
    obtain ⟨b, hb, hbody⟩ := ends_declare_block hp
    obtain ⟨blocks, hblocks, hrest⟩ := ih hps
    have hstays : Stays u t := (fills_declareAll hps).stays
    refine ⟨b :: blocks, .cons (hb.stays hstays) hblocks, ?_⟩
    rw [hrest, hbody, List.flatMap_cons, List.append_assoc]

end Run

/-! ### The blocks of a file -/

section Listing

variable {options : Options} {d : Document} {file : File} {id : String}

/-- The blocks make up the file, one for each component. -/
structure Listing (options : Options) (d : Document) (file : File) (blocks : List (Block Shape)) :
    Prop where
  body : file.body = blocks.flatMap (Block.statements Shape.statement)
  /-- The components are the schemas, the parameters and the request bodies, in the order of the events that show
  them. -/
  events : ∃ shown, d.events = shown ++ d.operations.map .operation ∧
    List.Forall₂ Event.Shows shown d.components.listed
  /-- Each block declares the component in its place, under the name that the file has for the pointer to it. -/
  declares : List.Forall₂ (fun c => Declares options d file c.pointer c.node) d.components.listed blocks
  /-- No two blocks have one name. -/
  distinct : (blocks.map (·.name)).Nodup

theorem components_eq (d : Document) : components d = d.components.listed.map fun c => (c.pointer, c.node) := by
  simp only [components, Document.events, Components.listed, List.filterMap_append, List.filterMap_map,
    Function.comp_def, Event.reference?, Event.node?, List.map_append, List.map_map, Component.pointer]
  simp

theorem nodup_names {blocks : List (Block Shape)} (hnames : file.names.Distinct) (hpointers : (pointers d).Nodup)
    (h : List.Forall₂ (fun p => Declares options d file p.1 p.2) (components d) blocks) :
    (blocks.map (·.name)).Nodup := by
  have hnamed : List.Forall₂ (fun p name => file.nameOf? p.1 = some name) (components d) (blocks.map (·.name)) := by
    rw [List.forall₂_map_right_iff]
    exact h.imp fun p b hb => hb.named
  rw [List.nodup_iff_count_le_one]
  intro name
  by_cases hmem : name ∈ blocks.map (·.name)
  · obtain ⟨p, -, hp⟩ := exists_answered hnamed hmem
    have hcount : (blocks.map (·.name)).count name = (pointers d).count p.1 := count_names hnames hnamed hp
    rw [hcount]
    exact List.nodup_iff_count_le_one.1 hpointers p.1
  · have hzero : (blocks.map (·.name)).count name = 0 := List.count_eq_zero.2 hmem
    omega

theorem fillFile_blocks (h : fillFile options d { id } = .ok file) : ∃ blocks,
    List.Forall₂ (fun p => Declares options d file p.1 p.2) (components d) blocks ∧
      file.body = blocks.flatMap (Block.statements Shape.statement) := by
  obtain ⟨blocks, hblocks, hbody⟩ := ends_declareAll_blocks (fillFile_ok h).1
  exact ⟨blocks, hblocks, hbody⟩

theorem fillFile_distinct (h : fillFile options d { id } = .ok file) : file.names.Distinct := by
  have hmade : file.names.Made fun _ => options.definitions.toStyle := by
    rw [(fillFile_ok h).2]
    exact Table.made_assignAll .nil
  exact hmade.distinct

/-- **The file of types of a decoded document lists its components**: one declaration for each, in order, each under a
name of its own. -/
theorem decoded_listing {levels : Nat} {raw : Json.Raw} (hd : Document.decode levels raw = some d)
    (h : fillFile options d { id } = .ok file) : ∃ blocks, Listing options d file blocks := by
  have hpointers : (pointers d).Nodup := nodup_pointers (Document.decode_distinct _ _ _ hd)
  obtain ⟨blocks, hblocks, hbody⟩ := fillFile_blocks h
  have hdeclares : List.Forall₂ (fun c => Declares options d file c.pointer c.node) d.components.listed blocks := by
    rw [components_eq, List.forall₂_map_left_iff] at hblocks
    exact hblocks
  exact ⟨blocks, hbody, events_eq d, hdeclares, nodup_names (fillFile_distinct h) hpointers hblocks⟩

/-- An owner and its pets refer to each other, and a request body has the name of one of them. -/
def petsOf : Document where
  components := {
    schemas := [
      ("Owner", { kind := some .array, description := some "Who keeps pets.", items := some [
        { reference := some "#/components/schemas/Pet" }] }),
      ("Pet", { reference := some "#/components/schemas/Owner" })]
    parameters := [("Limit", { name := "limit", location := .query, schema := { kind := some .integer } })]
    requestBodies := [("Owner", { schema := { reference := some "#/components/schemas/Owner" } })] }

def petsOfRaw : Json.Raw :=
  .object [("components", .object [
    ("schemas", .object [
      ("Owner", .object [("type", .string "array"), ("description", .string "Who keeps pets."),
        ("items", .array [.object [("$ref", .string "#/components/schemas/Pet")]])]),
      ("Pet", .object [("$ref", .string "#/components/schemas/Owner")])]),
    ("parameters", .object [("Limit", .object [("name", .string "limit"), ("in", .string "query"),
      ("schema", .object [("type", .string "integer")])])]),
    ("requestBodies", .object [("Owner", .object [
      ("schema", .object [("$ref", .string "#/components/schemas/Owner")])])])])]

/-- Its file exists and lists the four components. -/
theorem petsOf_listing : ∃ file blocks, Document.decode 12 petsOfRaw = some petsOf ∧
    fillFile {} petsOf { id := "types" } = .ok file ∧ Listing {} petsOf file blocks := by
  have hdecode : Document.decode 12 petsOfRaw = some petsOf := by rfl
  obtain ⟨file, h⟩ : ∃ file, fillFile {} petsOf { id := "types" } = .ok file := exists_fillFile (by decide +kernel)
  obtain ⟨blocks, hblocks⟩ := decoded_listing hdecode h
  exact ⟨file, blocks, hdecode, h, hblocks⟩

end Listing

end Typeforge.Types
