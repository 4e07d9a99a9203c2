import Typeforge.Proofs.Output.Blocks
import Typeforge.Proofs.Validator.Dangling
import Typeforge.Proofs.Validator.Order

/-!
# The file of validators can be loaded

The statements of the file are blocks, a comment on a constant and the constant. `LoadOrder` says of them what
it takes to load the file: each name is declared once, what a constant reads at once stands before it, and
what it reads when it is called stands somewhere.
-/

namespace Typeforge.Validator

open Schema Code Sketch

/-- A validator and its type, if that is written. -/
structure Constant where
  type : Option Ty
  init : Expr

def Constant.statement (name : String) (c : Constant) : Stmt := .const true name c.type c.init

/-- The blocks make up the file, and come in an order in which they can be loaded. -/
structure LoadOrder (d : Document) (file : File) (blocks : List (Block Constant)) : Prop where
  body : file.body = blocks.flatMap (Block.statements Constant.statement)
  /-- Nothing but the names in the table is declared. -/
  named : ∀ b ∈ blocks, b.name ∈ file.names.taken
  /-- Each name in the table is declared by one block. -/
  once : ∀ name ∈ file.names.taken, (blocks.map (·.name)).count name = 1
  /-- Each component has a name. -/
  components : ∀ e ∈ d.events, ∀ r, e.reference? = some r → ∃ name, file.nameOf? r = some name
  /-- A name that a constant mentions is declared before it, or if it is mentioned lazily, not before it. -/
  mentions : ∀ (i : Nat) (b : Block Constant), blocks[i]? = some b →
    ∀ u ∈ b.declared.init.mentions, u.name ∈ file.names.taken ∧
    ∃ (j : Nat) (c : Block Constant), blocks[j]? = some c ∧ c.name = u.name ∧ if u.postponed then i ≤ j else j < i

def Declaration.block (d : Declaration) : Block Constant where
  comment := d.comment
  name := d.name
  declared := ⟨if d.annotated then some topType else none, d.validator.toExpr Use.toExpr⟩

theorem block_statements (d : Declaration) : d.block.statements Constant.statement = d.statements := rfl

theorem mem_take_map_iff {α β : Type} {f : α → β} {as : List α} {i : Nat} {b : β} :
    b ∈ (as.take i).map f ↔ ∃ j < i, ∃ a, as[j]? = some a ∧ f a = b := by
  constructor
  · intro h
    obtain ⟨a, ha, rfl⟩ := List.mem_map.1 h
    obtain ⟨j, hj⟩ := List.mem_iff_getElem?.1 ha
    rw [List.getElem?_take] at hj
    split at hj
    · rename_i hlt
      exact ⟨j, hlt, a, hj, rfl⟩
    · cases hj
  · rintro ⟨j, hlt, a, ha, rfl⟩
    refine List.mem_map_of_mem (List.mem_iff_getElem?.2 ⟨j, ?_⟩)
    rw [List.getElem?_take, if_pos hlt, ha]

section Blocks

variable {s : Session}

theorem Settled.mentions (h : Settled s) {i : Nat} {d : Declaration} (hd : s.declarations[i]? = some d) {u : Use}
    (hu : u ∈ d.block.declared.init.mentions) : u.name ∈ s.names.taken ∧
      ∃ (j : Nat) (c : Declaration), s.declarations[j]? = some c ∧ c.name = u.name ∧
        if u.postponed then i ≤ j else j < i := by
  rw [Declaration.block, mentions_toExpr (h.1.written d (List.mem_of_getElem? hd))] at hu
  obtain ⟨htaken, horder⟩ := h.1.ordered i d hd u hu
  rw [mem_take_map_iff] at horder
  refine ⟨htaken, ?_⟩
  cases hp : u.postponed with
  | false =>
    obtain ⟨j, hj, c, hc, hname⟩ := horder.1 hp
    exact ⟨j, c, hc, hname, by simpa using hj⟩
  | true =>
    obtain ⟨c, hmem, hname⟩ := List.mem_map.1 (h.mem_declared htaken)
    obtain ⟨j, hj⟩ := List.mem_iff_getElem?.1 hmem
    refine ⟨j, c, hj, hname, ?_⟩
    -- were it declared before, the use would not be lazy
    by_contra hlt
    have := horder.2 ⟨j, by simpa using hlt, c, hj, hname⟩
    rw [hp] at this
    cases this

end Blocks

/-- **The file of validators can be loaded**: no constant is read before it is there, and none that is not. -/
theorem fillFile_loads {options : Options} {d : Document} {id : String} {file : File}
    (h : fillFile options d { id } = .ok file) : ∃ blocks, LoadOrder d file blocks := by
  obtain ⟨s, hends, -, hnames, hbody⟩ := fillFile_ok h
  obtain ⟨hsettled, hnamed⟩ := settled_declareAll (settled_start options.definitions.toStyle) hends
  have hblocks : (s.declarations.map Declaration.block).map (·.name) = s.declared := by
    rw [List.map_map]
    rfl
  refine ⟨s.declarations.map Declaration.block, ?_, ?_, ?_, ?_, ?_⟩
  · rw [hbody, List.flatMap_map]
    simp only [block_statements]
  · rw [hnames]
    intro b hb
    exact hsettled.1.named (hblocks ▸ List.mem_map_of_mem hb)
  · rw [hnames, hblocks]
    exact fun name hname => List.count_eq_one_of_mem hsettled.1.once (hsettled.mem_declared hname)
  · intro e he r hr
    obtain ⟨x, hx, rfl⟩ := exists_target options he hr
    rw [File.nameOf?, hnames]
    exact hnamed x hx
  · intro i b hb u hu
    rw [List.getElem?_map, Option.map_eq_some_iff] at hb
    obtain ⟨c, hc, rfl⟩ := hb
    obtain ⟨htaken, j, c', hj, hname, horder⟩ := hsettled.mentions hc hu
    exact ⟨hnames ▸ htaken, j, c'.block, by rw [List.getElem?_map, hj]; rfl, hname, horder⟩

/-- An owner has pets, and a pet is owned by its owner, by another pet or by no one. -/
def owners : Document where
  components := { schemas := [
    ("Pet", { operator := some .or, items := some [
      { reference := some "#/components/schemas/Owner" },
      { reference := some "#/components/schemas/Pet" },
      { kind := some .null }] }),
    ("Owner", { kind := some .array, items := some [{ reference := some "#/components/schemas/Pet" }] })] }

/-- Two schemas that need each other, one of them also itself. -/
theorem owners_load : ∃ file blocks, fillFile {} owners { id := "valibot" } = .ok file ∧ LoadOrder owners file blocks := by
  obtain ⟨file, h⟩ : ∃ file, fillFile {} owners { id := "valibot" } = .ok file := exists_fillFile (by decide +kernel)
  obtain ⟨blocks, hblocks⟩ := fillFile_loads h
  exact ⟨file, blocks, h, hblocks⟩

end Typeforge.Validator
