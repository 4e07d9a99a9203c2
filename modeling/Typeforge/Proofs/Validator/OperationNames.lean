import Typeforge.Proofs.Output.Names
import Typeforge.Proofs.Validator.Captures
import Typeforge.Proofs.Validator.Success

/-!
# How requests and responses are named

What is declared for an operation stands under a reference with the identifier of the operation at its end, and its
name is made from the base name of the reference. The identifier is written in the reference as it is, so the base name
is only what its last segment says. It is the identifier just if this says the same as a segment (`Pointer.Verbatim`).

* `made_minted`: how a table that is made name by name comes to each of its names;
* `exists_namedFrom`: from what the names of a file are made;
* `targetOf?_operation`: what is declared first under the references of an operation;
* `fillFile_names_operations`: the names of the operations of a document.
-/

namespace Typeforge

open Naming in
/-- The file has the name for the reference, and made it from the base: it is the base itself, or the base with the
least number that was free when the name was made. -/
def File.NamedFrom (file : File) (r base name : String) : Prop :=
  ∃ earlier : Table, earlier ++ [(r, name)] <+: file.names ∧ Minted earlier.taken base name

namespace Validator

open Schema Naming Code Sketch

/-- What the file has for `x`, which is the request of the operation `o` or the response to it. -/
structure NamesOperation (options : Options) (file : File) (o : Operation) (x : Target) (name : String) : Prop where
  /-- The reference has the name, which one statement declares. -/
  named : file.nameOf? x.reference = some name
  once : file.declared.count name = 1
  /-- It is a constant, made of what is to be declared. -/
  constant : ∃ annotation uses, Stmt.const true name annotation
    ((Sketch.pipe (fillAll (outline options.metadata x.node false) uses)).toExpr Use.toExpr) ∈ file.body
  /-- The name is made from the base name of the identifier, in the style of the family. -/
  segment : file.NamedFrom x.reference (x.style.render (Pointer.baseName o.id)) name
  /-- The reference leads back to the identifier just if that says the same as a segment, -/
  leadsBack : Pointer.baseName x.reference = o.id ↔ Pointer.Verbatim o.id
  /-- and then the name is made from the identifier. -/
  whole : Pointer.Verbatim o.id → file.NamedFrom x.reference (x.style.render o.id) name

section Names

variable {styleOf : String → Style} {t : Table} {r name : String}

/-- Each name is made from what its reference proposes, where the names before it are in use. -/
theorem made_minted (h : t.Made styleOf) (hr : (r, name) ∈ t) :
    ∃ earlier : Table, earlier ++ [(r, name)] <+: t ∧ Minted earlier.taken ((styleOf r).proposal r) name := by
  induction h with
  | nil => cases hr
  | @next t last _ hlast ih =>
    rcases List.mem_append.1 hr with hr | hr
    · obtain ⟨earlier, hprefix, hminted⟩ := ih hr
      exact ⟨earlier, hprefix.trans (List.prefix_append _ _), hminted⟩
    · obtain ⟨rfl, rfl⟩ := Prod.mk.inj (List.mem_singleton.1 hr)
      exact ⟨t, List.prefix_rfl, minted_fresh _ _⟩

theorem prefix_of_namedFrom {file : File} {base : String} (h : file.NamedFrom r base name) :
    base.toList <+: name.toList := by
  obtain ⟨earlier, -, hminted⟩ := h
  cases hminted with
  | base => exact List.prefix_rfl
  | numbered => simp [Table.numbered]

end Names

/-! ### The names of a file -/

section Filled

variable {options : Options} {d : Document} {x : Target} {r id : String} {file : File}

theorem exists_namedFrom (h : fillFile options d { id } = .ok file) (hfirst : targetOf? options d r = some x) :
    ∃ name, file.nameOf? r = some name ∧ file.NamedFrom r (x.style.proposal r) name := by
  obtain ⟨s, hends, -, hnames, -⟩ := fillFile_ok h
  obtain ⟨-, hnamed⟩ := settled_declareAll (settled_start options.definitions.toStyle) hends
  obtain ⟨hmade, -⟩ := names_of_declareAll hends
  obtain ⟨hx, rfl⟩ := targetOf?_mem hfirst
  obtain ⟨name, hname⟩ := hnamed x hx
  obtain ⟨earlier, hprefix, hminted⟩ := made_minted hmade (Keyed.mem_of_get? hname)
  have hstyle : styleOf options d x.reference = x.style := by rw [styleOf, hfirst]
  refine ⟨name, by rw [File.nameOf?, hnames, hname], earlier, hnames ▸ hprefix, ?_⟩
  rwa [hstyle] at hminted

/-- What is declared first under a reference is declared under its name, once and as a constant. -/
theorem declared_first {name : String} (h : fillFile options d { id } = .ok file)
    (hfirst : targetOf? options d r = some x) (hname : file.nameOf? r = some name) :
    file.declared.count name = 1 ∧ ∃ annotation uses, Stmt.const true name annotation
      ((Sketch.pipe (fillAll (outline options.metadata x.node false) uses)).toExpr Use.toExpr) ∈ file.body := by
  obtain ⟨s, hends, -, hnames, hbody⟩ := fillFile_ok h
  obtain ⟨hsettled, -⟩ := settled_declareAll (settled_start options.definitions.toStyle) hends
  rw [File.nameOf?, hnames] at hname
  have hmem : (r, name) ∈ s.names := Keyed.mem_of_get? hname
  have hdeclared : file.declared = s.declared := by rw [File.declared, hbody, declared_statements, Session.declared]
  obtain ⟨c, n, uses, hc, rfl, hcompiled⟩ := (traced_declareAll hends).exists_compiled hsettled hmem
  have hnode : n = x.node := by
    have hleads := hcompiled.leads
    rw [leadsTo?, hfirst] at hleads
    exact (Option.some.inj hleads).symm
  subst hnode
  constructor
  · rw [hdeclared]
    exact List.count_eq_one_of_mem hsettled.1.once (hsettled.mem_declared (Table.mem_taken hmem))
  · refine ⟨if c.annotated then some topType else none, uses, ?_⟩
    rw [hbody, ← hcompiled.validator]
    exact List.mem_flatMap.2 ⟨c, hc, List.mem_append_right _ (List.mem_singleton.2 rfl)⟩

end Filled

section Operations

variable {options : Options} {d : Document} {o : Operation} {x : Target} {before after : List Operation}

theorem baseName_reference (hx : x ∈ targetsOf options (.operation o)) :
    Pointer.baseName x.reference = Pointer.baseName o.id := by
  rcases mem_targetsOf_operation hx with ⟨-, rfl⟩ | ⟨-, n, -, rfl⟩
  · exact o.baseName_requestReference
  · exact o.baseName_responseReference

/-- An operation has nothing declared twice. -/
theorem eq_of_reference {y : Target} (hx : x ∈ targetsOf options (.operation o))
    (hy : y ∈ targetsOf options (.operation o)) (h : y.reference = x.reference) : y = x := by
  rcases mem_targetsOf_operation hx with ⟨-, rfl⟩ | ⟨-, n, hn, rfl⟩ <;>
    rcases mem_targetsOf_operation hy with ⟨-, rfl⟩ | ⟨-, n', hn', rfl⟩
  · rfl
  · exact absurd h.symm (o.requestReference_ne o)
  · exact absurd h (o.requestReference_ne o)
  · cases hn.symm.trans hn'
    rfl

/-- **What an operation has declared is declared first under its reference**, unless an earlier operation has the
identifier. -/
theorem targetOf?_operation (hops : d.operations = before ++ o :: after) (hnew : o.id ∉ before.map (·.id))
    (hx : x ∈ targetsOf options (.operation o)) : targetOf? options d x.reference = some x := by
  have hcomponents : (componentTargets options d.components).find? (fun y => y.reference = x.reference) = none := by
    refine List.find?_eq_none.2 fun y hy heq => resolve?_componentTarget hy ?_
    rw [of_decide_eq_true heq, Document.resolve?, target?_of_operation hx]
    rfl
  have hbefore : (before.flatMap fun o => targetsOf options (.operation o)).find?
      (fun y => y.reference = x.reference) = none := by
    refine List.find?_eq_none.2 fun y hy heq => hnew ?_
    obtain ⟨o', ho', hy⟩ := List.mem_flatMap.1 hy
    have hid : o'.id = o.id := id_of_reference hy hx (of_decide_eq_true heq)
    exact hid ▸ List.mem_map_of_mem ho'
  have hown : (targetsOf options (.operation o)).find? (fun y => y.reference = x.reference) = some x := by
    obtain ⟨y, hy⟩ := Option.isSome_iff_exists.1
      (List.find?_isSome (p := fun y : Target => y.reference = x.reference).2 ⟨x, hx, by simp⟩)
    rw [hy, eq_of_reference hx (List.mem_of_find?_eq_some hy) (by simpa using List.find?_some hy)]
  rw [targetOf?, targets_eq, hops, List.flatMap_append, List.flatMap_cons, List.find?_append, List.find?_append,
    List.find?_append, hcomponents, hbefore, hown]
  rfl

/-- **The names of what operations have declared.** Of operations with one identifier only the first has anything
declared. -/
theorem fillFile_names_operations {file : File} {id : String} (h : fillFile options d { id } = .ok file)
    (hops : d.operations = before ++ o :: after) (hnew : o.id ∉ before.map (·.id))
    (hx : x ∈ targetsOf options (.operation o)) : ∃ name, NamesOperation options file o x name := by
  have hfirst : targetOf? options d x.reference = some x := targetOf?_operation hops hnew hx
  have hbase : Pointer.baseName x.reference = Pointer.baseName o.id := baseName_reference hx
  obtain ⟨name, hname, hfrom⟩ := exists_namedFrom h hfirst
  obtain ⟨honce, hconstant⟩ := declared_first h hfirst hname
  rw [Style.proposal, hbase] at hfrom
  refine ⟨name, hname, honce, hconstant, hfrom, ?_, fun hverbatim => ?_⟩
  · rw [hbase]
    exact Pointer.baseName_eq_self_iff
  · rwa [Pointer.baseName_eq_self_iff.2 hverbatim] at hfrom

/-- An operation with a response. -/
def listPets : Operation where
  id := "listPets"
  method := "get"
  path := "/pets"
  response := some { kind := some .array, items := some [{ reference := some "#/components/schemas/Pet" }] }

/-- A document with this operation, and a schema that it refers to. -/
def petList : Document where
  operations := [listPets]
  components := { schemas := [("Pet", { kind := some .string })] }

/-- The request and the response are named after the identifier. -/
theorem listPets_named : ∃ file, fillFile {} petList { id := "valibot" } = .ok file ∧
    petList.operations = [] ++ listPets :: [] ∧ Pointer.Verbatim listPets.id ∧
    ∀ x ∈ targetsOf {} (.operation listPets), ∃ name, NamesOperation {} file listPets x name := by
  obtain ⟨file, h⟩ : ∃ file, fillFile {} petList { id := "valibot" } = .ok file := exists_fillFile (by decide +kernel)
  have hops : petList.operations = [] ++ listPets :: [] := rfl
  have hnew : listPets.id ∉ ([] : List Operation).map (·.id) := List.not_mem_nil
  exact ⟨file, h, hops, by decide +kernel, fun x hx => fillFile_names_operations h hops hnew hx⟩

/-- Two operations whose identifiers say something else as segments. -/
def slashed : Operation := { id := "pets/list", method := "get", path := "/pets" }

def tilded : Operation := { id := "a~1b", method := "get", path := "/letters" }

/-- Neither of them is named after its identifier. -/
theorem slashed_misnamed : ∃ file, fillFile {} { operations := [slashed, tilded] } { id := "valibot" } = .ok file ∧
    ∀ o ∈ [slashed, tilded], ∃ name, file.nameOf? o.requestReference = some name ∧
      name ≠ ({} : Options).requests.toStyle.render o.id ∧
      ∀ k, name ≠ Table.numbered (({} : Options).requests.toStyle.render o.id) k := by
  obtain ⟨file, h⟩ : ∃ file, fillFile {} { operations := [slashed, tilded] } { id := "valibot" } = .ok file :=
    exists_fillFile (by decide +kernel)
  refine ⟨file, h, fun o ho => ?_⟩
  have hfirst : targetOf? {} { operations := [slashed, tilded] } o.requestReference =
      some ⟨o.requestReference, o.requestNode, ({} : Options).requests.toStyle⟩ := by
    have hrequest (o : Operation) (hnone : o.response = none) :
        (⟨o.requestReference, o.requestNode, ({} : Options).requests.toStyle⟩ : Target) ∈
          targetsOf {} (.operation o) := by
      rw [targetsOf, hnone]
      exact List.mem_singleton.2 rfl
    rcases List.mem_cons.1 ho with rfl | ho
    · exact targetOf?_operation (show [slashed, tilded] = [] ++ slashed :: [tilded] from rfl) List.not_mem_nil
        (hrequest slashed rfl)
    · obtain rfl := List.mem_singleton.1 ho
      exact targetOf?_operation (show [slashed, tilded] = [slashed] ++ tilded :: [] from rfl) (by decide)
        (hrequest tilded rfl)
  obtain ⟨name, hname, hfrom⟩ := exists_namedFrom h hfirst
  -- neither of the two names that it could begin with begins with the other
  have hother : ∀ o ∈ [slashed, tilded],
      ¬ (({} : Options).requests.toStyle.proposal o.requestReference).toList <+:
          (({} : Options).requests.toStyle.render o.id).toList ∧
        ¬ (({} : Options).requests.toStyle.render o.id).toList <+:
          (({} : Options).requests.toStyle.proposal o.requestReference).toList := by decide +kernel
  have hnot : ¬ (({} : Options).requests.toStyle.render o.id).toList <+: name.toList := by
    intro hprefix
    rcases List.prefix_or_prefix_of_prefix (prefix_of_namedFrom hfrom) hprefix with hle | hle
    · exact (hother o ho).1 hle
    · exact (hother o ho).2 hle
  refine ⟨name, hname, ?_, fun k => ?_⟩
  · rintro rfl
    exact hnot List.prefix_rfl
  · rintro rfl
    exact hnot (by simp [Table.numbered])

end Operations

end Validator

end Typeforge
