import Typeforge.Proofs.Schema.Events
import Typeforge.Proofs.Types.Captures

/-!
# Which names of the file of types are declared

The types of the components refer to references, and the file has a name for each (`names_written`). A component is
declared under the name of the pointer to it, so the name of a reference is declared just if the reference is
spelled as this pointer is. Other spellings lead to a component too: a slash in its name need not be escaped. They
have names of their own, which nothing declares (`Closure`).
-/

namespace Typeforge

open Code Naming

/-- The names that the types in a statement refer to. -/
def Code.Stmt.typeNames : Stmt → List String
  | .interface _ members => memberRefs members
  | .typeAlias _ type => type.refs
  | .const .. | .doc _ => []

@[simp] theorem Code.Stmt.typeNames_doc (paragraphs : List String) : (Stmt.doc paragraphs).typeNames = [] := rfl

/-- The names that the interfaces and aliases of the file refer to, in order. -/
def File.typeNames (f : File) : List String := f.body.flatMap Stmt.typeNames

theorem File.typeNames_add (f : File) (s : Stmt) : (f.add s).typeNames = f.typeNames ++ s.typeNames := by
  simp [typeNames, add]

namespace Types

open Schema

/-- What the types of the components refer to, in order. -/
def written (d : Document) : List String := (components d).flatMap fun p => (Shape.ofNode p.2).refs

/-! ### One component after the other -/

section Run

variable {options : Options} {d : Document} {file s t : File} {r : String} {n : Node}

theorem typeNames_addShape {name : String} (names : List String) (shape : Shape) (h : names.length = shape.refs.length) :
    (addShape options n name (shape.renamed names) file).typeNames = file.typeNames ++ names := by
  have hshape : ((shape.renamed names).statement name).typeNames = names := by
    cases shape with
    | interface members => exact memberRefs_renamedMembers members names h
    | typeAlias type => exact refs_renamed type names h
  cases hc : (if options.comments then commentOn n.toAttributes else []).isEmpty <;>
    simp [addShape, hc, File.typeNames_add, hshape]

/-- The name is the one that the file has for the reference, which leads to a component. -/
def Names (d : Document) (file : File) (r name : String) : Prop := d.resolve? r ≠ none ∧ file.nameOf? r = some name

/-- The names in `s` are also those in `t`. -/
def Stays (s t : File) : Prop := ∀ r name, s.nameOf? r = some name → t.nameOf? r = some name

theorem Stays.refl (s : File) : Stays s s := fun _ _ => id

theorem Stays.trans (s t u : File) (h : Stays s t) (h' : Stays t u) : Stays s u :=
  fun r name hr => h' r name (h r name hr)

theorem Asks.stays {rs : List String} (h : Asks options rs s t) : Stays s t := by
  cases h
  exact fun r name => Table.nameOf?_assignAll

theorem names_of_targets {rs names : List String} (h : Ends (rs.mapM (nameOfTarget options d)) s (.ok names) t) :
    List.Forall₂ (Names d t) rs names := by
  obtain ⟨-, -, hnames⟩ := ends_mapM_ok (I := fun _ : File => True) (R := Stays) (P := Names d) Stays.trans Stays.refl
    (fun _ _ _ _ _ hstays hr => ⟨hr.1, hstays _ _ hr.2⟩)
    (fun r _ s name t _ h => by
      have hasks := ends_nameOfTarget h
      unfold nameOfTarget at h
      cases hn : d.resolve? r with
      | none =>
        rw [hn] at h
        cases (ends_throw.1 h).1
      | some n =>
        rw [hn] at h
        exact ⟨trivial, hasks.stays, by simp [hn], (ends_assignName h).2⟩)
    trivial h
  exact hnames

/-- From `s` to `t` the components were declared, with their types. -/
structure Fills (d : Document) (ps : List (String × Node)) (s t : File) : Prop where
  stays : Stays s t
  declared : ∃ names, t.declared = s.declared ++ names ∧
    List.Forall₂ (fun p name => t.nameOf? p.1 = some name) ps names
  typed : ∃ names, t.typeNames = s.typeNames ++ names ∧
    List.Forall₂ (Names d t) (ps.flatMap fun p => (Shape.ofNode p.2).refs) names

theorem fills_declare (h : Ends (declare options d r n) s (.ok ()) t) : Fills d [(r, n)] s t := by
  rw [declare_eq, ends_bind_ok] at h
  obtain ⟨name, u, hname, h⟩ := h
  obtain ⟨names, v, hnames, h⟩ := ends_bind_ok.1 h
  obtain ⟨-, rfl⟩ := ends_modify.1 h
  obtain ⟨hasks, hself⟩ := ends_assignName hname
  have hasks' := ends_namesOfTargets hnames
  have hrefs := names_of_targets hnames
  have hadded : (addShape options n name ((Shape.ofNode n).renamed names) v).nameOf? = v.nameOf? := by
    funext r'
    rw [File.nameOf?, names_addShape]
    rfl
  obtain ⟨hdeclared, htyped⟩ : v.declared = s.declared ∧ v.typeNames = s.typeNames := by
    cases hasks
    cases hasks'
    exact ⟨rfl, rfl⟩
  refine ⟨?_, ⟨[name], ?_, .cons ?_ .nil⟩, ⟨names, ?_, ?_⟩⟩
  · simp only [Stays, hadded]
    exact hasks.stays.trans _ _ _ hasks'.stays
  · rw [declared_addShape, hdeclared]
  · rw [hadded]
    exact hasks'.stays r name hself
  · rw [typeNames_addShape _ _ hrefs.length_eq.symm, htyped]
  · simp only [List.flatMap_cons, List.flatMap_nil, List.append_nil]
    exact hrefs.imp fun _ _ h => ⟨h.1, by rw [hadded]; exact h.2⟩

theorem Fills.append {ps qs : List (String × Node)} {u : File} (h : Fills d ps s t) (h' : Fills d qs t u) :
    Fills d (ps ++ qs) s u := by
  obtain ⟨names, hnames, hdeclared⟩ := h.declared
  obtain ⟨names', hnames', hdeclared'⟩ := h'.declared
  obtain ⟨refs, hrefs, htyped⟩ := h.typed
  obtain ⟨refs', hrefs', htyped'⟩ := h'.typed
  refine ⟨h.stays.trans _ _ _ h'.stays, ⟨names ++ names', by simp [hnames', hnames], ?_⟩,
    ⟨refs ++ refs', by simp [hrefs', hrefs], ?_⟩⟩
  · exact List.rel_append (hdeclared.imp fun _ _ => h'.stays _ _) hdeclared'
  · rw [List.flatMap_append]
    exact List.rel_append (htyped.imp fun _ _ hr => ⟨hr.1, h'.stays _ _ hr.2⟩) htyped'

theorem fills_declareAll {ps : List (String × Node)} (h : Ends (ps.forM fun p => declare options d p.1 p.2) s (.ok ()) t) :
    Fills d ps s t := by
  induction ps generalizing s with
  | nil =>
    obtain ⟨-, rfl⟩ := ends_pure.1 h
    exact ⟨Stays.refl _, ⟨[], by simp, .nil⟩, ⟨[], by simp, .nil⟩⟩
  | cons p ps ih =>
    obtain ⟨⟨⟩, u, hp, hps⟩ := ends_bind_ok.1 h
    exact (fills_declare hp).append (ih hps)

end Run

/-! ### The pointers to the components -/

section Pointers

variable {d : Document} {r : String}

/-- The pointers to the components, in order. -/
def pointers (d : Document) : List String := (components d).map Prod.fst

theorem pointers_eq (d : Document) : pointers d =
    (Keyed.keys d.components.schemas).map (Pointer.toComponent .schemas)
      ++ (Keyed.keys d.components.parameters).map (Pointer.toComponent .parameters)
      ++ (Keyed.keys d.components.requestBodies).map (Pointer.toComponent .requestBodies) := by
  simp only [pointers, components, Document.events, List.filterMap_append, List.filterMap_map, Function.comp_def,
    Event.reference?, Event.node?, List.map_append, Keyed.keys, List.map_map]
  simp [Function.comp_def]

theorem mem_pointers : r ∈ pointers d ↔ ∃ family key, r = Pointer.toComponent family key ∧ d.resolve? r ≠ none := by
  have hfind {family : Pointer.Family} {key : String} : d.components.find? family key ≠ none ↔
      Pointer.toComponent family key ∈ pointers d := by
    rw [pointers_eq]
    cases family <;> simp [Components.find?, Pointer.toComponent_inj, Keyed.get?_eq_none_iff]
  constructor
  · intro hr
    obtain ⟨family, key, rfl⟩ : ∃ family key, r = Pointer.toComponent family key := by
      rw [pointers_eq] at hr
      simp only [List.mem_append, List.mem_map] at hr
      rcases hr with (⟨key, -, rfl⟩ | ⟨key, -, rfl⟩) | ⟨key, -, rfl⟩ <;> exact ⟨_, key, rfl⟩
    refine ⟨family, key, rfl, ?_⟩
    rw [Document.resolve?_toComponent]
    exact hfind.2 hr
  · rintro ⟨family, key, rfl, hresolve⟩
    rw [Document.resolve?_toComponent] at hresolve
    exact hfind.1 hresolve

theorem nodup_pointers (h : d.components.Distinct) : (pointers d).Nodup := by
  rw [pointers_eq, ← map_pointer_listed]
  exact nodup_map_pointer h

end Pointers

/-! ### What is declared -/

section Closed

variable {options : Options} {d : Document} {file : File} {id r name : String}

/-- Among the names of several references, that of one occurs as often as the reference among them. -/
theorem count_names {ps : List (String × Node)} {names : List String} (hdistinct : file.names.Distinct)
    (h : List.Forall₂ (fun p name => file.nameOf? p.1 = some name) ps names) (hr : file.nameOf? r = some name) :
    names.count name = (ps.map Prod.fst).count r := by
  induction h with
  | nil => rfl
  | @cons p name' ps names hp _ ih =>
    have hsame : name' = name ↔ p.1 = r := by
      constructor
      · rintro rfl
        exact hdistinct.reference_eq (Keyed.mem_of_get? hp) (Keyed.mem_of_get? hr)
      · rintro rfl
        exact Option.some.inj (hp.symm.trans hr)
    rw [List.count_cons, List.map_cons, List.count_cons, ih]
    simp [hsame]

/-- The name of a reference is declared as often as the reference is the pointer to a component. -/
theorem count_declared (h : fillFile options d { id } = .ok file) (hr : file.nameOf? r = some name) :
    file.declared.count name = (pointers d).count r := by
  obtain ⟨hends, hnames⟩ := fillFile_ok h
  have hmade : file.names.Made fun _ => options.definitions.toStyle := hnames ▸ Table.made_assignAll .nil
  obtain ⟨names, hdeclared, hnames⟩ := (fills_declareAll hends).declared
  have hempty : ({ id } : File).declared = [] := rfl
  rw [hdeclared, hempty, List.nil_append]
  exact count_names hmade.distinct hnames hr

theorem count_declared_eq_one (hdistinct : d.components.Distinct) (h : fillFile options d { id } = .ok file)
    (hr : Names d file r name) (hspelled : ∃ family key, r = Pointer.toComponent family key) :
    file.declared.count name = 1 := by
  obtain ⟨family, key, hkey⟩ := hspelled
  rw [count_declared h hr.2]
  exact List.count_eq_one_of_mem (nodup_pointers hdistinct) (mem_pointers.2 ⟨family, key, hkey, hr.1⟩)

theorem count_declared_eq_zero (h : fillFile options d { id } = .ok file) (hr : file.nameOf? r = some name)
    (hspelled : ∀ family key, r ≠ Pointer.toComponent family key) : file.declared.count name = 0 := by
  rw [count_declared h hr]
  refine List.count_eq_zero.2 fun hmem => ?_
  obtain ⟨family, key, hkey, -⟩ := mem_pointers.1 hmem
  exact hspelled family key hkey

theorem names_written (h : fillFile options d { id } = .ok file) :
    List.Forall₂ (Names d file) (written d) file.typeNames := by
  obtain ⟨names, htyped, hnames⟩ := (fills_declareAll (fillFile_ok h).1).typed
  have hempty : ({ id } : File).typeNames = [] := rfl
  rw [htyped, hempty, List.nil_append]
  exact hnames

/-- Which of the names that the types refer to are declared. -/
structure Closure (d : Document) (file : File) : Prop where
  /-- The types refer to the names of the references in them, one for one, and each leads to a component. -/
  names : List.Forall₂ (Names d file) (written d) file.typeNames
  /-- A reference that is spelled as the pointer to a component is: its name is declared once. -/
  once : ∀ r ∈ written d, ∀ family key, r = Pointer.toComponent family key → ∀ name, file.nameOf? r = some name →
    file.declared.count name = 1
  /-- A reference that leads to a component and is spelled otherwise: its name is not declared. -/
  never : ∀ r ∈ written d, (∀ family key, r ≠ Pointer.toComponent family key) → ∀ name, file.nameOf? r = some name →
    file.declared.count name = 0
  /-- All that the types refer to is declared once, just if no reference is spelled otherwise. -/
  closed_iff : (∀ name ∈ file.typeNames, file.declared.count name = 1) ↔
    ∀ r ∈ written d, ∃ family key, r = Pointer.toComponent family key

/-- **The file of types of a decoded document is closed** as far as its references are spelled as the pointers to
the components are, and no further. -/
theorem decoded_closure {levels : Nat} {raw : Json.Raw} (hd : Document.decode levels raw = some d)
    (h : fillFile options d { id } = .ok file) : Closure d file := by
  have hdistinct := Document.decode_distinct _ _ _ hd
  have hnames := names_written h
  refine ⟨hnames, fun r hr family key hkey name hname => ?_, fun r hr hspelled name hname => ?_, ?_⟩
  · obtain ⟨-, -, hresolves, -⟩ := exists_answer hnames hr
    exact count_declared_eq_one hdistinct h ⟨hresolves, hname⟩ ⟨family, key, hkey⟩
  · exact count_declared_eq_zero h hname hspelled
  · constructor
    · intro hall r hr
      obtain ⟨name, hname, -, hr⟩ := exists_answer hnames hr
      by_contra! hspelled
      have hone := hall name hname
      rw [count_declared_eq_zero h hr hspelled] at hone
      cases hone
    · intro hall name hname
      obtain ⟨r, hmem, hr⟩ := exists_answered hnames hname
      exact count_declared_eq_one hdistinct h hr (hall r hmem)

/-- A schema with a slash in its name, and two that refer to it, the first without escaping the slash. -/
def slashed : Document where
  components := { schemas := [
    ("a/b", { kind := some .string }),
    ("c", { reference := some "#/components/schemas/a/b" }),
    ("d", { reference := some "#/components/schemas/a~1b" })] }

def slashedRaw : Json.Raw :=
  .object [("components", .object [("schemas", .object [
    ("a/b", .object [("type", .string "string")]),
    ("c", .object [("$ref", .string "#/components/schemas/a/b")]),
    ("d", .object [("$ref", .string "#/components/schemas/a~1b")])])])]

theorem exists_slashed : ∃ file, fillFile {} slashed { id := "types" } = .ok file := exists_fillFile (by decide +kernel)

/-- Their file exists, and what is declared in it is as said. -/
theorem slashed_closure : ∃ file, Document.decode 8 slashedRaw = some slashed ∧
    fillFile {} slashed { id := "types" } = .ok file ∧ Closure slashed file := by
  obtain ⟨file, h⟩ := exists_slashed
  have hdecode : Document.decode 8 slashedRaw = some slashed := by rfl
  exact ⟨file, hdecode, h, decoded_closure hdecode h⟩

/-- The second type refers to a name that the file does not declare. -/
theorem slashed_not_closed : ∃ file, Document.decode 8 slashedRaw = some slashed ∧
    fillFile {} slashed { id := "types" } = .ok file ∧ ∃ name ∈ file.typeNames, file.declared.count name = 0 := by
  obtain ⟨file, h⟩ := exists_slashed
  have hwritten : "#/components/schemas/a/b" ∈ written slashed := by
    refine List.mem_flatMap.2 ⟨(_, { reference := some "#/components/schemas/a/b" }), .tail _ (.head _), ?_⟩
    simp [Shape.ofNode, Shape.refs, shape, Ty.refs]
  obtain ⟨name, hname, hr⟩ := exists_answer (names_written h) hwritten
  refine ⟨file, rfl, h, name, hname, ?_⟩
  rw [count_declared h hr.2]
  decide +kernel

end Closed

end Types

end Typeforge
