import Typeforge.Proofs.Naming.First
import Typeforge.Proofs.Output.Declared
import Typeforge.Proofs.Types.Fill

/-!
# What the file of types declares

The names of the file come from one run of questions: for each component the pointer to it, then what its
type refers to (`asked`). A word that ends in no digit is the name of the first reference that proposes it,
and the file declares it just if that reference is the pointer to a component (`declared_iff`); a reference
that leads to a component by another spelling has a name of its own and is not declared.
-/

namespace Typeforge.Types

open Code Schema Naming

/-! ### The questions of a run -/

/-- The components with the pointers to them, in order. -/
def components (d : Document) : List (String × Node) := d.events.filterMap fun e =>
  match e.reference?, e.node? with
  | some r, some n => some (r, n)
  | _, _ => none

/-- The references that a component asks names for. -/
def asks (component : String × Node) : List String := component.1 :: (Shape.ofNode component.2).refs

/-- The references that a name is asked for, in order. -/
def asked (d : Document) : List String := (components d).flatMap asks

/-- The words that types are written with: the generic type of records, and the keywords. -/
def outside : List String :=
  "Record" :: ([.string, .number, .bigint, .boolean, .null, .undefined, .never, .void, .unknown] : List Keyword).map
    Keyword.text

/-- Components whose schemas refer to nothing ask for their own names only. -/
theorem asked_eq_of_closed {d : Document} (h : ∀ p ∈ components d, p.2.references = []) :
    asked d = (components d).map Prod.fst := by
  have closed : ∀ p ∈ components d, asks p = [p.1] := by
    intro p hp
    have hrefs : (Shape.ofNode p.2).refs = [] := by
      refine List.eq_nil_iff_forall_not_mem.2 fun r hr => ?_
      have := ofNode_refs hr
      rw [h p hp] at this
      exact List.not_mem_nil this
    rw [asks, hrefs]
  rw [asked, List.map_eq_flatMap]
  exact List.flatMap_congr closed

section Run

variable {options : Options} {d : Document} {file s t : File} {r word : String} {n : Node}

theorem visit_eq : d.visit [.schema, .parameter, .requestBody] (declareEvent options d) =
    (components d).forM fun p => declare options d p.1 p.2 := by
  unfold Document.visit components
  induction d.events with
  | nil => rfl
  | cons e es ih =>
    cases e with
    | operation => exact ih
    | schema | parameter | requestBody => exact congrArg _ (funext fun _ => ih)

/-- From `s` to `t` names were asked for. -/
def Asks (options : Options) (rs : List String) (s t : File) : Prop :=
  t = { s with names := s.names.assignAll rs options.definitions.toStyle }

theorem ends_assignName {name : String} (h : Ends (assignName options r) s (.ok name) t) :
    Asks options [r] s t ∧ t.names.nameOf? r = some name := by
  obtain ⟨hname, rfl⟩ := ends_modifyGet.1 h
  cases hname
  exact ⟨rfl, Table.nameOf?_assign_self⟩

theorem ends_nameOfTarget {name : String} (h : Ends (nameOfTarget options d r) s (.ok name) t) :
    Asks options [r] s t := by
  unfold nameOfTarget at h
  cases hn : d.resolve? r with
  | some n =>
    rw [hn] at h
    exact (ends_assignName h).1
  | none =>
    rw [hn] at h
    cases (ends_throw.1 h).1

theorem ends_namesOfTargets {rs names : List String} (h : Ends (rs.mapM (nameOfTarget options d)) s (.ok names) t) :
    Asks options rs s t := by
  induction rs generalizing s names with
  | nil =>
    obtain ⟨-, rfl⟩ := ends_pure.1 h
    rfl
  | cons r rs ih =>
    rw [List.mapM_cons, ends_bind_ok] at h
    obtain ⟨name, u, hr, h⟩ := h
    obtain ⟨names', v, hrs, hv⟩ := ends_bind_ok.1 h
    obtain ⟨-, rfl⟩ := ends_pure.1 hv
    rw [ih hrs, ends_nameOfTarget hr]
    rfl

@[simp] theorem declared?_statement (name : String) (shape : Shape) : (shape.statement name).declared? = some name := by
  cases shape <;> rfl

theorem declared_addShape (name : String) (shape : Shape) :
    (addShape options n name shape file).declared = file.declared ++ [name] := by
  cases hc : (if options.comments then commentOn n.toAttributes else []).isEmpty <;> simp [addShape, hc]

theorem names_addShape (name : String) (shape : Shape) : (addShape options n name shape file).names = file.names := by
  cases hc : (if options.comments then commentOn n.toAttributes else []).isEmpty <;> simp [addShape, hc]

/-- A component asks for its names and is declared under the one for the pointer to it. -/
theorem ends_declare (h : Ends (declare options d r n) s (.ok ()) t) :
    t.names = s.names.assignAll (asks (r, n)) options.definitions.toStyle ∧
      ∃ name, t.names.nameOf? r = some name ∧ t.declared = s.declared ++ [name] := by
  rw [declare_eq, ends_bind_ok] at h
  obtain ⟨name, u, hname, h⟩ := h
  obtain ⟨names, v, hnames, h⟩ := ends_bind_ok.1 h
  obtain ⟨-, rfl⟩ := ends_modify.1 h
  obtain ⟨rfl, hself⟩ := ends_assignName hname
  cases ends_namesOfTargets hnames
  refine ⟨names_addShape _ _, name, ?_, declared_addShape _ _⟩
  rw [names_addShape]
  exact Table.nameOf?_assignAll hself

/-- The components ask for their names one after the other, and the file declares the names of their pointers. -/
theorem ends_declareAll {ps : List (String × Node)} (h : Ends (ps.forM fun p => declare options d p.1 p.2) s (.ok ()) t) :
    t.names = s.names.assignAll (ps.flatMap asks) options.definitions.toStyle ∧
      ∀ word, word ∈ t.declared ↔ word ∈ s.declared ∨ ∃ p ∈ ps, t.names.nameOf? p.1 = some word := by
  induction ps generalizing s with
  | nil =>
    obtain ⟨-, rfl⟩ := ends_pure.1 h
    exact ⟨rfl, by simp⟩
  | cons p ps ih =>
    obtain ⟨⟨⟩, u, hp, hps⟩ := ends_bind_ok.1 h
    obtain ⟨hu, name, hname, hdeclared⟩ := ends_declare hp
    obtain ⟨ht, hwords⟩ := ih hps
    have hself : t.names.nameOf? p.1 = some name := by
      rw [ht]
      exact Table.nameOf?_assignAll hname
    refine ⟨?_, fun word => ?_⟩
    · rw [ht, hu, List.flatMap_cons, Table.assignAll_append]
    · simp [hwords, hdeclared, hself, or_assoc, eq_comm]

theorem fillFile_ok {id : String} (h : fillFile options d { id } = .ok file) :
    Ends ((components d).forM fun p => declare options d p.1 p.2) { id } (.ok ()) file ∧
      file.names = Table.assignAll [] (asked d) options.definitions.toStyle := by
  rcases fillFile_cases options d { id } with ⟨t, hends, hok⟩ | ⟨e, t, -, herror⟩
  · rw [hok] at h
    cases h
    rw [visit_eq] at hends
    exact ⟨hends, (ends_declareAll hends).1⟩
  · rw [herror] at h
    cases h

end Run

/-- **What the file declares**: a word whose first proposer is the pointer to a component. -/
theorem declared_iff {options : Options} {d : Document} {id word : String} {file : File}
    (h : fillFile options d { id } = .ok file) (hword : ¬ Table.EndsInDigit word) : word ∈ file.declared ↔
      ∃ p ∈ components d, (asked d).find? (fun r => options.definitions.toStyle.proposal r = word) = some p.1 := by
  obtain ⟨hends, hnames⟩ := fillFile_ok h
  obtain ⟨-, hdeclared⟩ := ends_declareAll hends
  have hmade : file.names.Made fun _ => options.definitions.toStyle := hnames ▸ Table.made_assignAll .nil
  have hkeys (p : String → Bool) : (Keyed.keys file.names).find? p = (asked d).find? p := by
    rw [hnames, Table.find?_keys_assignAll]
    rfl
  have hempty : word ∉ ({ id } : File).declared := List.not_mem_nil
  rw [hdeclared, or_iff_right hempty]
  simp only [hmade.nameOf?_eq_some_iff hword, hkeys]

end Typeforge.Types
