import Typeforge.Proofs.Validator.BigTexts
import Typeforge.Proofs.Validator.Circles
import Typeforge.Schema.Decoding

/-!
# What the file of validators reads as big integers

`BigInt("…")` throws when the file is loaded unless its text is an integer. The file reads bounds and whole constants
this way, which are written as integers, and the texts that are the constant or the default of a number of 64 bits,
whatever they say (`GivesText`). The nodes whose texts are written are those that the validators of the file are put
together from (`MadeOf`): what a constant replaces, and the items that an array drops, are not among them.

* `mem_bigIntsIn_outline`: what the validator of a node reads as big integers;
* `mem_file_bigInts`: what the file does;
* `fillFile_bigInts`: it reads integers only just if the texts of its 64-bit constants and defaults are integers.
-/

namespace Typeforge.Validator.Sketch

open Code

/-! ### Sketches -/

variable {ρ σ : Type}

/-- The texts that are read as big integers where the sketch is written. -/
def bigInts (s : Sketch ρ) : List String := collect { closed := Expr.bigInts } s

def bigIntsIn (ss : List (Sketch ρ)) : List String := collectAll { closed := Expr.bigInts } ss

theorem bigIntsIn_eq (ss : List (Sketch ρ)) : bigIntsIn ss = ss.flatMap bigInts := collectAll_eq _ ss

theorem bigIntsIn_append (ss ss' : List (Sketch ρ)) : bigIntsIn (ss ++ ss') = bigIntsIn ss ++ bigIntsIn ss' := by
  simp [bigIntsIn_eq]

section Parts

variable (e : Expr) (r : ρ) (function : Maker) (s : Sketch ρ) (ss : List (Sketch ρ)) (fs : List (Key × Sketch ρ))

@[simp] theorem bigInts_closed : (closed e : Sketch ρ).bigInts = e.bigInts := rfl

@[simp] theorem bigInts_hole : (use r).bigInts = [] := rfl

@[simp] theorem bigInts_make : (make function ss).bigInts = bigIntsIn ss := rfl

@[simp] theorem bigInts_list : (list ss).bigInts = bigIntsIn ss := rfl

@[simp] theorem bigInts_object : (object fs).bigInts = fs.flatMap fun f => f.2.bigInts := collectFields_eq _ fs

@[simp] theorem bigInts_dropping : (dropping ss e).bigInts = e.bigInts := rfl

@[simp] theorem bigIntsIn_nil : bigIntsIn ([] : List (Sketch ρ)) = [] := rfl

@[simp] theorem bigIntsIn_cons : bigIntsIn (s :: ss) = s.bigInts ++ bigIntsIn ss := rfl

end Parts

@[simp] theorem bigInts_pipes (ss : List (Sketch ρ)) : (pipe ss).bigInts = bigIntsIn ss :=
  collect_pipe bigIntTexts_plain.read_unknown ss

/-- What a sketch points at makes no difference to it. -/
theorem bigIntsIn_fillAll (ss : List (Sketch ρ)) (us : List σ) : bigIntsIn (fillAll ss us) = bigIntsIn ss :=
  collectAll_fillAll bigIntTexts_plain.read_unknown ss us

/-- Nor does how it is used. -/
theorem bigInts_toExpr {P : Use → Prop} {s : Sketch Use} (h : s.Within P) :
    (s.toExpr Use.toExpr).bigInts = s.bigInts := by
  refine read_toExpr bigIntTexts_plain rfl (meets_mono ?_ h)
  exact ⟨fun _ _ => rfl, fun u _ => bigInts_use u, fun _ _ hf => hf⟩

end Typeforge.Validator.Sketch

namespace Typeforge.Validator

open Code Decimal Schema Sketch

/-! ### What a validator is put together from -/

/-- The nodes that the validator of a node of the kind is put together from. -/
def kindParts (n : Node) (kind : Kind) : List Node :=
  match kind with
  | .array =>
    match n.deduplicate.itemList with
    | [only] => [only]
    | _ => []
  | .object =>
    match n.propertyList, n.additional with
    | [], some additional => if additional.kind = some .object then [additional] else []
    | ps, _ => ps.map Prod.snd
  | .tuple => n.itemList
  | _ => []

/-- The nodes that the validator of a settled node is put together from. -/
def parts (n : Node) : List Node :=
  match n.reference, n.kind with
  | some _, none => []
  | _, some kind =>
    match constantValidator? n.toAttributes kind with
    | some _ => []
    | none => kindParts n kind
  | none, none => if n.isComposition then n.itemList else []

/-- The validator of the first node is put together from that of the second one, which is settled. -/
inductive MadeOf : Node → Node → Prop
  | self (n : Node) : MadeOf n n.settled
  | part {n m k : Node} : m ∈ parts n.settled → MadeOf m k → MadeOf n k

/-- The text is the constant or the default of a number of 64 bits. -/
structure GivesText (a : Attributes) (t : String) : Prop where
  numeric : isNumeric a = true
  wide : isWide a.format = true
  text : a.const = some (.string t) ∨ a.default = some (.string t)

/-- What the base of a settled node reads as big integers, apart from that of its parts. -/
def baseTexts (n : Node) : List String :=
  match n.kind with
  | some kind =>
    match constantValidator? n.toAttributes kind with
    | some e => e.bigInts
    | none => if isNumeric n.toAttributes then (numberValidator n.toAttributes true).bigInts else []
  | none => []

/-- What the default of a node reads as big integers. -/
def defaultTexts (a : Attributes) : List String :=
  match a.default with
  | some v => (defaultExpr a v).bigInts
  | none => []

section Nodes

variable {n m : Node} {s t : String}

theorem size_parts_lt (hm : m ∈ parts n) : m.size < n.size := by
  unfold parts at hm
  split at hm
  · exact absurd hm List.not_mem_nil
  · split at hm
    · exact absurd hm List.not_mem_nil
    · unfold kindParts at hm
      split at hm
      · split at hm
        · rename_i only honly
          have hitem : m ∈ n.deduplicate.itemList := honly ▸ hm
          exact Nat.lt_of_lt_of_le (Node.size_item_lt hitem) n.size_deduplicate_le
        · exact absurd hm List.not_mem_nil
      · split at hm
        · rename_i additional _ hadditional
          split at hm
          · exact Node.size_additional_lt (List.mem_singleton.1 hm ▸ hadditional)
          · exact absurd hm List.not_mem_nil
        · obtain ⟨p, hp, rfl⟩ := List.mem_map.1 hm
          exact Node.size_property_lt hp
      · exact Node.size_item_lt hm
      · exact absurd hm List.not_mem_nil
  · split at hm
    · exact Node.size_item_lt hm
    · exact absurd hm List.not_mem_nil

/-! ### The texts of a node itself -/

/-- What a node itself reads as big integers are integers, and the texts that it gives for one. -/
theorem mem_ownTexts (hs : s ∈ baseTexts n ∨ s ∈ defaultTexts n.toAttributes) :
    isInteger s = true ∨ ∃ t, GivesText n.toAttributes t ∧ s = dropMark t := by
  have hconstant {v : Json.Value} (hnumeric : isNumeric n.toAttributes = true)
      (hv : n.const = some v ∨ n.default = some v) (hs : s ∈ (numericConstant v n.format).bigInts) :
      isInteger s = true ∨ ∃ t, GivesText n.toAttributes t ∧ s = dropMark t := by
    obtain ⟨hwide, ⟨k, -, rfl⟩ | ⟨t, rfl, rfl⟩⟩ := mem_bigInts_numericConstant.1 hs
    · exact .inl (isInteger_toString k)
    · exact .inr ⟨t, ⟨hnumeric, hwide, hv⟩, rfl⟩
  rcases hs with hs | hs
  · unfold baseTexts at hs
    split at hs
    · rename_i kind hk
      split at hs
      · rename_i e he
        obtain ⟨hnumeric, v, hv, hs⟩ := mem_read_constantValidator bigIntTexts_plain hk he hs
        exact hconstant hnumeric (.inl hv) hs
      · split at hs
        · exact .inl (isInteger_of_mem_numberValidator hs)
        · exact absurd hs List.not_mem_nil
    · exact absurd hs List.not_mem_nil
  · unfold defaultTexts at hs
    split at hs
    · rename_i v hv
      obtain ⟨hnumeric, hs⟩ := mem_read_defaultExpr hs
      exact hconstant hnumeric (.inr hv) hs
    · exact absurd hs List.not_mem_nil

theorem dropMark_mem_ownTexts (h : GivesText n.toAttributes t) :
    dropMark t ∈ baseTexts n ∨ dropMark t ∈ defaultTexts n.toAttributes := by
  rcases h.text with hconst | hdefault
  · left
    cases hk : n.kind with
    | none =>
      have hnumeric := h.numeric
      simp [isNumeric, hk] at hnumeric
    | some kind => simp [baseTexts, hk, constantValidator_of_text hk h.numeric h.wide hconst]
  · right
    simp [defaultTexts, hdefault, defaultExpr, h.numeric, numericConstant, h.wide]

end Nodes

/-! ### The validator of a node -/

section Outline

variable (metadata : Bool) {n : Node} {s : String}

theorem bigIntsIn_finish {optional : Bool} {a : Attributes} {base : Sketch String} :
    bigIntsIn (finish metadata optional a base) = base.bigInts ++ defaultTexts a := by
  have hmetadata : bigIntsIn (if metadata then metadataActions a else []) = [] := by
    split
    · unfold metadataActions
      split
      · exact (List.append_nil _).trans (bigIntTexts_plain.read_action _ _)
      · rfl
    · rfl
  have hreadonly : bigIntsIn (if a.accessScope = some .read then [(.closed (Action.readonly.apply []) : Sketch String)]
      else []) = [] := by
    split <;> simp
  have hafter : bigIntsIn ((if metadata then metadataActions a else [])
      ++ (if a.accessScope = some .read then [(.closed (Action.readonly.apply []) : Sketch String)] else [])) = [] := by
    rw [bigIntsIn_append, hmetadata, hreadonly]
    rfl
  unfold finish
  simp only [List.cons_append]
  cases hdefault : a.default with
  | some v => simp [hafter, defaultTexts, hdefault]
  | none =>
    cases optional with
    | true => simp [hafter, defaultTexts, hdefault]
    | false => simp [hafter, defaultTexts, hdefault]

theorem bigIntsIn_members (ns : List Node) :
    bigIntsIn (members metadata ns) = ns.flatMap fun n => bigIntsIn (outline metadata n false) := by
  rw [bigIntsIn_eq, members_eq, List.flatMap_map]
  simp only [bigInts_pipes]

theorem bigIntsIn_outline (n : Node) (optional : Bool) : bigIntsIn (outline metadata n optional) =
    (base metadata n.settled).bigInts ++ defaultTexts n.settled.toAttributes := by
  rw [outline, bigIntsIn_finish]

theorem itemList_deduplicate (h : n.itemList = []) : n.deduplicate.itemList = [] := by
  unfold Node.deduplicate
  split
  · exact h
  · rename_i items hitems
    obtain rfl : items = [] := by simpa [Node.itemList, hitems] using h
    split
    · exact h
    · cases n.keepsItems <;> rfl

theorem bigInts_arrayBase : (arrayBase metadata n).bigInts =
    (kindParts n .array).flatMap fun m => bigIntsIn (outline metadata m false) := by
  have hlength : bigIntsIn ((lengthActions n.minItems n.maxItems).map (Sketch.closed (ρ := String))) = [] := by
    rw [bigIntsIn_eq, List.flatMap_map]
    exact List.flatMap_eq_nil_iff.2 fun e he => read_lengthActions bigIntTexts_plain he
  rw [arrayBase, bigInts_pipes, bigIntsIn_cons, hlength, List.append_nil, bigInts_make, bigIntsIn_cons, bigIntsIn_nil,
    List.append_nil, kindParts, members_eq]
  by_cases hempty : n.itemList = []
  · rw [itemList_deduplicate hempty, hempty]
    exact bigInts_unknown
  · have hsome : n.itemList.isEmpty = false := by simpa using hempty
    rw [hsome]
    rcases n.deduplicate.itemList with _ | ⟨only, _ | ⟨_, _⟩⟩
    · exact bigInts_unknown
    · simp
    · exact bigInts_unknown

theorem bigInts_objectBase : (objectBase metadata n).bigInts =
    (kindParts n .object).flatMap fun m => bigIntsIn (outline metadata m false) := by
  have hproperties (ps : List (String × Node)) (required : String → Bool) :
      ((propertyMembers metadata required ps).flatMap fun f => f.2.bigInts) =
        (ps.map Prod.snd).flatMap fun m => bigIntsIn (outline metadata m false) := by
    rw [propertyMembers_eq, List.flatMap_map, List.flatMap_map]
    refine List.flatMap_congr fun p _ => ?_
    rw [bigInts_pipes, bigIntsIn_outline, bigIntsIn_outline]
  rw [objectBase, kindParts]
  split
  · rename_i additional hps hadditional
    by_cases hkind : additional.kind = some .object
    · simp [hps, hadditional, hkind]
    · simp [hps, hadditional, hkind]
  · rename_i hnot
    rw [bigInts_make, bigIntsIn_cons, bigIntsIn_nil, bigInts_object, List.append_nil, hproperties]
    split
    · rename_i additional hps hadditional
      exact (hnot additional hps hadditional).elim
    · rfl

/-- The numbers of a kind read their bounds, and the others what their parts read. -/
theorem bigInts_kindBase {kind : Kind} (hk : n.kind = some kind) : (kindBase metadata n kind).bigInts =
    (if isNumeric n.toAttributes then (numberValidator n.toAttributes true).bigInts else [])
      ++ (kindParts n kind).flatMap fun m => bigIntsIn (outline metadata m false) := by
  rw [kindBase.eq_def]
  cases kind with
  | array => simpa [isNumeric, hk] using bigInts_arrayBase metadata
  | object => simpa [isNumeric, hk] using bigInts_objectBase metadata
  | tuple =>
    simp only [isNumeric, hk]
    rw [tupleBase]
    cases hitems : n.items with
    | none => simp [kindParts, Node.itemList, hitems]
    | some items => simp [kindParts, bigIntsIn_members]
  | integer => simp [isNumeric, hk, kindParts]
  | number => simpa [isNumeric, hk, kindParts] using bigInts_numberValidator false
  | string =>
    by_cases hwide : isWide n.format = true
    · simp [isNumeric, hk, hwide, kindParts]
    · simp [isNumeric, hk, hwide, kindParts]
  | enumeration | boolean | never | null | undefined | unknown | void =>
    simp [isNumeric, hk, kindParts]

theorem bigInts_base : (base metadata n).bigInts = baseTexts n ++ (parts n).flatMap fun m =>
    bigIntsIn (outline metadata m false) := by
  rw [base]
  split
  · rename_i r hr hk
    simp [baseTexts, parts, hr, hk]
  · rename_i kind hk
    have hparts : parts n = match constantValidator? n.toAttributes kind with
        | some _ => []
        | none => kindParts n kind := by
      rw [parts, hk]
      cases n.reference <;> rfl
    have htexts : baseTexts n = match constantValidator? n.toAttributes kind with
        | some e => e.bigInts
        | none => if isNumeric n.toAttributes then (numberValidator n.toAttributes true).bigInts else [] := by
      rw [baseTexts, hk]
    rw [htexts, hparts]
    cases constantValidator? n.toAttributes kind with
    | some e => simp
    | none => exact bigInts_kindBase metadata hk
  · rename_i hr hk
    rw [baseTexts, parts, hr, hk]
    by_cases hcomposition : n.isComposition = true
    · simp [hcomposition, bigIntsIn_members]
    · simp [hcomposition]

/-- **What the validator of a node reads as big integers** are the texts of the nodes it is put together from. -/
theorem mem_bigIntsIn_outline (n : Node) (optional : Bool) : s ∈ bigIntsIn (outline metadata n optional) ↔
    ∃ m, MadeOf n m ∧ (s ∈ baseTexts m ∨ s ∈ defaultTexts m.toAttributes) := by
  induction n using Node.inductionOnSize generalizing optional with
  | step n ih =>
    have hsmaller {m : Node} (hm : m ∈ parts n.settled) : m.size < n.size :=
      Nat.lt_of_lt_of_le (size_parts_lt hm) n.size_settled_le
    rw [bigIntsIn_outline, bigInts_base, List.mem_append, List.mem_append, List.mem_flatMap]
    constructor
    · rintro ((hs | ⟨m, hm, hs⟩) | hs)
      · exact ⟨n.settled, .self n, .inl hs⟩
      · obtain ⟨k, hk, hs⟩ := (ih m (hsmaller hm) false).1 hs
        exact ⟨k, .part hm hk, hs⟩
      · exact ⟨n.settled, .self n, .inr hs⟩
    · rintro ⟨k, hk, hs⟩
      cases hk with
      | self => exact hs.elim (fun hs => .inl (.inl hs)) .inr
      | @part _ m _ hm hk => exact .inl (.inr ⟨m, hm, (ih m (hsmaller hm) false).2 ⟨k, hk, hs⟩⟩)

end Outline

end Typeforge.Validator

/-! ### The file -/

namespace Typeforge

open Code Decimal Schema

/-- What a statement reads as big integers when it is run. -/
def Code.Stmt.bigInts : Stmt → List String
  | .const _ _ _ init => init.bigInts
  | .interface .. | .typeAlias .. | .doc _ => []

/-- What the file reads as big integers when it is loaded. -/
def File.bigInts (file : File) : List String := file.body.flatMap Stmt.bigInts

namespace Validator

open Sketch

/-- The text is the constant or the default of a number of 64 bits in what is declared for the document. -/
def GivesTextIn (options : Options) (d : Document) (t : String) : Prop :=
  ∃ r ∈ asked options d, ∃ n m, leadsTo? options d r = some n ∧ MadeOf n m ∧ GivesText m.toAttributes t

section File

variable {options : Options} {d : Document} {file : File} {id s t : String}

theorem bigInts_statements {P : Use → Prop} {c : Declaration} (h : c.validator.Within P) :
    c.statements.flatMap Stmt.bigInts = c.validator.bigInts := by
  have hdoc : (if c.comment.isEmpty then [] else [Stmt.doc c.comment]).flatMap Stmt.bigInts = [] := by
    split <;> rfl
  rw [Declaration.statements, List.flatMap_append, hdoc, List.nil_append, List.flatMap_singleton, Stmt.bigInts,
    bigInts_toExpr h]

/-- **What the file reads as big integers** is what the validators of the references with names do. -/
theorem mem_file_bigInts (h : fillFile options d { id } = .ok file) : s ∈ file.bigInts ↔
    ∃ r ∈ asked options d, ∃ n, leadsTo? options d r = some n ∧ s ∈ bigIntsIn (outline options.metadata n false) := by
  obtain ⟨u, hends, -, -, hbody⟩ := fillFile_ok h
  have htraced := traced_declareAll hends
  obtain ⟨hsettled, -⟩ := settled_declareAll (settled_start options.definitions.toStyle) hends
  obtain ⟨-, hasked⟩ := names_of_declareAll hends
  have hread {names : Naming.Table} {declared : List String} {c : Declaration} {r : String} {n : Node} {uses : List Use}
      (hc : Compiled ⟨d, options⟩ names declared c r n uses) :
      c.validator.bigInts = bigIntsIn (outline options.metadata n false) := by
    rw [hc.validator, bigInts_pipes, bigIntsIn_fillAll]
  have hfile : s ∈ file.bigInts ↔ ∃ c ∈ u.declarations, s ∈ c.validator.bigInts := by
    rw [File.bigInts, hbody, List.flatMap_assoc,
      List.flatMap_congr fun c hc => bigInts_statements (htraced.sound.written c hc), List.mem_flatMap]
  rw [hfile]
  constructor
  · rintro ⟨c, hc, hs⟩
    obtain ⟨i, hi⟩ := List.mem_iff_getElem?.1 hc
    obtain ⟨r, n, uses, hcompiled⟩ := htraced.compiled i c hi
    have hr : r ∈ asked options d := (hasked r).1 (List.mem_map_of_mem hcompiled.named)
    exact ⟨r, hr, n, hcompiled.leads, hread hcompiled ▸ hs⟩
  · rintro ⟨r, hr, n, hn, hs⟩
    obtain ⟨⟨_, name⟩, hmem, rfl⟩ := List.mem_map.1 ((hasked r).2 hr)
    obtain ⟨c, n', uses, hc, -, hcompiled⟩ := htraced.exists_compiled hsettled hmem
    obtain rfl : n' = n := Option.some.inj (hcompiled.leads.symm.trans hn)
    exact ⟨c, hc, (hread hcompiled).symm ▸ hs⟩

theorem exists_givesTextIn (h : fillFile options d { id } = .ok file) (hs : s ∈ file.bigInts) :
    isInteger s = true ∨ ∃ t, GivesTextIn options d t ∧ s = dropMark t := by
  obtain ⟨r, hr, n, hn, hs⟩ := (mem_file_bigInts h).1 hs
  obtain ⟨m, hm, hs⟩ := (mem_bigIntsIn_outline options.metadata n false).1 hs
  rcases mem_ownTexts hs with hinteger | ⟨t, ht, heq⟩
  · exact .inl hinteger
  · exact .inr ⟨t, ⟨r, hr, n, m, hn, hm, ht⟩, heq⟩

theorem dropMark_mem_file (h : fillFile options d { id } = .ok file) (ht : GivesTextIn options d t) :
    dropMark t ∈ file.bigInts := by
  obtain ⟨r, hr, n, m, hn, hm, ht⟩ := ht
  have hs : dropMark t ∈ bigIntsIn (outline options.metadata n false) :=
    (mem_bigIntsIn_outline options.metadata n false).2 ⟨m, hm, dropMark_mem_ownTexts ht⟩
  exact (mem_file_bigInts h).2 ⟨r, hr, n, hn, hs⟩

/-- Which texts the file reads as big integers. -/
structure BigInts (options : Options) (d : Document) (file : File) : Prop where
  /-- They are integers, or texts that the document gives for one. -/
  read : ∀ s ∈ file.bigInts, isInteger s = true ∨ ∃ t, GivesTextIn options d t ∧ s = dropMark t
  /-- All texts that it gives are read. -/
  given : ∀ t, GivesTextIn options d t → dropMark t ∈ file.bigInts
  /-- They are all integers just if those that the document gives are. -/
  integers_iff : (∀ s ∈ file.bigInts, isInteger s = true) ↔ ∀ t, GivesTextIn options d t → isInteger (dropMark t) = true

/-- **The file reads integers only just if the document gives nothing else for one.** -/
theorem fillFile_bigInts (h : fillFile options d { id } = .ok file) : BigInts options d file where
  read := fun _ hs => exists_givesTextIn h hs
  given := fun _ ht => dropMark_mem_file h ht
  integers_iff := by
    constructor
    · intro hall t ht
      exact hall _ (dropMark_mem_file h ht)
    · intro hall s hs
      rcases exists_givesTextIn h hs with hinteger | ⟨t, ht, rfl⟩
      · exact hinteger
      · exact hall t ht

theorem pointer_mem_asked (family : Pointer.Family) {name : String} {n : Node}
    (h : d.components.find? family name = some n) : Pointer.toComponent family name ∈ asked options d := by
  have htarget : targetOf? options d (Pointer.toComponent family name) =
      some ⟨Pointer.toComponent family name, n, options.definitions.toStyle⟩ := by
    rw [targetOf?_toComponent, h]
    rfl
  exact mem_asked.2 ⟨⟨Pointer.toComponent family name, n, options.definitions.toStyle⟩, htarget, .inl rfl⟩

/-- An identifier of 64 bits that is always the word `abc`. -/
def wordId : Node := { kind := some .integer, format := some "int64", const := some (.string "abc") }

/-- The identifier, and a count whose default is a text. -/
def wideTexts : Document where
  components := { schemas := [
    ("Id", wordId),
    ("Count", { kind := some .string, format := some "uint64", default := some (.string "12n") })] }

def wideTextsRaw : Json.Raw :=
  .object [("components", .object [("schemas", .object [
    ("Id", .object [("type", .string "integer"), ("format", .string "int64"), ("const", .string "abc")]),
    ("Count", .object [("type", .string "string"), ("format", .string "uint64"), ("default", .string "12n")])])])]

theorem exists_wideTexts : ∃ file, fillFile {} wideTexts { id := "valibot" } = .ok file :=
  exists_fillFile (by decide +kernel)

/-- Their file exists and reads the texts as said. -/
theorem wideTexts_bigInts : ∃ file, Document.decode 8 wideTextsRaw = some wideTexts ∧
    fillFile {} wideTexts { id := "valibot" } = .ok file ∧ BigInts {} wideTexts file := by
  obtain ⟨file, h⟩ := exists_wideTexts
  exact ⟨file, rfl, h, fillFile_bigInts h⟩

/-- The word is read as a big integer, which it is not. -/
theorem wideTexts_read_word : ∃ file, Document.decode 8 wideTextsRaw = some wideTexts ∧
    fillFile {} wideTexts { id := "valibot" } = .ok file ∧ "abc" ∈ file.bigInts ∧ isInteger "abc" = false := by
  obtain ⟨file, h⟩ := exists_wideTexts
  have hfind : wideTexts.components.find? .schemas "Id" = some wordId := rfl
  have hleads : leadsTo? {} wideTexts (Pointer.toComponent .schemas "Id") = some wordId := leadsTo?_resolved rfl
  have hgives : GivesText wordId.toAttributes "abc" := ⟨by rfl, by rfl, .inl rfl⟩
  have hgivesIn : GivesTextIn {} wideTexts "abc" :=
    ⟨_, pointer_mem_asked .schemas hfind, wordId, wordId, hleads, .self wordId, hgives⟩
  exact ⟨file, rfl, h, dropMark_mem_file h hgivesIn, by decide⟩

end File

end Validator

end Typeforge
