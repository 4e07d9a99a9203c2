import Typeforge.Proofs.Validator.LoadOrder
import Typeforge.Proofs.Validator.Traced
import Typeforge.Proofs.Walks

/-!
# Lazy uses and circles of references

A constant uses another one lazily just where the references lead round in a circle: from what is used lazily
they lead back, and on every closed walk along them there is a reference that was being followed when it was met
again (`BreaksCircles`). That reference is written lazily unless it is not written at all, as an item of an array
with several different item schemas is not.
-/

namespace Typeforge.Validator

open Schema Naming Sketch Code

/-! ### What the constants of a session mention -/

section Mentions

variable {task : Task} {c : Declaration} {r : String} {n : Node} {uses : List Use} {u : Use} {names : Table}
  {declared : List String}

theorem Compiled.mentions_eq (h : Compiled task names declared c r n uses) (hwithin : c.validator.Within fun _ => True) :
    c.block.declared.init.mentions = usesOf (fillAll (outline task.options.metadata n false) uses) := by
  rw [Declaration.block, mentions_toExpr hwithin, h.validator, uses_pipe]

theorem Compiled.mentions (h : Compiled task names declared c r n uses) (hwithin : c.validator.Within fun _ => True) :
    List.Forall₂ (Answer task names declared c r) (usesOf (outline task.options.metadata n false))
      c.block.declared.init.mentions := by
  rw [h.mentions_eq hwithin]
  exact usesOf_fillAll_forall₂ _ _ h.answered

theorem Compiled.exists_answered (h : Compiled task names declared c r n uses)
    (hwithin : c.validator.Within fun _ => True) (hu : u ∈ c.block.declared.init.mentions) :
    ∃ r', Answer task names declared c r r' u ∧ Refers task.options task.document r r' := by
  rw [h.mentions_eq hwithin] at hu
  obtain ⟨r', hr', ha⟩ := Typeforge.exists_answered h.answered (usesOf_fillAll _ _ hu)
  exact ⟨r', ha, n, h.leads, hr'⟩

end Mentions

/-! ### Where a name is declared -/

section Places

variable {task : Task} {s : Session} {r name : String}

def Session.placeOf (s : Session) (name : String) : Nat := s.declared.idxOf name

theorem Session.placeOf_lt {i : Nat} (h : name ∈ (s.declarations.take i).map (·.name)) : s.placeOf name < i := by
  have hsplit : s.declared = (s.declarations.take i).map (·.name) ++ (s.declarations.drop i).map (·.name) := by
    rw [← List.map_append, List.take_append_drop]
    rfl
  have hlt := List.idxOf_lt_length_iff.2 h
  rw [List.length_map, List.length_take] at hlt
  rw [placeOf, hsplit, List.idxOf_append_of_mem h]
  omega

/-- A reference with a name is compiled at the place of the name. -/
theorem Session.Traced.exists_compiled (h : s.Traced task) (hsettled : Settled s) (hr : (r, name) ∈ s.names) :
    ∃ c n uses, c ∈ s.declarations ∧ c.name = name ∧
      Compiled task s.names ((s.declarations.take (s.placeOf name)).map (·.name)) c r n uses := by
  have hmem : name ∈ s.declared := hsettled.mem_declared (Table.mem_taken hr)
  obtain ⟨c, hc, rfl⟩ : ∃ c, s.declarations[s.placeOf name]? = some c ∧ c.name = name := by
    have hplace : s.declared[s.placeOf name]? = some name := List.getElem?_idxOf hmem
    simpa [declared] using hplace
  obtain ⟨r', n, uses, hcompiled⟩ := h.compiled _ _ hc
  obtain rfl : r' = r := h.sound.names.reference_eq hcompiled.named hr
  exact ⟨c, n, uses, List.mem_of_getElem? hc, rfl, hcompiled⟩

end Places

/-! ### Circles in a file -/

/-- The block `b` for the reference `r` uses the name of the reference `r'` lazily. -/
structure UsesLazily (options : Options) (d : Document) (file : File) (b : Block Constant) (r r' name : String) :
    Prop where
  block : file.nameOf? r = some b.name
  used : file.nameOf? r' = some name
  annotated : b.declared.type = some topType
  /-- Wherever the constant mentions the name, it does so lazily. -/
  only : ∀ u ∈ b.declared.init.mentions, u.name = name → u.postponed = true
  /-- And it does mention it, if the reference is written. -/
  written : Writes options d r r' → ⟨name, true⟩ ∈ b.declared.init.mentions

/-- The blocks make up the file, and lazy uses are where the references lead round in a circle. -/
structure BreaksCircles (options : Options) (d : Document) (file : File) (blocks : List (Block Constant)) : Prop where
  body : file.body = blocks.flatMap (Block.statements Constant.statement)
  /-- A constant with a lazy use has its type written. -/
  annotated : ∀ b ∈ blocks, ∀ u ∈ b.declared.init.mentions, u.postponed = true → b.declared.type = some topType
  /-- From what is used lazily, the references lead back to what uses it. -/
  back : ∀ b ∈ blocks, ∀ u ∈ b.declared.init.mentions, u.postponed = true → ∃ r r', file.nameOf? r = some b.name ∧
    file.nameOf? r' = some u.name ∧ Refers options d r r' ∧ Relation.ReflTransGen (Refers options d) r' r
  /-- On every closed walk along the references, one is used lazily. -/
  broken : ∀ rs, ClosedWalk (Refers options d) rs → ∃ before r r' after, rs = before ++ r :: r' :: after ∧
    ∃ b ∈ blocks, ∃ name, UsesLazily options d file b r r' name
  /-- Where no references lead round, nothing is lazy and no type is written. -/
  straight : (∀ r, ¬ Relation.TransGen (Refers options d) r r) →
    ∀ b ∈ blocks, b.declared.type = none ∧ ∀ u ∈ b.declared.init.mentions, u.postponed = false

section Session

variable {options : Options} {d : Document} {s : Session} {r r' name : String} {c : Declaration} {u : Use}
  {file : File}

theorem Session.Traced.file_nameOf? (h : s.Traced ⟨d, options⟩) (hnames : file.names = s.names)
    (hr : (r, name) ∈ s.names) : file.nameOf? r = some name := by
  rw [File.nameOf?, hnames]
  exact h.sound.names.nameOf?_eq hr

/-- What refers to a name that is not declared before it uses the name lazily. -/
theorem Session.Traced.usesLazily (h : s.Traced ⟨d, options⟩) (hnames : file.names = s.names) (hc : c ∈ s.declarations)
    {n : Node} {uses : List Use} {declared : List String} (hcompiled : Compiled ⟨d, options⟩ s.names declared c r n uses)
    (hrr' : r' ∈ holesIn options n) (hr' : (r', name) ∈ s.names) (hlate : name ∉ declared) :
    UsesLazily options d file c.block r r' name := by
  have hmentions := hcompiled.mentions (h.sound.written c hc)
  have hlazy {r'' : String} {u : Use} (ha : Answer ⟨d, options⟩ s.names declared c r r'' u) (hu : u.name = name) :
      u.postponed = true := by
    rw [← Bool.not_eq_false, ha.first, hu]
    exact hlate
  have hname {u : Use} (ha : Answer ⟨d, options⟩ s.names declared c r r' u) : u.name = name :=
    Option.some.inj ((h.sound.names.nameOf?_eq ha.named).symm.trans (h.sound.names.nameOf?_eq hr'))
  refine ⟨h.file_nameOf? hnames hcompiled.named, h.file_nameOf? hnames hr', ?_, ?_, ?_⟩
  · obtain ⟨v, -, hv⟩ := exists_answer hcompiled.answered hrr'
    exact if_pos (hv.annotated (hlazy hv (hname hv)))
  · intro u hu hname
    obtain ⟨r'', -, ha⟩ := Typeforge.exists_answered hmentions hu
    exact hlazy ha hname
  · rintro ⟨n', hlead, hwritten⟩
    obtain rfl : n' = n := Option.some.inj (hlead.symm.trans hcompiled.leads)
    obtain ⟨⟨name', p⟩, hu, ha⟩ := exists_answer hmentions hwritten
    obtain rfl : name' = name := hname ha
    obtain rfl : p = true := hlazy ha rfl
    exact hu

theorem Session.Traced.lazy_mention (h : s.Traced ⟨d, options⟩) (hc : c ∈ s.declarations)
    (hu : u ∈ c.block.declared.init.mentions) (hlazy : u.postponed = true) : c.annotated = true ∧
      ∃ r r', (r, c.name) ∈ s.names ∧ (r', u.name) ∈ s.names ∧ Refers options d r r' ∧
        Relation.ReflTransGen (Refers options d) r' r := by
  obtain ⟨i, hi⟩ := List.mem_iff_getElem?.1 hc
  obtain ⟨r, n, uses, hcompiled⟩ := h.compiled i c hi
  obtain ⟨r', ha, hrefers⟩ := hcompiled.exists_answered (h.sound.written c hc) hu
  exact ⟨ha.annotated hlazy, r, r', hcompiled.named, ha.named, hrefers, ha.back hlazy⟩

theorem Session.Traced.circle_of_annotated (h : s.Traced ⟨d, options⟩) (hc : c ∈ s.declarations)
    (ha : c.annotated = true) : ∃ r, Relation.TransGen (Refers options d) r r := by
  obtain ⟨i, hi⟩ := List.mem_iff_getElem?.1 hc
  obtain ⟨r, n, uses, hcompiled⟩ := h.compiled i c hi
  exact hcompiled.circle ha

theorem Session.Traced.exists_lazy_step (h : s.Traced ⟨d, options⟩) (hsettled : Settled s)
    (hnames : file.names = s.names) (hasked : ∀ r, r ∈ Keyed.keys s.names ↔ r ∈ asked options d) {rs : List String}
    (hrs : ClosedWalk (Refers options d) rs) : ∃ before r r' after, rs = before ++ r :: r' :: after ∧
      ∃ c ∈ s.declarations, ∃ name, UsesLazily options d file c.block r r' name := by
  have hnamed {r : String} (hr : ∃ r₀, Refers options d r₀ r) : ∃ name, (r, name) ∈ s.names := by
    obtain ⟨r₀, n₀, hlead, hr⟩ := hr
    obtain ⟨⟨_, name⟩, hmem, rfl⟩ := List.mem_map.1 ((hasked r).2 (holesIn_asked hlead hr))
    exact ⟨name, hmem⟩
  -- were all used at once, each would be declared before the one that refers to it, all the way round
  obtain ⟨before, r, r', after, hsplit, hrefers, hle⟩ :=
    hrs.exists_step fun r => s.placeOf ((s.names.nameOf? r).getD "")
  obtain ⟨name, hr⟩ := hnamed (hrs.exists_before (a := r) (by simp [hsplit]))
  obtain ⟨name', hr'⟩ := hnamed ⟨r, hrefers⟩
  rw [h.sound.names.nameOf?_eq hr, h.sound.names.nameOf?_eq hr', Option.getD_some, Option.getD_some] at hle
  obtain ⟨n, hlead, hhole⟩ := hrefers
  obtain ⟨c, n', uses, hc, -, hcompiled⟩ := h.exists_compiled hsettled hr
  obtain rfl : n' = n := Option.some.inj (hcompiled.leads.symm.trans hlead)
  exact ⟨before, r, r', after, hsplit, c, hc, name', h.usesLazily hnames hc hcompiled hhole hr' fun hdeclared =>
    absurd (Session.placeOf_lt hdeclared) (Nat.not_lt.2 hle)⟩

end Session

/-- **Lazy uses break the circles of references**, and stand nowhere else. -/
theorem fillFile_breaks_circles {options : Options} {d : Document} {id : String} {file : File}
    (h : fillFile options d { id } = .ok file) : ∃ blocks, BreaksCircles options d file blocks := by
  obtain ⟨s, hends, -, hnames, hbody⟩ := fillFile_ok h
  have htraced := traced_declareAll hends
  obtain ⟨hsettled, -⟩ := settled_declareAll (settled_start options.definitions.toStyle) hends
  obtain ⟨-, hasked⟩ := names_of_declareAll hends
  refine ⟨s.declarations.map Declaration.block, ?_, ?_, ?_, fun rs hrs => ?_, fun hstraight => ?_⟩
  · rw [hbody, List.flatMap_map]
    simp only [block_statements]
  · simp only [List.forall_mem_map]
    exact fun c hc u hu hlazy => if_pos (htraced.lazy_mention hc hu hlazy).1
  · simp only [List.forall_mem_map]
    intro c hc u hu hlazy
    obtain ⟨-, r, r', hr, hr', hback⟩ := htraced.lazy_mention hc hu hlazy
    exact ⟨r, r', htraced.file_nameOf? hnames hr, htraced.file_nameOf? hnames hr', hback⟩
  · obtain ⟨before, r, r', after, hsplit, c, hc, huses⟩ := htraced.exists_lazy_step hsettled hnames hasked hrs
    exact ⟨before, r, r', after, hsplit, c.block, List.mem_map_of_mem hc, huses⟩
  · simp only [List.forall_mem_map]
    intro c hc
    have hplain : ¬ c.annotated = true := fun ha => (htraced.circle_of_annotated hc ha).elim hstraight
    refine ⟨if_neg hplain, fun u hu => ?_⟩
    rw [← Bool.not_eq_true]
    exact fun hlazy => hplain (htraced.lazy_mention hc hu hlazy).1

/-! ### Two documents with circles -/

def arrayOf (items : List Node) : Node := { kind := some .array, items := some items }

theorem outline_arrayOf {items : List Node} (h : (arrayOf items).settled = arrayOf items) :
    outline false (arrayOf items) false = [arrayBase false (arrayOf items)] := by
  have hbase : base false (arrayOf items) = arrayBase false (arrayOf items) := by
    rw [base]
    simp only [arrayOf, constantValidator?]
    rw [kindBase]
  rw [outline, h, hbase]
  rfl

/-- A parent has children, and a child has parents. -/
def family : Document where
  components := { schemas := [
    ("Parent", arrayOf [{ reference := some "#/components/schemas/Child" }]),
    ("Child", arrayOf [{ reference := some "#/components/schemas/Parent" }])] }

theorem refers_arrayOf {options : Options} {d : Document} {r r' : String} (hmetadata : options.metadata = false)
    (h : d.resolve? r = some (arrayOf [{ reference := some r' }])) : Refers options d r r' := by
  refine ⟨_, leadsTo?_resolved h, ?_⟩
  have hitems : (arrayOf [{ reference := some r' }]).deduplicate.itemList = [{ reference := some r' }] := by rfl
  have hbase : arrayBase false (arrayOf [{ reference := some r' }]) = .make .array [.use r'] := by
    rw [arrayBase, hitems]
    simp [members, outline_reference]
    rfl
  rw [holesIn, hmetadata, outline_arrayOf (by rfl), hbase]
  simp [holesOf, collectAll, collect]

/-- The references of these schemas lead round, and their file breaks the circle. -/
theorem family_breaks_circles : ∃ file blocks, fillFile {} family { id := "valibot" } = .ok file ∧
    ClosedWalk (Refers {} family)
      ["#/components/schemas/Parent", "#/components/schemas/Child", "#/components/schemas/Parent"] ∧
    BreaksCircles {} family file blocks := by
  obtain ⟨file, h⟩ : ∃ file, fillFile {} family { id := "valibot" } = .ok file := exists_fillFile (by decide +kernel)
  obtain ⟨blocks, hblocks⟩ := fillFile_breaks_circles h
  have hwalk : ClosedWalk (Refers {} family)
      ["#/components/schemas/Parent", "#/components/schemas/Child", "#/components/schemas/Parent"] :=
    ⟨by decide, by decide, .cons_cons (refers_arrayOf rfl rfl) (.cons_cons (refers_arrayOf rfl rfl) (.singleton _))⟩
  exact ⟨file, blocks, h, hwalk, hblocks⟩

/-- The item schemas of an array of pets and of nothings. -/
def petOrNull : List Node := [{ reference := some "#/components/schemas/Pet" }, { kind := some .null }]

/-- A pet is such an array. -/
def herd : Document where
  components := { schemas := [("Pet", arrayOf petOrNull)] }

theorem outline_petOrNull : outline false (arrayOf petOrNull) false =
    [.make .array [.dropping [.use "#/components/schemas/Pet", .closed (Maker.null.apply [])] unknown]] := by
  have hitems : (arrayOf petOrNull).deduplicate.itemList = petOrNull := by rfl
  have hbase : arrayBase false (arrayOf petOrNull)
      = .make .array [.dropping [.use "#/components/schemas/Pet", .closed (Maker.null.apply [])] unknown] := by
    rw [arrayBase, hitems, petOrNull]
    simp [members, outline_reference, outline_null]
    rfl
  rw [outline_arrayOf (by rfl), hbase]

theorem leadsTo?_herd {r : String} {n : Node} (h : leadsTo? {} herd r = some n) : n = arrayOf petOrNull := by
  have hnodes : (targets {} herd).map Target.node = [arrayOf petOrNull] := by rfl
  obtain ⟨x, hx, rfl⟩ := exists_targetOf? h
  exact List.mem_singleton.1 (hnodes ▸ List.mem_map_of_mem (targetOf?_mem hx).1)

/-- The reference to the pet leads to itself, and no constant mentions a name, be it lazily or not. -/
theorem closedWalk_mentioned_nowhere : ∃ file, fillFile {} herd { id := "valibot" } = .ok file ∧
    ClosedWalk (Refers {} herd) ["#/components/schemas/Pet", "#/components/schemas/Pet"] ∧
    ∀ e name type init, Stmt.const e name type init ∈ file.body → init.mentions = [] := by
  obtain ⟨file, h⟩ : ∃ file, fillFile {} herd { id := "valibot" } = .ok file := exists_fillFile (by decide +kernel)
  obtain ⟨s, hends, -, -, hbody⟩ := fillFile_ok h
  have htraced := traced_declareAll hends
  refine ⟨file, h, ⟨by decide, by decide, .cons_cons ⟨_, leadsTo?_resolved rfl, ?_⟩ (.singleton _)⟩, ?_⟩
  · rw [holesIn, outline_petOrNull]
    simp [holesOf, collectAll, collect]
  · intro e name type init hmem
    rw [hbody] at hmem
    obtain ⟨c, hc, hinit⟩ := List.mem_flatMap.1 hmem
    obtain ⟨i, hi⟩ := List.mem_iff_getElem?.1 hc
    obtain ⟨r, n, answers, hcompiled⟩ := htraced.compiled i c hi
    have hmentions := hcompiled.mentions (htraced.sound.written c hc)
    have hwritten : usesOf (outline false n false) = [] := by
      rw [leadsTo?_herd hcompiled.leads, outline_petOrNull]
      simp [usesOf, collectAll, collect]
    rw [hwritten] at hmentions
    obtain rfl : init = c.block.declared.init := by
      cases (Block.mem_statements (by simp)).1 (block_statements c ▸ hinit)
      rfl
    exact List.forall₂_nil_left_iff.1 hmentions

end Typeforge.Validator
