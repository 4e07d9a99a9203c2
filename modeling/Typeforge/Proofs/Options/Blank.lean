import Typeforge.Proofs.Options.Settings
import Typeforge.Types.Options
import Typeforge.Validator.Options

/-!
# Changes that say nothing

Each field of a record of changes may be absent or blank. A family and the options of the types file stay as they are
when all fields are. In the options of the validator file the case of all families comes before what is set for one, so
that it reaches the families with any changes, also with those that say nothing: then the options stay as they are just
if each family has the case of all (`blank_changes_keep`).
-/

namespace Typeforge

open Naming Options

namespace Options

/-! ### Families -/

/-- Each field is absent or blank. -/
structure FamilyChanges.IsBlank (changes : FamilyChanges) : Prop where
  enabled : changes.enabled = none
  case : changes.case = none
  rule : ∀ rule ∈ changes.rule, isBlankRule rule = true

/-- A family is not set, or by an empty text, or by a record whose fields are all absent or blank. -/
def IsBlank : Option (Setting FamilyChanges) → Prop
  | none => True
  | some (.text template) => template = ""
  | some (.record changes) => changes.IsBlank
  | some (.flag _) | some (.number _) | some (.function _) => False

section Family

variable {family : Family} {setting : Option (Setting FamilyChanges)}

theorem changedUnless_of_blank {α : Type} {blank : α → Bool} {change : Option α}
    (h : ∀ a ∈ change, blank a = true) (current : α) : changedUnless blank current change = current := by
  cases change with
  | none => rfl
  | some a => exact if_pos (h a rfl)

theorem amend_of_isBlank {changes : FamilyChanges} (h : changes.IsBlank) (family : Family) :
    Amendable.amend family changes = family := by
  show ({
      case := changed family.case changes.case
      rule := changedUnless isBlankRule family.rule changes.rule
      enabled := changed family.enabled changes.enabled } : Family) = family
  rw [h.enabled, h.case, changedUnless_of_blank h.rule]
  rfl

/-- Where a text is a template and a record means itself, a blank setting changes nothing. -/
theorem settle_of_isBlank {shorthands : Shorthands Family FamilyChanges}
    (htext : shorthands.text = Family.shorthands.text) (hrecord : shorthands.record = none) (h : IsBlank setting)
    (family : Family) : settle family setting shorthands = family := by
  cases setting with
  | none => rfl
  | some setting =>
    cases setting with
    | text template =>
      obtain rfl : template = "" := h
      have hblank : ({ rule := some (.template "") } : FamilyChanges).IsBlank :=
        ⟨rfl, rfl, fun rule hrule => by cases hrule; rfl⟩
      simp only [settle, Setting.changes?, Option.bind_some, htext, Family.shorthands, Option.map_some]
      exact amend_of_isBlank hblank family
    | record changes =>
      simp only [settle, Setting.changes?, Option.bind_some, hrecord]
      exact amend_of_isBlank h family
    | flag _ | number _ | function _ => exact h.elim

theorem Family.settle_of_isBlank (h : IsBlank setting) (family : Family) : family.settle setting = family :=
  Options.settle_of_isBlank rfl rfl h family

theorem settle_definitions_of_isBlank (h : IsBlank setting) (family : Family) :
    settle family setting Validator.definitionShorthands = family :=
  Options.settle_of_isBlank (by rfl) (by rfl) h family

/-- The family with its names in another case. -/
def Family.inCase (family : Family) (case : Case) : Family := { family with case }

theorem Family.inCase_eq_iff {case : Case} : family.inCase case = family ↔ family.case = case := by
  constructor
  · intro h
    rw [← h]
    rfl
  · rintro rfl
    rfl

theorem case_settle_definitions (family : Family) (setting : Option (Setting FamilyChanges)) :
    (settle family setting Validator.definitionShorthands).case = (suppliedCase setting).getD family.case := by
  match setting with
  | none | some (.flag _) | some (.number _) | some (.text _) | some (.function _) | some (.record _) => rfl

end Family

end Options

/-! ### The types file -/

structure Types.OptionChanges.IsBlank (changes : Types.OptionChanges) : Prop where
  comments : changes.comments = none
  output : ∀ output ∈ changes.output, output.isEmpty = true
  definitions : Options.IsBlank changes.definitions

theorem Types.Options.amend_of_isBlank {changes : Types.OptionChanges} (h : changes.IsBlank)
    (options : Types.Options) : Amendable.amend options changes = options := by
  show ({
      comments := changed options.comments changes.comments
      output := changedUnless String.isEmpty options.output changes.output
      definitions := options.definitions.settle changes.definitions } : Types.Options) = options
  rw [h.comments, changedUnless_of_blank h.output, Family.settle_of_isBlank h.definitions]
  rfl

/-! ### The validator file -/

namespace Validator

structure OptionChanges.IsBlank (changes : OptionChanges) : Prop where
  comments : changes.comments = none
  metadata : changes.metadata = none
  case : changes.case = none
  output : ∀ output ∈ changes.output, output.isEmpty = true
  definitions : Options.IsBlank changes.definitions
  requests : Options.IsBlank changes.requests
  responses : Options.IsBlank changes.responses

/-- The options with the case of all families for each of them. -/
def Options.uniform (options : Options) : Options :=
  { options with
    definitions := options.definitions.inCase options.case
    requests := options.requests.inCase options.case
    responses := options.responses.inCase options.case }

section Validator

variable {options : Options}

theorem Options.amend_of_isBlank {changes : OptionChanges} (h : changes.IsBlank) (options : Options) :
    Amendable.amend options changes = options.uniform := by
  show ({
      comments := changed options.comments changes.comments
      metadata := changed options.metadata changes.metadata
      case := changed options.case changes.case
      output := changedUnless String.isEmpty options.output changes.output
      definitions := settle (options.definitions.inCase (changed options.case changes.case)) changes.definitions
        definitionShorthands
      requests := (options.requests.inCase (changed options.case changes.case)).settle changes.requests
      responses := (options.responses.inCase (changed options.case changes.case)).settle changes.responses } :
        Options) = options.uniform
  rw [h.comments, h.metadata, h.case, changedUnless_of_blank h.output, settle_definitions_of_isBlank h.definitions,
    Family.settle_of_isBlank h.requests, Family.settle_of_isBlank h.responses]
  rfl

theorem Options.uniform_eq_iff : options.uniform = options ↔ options.definitions.case = options.case ∧
    options.requests.case = options.case ∧ options.responses.case = options.case := by
  constructor
  · intro h
    rw [← h]
    exact ⟨rfl, rfl, rfl⟩
  · rintro ⟨hdefinitions, hrequests, hresponses⟩
    rw [Options.uniform, Family.inCase_eq_iff.2 hdefinitions, Family.inCase_eq_iff.2 hrequests,
      Family.inCase_eq_iff.2 hresponses]

/-- The options that a user asks for are uniform just if no family is given another case than all of them. -/
theorem Options.uniform_resolve_iff (changes : OptionChanges) :
    (resolve (some changes)).uniform = resolve (some changes) ↔
      ∀ setting ∈ [changes.definitions, changes.requests, changes.responses],
        ∀ case ∈ suppliedCase setting, case = (resolve (some changes)).case := by
  have hgetD (setting : Option (Setting FamilyChanges)) (case : Case) :
      (suppliedCase setting).getD case = case ↔ ∀ case' ∈ suppliedCase setting, case' = case := by
    cases suppliedCase setting <;> simp
  have hdefinitions : (resolve (some changes)).definitions.case =
      (suppliedCase changes.definitions).getD (resolve (some changes)).case := case_settle_definitions _ _
  have hrequests : (resolve (some changes)).requests.case =
      (suppliedCase changes.requests).getD (resolve (some changes)).case := case_settle _ _
  have hresponses : (resolve (some changes)).responses.case =
      (suppliedCase changes.responses).getD (resolve (some changes)).case := case_settle _ _
  rw [Options.uniform_eq_iff, hdefinitions, hrequests, hresponses, hgetD, hgetD, hgetD]
  simp only [List.mem_cons, List.not_mem_nil, or_false, forall_eq_or_imp, forall_eq]

end Validator

end Validator

/-! ### All three -/

/-- **What changes that say nothing do.** They leave a family and the options of the types file as they are. Those of
the validator file get the case of all families in each family, and so stay as they are just if they have it there; for
options that a user has asked for, that is if no family was given another case. -/
theorem blank_changes_keep :
    (∀ (family : Family) (changes : FamilyChanges), changes.IsBlank →
      settle family (some (.record changes)) {} = family) ∧
    (∀ (options : Types.Options) (changes : Types.OptionChanges), changes.IsBlank →
      settle options (some (.record changes)) {} = options) ∧
    (∀ (options : Validator.Options) (changes : Validator.OptionChanges), changes.IsBlank →
      settle options (some (.record changes)) {} = options.uniform) ∧
    (∀ options : Validator.Options, options.uniform = options ↔ options.definitions.case = options.case ∧
      options.requests.case = options.case ∧ options.responses.case = options.case) ∧
    (∀ user : Validator.OptionChanges,
      (Validator.Options.resolve (some user)).uniform = Validator.Options.resolve (some user) ↔
        ∀ setting ∈ [user.definitions, user.requests, user.responses],
          ∀ case ∈ suppliedCase setting, case = (Validator.Options.resolve (some user)).case) :=
  ⟨fun family _ h => amend_of_isBlank h family, fun options _ h => Types.Options.amend_of_isBlank h options,
    fun options _ h => Validator.Options.amend_of_isBlank h options, fun _ => Validator.Options.uniform_eq_iff,
    Validator.Options.uniform_resolve_iff⟩

/-- All families in one case, and that of the responses said again. -/
def inPascal : Validator.OptionChanges where
  case := some .pascal
  output := some "schemas"
  requests := some (.flag false)
  responses := some (.record { case := some .pascal })

/-- Changes whose fields are absent or blank, also in the families. -/
def blanks : Validator.OptionChanges where
  output := some ""
  definitions := some (.text "")
  requests := some (.record { rule := some (.template "") })

theorem inPascal_kept :
    blanks.IsBlank ∧
    settle (Validator.Options.resolve (some inPascal)) (some (.record blanks)) {} =
      Validator.Options.resolve (some inPascal) ∧
    settle (Types.Options.resolve (some { comments := some false })) (some (.record { output := some "" })) {} =
      Types.Options.resolve (some { comments := some false }) ∧
    settle (Family.ofTemplate .snake "Api") (some (.record { rule := some (.template "") })) {} =
      Family.ofTemplate .snake "Api" := by
  obtain ⟨hfamily, htypes, hvalidator, -, huser⟩ := blank_changes_keep
  have hrule : ({ rule := some (.template "") } : FamilyChanges).IsBlank :=
    ⟨rfl, rfl, fun rule hrule => by cases hrule; rfl⟩
  have hblanks : blanks.IsBlank :=
    ⟨rfl, rfl, rfl, fun output houtput => by cases houtput; rfl, rfl, hrule, trivial⟩
  refine ⟨hblanks, ?_, htypes _ _ ⟨rfl, fun output houtput => by cases houtput; rfl, trivial⟩, hfamily _ _ hrule⟩
  rw [hvalidator _ _ hblanks, huser inPascal]
  decide

/-- One family in another case than all of them. -/
def responsesInSnake : Validator.OptionChanges where
  responses := some (.record { case := some .snake })

/-- The case of one family is lost to changes that say nothing. -/
theorem responsesInSnake_lost :
    Validator.OptionChanges.decode 8 (.object [("responses", .object [("case", .string "snake_case")])]) =
      some responsesInSnake ∧
    (Validator.Options.resolve (some responsesInSnake)).responses.case = .snake ∧
    (settle (Validator.Options.resolve (some responsesInSnake)) (some (.record {})) {}).responses.case = .camel ∧
    ¬ ∀ user changes : Validator.OptionChanges, changes.IsBlank →
      settle (Validator.Options.resolve (some user)) (some (.record changes)) {} =
        Validator.Options.resolve (some user) := by
  refine ⟨rfl, rfl, rfl, fun h => ?_⟩
  have hnothing : ({} : Validator.OptionChanges).IsBlank :=
    ⟨rfl, rfl, rfl, fun _ houtput => (by cases houtput), trivial, trivial, trivial⟩
  have hcase := congrArg (fun options : Validator.Options => options.responses.case) (h responsesInSnake {} hnothing)
  cases hcase

end Typeforge
