import Typeforge.Options.Family
import Mathlib.Data.List.Basic

/-!
# Settings one after the other

A family may be set several times. What each setting supplies for a field can be said without the fields of the others:
a flag is about whether there are declarations, a text and a function are about their names, a record is about what it
names, and a number is about nothing. After any number of settings each field has what was supplied for it last
(`foldl_settle`).
-/

namespace Typeforge.Options

open Naming

/-- Whether there are declarations, as far as a setting says so. -/
def suppliedFlag : Option (Setting FamilyChanges) → Option Bool
  | some (.flag enabled) => some enabled
  | some (.record changes) => changes.enabled
  | some (.number _) | some (.text _) | some (.function _) | none => none

/-- The case of the names, as far as a setting says so. -/
def suppliedCase : Option (Setting FamilyChanges) → Option Case
  | some (.record changes) => changes.case
  | some (.flag _) | some (.number _) | some (.text _) | some (.function _) | none => none

/-- A rule, unless it is an empty template. -/
def unlessBlank : Rule → Option Rule
  | .template template => if template = "" then none else some (.template template)
  | .function f => some (.function f)

/-- The rule of the names, as far as a setting says so. -/
def suppliedRule : Option (Setting FamilyChanges) → Option Rule
  | some (.text template) => unlessBlank (.template template)
  | some (.function f) => some (.function f)
  | some (.record changes) => changes.rule.bind unlessBlank
  | some (.flag _) | some (.number _) | none => none

section Step

variable (family : Family) (setting : Option (Setting FamilyChanges))

/-! ### One setting -/

theorem enabled_settle : (family.settle setting).enabled = (suppliedFlag setting).getD family.enabled := by
  match setting with
  | none | some (.flag _) | some (.number _) | some (.text _) | some (.function _) | some (.record _) => rfl

theorem case_settle : (family.settle setting).case = (suppliedCase setting).getD family.case := by
  match setting with
  | none | some (.flag _) | some (.number _) | some (.text _) | some (.function _) | some (.record _) => rfl

theorem changedUnless_isBlankRule (rule : Rule) (change : Option Rule) :
    changedUnless isBlankRule rule change = (change.bind unlessBlank).getD rule := by
  match change with
  | none | some (.function _) => rfl
  | some (.template template) => by_cases h : template = "" <;> simp [changedUnless, isBlankRule, unlessBlank, h]

theorem rule_settle : (family.settle setting).rule = (suppliedRule setting).getD family.rule := by
  match setting with
  | none | some (.flag _) | some (.number _) | some (.function _) => rfl
  | some (.text template) => exact changedUnless_isBlankRule family.rule (some (.template template))
  | some (.record changes) => exact changedUnless_isBlankRule family.rule changes.rule

end Step

/-! ### Any number of settings -/

section Run

variable {σ τ α : Type} (step : σ → τ → σ) (field : σ → α) (supplied : τ → Option α)

/-- Where each step leaves a field as it is or gives it what is supplied, the field has what was supplied last. -/
theorem foldl_supplied (hstep : ∀ s t, field (step s t) = (supplied t).getD (field s)) (s : σ) (ts : List τ) :
    field (ts.foldl step s) = (ts.filterMap supplied).getLast?.getD (field s) := by
  induction ts generalizing s with
  | nil => rfl
  | cons t ts ih =>
    rw [List.foldl_cons, ih, hstep]
    cases ht : supplied t with
    | none => rw [List.filterMap_cons_none ht, Option.getD_none]
    | some a => rw [List.filterMap_cons_some ht, List.getLast?_cons, Option.getD_some, Option.getD_some]

end Run

/-- **After any settings each field has what was supplied for it last**, or what it had before them. Numbers, empty
texts and settings that are absent change nothing. -/
theorem foldl_settle (family : Family) (settings : List (Option (Setting FamilyChanges))) :
    (settings.foldl Family.settle family).enabled = (settings.filterMap suppliedFlag).getLast?.getD family.enabled ∧
    (settings.foldl Family.settle family).case = (settings.filterMap suppliedCase).getLast?.getD family.case ∧
    (settings.foldl Family.settle family).rule = (settings.filterMap suppliedRule).getLast?.getD family.rule ∧
    (∀ x, family.settle (some (.number x)) = family) ∧ family.settle (some (.text "")) = family ∧
    family.settle none = family := by
  have henabled := foldl_supplied Family.settle (·.enabled) suppliedFlag enabled_settle family settings
  have hcase := foldl_supplied Family.settle (·.case) suppliedCase case_settle family settings
  have hrule := foldl_supplied Family.settle (·.rule) suppliedRule rule_settle family settings
  exact ⟨henabled, hcase, hrule, fun _ => rfl, rfl, rfl⟩

-- An empty template leaves the one before in place, and `false` counts as a value.
example : [some (.flag false), some (.text "Api"), none,
    some (.record { case := some .snake, rule := some (.template "") })].foldl Family.settle
      (.ofTemplate .camel "[name]") = { enabled := false, case := .snake, rule := .template "Api" } := by
  rfl

end Typeforge.Options
