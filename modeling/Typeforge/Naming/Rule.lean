import Typeforge.Naming.Case
import Typeforge.Code.Identifier

/-!
# Naming rules

A rule turns the base name of a component into the name of its declaration: a template, in which the base
name takes the place of the placeholder, or any function. The result is put into a case and made a legal
identifier.
-/

namespace Typeforge.Naming

inductive Rule where
  | template (text : String)
  | function (f : String → String)

instance : Inhabited Rule := ⟨.template ""⟩

namespace Rule

/-- What the base name takes the place of. -/
def placeholder : String := "\x7b\x7bname\x7d\x7d"

/-- A template with the text in the place of each placeholder. -/
def fill (template text : String) : String :=
  match placeholder.toList with
  | [] => template
  | p :: ps => String.ofList (Text.replaceAll p ps text.toList template.toList)

/-- The name for a base name, before it is put into a case. What a template says around the placeholder
counts as separate words, unless the case leaves words alone. -/
def raw (rule : Rule) (base : String) (case : Case) : String :=
  match rule with
  | .template t => if case = .preserve then fill t base else fill t (" " ++ base ++ " ")
  | .function f => f base

def render (rule : Rule) (base : String) (case : Case) : String :=
  Code.Identifier.legalize (case.apply (rule.raw base case))

end Rule

/-- A case and a rule: all that it takes to name a declaration. -/
structure Style where
  case : Case
  rule : Rule

def Style.render (s : Style) (base : String) : String := s.rule.render base s.case

end Typeforge.Naming
