import Typeforge.Text.Replace
import Typeforge.Code.Quoted
import Typeforge.Validator.Outline

/-!
# Declared validators

A validator that other validators use is declared as a constant. Within a circle of declarations one of
them has to be used before it is initialised, which a function around its name allows; the type of such a
declaration cannot be inferred and is written.
-/

namespace Typeforge.Validator

open Code Schema

/-- How a validator is used: by its name, or lazily. -/
structure Use where
  name : String
  postponed : Bool
deriving DecidableEq

def Use.toExpr (u : Use) : Expr :=
  if u.postponed then Maker.lazy.apply [.thunk (.ident u.name)] else .ident u.name

structure Declaration where
  name : String
  /-- The paragraphs of the comment on it. -/
  comment : List String
  /-- The type is written. -/
  annotated : Bool
  validator : Sketch Use

/-- The statements of a declaration: its comment, if there is any, and the constant. -/
def Declaration.statements (d : Declaration) : List Stmt :=
  (if d.comment.isEmpty then [] else [.doc d.comment])
    ++ [.const true d.name (if d.annotated then some topType else none) (d.validator.toExpr Use.toExpr)]

/-- The comment on a node: its title, the lines of its description, and whether it is deprecated. -/
def commentOn (a : Attributes) : List String :=
  (a.title.map escapeComment).toList
    ++ (match a.description with
      | some d => Text.lines (escapeComment d)
      | none => [])
    ++ (if a.deprecated = some true then ["@deprecated"] else [])

end Typeforge.Validator
