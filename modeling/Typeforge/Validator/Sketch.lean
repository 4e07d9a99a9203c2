import Typeforge.Validator.Vocabulary

/-!
# Sketches of validators

A sketch is a validator in which other declarations are only pointed at: `ρ` is what stands for them, first
the reference in the schema, then the name of the declaration and how it is reached. `traverse` replaces
what stands for them, from left to right.
-/

namespace Typeforge.Validator

open Code

/-- A validator with holes. -/
inductive Sketch (ρ : Type) where
  /-- An expression that points at no declaration. -/
  | closed (e : Expr)
  /-- Another declaration. -/
  | use (r : ρ)
  | make (function : Maker) (args : List (Sketch ρ))
  | refine (function : Action) (args : List (Sketch ρ))
  | list (items : List (Sketch ρ))
  | object (fields : List (Key × Sketch ρ))
  /-- Only `kept` is written, but the declarations that `looked` points at have to be there. -/
  | dropping (looked : List (Sketch ρ)) (kept : Expr)

namespace Sketch

variable {ρ σ : Type}

instance : Inhabited (Sketch ρ) := ⟨.closed unknown⟩

/-- A validator and its refinements. One alone stands for itself, and none accepts every value. -/
def pipe : List (Sketch ρ) → Sketch ρ
  | [] => .closed unknown
  | [s] => s
  | ss => .refine .pipe ss

section Traverse

variable {m : Type → Type} [Monad m] (f : ρ → m σ)

mutual

/-- Replaces what the sketch points at, from left to right. -/
def traverse : Sketch ρ → m (Sketch σ)
  | .closed e => pure (.closed e)
  | .use r => do return .use (← f r)
  | .make function args => do return .make function (← traverseList args)
  | .refine function args => do return .refine function (← traverseList args)
  | .list items => do return .list (← traverseList items)
  | .object fields => do return .object (← traverseFields fields)
  | .dropping looked kept => do return .dropping (← traverseList looked) kept

def traverseList : List (Sketch ρ) → m (List (Sketch σ))
  | [] => pure []
  | s :: ss => do return (← traverse s) :: (← traverseList ss)

def traverseFields : List (Key × Sketch ρ) → m (List (Key × Sketch σ))
  | [] => pure []
  | (k, s) :: fs => do return (k, ← traverse s) :: (← traverseFields fs)

end

end Traverse

section Expression

variable (use : ρ → Expr)

mutual

/-- The expression that is written for a sketch, given the one for what it points at. -/
def toExpr : Sketch ρ → Expr
  | .closed e => e
  | .use r => use r
  | .make function args => function.apply (toExprs args)
  | .refine function args => function.apply (toExprs args)
  | .list items => .array (toExprs items)
  | .object fields => .object (toProperties fields)
  | .dropping _ kept => kept

def toExprs : List (Sketch ρ) → List Expr
  | [] => []
  | s :: ss => s.toExpr :: toExprs ss

def toProperties : List (Key × Sketch ρ) → List (Key × Expr)
  | [] => []
  | (k, s) :: fs => (k, s.toExpr) :: toProperties fs

end

end Expression

end Sketch

end Typeforge.Validator
