import Typeforge.Output.File

/-!
# Blocks

The statements of a generated file are blocks: a comment, if there is any, and the declaration that it is on. What is
declared depends on the plugin.
-/

namespace Typeforge

open Code

/-- A comment, unless it is empty, and what is declared under a name. -/
structure Block (δ : Type) where
  comment : List String
  name : String
  declared : δ

namespace Block

variable {δ : Type} {statement : String → δ → Stmt} {b : Block δ} {s : Stmt}

/-- The statements of a block, given the statement that declares something under a name. -/
def statements (statement : String → δ → Stmt) (b : Block δ) : List Stmt :=
  (if b.comment.isEmpty then [] else [.doc b.comment]) ++ [statement b.name b.declared]

/-- What is no comment is the declaration. -/
theorem mem_statements (h : ∀ paragraphs, s ≠ .doc paragraphs) :
    s ∈ b.statements statement ↔ s = statement b.name b.declared := by
  have hdoc : s ∉ (if b.comment.isEmpty then [] else [Stmt.doc b.comment]) := by
    split
    · exact List.not_mem_nil
    · exact fun hs => h _ (List.mem_singleton.1 hs)
  rw [statements, List.mem_append, or_iff_right hdoc, List.mem_singleton]

end Block

end Typeforge
