import Typeforge.Proofs.Validator.Readings
import Typeforge.Validator.Declaration

/-!
# The names that an expression mentions

`Expr.mentions` reads off an expression the names that it takes from its file, each with the way it is taken:
a name that stands alone is read as soon as the file is loaded, the name in `v.lazy(() => name)` is read
later. The library, `BigInt` and the parameters of a function do not come from the file.

`Within P` is a sketch whose own expressions mention nothing and which points only at what has `P`. The
expression that is written for such a sketch mentions just what the sketch points at (`mentions_toExpr`).
-/

namespace Typeforge.Code

open Validator (Use Maker namespaceName)

def lazyName? (callee : Expr) (args : List Expr) : Option String :=
  match callee, args with
  | .member (.ident receiver) function, [.arrow [] (.ident name)] =>
    if receiver = namespaceName ∧ function = Maker.lazy.name then some name else none
  | _, _ => none

/-- The callee is a function of the library or `BigInt`. -/
def isHelper : Expr → Bool
  | .member (.ident receiver) _ => receiver == namespaceName
  | .ident name => name == "BigInt"
  | _ => false

/-- The names that come from the file. -/
def mentioned : Reading Use where
  name name := [⟨name, false⟩]
  call callee args ofCallee ofArgs :=
    match lazyName? callee args with
    | some name => [⟨name, true⟩]
    | none => (if isHelper callee then [] else ofCallee) ++ ofArgs
  arrow params ofBody := ofBody.filter fun u => !params.any fun p => p.name == u.name

/-- The names that the expression takes from the file, from left to right. -/
def Expr.mentions (e : Expr) : List Use := e.read mentioned

theorem lazyName?_of_ne {receiver : Expr} {function : String} (args : List Expr) (h : function ≠ Maker.lazy.name) :
    lazyName? (.member receiver function) args = none := by
  unfold lazyName?
  split
  · rename_i heq
    cases heq
    simp [h]
  · rfl

theorem mentioned_plain : mentioned.Plain where
  library := fun function args ofArgs h => by simp [mentioned, lazyName?_of_ne args h, isHelper]
  conversion := rfl

/-- A lazy use mentions its name, and no argument of another function is read as one. -/
theorem mentions_use (u : Use) : u.toExpr.mentions = [u] := by
  obtain ⟨name, _ | _⟩ := u
  · rfl
  · rfl

end Typeforge.Code

namespace Typeforge.Validator

open Code Schema

/-! ### Validators that mention nothing -/

section Leaves

variable {a : Attributes}

theorem mentions_numericConstant (v : Json.Value) (format : Option String) :
    (numericConstant v format).mentions = [] := by
  rw [List.eq_nil_iff_forall_not_mem]
  intro u hu
  obtain ⟨-, ⟨n, -, hu⟩ | ⟨t, -, hu⟩⟩ := mem_read_numericConstant.1 hu
  · exact absurd hu List.not_mem_nil
  · exact absurd hu List.not_mem_nil

theorem mentions_defaultExpr (v : Json.Value) : (defaultExpr a v).mentions = [] := by
  rw [List.eq_nil_iff_forall_not_mem]
  intro u hu
  have hnone : u ∈ (numericConstant v a.format).mentions := (mem_read_defaultExpr hu).2
  rw [mentions_numericConstant] at hnone
  exact absurd hnone List.not_mem_nil

theorem mentions_constantValidator {kind : Kind} {e : Expr} (hk : a.kind = some kind)
    (h : constantValidator? a kind = some e) : e.mentions = [] := by
  rw [List.eq_nil_iff_forall_not_mem]
  intro u hu
  obtain ⟨-, v, -, hu⟩ := mem_read_constantValidator mentioned_plain hk h hu
  have hnone : u ∈ (numericConstant v a.format).mentions := hu
  rw [mentions_numericConstant] at hnone
  exact absurd hnone List.not_mem_nil

theorem mentions_numberValidator (whole : Bool) : (numberValidator a whole).mentions = [] := by
  rw [List.eq_nil_iff_forall_not_mem]
  intro u hu
  obtain ⟨s, -, hu⟩ := mem_read_numberValidator mentioned_plain hu
  exact absurd hu List.not_mem_nil

end Leaves

/-! ### What is written for a sketch -/

namespace Sketch

variable {ρ : Type}

/-- The expressions in the sketch mention nothing, nothing is made lazily, and it points only at what has `P`. -/
def Within (P : ρ → Prop) (s : Sketch ρ) : Prop :=
  s.Meets { closed := fun e => e.mentions = [], use := P, make := fun function _ => function ≠ .lazy }

/-- **What is written mentions just what the sketch points at.** -/
theorem mentions_toExpr {P : Use → Prop} {s : Sketch Use} (h : s.Within P) :
    (s.toExpr Use.toExpr).mentions = s.uses := by
  refine read_toExpr mentioned_plain rfl (meets_mono ?_ h)
  exact ⟨fun _ he => he, fun u _ => mentions_use u, fun _ _ hf => hf⟩

end Sketch

end Typeforge.Validator
