import Typeforge.Schema.Request
import Typeforge.Validator.Session

/-!
# Requests and responses

An operation is declared by a validator of its request and one of the response to it.
-/

namespace Typeforge.Validator

open Schema

/-- Declares the request of an operation and the response to it, as far as their families are enabled. -/
def declareOperation (task : Task) (o : Operation) : Compile Unit := do
  let options := task.options
  let declareIn (family : Typeforge.Options.Family) (reference : String) (n : Node) : Compile Unit :=
    if family.enabled then
      apart options.definitions.toStyle (declare task reference n family.toStyle)
    else pure ()
  declareIn options.requests o.requestReference o.requestNode
  match o.response with
  | some n => declareIn options.responses o.responseReference n
  | none => pure ()

end Typeforge.Validator
