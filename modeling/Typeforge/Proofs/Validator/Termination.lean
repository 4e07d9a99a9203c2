import Typeforge.Proofs.Schema.Decoding
import Typeforge.Proofs.Schema.Rounds
import Typeforge.Proofs.Validator.Budget

/-!
# Declaring an event ends

However the references of a document lead around in circles, declaring an event ends and adds no more
declarations than the references account for (`decoded_terminates`). Three recursions are involved: following
a reference, which the number of references without a name bounds; going through a node, which is on its
size; and the rounds that collapse a composition, whose nodes become smaller until one stays the same.
-/

namespace Typeforge.Validator

open Schema Json

/-- Nothing that is done to declare an event of the document goes on for ever. -/
structure Terminates (options : Options) (d : Document) : Prop where
  /-- The budget of following reaches, whatever would be done beyond it. -/
  budget : ∀ gone k, followBudget d ≤ k →
    followOr ⟨d, options⟩ gone k = follow ⟨d, options⟩ (followBudget d)
  /-- With it, following a reference is one step and following from there, as without a budget. -/
  unfolds : followStep ⟨d, options⟩ (follow ⟨d, options⟩ (followBudget d)) = follow ⟨d, options⟩ (followBudget d)
  /-- The rounds that collapse a composition end within as many tries as it has nodes. -/
  rounds : ∀ n ∈ d.nodes, ∀ m, n.Holds m → m.isComposition = true →
    m.deduplicate.roundsFrom m.size = some m.collapse
  /-- An event adds one declaration at most for each reference of the document that had no name, and one for
  its own, or two for an operation. -/
  growth : ∀ e ∈ d.events, ∀ s r t, Ends (declareEvent ⟨d, options⟩ e) s r t →
    ∃ ns ds, Growth (Reachable d e) s t ns ds ∧
      ds.length ≤ (d.references.toFinset.filter fun r => s.names.nameOf? r = none).card
        + if e.kind = .operation then 2 else 1

theorem length_ownReferences (e : Event) : (ownReferences e).length = if e.kind = .operation then 2 else 1 := by
  cases e <;> rfl

/-- **Declaring the events of a decoded document ends**, in any session and whatever its references lead to. -/
theorem decoded_terminates {levels : Nat} {raw : Raw} {d : Document} (h : Document.decode levels raw = some d)
    (options : Options) : Terminates options d where
  budget _ _ hk := followOr_eq_follow _ hk
  unfolds := followStep_follow
  rounds n hn m hm hc :=
    Node.roundsFrom_deduplicate ((Document.decode_wellKeyed _ _ _ h n hn).of_holds fun k hk => hm.trans hk) hc
  growth e he s r t hends := by
    have keeps : Keeps (Grows (Reachable d e)) (declareEvent ⟨d, options⟩ e) := keeps_declareEvent he
    obtain ⟨ns, ds, hgrowth⟩ := keeps s r t hends
    exact ⟨ns, ds, hgrowth, length_ownReferences e ▸ hgrowth.length_le⟩

/-- A pet is what its owner is, whichever of two equal items one takes, and an owner has pets. -/
def petsAndOwners : Raw :=
  .object [("components", .object [("schemas", .object [
    ("Pet", .object [("items", .array [
      .object [("$ref", .string "#/components/schemas/Owner")],
      .object [("$ref", .string "#/components/schemas/Owner")]])]),
    ("Owner", .object [
      ("type", .string "array"),
      ("items", .array [.object [("$ref", .string "#/components/schemas/Pet")]])])])])]

/-- A circle of references through a composition that collapses. -/
theorem petsAndOwners_terminates : ∃ d, Document.decode 8 petsAndOwners = some d ∧ Terminates {} d := by
  obtain ⟨d, h⟩ : ∃ d, Document.decode 8 petsAndOwners = some d := ⟨_, rfl⟩
  exact ⟨d, h, decoded_terminates h {}⟩

end Typeforge.Validator
