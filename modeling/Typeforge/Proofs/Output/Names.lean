import Typeforge.Output.File
import Typeforge.Proofs.Code.Identifier
import Typeforge.Proofs.Naming.Table

/-!
# Asking a file for names

A file is asked for the names of references one after the other, in any styles, sometimes only to look (`Query`).
`ask_named` and `ask_unnamed` say what one of these questions comes to. What a whole run of them keeps (`Ledger`) is
that no two references share a name and that every name is legal; what it gives out (`Consistent`) is the same name
for a reference every time, which was new only once and then the base in the style, or the base with the least
number that was free.
-/

namespace Typeforge

open Naming Code

/-! ### A new name -/

/-- The name that is made where `used` are the names in use: the base if that is free, or else the base with the
least number from 2 on that makes it free. -/
inductive Minted (used : List String) (base : String) : String → Prop
  | base (free : base ∉ used) : Minted used base base
  | numbered {k : Nat} (taken : base ∈ used) (two : 2 ≤ k) (free : Table.numbered base k ∉ used)
    (least : ∀ j, 2 ≤ j → j < k → Table.numbered base j ∈ used) : Minted used base (Table.numbered base k)

section Minted

/-- The search goes through numbers that are in use. -/
theorem firstFree_least (used : List String) (base : String) (tries k : Nat) :
    k ≤ Table.firstFree used base tries k ∧
      ∀ j, k ≤ j → j < Table.firstFree used base tries k → Table.numbered base j ∈ used := by
  induction tries generalizing k with
  | zero => exact ⟨Nat.le_refl k, fun j hk hj => absurd hj (Nat.not_lt.2 hk)⟩
  | succ tries ih =>
    simp only [Table.firstFree]
    split
    · rename_i hk
      obtain ⟨hle, hused⟩ := ih (k + 1)
      refine ⟨Nat.le_of_succ_le hle, fun j hkj hj => ?_⟩
      rcases Nat.eq_or_lt_of_le hkj with rfl | hlt
      · simpa using hk
      · exact hused j hlt hj
    · exact ⟨Nat.le_refl k, fun j hk hj => absurd hj (Nat.not_lt.2 hk)⟩

/-- **The search for a free name ends at the first one there is.** -/
theorem minted_fresh (used : List String) (base : String) : Minted used base (Table.fresh used base) := by
  have hfree := Table.fresh_not_mem used base
  unfold Table.fresh at hfree ⊢
  split at hfree
  · rename_i htaken
    obtain ⟨two, least⟩ := firstFree_least used base used.length 2
    rw [if_pos htaken]
    exact .numbered (by simpa using htaken) two hfree least
  · rename_i hnot
    rw [if_neg hnot]
    exact .base hfree

variable {used : List String} {base : String}

/-- A number after a legal name leaves it legal, since no reserved word ends in a digit. -/
theorem legal_numbered (h : Identifier.Legal base) (k : Nat) : Identifier.Legal (Table.numbered base k) := by
  constructor
  · obtain ⟨c, cs, hbase, hc, hcs⟩ := Identifier.isName_iff.1 h.name
    refine Identifier.isName_iff.2 ⟨c, cs ++ Nat.toDigits 10 k, by simp [Table.numbered, hbase], hc, fun d hd => ?_⟩
    rcases List.mem_append.1 hd with hd | hd
    · exact hcs d hd
    · exact Identifier.isPart_of_isDigit (Nat.isDigit_of_mem_toDigits (by decide) (by decide) hd)
  · have words : ∀ w ∈ Identifier.reservedWords, ¬ Table.EndsInDigit w := by decide
    by_contra hreserved
    have hmem : Table.numbered base k ∈ Identifier.reservedWords := by simpa [Identifier.isReserved] using hreserved
    exact words _ hmem (Table.endsInDigit_numbered k)

theorem Minted.legal {name : String} (h : Minted used base name) (hbase : Identifier.Legal base) :
    Identifier.Legal name := by
  cases h with
  | base => exact hbase
  | numbered => exact legal_numbered hbase _

end Minted

/-! ### One question -/

/-- A question for the name of a reference, which `create` allows to make. -/
structure Query where
  reference : String
  style : Style
  create : Bool

/-- The name that the question proposes. -/
def Query.base (q : Query) : String := q.style.render (Schema.Pointer.baseName q.reference)

namespace File

/-- What the file answers, and the file when it has answered. -/
def ask (f : File) (q : Query) : Option Assigned × File := f.request q.reference q.style q.create

def answer (f : File) (q : Query) : Option Assigned := (f.ask q).1

def answered (f : File) (q : Query) : File := (f.ask q).2

/-- The file when it has answered one question after the other. -/
def answeredAll (f : File) (qs : List Query) : File := qs.foldl answered f

section Question

variable {f : File} {q : Query} {r name : String}

/-- The file with one more name, which the question makes. -/
def naming (f : File) (q : Query) : File :=
  { f with names := f.names ++ [(q.reference, f.names.nextName q.reference q.style)] }

theorem ask_named (h : f.nameOf? q.reference = some name) : f.ask q = (some ⟨name, false⟩, f) := by
  have h' : f.names.nameOf? q.reference = some name := h
  simp [ask, request, Table.request, h', Table.assign_named h']

theorem ask_unnamed (h : f.nameOf? q.reference = none) : f.ask q =
    if q.create then (some ⟨f.names.nextName q.reference q.style, true⟩, f.naming q) else (none, f) := by
  have h' : f.names.nameOf? q.reference = none := h
  cases hcreate : q.create <;> simp [ask, request, Table.request, h', Table.assign_unnamed h', hcreate, naming]

theorem nameOf?_naming (h : f.nameOf? q.reference = none) :
    (f.naming q).nameOf? q.reference = some (f.names.nextName q.reference q.style) := by
  rw [nameOf?, naming, Table.nameOf?_append, show f.names.nameOf? q.reference = none from h]
  simp [Table.nameOf?, Keyed.get?]

theorem answer_of_named (h : f.nameOf? q.reference = some name) : f.answer q = some ⟨name, false⟩ := by
  rw [answer, ask_named h]

theorem answered_of_look (hlook : q.create = false) : f.answered q = f := by
  cases h : f.nameOf? q.reference with
  | some name => rw [answered, ask_named h]
  | none => simp [answered, ask_unnamed h, hlook]

theorem answered_eq_or (f : File) (q : Query) :
    f.answered q = f ∨ f.nameOf? q.reference = none ∧ f.answered q = f.naming q := by
  cases h : f.nameOf? q.reference with
  | some name => exact .inl (by rw [answered, ask_named h])
  | none =>
    cases hcreate : q.create with
    | false => exact .inl (answered_of_look hcreate)
    | true => exact .inr ⟨rfl, by simp [answered, ask_unnamed h, hcreate]⟩

theorem answer_created_iff : f.answer q = some ⟨name, true⟩ ↔
    f.nameOf? q.reference = none ∧ (f.answered q).nameOf? q.reference = some name := by
  cases h : f.nameOf? q.reference with
  | some name' => simp [answer_of_named h]
  | none =>
    cases hcreate : q.create with
    | false => simp [answer, answered, ask_unnamed h, hcreate, h]
    | true => simp [answer, answered, ask_unnamed h, hcreate, nameOf?_naming h]

theorem answer_eq_none_iff : f.answer q = none ↔ f.nameOf? q.reference = none ∧ q.create = false := by
  cases h : f.nameOf? q.reference with
  | some name => simp [answer_of_named h]
  | none => cases hcreate : q.create <;> simp [answer, ask_unnamed h, hcreate]

theorem minted_of_created (h : f.answer q = some ⟨name, true⟩) : Minted f.names.taken q.base name := by
  cases hr : f.nameOf? q.reference with
  | some name' =>
    rw [answer_of_named hr] at h
    cases h
  | none =>
    rw [answer, ask_unnamed hr] at h
    split at h
    · cases h
      exact minted_fresh _ _
    · cases h

end Question

/-! ### A run of questions -/

/-- No two references share a name, and every name is legal. -/
structure Ledger (f : File) : Prop where
  distinct : f.names.Distinct
  legal : ∀ r name, (r, name) ∈ f.names → Identifier.Legal name

section Run

variable {f : File} {q : Query} {qs : List Query}

theorem Ledger.answered (h : f.Ledger) (q : Query) : (f.answered q).Ledger := by
  rcases answered_eq_or f q with heq | ⟨hr, heq⟩
  · exact heq.symm ▸ h
  · rw [heq]
    refine ⟨h.distinct.append_next hr, fun r name hmem => ?_⟩
    rcases List.mem_append.1 hmem with hmem | hmem
    · exact h.legal r name hmem
    · cases List.mem_singleton.1 hmem
      exact (minted_fresh _ q.base).legal (Identifier.legal_legalize _)

theorem answeredAll_append (f : File) (qs qs' : List Query) :
    f.answeredAll (qs ++ qs') = (f.answeredAll qs).answeredAll qs' := List.foldl_append

theorem Ledger.answeredAll (h : f.Ledger) (qs : List Query) : (f.answeredAll qs).Ledger := by
  induction qs generalizing f with
  | nil => exact h
  | cons q qs ih => exact ih (h.answered q)

theorem nameOf?_answered {r name : String} (h : f.nameOf? r = some name) (q : Query) :
    (f.answered q).nameOf? r = some name := by
  rcases answered_eq_or f q with heq | ⟨-, heq⟩
  · exact heq.symm ▸ h
  · rw [heq]
    exact Keyed.get?_append_of_some h

theorem nameOf?_answeredAll {r name : String} (h : f.nameOf? r = some name) (qs : List Query) :
    (f.answeredAll qs).nameOf? r = some name := by
  induction qs generalizing f with
  | nil => exact h
  | cons q qs ih => exact ih (nameOf?_answered h q)

end Run

/-- The file `f` when it has answered the first `i` questions of the run. -/
def upTo (f : File) (qs : List Query) (i : Nat) : File := f.answeredAll (qs.take i)

section UpTo

variable {f : File} {q : Query} {qs : List Query} {i j : Nat}

theorem upTo_succ (hq : qs[i]? = some q) : f.upTo qs (i + 1) = (f.upTo qs i).answered q := by
  rw [upTo, List.take_add_one, hq, answeredAll_append]
  rfl

theorem nameOf?_upTo {r name : String} (hij : i ≤ j) (h : (f.upTo qs i).nameOf? r = some name) :
    (f.upTo qs j).nameOf? r = some name := by
  have hsplit : qs.take j = qs.take i ++ (qs.take j).drop i := by
    rw [← Nat.min_eq_left hij, ← List.take_take, Nat.min_eq_left hij, List.take_append_drop]
  rw [upTo, hsplit, answeredAll_append]
  exact nameOf?_answeredAll h _

end UpTo

/-- What the file `f` answers to a run of questions, the `i`-th of which finds the file `f.upTo qs i`. -/
structure Consistent (f : File) (qs : List Query) : Prop where
  /-- No two references share a name. -/
  injective : ∀ r r' name, (r, name) ∈ (f.answeredAll qs).names → (r', name) ∈ (f.answeredAll qs).names → r = r'
  /-- Every name has the form of a name and is not reserved. -/
  legal : ∀ r name, (r, name) ∈ (f.answeredAll qs).names → Identifier.Legal name
  /-- A reference that has a name gets this name from every later question, whatever else is asked for. -/
  stays : ∀ i r name, (f.upTo qs i).nameOf? r = some name → ∀ j q, i ≤ j → qs[j]? = some q → q.reference = r →
    (f.upTo qs j).answer q = some ⟨name, false⟩
  /-- A name is said to be new by the question that adds it. -/
  created_iff : ∀ i q, qs[i]? = some q → ∀ name, (f.upTo qs i).answer q = some ⟨name, true⟩ ↔
    (f.upTo qs i).nameOf? q.reference = none ∧ (f.upTo qs (i + 1)).nameOf? q.reference = some name
  /-- That is so only once for each reference. -/
  once : ∀ i j q q' name name', qs[i]? = some q → qs[j]? = some q' → q.reference = q'.reference →
    (f.upTo qs i).answer q = some ⟨name, true⟩ → (f.upTo qs j).answer q' = some ⟨name', true⟩ → i = j
  /-- A question that only looks leaves the names as they are. -/
  looks : ∀ i q, qs[i]? = some q → q.create = false → (f.upTo qs (i + 1)).names = (f.upTo qs i).names
  /-- There is no answer only where one looks for the name of a reference that has none. -/
  refused_iff : ∀ i q, qs[i]? = some q → ((f.upTo qs i).answer q = none ↔
    (f.upTo qs i).nameOf? q.reference = none ∧ q.create = false)
  /-- A new name is the base, or the base with the least number that makes it free. -/
  minted : ∀ i q name, qs[i]? = some q → (f.upTo qs i).answer q = some ⟨name, true⟩ →
    Minted (f.upTo qs i).names.taken q.base name

/-- **A new file answers consistently**, whatever it is asked. -/
theorem consistent_answers (id : String) (qs : List Query) : Consistent { id } qs := by
  have start : Ledger { id } := ⟨Table.Distinct.nil, by simp⟩
  have ledger := start.answeredAll qs
  -- a reference whose name was new is answered differently from then on
  have later (i j : Nat) (q q' : Query) (name name' : String) (hq : qs[i]? = some q)
      (hr : q.reference = q'.reference) (hlt : i < j) (h : (upTo { id } qs i).answer q = some ⟨name, true⟩)
      (h' : (upTo { id } qs j).answer q' = some ⟨name', true⟩) : False := by
    rw [answer_created_iff, ← upTo_succ hq, hr] at h
    rw [answer_of_named (nameOf?_upTo hlt h.2)] at h'
    cases h'
  refine ⟨?_, ledger.legal, ?_, ?_, ?_, ?_, ?_, ?_⟩
  · exact fun r r' name hr hr' => ledger.distinct.reference_eq hr hr'
  · rintro i r name h j q hij hq rfl
    exact answer_of_named (nameOf?_upTo hij h)
  · intro i q hq name
    rw [upTo_succ hq]
    exact answer_created_iff
  · intro i j q q' name name' hq hq' hr h h'
    rcases Nat.lt_trichotomy i j with hlt | heq | hlt
    · exact (later i j q q' name name' hq hr hlt h h').elim
    · exact heq
    · exact (later j i q' q name' name hq' hr.symm hlt h' h).elim
  · intro i q hq hlook
    rw [upTo_succ hq, answered_of_look hlook]
  · exact fun i q _ => answer_eq_none_iff
  · exact fun i q name _ h => minted_of_created h

end File

end Typeforge
