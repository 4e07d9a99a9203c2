import Typeforge.Proofs.Code.Patterns
import Typeforge.Proofs.Code.TypeGrammar

/-!
# The trees of expressions, and what is read instead

The text of an expression is not always read as the expression. A function takes all that follows its body; a point
behind a whole number belongs to the number; a brace behind an arrow begins a block; and a sign is no part of a number.

* `Expr.tree`: the tree of an expression;
* `Expr.reading`: the tree that its text is read as, with what follows it;
* `Expr.reading_eq_tree_iff`: the two agree just if the expression is `kept`.
-/

namespace Typeforge.Code

/-! ### The rules -/

structure ParamTree where
  name : String
  type : Option TypeTree
  optional : Bool

inductive ExprTree where
  | ident (name : String)
  | literal (l : LiteralTree)
  | call (callee : ExprTree) (args : List ExprTree)
  | arrow (params : List ParamTree) (body : ExprTree)
  | object (properties : List (Key × ExprTree))
  | member (receiver : ExprTree) (property : String)
  | array (items : List ExprTree)
  /-- The text between the slashes. -/
  | regex (body : String)

/-- What goes on with an expression. -/
inductive Suffix (ε : Type) where
  | member (property : String)
  | call (args : List ε)

def Suffix.on (e : ExprTree) : Suffix ExprTree → ExprTree
  | .member property => .member e property
  | .call args => .call e args

/-- The expression with all that goes on with it. -/
def ExprTree.attach (e : ExprTree) (ss : List (Suffix ExprTree)) : ExprTree := ss.foldl Suffix.on e

def Param.tree (p : Param) : ParamTree := ⟨p.name, p.type.map (Ty.tree nullTree), p.optional⟩

mutual

def Expr.tree : Expr → ExprTree
  | .ident name => .ident name
  | .literal l => .literal l.tree
  | .call callee args => .call callee.tree (exprTrees args)
  | .arrow params body => .arrow (params.map Param.tree) body.tree
  | .object properties => .object (propertyTrees properties)
  | .member receiver property => .member receiver.tree property
  | .array items => .array (exprTrees items)
  | .regex pattern => .regex (escapeRegex pattern)

def exprTrees : List Expr → List ExprTree
  | [] => []
  | e :: es => e.tree :: exprTrees es

def propertyTrees : List (Key × Expr) → List (Key × ExprTree)
  | [] => []
  | (k, e) :: ps => (k, e.tree) :: propertyTrees ps

end

def Literal.isSigned (l : Literal) : Bool := l.numeral?.any fun number => number.1

def Literal.isWhole (l : Literal) : Bool := l.numeral?.any fun number => !number.2.contains '.'

def Expr.isWhole : Expr → Bool
  | .literal l => l.isWhole
  | _ => false

def Expr.isArrow : Expr → Bool
  | .arrow _ _ => true
  | _ => false

def Expr.opensObject : Expr → Bool
  | .object _ => true
  | .member receiver _ => receiver.opensObject
  | .call callee _ => callee.opensObject
  | .ident _ | .literal _ | .arrow _ _ | .array _ | .regex _ => false

def Suffix.isMember {ε : Type} : Suffix ε → Bool
  | .member _ => true
  | .call _ => false

mutual

/-- What the text of an expression is read as, where the text of the suffixes follows. -/
def Expr.reading : Expr → List (Suffix ExprTree) → Option ExprTree
  | .ident name, ss => some ((ExprTree.ident name).attach ss)
  | .literal l, ss =>
    if l.isSigned || (l.isWhole && ss.head?.any Suffix.isMember) then none
    else some ((ExprTree.literal l.tree).attach ss)
  | .call callee args, ss => (readings args).bind fun args => callee.reading (.call args :: ss)
  | .arrow params body, ss =>
    if body.isObject then (body.reading []).map fun body => .arrow (params.map Param.tree) (body.attach ss)
    else if body.opensObject then none
    else (body.reading ss).map (.arrow (params.map Param.tree))
  | .object properties, ss => (propertyReadings properties).map fun properties => (ExprTree.object properties).attach ss
  | .member receiver property, ss => receiver.reading (.member property :: ss)
  | .array items, ss => (readings items).map fun items => (ExprTree.array items).attach ss
  | .regex pattern, ss => some ((ExprTree.regex (escapeRegex pattern)).attach ss)

def readings : List Expr → Option (List ExprTree)
  | [] => some []
  | e :: es => (e.reading []).bind fun t => (readings es).map (t :: ·)

def propertyReadings : List (Key × Expr) → Option (List (Key × ExprTree))
  | [] => some []
  | (k, e) :: ps => (e.reading []).bind fun t => (propertyReadings ps).map ((k, t) :: ·)

end

mutual

/-- Whether the text says what the expression is: no function is called or has a member taken, and no whole number
has; no number has a sign; and the body of a function does not begin with an object, unless it is one. -/
def Expr.kept : Expr → Bool
  | .ident _ | .regex _ => true
  | .literal l => !l.isSigned
  | .call callee args => callee.kept && !callee.isArrow && keptAll args
  | .arrow _ body => body.kept && (body.isObject || !body.opensObject)
  | .object properties => keptProperties properties
  | .member receiver _ => receiver.kept && !receiver.isArrow && !receiver.isWhole
  | .array items => keptAll items

def keptAll : List Expr → Bool
  | [] => true
  | e :: es => e.kept && keptAll es

def keptProperties : List (Key × Expr) → Bool
  | [] => true
  | (_, e) :: ps => e.kept && keptProperties ps

end

/-- Whether the expression stays together where the suffixes follow it. -/
def Expr.bears {ε : Type} (e : Expr) (ss : List (Suffix ε)) : Bool :=
  (ss.isEmpty || !e.isArrow) && !(e.isWhole && ss.head?.any Suffix.isMember)

def Expr.children : Expr → List Expr
  | .ident _ | .literal _ | .regex _ => []
  | .call callee args => callee :: args
  | .arrow _ body => [body]
  | .object properties => properties.map Prod.snd
  | .member receiver _ => [receiver]
  | .array items => items

/-! ### Lists of expressions -/

section Lists

variable {e u : Expr}

theorem exprTrees_eq (es : List Expr) : exprTrees es = es.map Expr.tree := by
  induction es with
  | nil => rfl
  | cons e es ih => simp [exprTrees, ih]

theorem propertyTrees_eq (ps : List (Key × Expr)) : propertyTrees ps = ps.map fun p => (p.1, p.2.tree) := by
  induction ps with
  | nil => rfl
  | cons p ps ih => simp [propertyTrees, ih]

theorem readings_eq (es : List Expr) : readings es = es.mapM fun e => e.reading [] := by
  induction es with
  | nil => rfl
  | cons e es ih =>
    rw [readings, ih, List.mapM_cons]
    cases e.reading [] with
    | none => rfl
    | some t => cases es.mapM fun e => e.reading [] <;> rfl

theorem propertyReadings_eq (ps : List (Key × Expr)) :
    propertyReadings ps = ps.mapM fun p => (p.2.reading []).map fun t => (p.1, t) := by
  induction ps with
  | nil => rfl
  | cons p ps ih =>
    rw [propertyReadings, ih, List.mapM_cons]
    cases p.2.reading [] with
    | none => rfl
    | some t => cases ps.mapM fun p => (p.2.reading []).map fun t => (p.1, t) <;> rfl

theorem keptAll_iff {es : List Expr} : keptAll es = true ↔ ∀ e ∈ es, e.kept = true := by
  induction es with
  | nil => simp [keptAll]
  | cons e es ih => simp [keptAll, ih]

theorem keptProperties_iff {ps : List (Key × Expr)} : keptProperties ps = true ↔ ∀ p ∈ ps, p.2.kept = true := by
  induction ps with
  | nil => simp [keptProperties]
  | cons p ps ih => simp [keptProperties, ih]

theorem Expr.sizeOf_lt_of_mem_children (h : u ∈ e.children) : sizeOf u < sizeOf e := by
  cases e with
  | ident _ | literal _ | regex _ => simp [children] at h
  | call callee args =>
    simp only [call.sizeOf_spec]
    rcases List.mem_cons.1 h with rfl | h
    · omega
    · have hlt := List.sizeOf_lt_of_mem h
      omega
  | arrow params body =>
    obtain rfl : u = body := by simpa [children] using h
    simp only [arrow.sizeOf_spec]
    omega
  | object ps =>
    obtain ⟨p, hp, rfl⟩ := List.mem_map.1 h
    have hlt := List.sizeOf_lt_of_mem hp
    have hvalue : sizeOf p.2 < sizeOf p := by
      cases p
      simp only [Prod.mk.sizeOf_spec]
      omega
    simp only [object.sizeOf_spec]
    omega
  | member receiver property =>
    obtain rfl : u = receiver := by simpa [children] using h
    simp only [member.sizeOf_spec]
    omega
  | array items =>
    have hlt := List.sizeOf_lt_of_mem (show u ∈ items from h)
    simp only [array.sizeOf_spec]
    omega

theorem Expr.children_induction {P : Expr → Prop} (h : ∀ e : Expr, (∀ u ∈ e.children, P u) → P e) (e : Expr) : P e :=
  h e fun u _ => children_induction h u
termination_by sizeOf e
decreasing_by exact sizeOf_lt_of_mem_children ‹_›

theorem mapM_eq_some_map {β γ : Type} {f : β → Option γ} {g : β → γ} {items : List β} :
    items.mapM f = some (items.map g) ↔ ∀ b ∈ items, f b = some (g b) := by
  induction items with
  | nil => simp
  | cons b items ih =>
    rw [List.mapM_cons, List.forall_mem_cons, ← ih]
    cases hb : f b with
    | none => simp
    | some c => cases hitems : items.mapM f <;> simp

end Lists

/-! ### Suffixes -/

section Suffixes

variable {e e' : ExprTree} {s s' : Suffix ExprTree} {ss ss' : List (Suffix ExprTree)}

theorem Suffix.on_inj (h : s.on e = s'.on e') : e = e' ∧ s = s' := by
  cases s <;> cases s' <;> cases h <;> exact ⟨rfl, rfl⟩

theorem ExprTree.attach_inj (hlength : ss.length = ss'.length) : e.attach ss = e'.attach ss' ↔ e = e' ∧ ss = ss' := by
  refine ⟨fun h => ?_, fun h => by rw [h.1, h.2]⟩
  induction ss generalizing e e' ss' with
  | nil =>
    obtain rfl : ss' = [] := List.length_eq_zero_iff.1 hlength.symm
    exact ⟨h, rfl⟩
  | cons s ss ih =>
    cases ss' with
    | nil => cases hlength
    | cons s' ss' =>
      obtain ⟨hon, rfl⟩ := ih (Nat.succ.inj hlength) h
      obtain ⟨rfl, rfl⟩ := Suffix.on_inj hon
      exact ⟨rfl, rfl⟩

theorem ExprTree.attach_ne_arrow (hne : ss ≠ []) (params : List ParamTree) (body : ExprTree) :
    e.attach ss ≠ .arrow params body := by
  induction ss generalizing e with
  | nil => exact absurd rfl hne
  | cons s ss ih =>
    cases ss with
    | nil => cases s <;> exact fun h => nomatch h
    | cons s' ss => exact ih (List.cons_ne_nil _ _)

end Suffixes

/-! ### When the text says what the expression is -/

theorem Expr.reading_arrow {params : List Param} {body : Expr} {ss : List (Suffix ExprTree)} {t : ExprTree}
    (h : (Expr.arrow params body).reading ss = some t) : ∃ body', t = .arrow (params.map Param.tree) body' := by
  rw [reading] at h
  split at h
  · obtain ⟨body', -, rfl⟩ := Option.map_eq_some_iff.1 h
    exact ⟨_, rfl⟩
  · split at h
    · cases h
    · obtain ⟨body', -, rfl⟩ := Option.map_eq_some_iff.1 h
      exact ⟨_, rfl⟩

/-- What is read of an expression with suffixes is the expression with suffixes of that number, just if these are the
suffixes, and the expression is kept and stays together before them. -/
theorem Expr.reading_eq_attach_iff {e : Expr} {ss ss' : List (Suffix ExprTree)} (hlength : ss.length = ss'.length) :
    e.reading ss = some (e.tree.attach ss') ↔ ss = ss' ∧ e.kept = true ∧ e.bears ss = true := by
  induction e using children_induction generalizing ss ss' with
  | h e ih =>
    have htree {u : Expr} (hu : u ∈ e.children) : u.reading [] = some u.tree ↔ u.kept = true := by
      have hread : u.reading [] = some (u.tree.attach []) ↔ _ := ih u hu rfl
      simpa [bears, ExprTree.attach] using hread
    cases e with
    | ident name => simp [reading, tree, kept, bears, isArrow, isWhole, ExprTree.attach_inj hlength]
    | regex pattern => simp [reading, tree, kept, bears, isArrow, isWhole, ExprTree.attach_inj hlength]
    | literal l =>
      cases hsigned : l.isSigned <;> cases hpoint : l.isWhole && ss.head?.any Suffix.isMember <;>
        simp [reading, tree, kept, bears, isArrow, isWhole, ExprTree.attach_inj hlength, hsigned, hpoint]
    | member receiver property =>
      have hmore : (Suffix.member property :: ss).length = (Suffix.member property :: ss').length := by
        simpa using hlength
      have hreceiver := ih receiver (by simp [children]) hmore
      have hattach : (tree (.member receiver property)).attach ss' =
          receiver.tree.attach (.member property :: ss') := rfl
      rw [reading, hattach, hreceiver]
      simp [kept, bears, isArrow, isWhole, Suffix.isMember, and_assoc]
    | call callee args =>
      have hargs : readings args = some (exprTrees args) ↔ keptAll args = true := by
        rw [readings_eq, exprTrees_eq, mapM_eq_some_map, keptAll_iff]
        exact forall₂_congr fun u hu => htree (by simp [children, hu])
      have hattach : (tree (.call callee args)).attach ss' = callee.tree.attach (.call (exprTrees args) :: ss') := rfl
      rw [reading, hattach]
      cases hread : readings args with
      | none =>
        have hnot : keptAll args = false := by
          rw [← Bool.not_eq_true, ← hargs, hread]
          exact nofun
        simp [kept, hnot]
      | some trees =>
        have hmore : (Suffix.call trees :: ss).length = (Suffix.call (exprTrees args) :: ss').length := by
          simpa using hlength
        have hcallee := ih callee (by simp [children]) hmore
        rw [hread, Option.some.injEq] at hargs
        rw [Option.bind_some, hcallee, List.cons.injEq, Suffix.call.injEq, hargs]
        simp [kept, bears, isArrow, isWhole, Suffix.isMember, and_assoc, and_comm]
    | arrow params body =>
      have hbody : body.reading [] = some body.tree ↔ body.kept = true := htree (by simp [children])
      cases ss' with
      | nil =>
        obtain rfl : ss = [] := List.length_eq_zero_iff.1 hlength
        cases hobject : body.isObject <;> cases hopens : body.opensObject <;>
          simp [reading, tree, kept, bears, isWhole, ExprTree.attach, hobject, hopens, hbody]
      | cons s' ss' =>
        -- no function is what something goes on with, and no function bears that anything does
        have hne : ss ≠ [] := by
          rintro rfl
          cases hlength
        have hnot : bears (.arrow params body) ss = false := by simp [bears, isArrow, hne]
        have hread : (Expr.arrow params body).reading ss ≠
            some ((tree (.arrow params body)).attach (s' :: ss')) := by
          intro h
          obtain ⟨body', hattach⟩ := reading_arrow h
          exact ExprTree.attach_ne_arrow (List.cons_ne_nil _ _) _ _ hattach
        simp [hread, hnot]
    | array items =>
      have hitems : readings items = some (exprTrees items) ↔ keptAll items = true := by
        rw [readings_eq, exprTrees_eq, mapM_eq_some_map, keptAll_iff]
        exact forall₂_congr fun u hu => htree hu
      rw [reading, tree]
      cases hread : readings items with
      | none =>
        have hnot : keptAll items = false := by
          rw [← Bool.not_eq_true, ← hitems, hread]
          exact nofun
        simp [kept, hnot]
      | some trees =>
        rw [hread, Option.some.injEq] at hitems
        simp [kept, bears, isArrow, isWhole, ExprTree.attach_inj hlength, hitems, and_comm]
    | object properties =>
      have hproperties : propertyReadings properties = some (propertyTrees properties) ↔
          keptProperties properties = true := by
        rw [propertyReadings_eq, propertyTrees_eq, mapM_eq_some_map, keptProperties_iff]
        refine forall₂_congr fun p hp => ?_
        rw [← htree (List.mem_map_of_mem hp)]
        simp [Option.map_eq_some_iff]
      rw [reading, tree]
      cases hread : propertyReadings properties with
      | none =>
        have hnot : keptProperties properties = false := by
          rw [← Bool.not_eq_true, ← hproperties, hread]
          exact nofun
        simp [kept, hnot]
      | some trees =>
        rw [hread, Option.some.injEq] at hproperties
        simp [kept, bears, isArrow, isWhole, ExprTree.attach_inj hlength, hproperties, and_comm]

/-- **The text says what the expression is just if the expression is kept.** -/
theorem Expr.reading_eq_tree_iff (e : Expr) : e.reading [] = some e.tree ↔ e.kept = true := by
  have hread : e.reading [] = some (e.tree.attach []) ↔ _ := reading_eq_attach_iff rfl
  simpa [bears, ExprTree.attach] using hread

end Typeforge.Code
