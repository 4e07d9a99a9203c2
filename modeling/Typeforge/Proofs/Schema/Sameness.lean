import Typeforge.Proofs.Keyed
import Typeforge.Proofs.Schema.Parts
import Typeforge.Schema.Sameness

/-!
# What is the same as itself

Sameness looks up the fields of one object in the other, so it is reflexive (`Node.same_refl`) and goes both ways
(`Node.same_symm`) only where no key stands for two values. `WellKeyed` says this of a JSON value and of a node,
with all that lies in them. That it goes on from one to the next (`Node.same_trans`) needs no such condition.
-/

namespace Typeforge

theorem Binary64.sameValue_symm {x y : Binary64} (h : x.sameValue y = true) : y.sameValue x = true := by
  simp only [Binary64.sameValue, Bool.or_eq_true, Bool.and_eq_true, decide_eq_true_eq] at h ⊢
  exact h.imp And.symm Eq.symm

theorem Binary64.sameValue_trans {x y z : Binary64} (h : x.sameValue y = true) (h' : y.sameValue z = true) :
    x.sameValue z = true := by
  simp only [Binary64.sameValue, Bool.or_eq_true, Bool.and_eq_true, decide_eq_true_eq] at h h' ⊢
  rcases h with ⟨hx, hy⟩ | rfl
  · rcases h' with ⟨-, hz⟩ | rfl
    · exact .inl ⟨hx, hz⟩
    · exact .inl ⟨hx, hy⟩
  · exact h'

end Typeforge

namespace Typeforge.Json

mutual

/-- No object in the value has two fields with one key. -/
def Value.WellKeyed : Value → Prop
  | .array items => ItemsWellKeyed items
  | .object fields => (Keyed.keys fields).Nodup ∧ FieldsWellKeyed fields
  | .null | .bool _ | .number _ | .string _ => True

def ItemsWellKeyed : List Value → Prop
  | [] => True
  | v :: vs => v.WellKeyed ∧ ItemsWellKeyed vs

def FieldsWellKeyed : List (String × Value) → Prop
  | [] => True
  | (_, v) :: fs => v.WellKeyed ∧ FieldsWellKeyed fs

end

theorem fieldsWellKeyed_iff {fs : List (String × Value)} : FieldsWellKeyed fs ↔ ∀ f ∈ fs, f.2.WellKeyed := by
  induction fs with
  | nil => simp [FieldsWellKeyed]
  | cons f fs ih => simp [FieldsWellKeyed, ih]

theorem Number.same_refl (n : Number) : n.same n = true := by
  cases n with
  | whole n => simp [Number.same]
  | float x => simp [Number.same, Binary64.sameValue]

mutual

theorem Value.same_refl : ∀ v : Value, v.WellKeyed → v.same v = true
  | .null, _ => rfl
  | .bool b, _ => by simp [Value.same]
  | .number n, _ => n.same_refl
  | .string s, _ => by simp [Value.same]
  | .array items, h => sameItems_refl items h
  | .object fields, h => by
    simp only [Value.same, beq_self_eq_true, Bool.true_and]
    exact sameFields_refl fields fields (fun f hf => Keyed.get?_of_mem h.1 hf) h.2

theorem sameItems_refl : ∀ vs : List Value, ItemsWellKeyed vs → sameItems vs vs = true
  | [], _ => rfl
  | v :: vs, h => by
    simp only [sameItems, Bool.and_eq_true]
    exact ⟨Value.same_refl v h.1, sameItems_refl vs h.2⟩

theorem sameFields_refl : ∀ fs gs : List (String × Value), (∀ f ∈ fs, Keyed.get? gs f.1 = some f.2) →
    FieldsWellKeyed fs → sameFields fs gs = true
  | [], _, _, _ => rfl
  | (k, v) :: fs, gs, hfind, h => by
    simp only [sameFields, Bool.and_eq_true, hfind (k, v) List.mem_cons_self]
    exact ⟨Value.same_refl v h.1, sameFields_refl fs gs (fun f hf => hfind f (List.mem_cons_of_mem _ hf)) h.2⟩

end

theorem Number.same_symm {m n : Number} (h : m.same n = true) : n.same m = true := by
  cases m <;> cases n
  · simp only [Number.same, beq_iff_eq] at h ⊢
    exact h.symm
  · simp [Number.same] at h
  · simp [Number.same] at h
  · exact Binary64.sameValue_symm h

theorem sameFields_iff {fs gs : List (String × Value)} :
    sameFields fs gs = true ↔ ∀ f ∈ fs, ∃ w, Keyed.get? gs f.1 = some w ∧ f.2.same w = true := by
  induction fs with
  | nil => simp [sameFields]
  | cons f fs ih =>
    obtain ⟨k, v⟩ := f
    simp only [sameFields, Bool.and_eq_true, ih, List.forall_mem_cons]
    cases Keyed.get? gs k <;> simp

mutual

theorem Value.same_symm : ∀ v w : Value, v.WellKeyed → w.WellKeyed → v.same w = true → w.same v = true
  | .null, w, _, _ => by cases w <;> simp [Value.same]
  | .bool b, w, _, _ => by
    cases w with
    | bool c =>
      simp only [Value.same, beq_iff_eq]
      exact Eq.symm
    | null | number _ | string _ | array _ | object _ => simp [Value.same]
  | .number n, w, _, _ => by
    cases w with
    | number m => exact Number.same_symm
    | null | bool _ | string _ | array _ | object _ => simp [Value.same]
  | .string s, w, _, _ => by
    cases w with
    | string t =>
      simp only [Value.same, beq_iff_eq]
      exact Eq.symm
    | null | bool _ | number _ | array _ | object _ => simp [Value.same]
  | .array items, w, h, hw => by
    cases w with
    | array items' => exact sameItems_symm items items' h hw
    | null | bool _ | number _ | string _ | object _ => simp [Value.same]
  | .object fields, w, h, hw => by
    cases w with
    | object fields' =>
      intro hsame
      simp only [Value.same, Bool.and_eq_true, beq_iff_eq] at hsame ⊢
      have found := Keyed.found_symm (R := fun v w => w.same v = true) h.1 hw.1 hsame.1
        (sameFields_symm fields fields' h.2 (fieldsWellKeyed_iff.1 hw.2) hsame.2)
      exact ⟨hsame.1.symm, sameFields_iff.2 found⟩
    | null | bool _ | number _ | string _ | array _ => simp [Value.same]

theorem sameItems_symm : ∀ vs ws : List Value, ItemsWellKeyed vs → ItemsWellKeyed ws →
    sameItems vs ws = true → sameItems ws vs = true
  | [], ws, _, _ => by cases ws <;> simp [sameItems]
  | v :: vs, ws, h, hw => by
    cases ws with
    | nil => simp [sameItems]
    | cons w ws =>
      simp only [sameItems, Bool.and_eq_true]
      exact fun hsame => ⟨Value.same_symm v w h.1 hw.1 hsame.1, sameItems_symm vs ws h.2 hw.2 hsame.2⟩

theorem sameFields_symm : ∀ fs gs : List (String × Value), FieldsWellKeyed fs → (∀ g ∈ gs, g.2.WellKeyed) →
    sameFields fs gs = true → ∀ f ∈ fs, ∃ w, Keyed.get? gs f.1 = some w ∧ w.same f.2 = true
  | [], _, _, _ => by simp
  | (k, v) :: fs, gs, h, hg => by
    intro hsame
    obtain ⟨⟨w, hw, hv⟩, -⟩ := List.forall_mem_cons.1 (sameFields_iff.1 hsame)
    have head : w.same v = true := Value.same_symm v w h.1 (hg _ (Keyed.mem_of_get? hw)) hv
    simp only [sameFields, Bool.and_eq_true] at hsame
    exact List.forall_mem_cons.2 ⟨⟨w, hw, head⟩, sameFields_symm fs gs h.2 hg hsame.2⟩

end

theorem Number.same_trans {l m n : Number} (h : l.same m = true) (h' : m.same n = true) : l.same n = true := by
  cases l <;> cases m <;> cases n
  · simp only [Number.same, beq_iff_eq] at h h' ⊢
    exact h.trans h'
  · exact h'
  · cases h
  · cases h
  · cases h
  · cases h
  · cases h'
  · exact Binary64.sameValue_trans h h'

mutual

theorem Value.same_trans : ∀ u v w : Value, u.same v = true → v.same w = true → u.same w = true
  | .null, v, w, h, h' => by cases v <;> cases w <;> simp [Value.same] at h h' ⊢
  | .bool b, v, w, h, h' => by
    cases v <;> cases w <;> simp [Value.same] at h h' ⊢
    exact h.trans h'
  | .number n, v, w, h, h' => by
    cases v <;> cases w <;> simp only [Value.same, reduceCtorEq] at h h' ⊢
    exact Number.same_trans h h'
  | .string s, v, w, h, h' => by
    cases v <;> cases w <;> simp [Value.same] at h h' ⊢
    exact h.trans h'
  | .array items, v, w, h, h' => by
    cases v <;> cases w <;> simp only [Value.same, reduceCtorEq] at h h' ⊢
    exact sameItems_trans items _ _ h h'
  | .object fields, v, w, h, h' => by
    cases v <;> cases w <;> simp only [Value.same, reduceCtorEq, Bool.and_eq_true, beq_iff_eq] at h h' ⊢
    exact ⟨h.1.trans h'.1, sameFields_trans fields _ _ h.2 h'.2⟩

theorem sameItems_trans : ∀ us vs ws : List Value, sameItems us vs = true → sameItems vs ws = true →
    sameItems us ws = true
  | [], vs, ws, h, h' => by cases vs <;> cases ws <;> simp [sameItems] at h h' ⊢
  | u :: us, vs, ws, h, h' => by
    cases vs <;> cases ws <;> simp only [sameItems, reduceCtorEq, Bool.and_eq_true] at h h' ⊢
    exact ⟨Value.same_trans u _ _ h.1 h'.1, sameItems_trans us _ _ h.2 h'.2⟩

theorem sameFields_trans : ∀ es fs gs : List (String × Value), sameFields es fs = true → sameFields fs gs = true →
    sameFields es gs = true
  | [], _, _, _, _ => rfl
  | (k, u) :: es, fs, gs, h, h' => by
    obtain ⟨⟨v, hv, huv⟩, -⟩ := List.forall_mem_cons.1 (sameFields_iff.1 h)
    obtain ⟨w, hw, hvw⟩ := sameFields_iff.1 h' _ (Keyed.mem_of_get? hv)
    simp only [sameFields, Bool.and_eq_true] at h ⊢
    rw [show Keyed.get? gs k = some w from hw]
    exact ⟨Value.same_trans u v w huv hvw, sameFields_trans es fs gs h.2 h'⟩

end

end Typeforge.Json

namespace Typeforge.Schema

/-- The values that the attributes hold have distinct keys. -/
def Attributes.WellKeyed (a : Attributes) : Prop :=
  (∀ v, a.const = some v → v.WellKeyed) ∧ ∀ v, a.default = some v → v.WellKeyed

theorem sameOption_refl {α : Type} {same : α → α → Bool} {o : Option α} (h : ∀ a, o = some a → same a a = true) :
    sameOption same o o = true := by
  cases o with
  | none => rfl
  | some a => exact h a rfl

theorem Attributes.same_refl {a : Attributes} (h : a.WellKeyed) : a.same a = true := by
  have bound (o : Option Binary64) : sameOption Binary64.sameValue o o = true :=
    sameOption_refl fun x _ => by simp [Binary64.sameValue]
  have const := sameOption_refl (o := a.const) fun v hv => v.same_refl (h.1 v hv)
  have default := sameOption_refl (o := a.default) fun v hv => v.same_refl (h.2 v hv)
  simp [Attributes.same, bound, const, default]

theorem sameOption_symm {α : Type} {same : α → α → Bool} {o o' : Option α}
    (h : ∀ a b, o = some a → o' = some b → same a b = true → same b a = true) (hsame : sameOption same o o' = true) :
    sameOption same o' o = true := by
  cases o <;> cases o'
  · rfl
  · simp [sameOption] at hsame
  · simp [sameOption] at hsame
  · exact h _ _ rfl rfl hsame

theorem Attributes.same_symm {a b : Attributes} (ha : a.WellKeyed) (hb : b.WellKeyed) (h : a.same b = true) :
    b.same a = true := by
  have bound {o o' : Option Binary64} : sameOption Binary64.sameValue o o' = true →
      sameOption Binary64.sameValue o' o = true := sameOption_symm fun _ _ _ _ => Binary64.sameValue_symm
  have const : sameOption Json.Value.same a.const b.const = true →
      sameOption Json.Value.same b.const a.const = true :=
    sameOption_symm fun v w hv hw => Json.Value.same_symm v w (ha.1 v hv) (hb.1 w hw)
  have default : sameOption Json.Value.same a.default b.default = true →
      sameOption Json.Value.same b.default a.default = true :=
    sameOption_symm fun v w hv hw => Json.Value.same_symm v w (ha.2 v hv) (hb.2 w hw)
  simp only [Attributes.same, Bool.and_eq_true, decide_eq_true_eq] at h ⊢
  simp_all

theorem sameOption_trans {α : Type} {same : α → α → Bool} {o o' o'' : Option α}
    (htrans : ∀ a b c, same a b = true → same b c = true → same a c = true) (h : sameOption same o o' = true)
    (h' : sameOption same o' o'' = true) : sameOption same o o'' = true := by
  cases o <;> cases o' <;> cases o'' <;> simp only [sameOption, reduceCtorEq] at h h' ⊢
  exact htrans _ _ _ h h'

theorem Attributes.same_trans {a b c : Attributes} (h : a.same b = true) (h' : b.same c = true) :
    a.same c = true := by
  have bound {x y z : Option Binary64} : sameOption Binary64.sameValue x y = true →
      sameOption Binary64.sameValue y z = true → sameOption Binary64.sameValue x z = true :=
    sameOption_trans fun _ _ _ => Binary64.sameValue_trans
  have value {x y z : Option Json.Value} : sameOption Json.Value.same x y = true →
      sameOption Json.Value.same y z = true → sameOption Json.Value.same x z = true :=
    sameOption_trans Json.Value.same_trans
  simp only [Attributes.same, Bool.and_eq_true, decide_eq_true_eq] at h h' ⊢
  grind

theorem Attributes.WellKeyed.lift {a b : Attributes} (ha : a.WellKeyed) (hb : b.WellKeyed) : (a.lift b).WellKeyed := by
  constructor <;> intro v hv
  · cases hc : b.const with
    | none => exact ha.1 v (by simpa [Attributes.lift, hc] using hv)
    | some w => exact hb.1 v (by simpa [Attributes.lift, hc] using hv)
  · cases hd : b.default with
    | none => exact ha.2 v (by simpa [Attributes.lift, hd] using hv)
    | some w => exact hb.2 v (by simpa [Attributes.lift, hd] using hv)

namespace Node

theorem same_mk (a b : Attributes) (items items' : Option (List Node))
    (properties properties' : Option (List (String × Node))) (additional additional' : Option Node) :
    same ⟨a, items, properties, additional⟩ ⟨b, items', properties', additional'⟩ = (a.same b
      && (match items, items' with
        | some xs, some ys => sameList xs ys
        | none, none => true
        | _, _ => false)
      && (match properties, properties' with
        | some ps, some qs => ps.length == qs.length && sameFields ps qs
        | none, none => true
        | _, _ => false)
      && (match additional, additional' with
        | some n, some m => n.same m
        | none, none => true
        | _, _ => false)) := by
  cases items <;> cases items' <;> cases properties <;> cases properties' <;> cases additional <;>
    cases additional' <;> rfl

/-- No node in the node has two properties of one name, and all values in it have distinct keys. -/
def WellKeyed (n : Node) : Prop :=
  ∀ m, n.Holds m → (Keyed.keys m.propertyList).Nodup ∧ m.toAttributes.WellKeyed

section WellKeyed

variable {n m k : Node}

theorem WellKeyed.of_holds (h : n.WellKeyed) (hm : ∀ k, m.Holds k → n.Holds k) : m.WellKeyed :=
  fun k hk => h k (hm k hk)

theorem WellKeyed.of_parts (hkeys : (Keyed.keys n.propertyList).Nodup) (ha : n.toAttributes.WellKeyed)
    (hitems : ∀ m ∈ n.itemList, m.WellKeyed) (hproperties : ∀ p ∈ n.propertyList, p.2.WellKeyed)
    (hadditional : ∀ m, n.additional = some m → m.WellKeyed) : n.WellKeyed := by
  intro k hk
  cases hk with
  | self => exact ⟨hkeys, ha⟩
  | item hm hk => exact hitems _ hm k hk
  | property hp hk => exact hproperties _ hp k hk
  | additional hm hk => exact hadditional _ hm k hk

theorem WellKeyed.item (h : n.WellKeyed) (hm : m ∈ n.itemList) : m.WellKeyed := h.of_holds fun _ => .item hm

theorem WellKeyed.property {p : String × Node} (h : n.WellKeyed) (hp : p ∈ n.propertyList) : p.2.WellKeyed :=
  h.of_holds fun _ => .property hp

theorem WellKeyed.additional (h : n.WellKeyed) (hm : n.additional = some m) : m.WellKeyed :=
  h.of_holds fun _ => .additional hm

theorem sameList_refl {ns : List Node} (h : ∀ n ∈ ns, n.same n = true) : sameList ns ns = true := by
  induction ns with
  | nil => rfl
  | cons n ns ih =>
    simp only [sameList, Bool.and_eq_true]
    exact ⟨h n List.mem_cons_self, ih fun m hm => h m (List.mem_cons_of_mem _ hm)⟩

theorem sameFields_refl {ps qs : List (String × Node)} (hfind : ∀ p ∈ ps, Keyed.get? qs p.1 = some p.2)
    (h : ∀ p ∈ ps, p.2.same p.2 = true) : sameFields ps qs = true := by
  induction ps with
  | nil => rfl
  | cons p ps ih =>
    obtain ⟨k, n⟩ := p
    simp only [sameFields, Bool.and_eq_true, hfind (k, n) List.mem_cons_self]
    exact ⟨h (k, n) List.mem_cons_self,
      ih (fun p hp => hfind p (List.mem_cons_of_mem _ hp)) fun p hp => h p (List.mem_cons_of_mem _ hp)⟩

/-- **A node with distinct keys is the same as itself.** -/
theorem same_refl (h : n.WellKeyed) : n.same n = true := by
  induction n using inductionOnSize with
  | step n ih =>
    have items : sameList n.itemList n.itemList = true :=
      sameList_refl fun m hm => ih m (size_item_lt hm) (h.item hm)
    have properties : sameFields n.propertyList n.propertyList = true :=
      sameFields_refl (fun p hp => Keyed.get?_of_mem (h n (.self n)).1 hp)
        fun p hp => ih p.2 (size_property_lt hp) (h.property hp)
    have additional (m : Node) (hm : n.additional = some m) : m.same m = true :=
      ih m (size_additional_lt hm) (h.additional hm)
    have attributes := Attributes.same_refl (h n (.self n)).2
    obtain ⟨a, is, ps, o⟩ := n
    rw [same_mk]
    simp only [itemList, propertyList] at items properties additional attributes
    cases is <;> cases ps <;> cases o <;> simp_all

theorem sameFields_iff {ps qs : List (String × Node)} :
    sameFields ps qs = true ↔ ∀ p ∈ ps, ∃ m, Keyed.get? qs p.1 = some m ∧ p.2.same m = true := by
  induction ps with
  | nil => simp [sameFields]
  | cons p ps ih =>
    obtain ⟨k, n⟩ := p
    simp only [sameFields, Bool.and_eq_true, ih, List.forall_mem_cons]
    cases Keyed.get? qs k <;> simp

theorem sameList_symm {ns ms : List Node} (h : ∀ n ∈ ns, ∀ m ∈ ms, n.same m = true → m.same n = true)
    (hsame : sameList ns ms = true) : sameList ms ns = true := by
  induction ns generalizing ms with
  | nil => cases ms <;> simp_all [sameList]
  | cons n ns ih =>
    cases ms with
    | nil => simp [sameList] at hsame
    | cons m ms =>
      simp only [sameList, Bool.and_eq_true] at hsame ⊢
      exact ⟨h n List.mem_cons_self m List.mem_cons_self hsame.1,
        ih (fun n hn m hm => h n (List.mem_cons_of_mem _ hn) m (List.mem_cons_of_mem _ hm)) hsame.2⟩

/-- **Sameness of nodes with distinct keys goes both ways.** -/
theorem same_symm (hn : n.WellKeyed) (hm : m.WellKeyed) (h : n.same m = true) : m.same n = true := by
  induction n using inductionOnSize generalizing m with
  | step n ih =>
    have items : sameList n.itemList m.itemList = true → sameList m.itemList n.itemList = true :=
      sameList_symm fun k hk l hl => ih k (size_item_lt hk) (hn.item hk) (hm.item hl)
    have properties (hl : n.propertyList.length = m.propertyList.length)
        (hs : sameFields n.propertyList m.propertyList = true) : sameFields m.propertyList n.propertyList = true :=
      sameFields_iff.2 (Keyed.found_symm (R := fun k l => l.same k = true) (hn n (.self n)).1 (hm m (.self m)).1 hl
        fun p hp => by
        obtain ⟨l, hl, hpl⟩ := sameFields_iff.1 hs p hp
        exact ⟨l, hl, ih p.2 (size_property_lt hp) (hn.property hp) (hm.property (Keyed.mem_of_get? hl)) hpl⟩)
    have additional (k l : Node) (hk : n.additional = some k) (hl : m.additional = some l) :
        k.same l = true → l.same k = true :=
      ih k (size_additional_lt hk) (hn.additional hk) (hm.additional hl)
    have attributes := Attributes.same_symm (hn n (.self n)).2 (hm m (.self m)).2
    obtain ⟨a, is, ps, o⟩ := n
    obtain ⟨b, is', ps', o'⟩ := m
    rw [same_mk] at h ⊢
    simp only [itemList, propertyList] at items properties additional attributes
    cases is <;> cases is' <;> cases ps <;> cases ps' <;> cases o <;> cases o' <;> simp_all

theorem sameList_trans {ns ms ks : List Node}
    (htrans : ∀ n ∈ ns, ∀ m k, n.same m = true → m.same k = true → n.same k = true)
    (h : sameList ns ms = true) (h' : sameList ms ks = true) : sameList ns ks = true := by
  induction ns generalizing ms ks with
  | nil => cases ms <;> cases ks <;> simp [sameList] at h h' ⊢
  | cons n ns ih =>
    cases ms <;> cases ks <;> simp only [sameList, reduceCtorEq, Bool.and_eq_true] at h h' ⊢
    exact ⟨htrans n List.mem_cons_self _ _ h.1 h'.1,
      ih (fun n hn => htrans n (List.mem_cons_of_mem _ hn)) h.2 h'.2⟩

theorem sameFields_trans {ps qs rs : List (String × Node)}
    (htrans : ∀ p ∈ ps, ∀ m k, p.2.same m = true → m.same k = true → p.2.same k = true)
    (h : sameFields ps qs = true) (h' : sameFields qs rs = true) : sameFields ps rs = true := by
  refine sameFields_iff.2 fun p hp => ?_
  obtain ⟨m, hm, hpm⟩ := sameFields_iff.1 h p hp
  obtain ⟨k, hk, hmk⟩ := sameFields_iff.1 h' _ (Keyed.mem_of_get? hm)
  exact ⟨k, hk, htrans p hp m k hpm hmk⟩

/-- **Sameness of nodes goes on from one to the next.** -/
theorem same_trans (h : n.same m = true) (h' : m.same k = true) : n.same k = true := by
  induction n using inductionOnSize generalizing m k with
  | step n ih =>
    have items : sameList n.itemList m.itemList = true → sameList m.itemList k.itemList = true →
        sameList n.itemList k.itemList = true :=
      sameList_trans fun l hl _ _ => ih l (size_item_lt hl)
    have properties : sameFields n.propertyList m.propertyList = true →
        sameFields m.propertyList k.propertyList = true → sameFields n.propertyList k.propertyList = true :=
      sameFields_trans fun p hp _ _ => ih p.2 (size_property_lt hp)
    have additional (l : Node) (hl : n.additional = some l) {l' l'' : Node} : l.same l' = true →
        l'.same l'' = true → l.same l'' = true := ih l (size_additional_lt hl)
    obtain ⟨a, is, ps, o⟩ := n
    obtain ⟨b, is', ps', o'⟩ := m
    obtain ⟨c, is'', ps'', o''⟩ := k
    rw [same_mk] at h h' ⊢
    simp only [Bool.and_eq_true] at h h' ⊢
    obtain ⟨⟨⟨ha, hi⟩, hp⟩, ho⟩ := h
    obtain ⟨⟨⟨ha', hi'⟩, hp'⟩, ho'⟩ := h'
    refine ⟨⟨⟨Attributes.same_trans ha ha', ?_⟩, ?_⟩, ?_⟩
    · cases is <;> cases is' <;> cases is'' <;> first | rfl | contradiction | exact items hi hi'
    · cases ps <;> cases ps' <;> cases ps'' <;> first | rfl | contradiction | skip
      simp only [Bool.and_eq_true, beq_iff_eq] at hp hp' ⊢
      exact ⟨hp.1.trans hp'.1, properties hp.2 hp'.2⟩
    · cases o <;> cases o' <;> cases o'' <;> first | rfl | contradiction | exact additional _ rfl ho ho'

theorem WellKeyed.lift {parent child : Node} (hp : parent.WellKeyed) (hc : child.WellKeyed) :
    (parent.lift child).WellKeyed := by
  intro k hk
  rcases holds_lift hk with rfl | hk | hk
  · refine ⟨?_, (hp _ (.self _)).2.lift (hc _ (.self _)).2⟩
    have properties : (parent.lift child).propertyList = child.propertyList
        ∨ (parent.lift child).propertyList = parent.propertyList := by
      simp only [Node.lift, propertyList]
      cases child.properties <;> simp
    rcases properties with h | h <;> rw [h]
    · exact (hc _ (.self _)).1
    · exact (hp _ (.self _)).1
  · exact hp k hk
  · exact hc k hk

theorem WellKeyed.with_items {items : List Node} (h : n.WellKeyed) (hsub : items ⊆ n.itemList) :
    ({ n with items := some items } : Node).WellKeyed := by
  intro k hk
  rcases holds_with_items hsub hk with rfl | hk
  · exact h n (.self n)
  · exact h k hk

end WellKeyed

end Node

end Typeforge.Schema
