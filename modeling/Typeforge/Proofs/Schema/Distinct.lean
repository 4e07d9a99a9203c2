import Typeforge.Proofs.Firsts
import Typeforge.Proofs.Schema.Decoding
import Typeforge.Proofs.Schema.Lifts
import Mathlib.Data.List.Forall2
import Mathlib.Data.List.Induction

/-!
# Items that are the same

Sameness is an equivalence on nodes that are decoded, so the items of such a node fall into classes. A round of
`deduplicate` compares each item with those that it has kept, which is as good as comparing it with all that come
before it: of each class the first item stays (`distinct_eq_firsts`), and the round does not tell apart nodes that are
the same (`distinct_congr`).
-/

namespace Typeforge.Schema.Node

section Classes

variable {n m k l : Node} {ns ms seen seen' : List Node}

/-! ### One item more -/

theorem distinctFrom_concat (seen ns : List Node) (n : Node) : distinctFrom seen (ns ++ [n]) =
    distinctFrom seen ns ++ if (seen ++ distinctFrom seen ns).any (·.same n) then [] else [n] := by
  induction ns generalizing seen with
  | nil => simp [distinctFrom]
  | cons m ns ih =>
    simp only [List.cons_append, distinctFrom]
    split
    · exact ih seen
    · rw [ih (m :: seen), List.cons_append]
      simp [Bool.or_left_comm]

theorem distinct_concat (ns : List Node) (n : Node) :
    distinct (ns ++ [n]) = distinct ns ++ if (distinct ns).any (·.same n) then [] else [n] :=
  distinctFrom_concat [] ns n

/-! ### The first of each class -/

theorem exists_same_distinct (h : ∀ n ∈ ns, n.WellKeyed) (hm : m ∈ ns) : ∃ k ∈ distinct ns, k.same m = true := by
  induction ns using List.reverseRecOn with
  | nil => cases hm
  | append_singleton ns n ih =>
    rw [distinct_concat]
    rcases List.mem_append.1 hm with hm | hm
    · obtain ⟨k, hk, hkm⟩ := ih (fun n hn => h n (List.mem_append_left _ hn)) hm
      exact ⟨k, List.mem_append_left _ hk, hkm⟩
    · obtain rfl := List.mem_singleton.1 hm
      by_cases hmet : (distinct ns).any (·.same m) = true
      · obtain ⟨k, hk, hkm⟩ := List.any_eq_true.1 hmet
        exact ⟨k, List.mem_append_left _ hk, hkm⟩
      · rw [if_neg hmet]
        exact ⟨m, by simp, same_refl (h m (by simp))⟩

theorem any_distinct (h : ∀ n ∈ ns, n.WellKeyed) : (distinct ns).any (·.same n) = ns.any (·.same n) := by
  rw [Bool.eq_iff_iff, List.any_eq_true, List.any_eq_true]
  constructor
  · rintro ⟨k, hk, hkn⟩
    exact ⟨k, (distinct_sublist ns).subset hk, hkn⟩
  · rintro ⟨m, hm, hmn⟩
    obtain ⟨k, hk, hkm⟩ := exists_same_distinct h hm
    exact ⟨k, hk, same_trans hkm hmn⟩

/-- **What is kept is the first of each class**, in order. -/
theorem distinct_eq_firsts (h : ∀ n ∈ ns, n.WellKeyed) : distinct ns = firsts same ns := by
  induction ns using List.reverseRecOn with
  | nil => rfl
  | append_singleton ns n ih =>
    have hns : ∀ n ∈ ns, n.WellKeyed := fun n hn => h n (List.mem_append_left _ hn)
    rw [distinct_concat, firsts_concat, any_distinct hns, ih hns]

/-- Each item is the same as just one of those that are kept. -/
theorem countP_distinct (h : ∀ n ∈ ns, n.WellKeyed) (hm : m ∈ ns) : (distinct ns).countP (·.same m) = 1 := by
  obtain ⟨k, hk, hkm⟩ := exists_same_distinct h hm
  refine countP_eq_one ?_ hk hkm
  refine (pairwise_distinct ns).imp_of_mem fun {x y} _ hy hxy hxm => ?_
  rw [Bool.eq_false_iff] at hxy ⊢
  intro hym
  have hmy : m.same y = true := same_symm (h y ((distinct_sublist ns).subset hy)) (h m hm) hym
  exact hxy (same_trans hxm hmy)

theorem two_le_length_distinct_iff (h : ∀ n ∈ ns, n.WellKeyed) :
    2 ≤ (distinct ns).length ↔ ∃ k ∈ ns, ∃ m ∈ ns, k.same m = false := by
  have hkept {x : Node} (hx : x ∈ distinct ns) : x ∈ ns := (distinct_sublist ns).subset hx
  constructor
  · intro htwo
    match hd : distinct ns with
    | [] | [_] => simp [hd] at htwo
    | k :: m :: rest =>
      have hpair := pairwise_distinct ns
      rw [hd] at hpair
      exact ⟨k, hkept (by simp [hd]), m, hkept (by simp [hd]), (List.pairwise_cons.1 hpair).1 m (by simp)⟩
  · rintro ⟨k, hk, m, hm, hkm⟩
    obtain ⟨x, hx, hxk⟩ := exists_same_distinct h hk
    obtain ⟨y, hy, hym⟩ := exists_same_distinct h hm
    match hd : distinct ns with
    | [] => simp [hd] at hx
    | _ :: _ :: _ => simp
    | [only] =>
      obtain rfl : x = only := by simpa [hd] using hx
      obtain rfl : y = x := by simpa [hd] using hy
      have hkx : k.same y = true := same_symm (h y (hkept hy)) (h k hk) hxk
      rw [same_trans hkx hym] at hkm
      cases hkm

/-! ### Lists of the same items -/

theorem sameList_iff_forall₂ : sameList ns ms = true ↔ List.Forall₂ (fun n m => n.same m = true) ns ms := by
  induction ns generalizing ms with
  | nil => cases ms <;> simp [sameList]
  | cons n ns ih => cases ms <;> simp [sameList, ih]

/-- Of two nodes on each side the first are the same just if the second are. -/
theorem same_congr (hn : n.WellKeyed) (hm : m.WellKeyed) (hk : k.WellKeyed) (hl : l.WellKeyed)
    (hnm : n.same m = true) (hkl : k.same l = true) : n.same k = m.same l := by
  rw [Bool.eq_iff_iff]
  exact ⟨fun h => same_trans (same_symm hn hm hnm) (same_trans h hkl),
    fun h => same_trans hnm (same_trans h (same_symm hk hl hkl))⟩

theorem any_congr (hseen : ∀ k ∈ seen, k.WellKeyed) (hseen' : ∀ k ∈ seen', k.WellKeyed) (hn : n.WellKeyed)
    (hm : m.WellKeyed) (hnm : n.same m = true) (h : List.Forall₂ (fun n m => n.same m = true) seen seen') :
    seen.any (·.same n) = seen'.any (·.same m) := by
  induction h with
  | nil => rfl
  | cons hkl _ ih =>
    obtain ⟨hk, hseen⟩ := List.forall_mem_cons.1 hseen
    obtain ⟨hl, hseen'⟩ := List.forall_mem_cons.1 hseen'
    rw [List.any_cons, List.any_cons, same_congr hk hl hn hm hkl hnm, ih hseen hseen']

theorem distinctFrom_congr (hseen : ∀ k ∈ seen, k.WellKeyed) (hseen' : ∀ k ∈ seen', k.WellKeyed)
    (hns : ∀ n ∈ ns, n.WellKeyed) (hms : ∀ m ∈ ms, m.WellKeyed)
    (hmet : List.Forall₂ (fun n m => n.same m = true) seen seen')
    (h : List.Forall₂ (fun n m => n.same m = true) ns ms) :
    List.Forall₂ (fun n m => n.same m = true) (distinctFrom seen ns) (distinctFrom seen' ms) := by
  induction h generalizing seen seen' with
  | nil => exact .nil
  | cons hnm _ ih =>
    obtain ⟨hn, hns⟩ := List.forall_mem_cons.1 hns
    obtain ⟨hm, hms⟩ := List.forall_mem_cons.1 hms
    rw [distinctFrom, distinctFrom, any_congr hseen hseen' hn hm hnm hmet]
    split
    · exact ih hseen hseen' hns hms hmet
    · exact .cons hnm (ih (List.forall_mem_cons.2 ⟨hn, hseen⟩) (List.forall_mem_cons.2 ⟨hm, hseen'⟩) hns hms
        (.cons hnm hmet))

/-- **Of lists whose items are the same, the items that are kept are the same.** -/
theorem distinct_congr (hns : ∀ n ∈ ns, n.WellKeyed) (hms : ∀ m ∈ ms, m.WellKeyed) (h : sameList ns ms = true) :
    sameList (distinct ns) (distinct ms) = true :=
  sameList_iff_forall₂.2
    (distinctFrom_congr (by simp) (by simp) hns hms .nil (sameList_iff_forall₂.1 h))

end Classes

/-! ### A round of a node that keeps its items -/

/-- A JSON value decodes to the node. -/
def Decoded (n : Node) : Prop := ∃ levels raw, Node.decode levels raw = some n

/-- A round leaves items to the node: they are those of an array or an enumeration, or two of them are not the same, and
the node is no tuple. -/
def Retains (n : Node) : Prop :=
  n.keepsItems = true ∨ n.kind ≠ some .tuple ∧ ∃ k ∈ n.itemList, ∃ m ∈ n.itemList, k.same m = false

/-- What a round makes of a node that keeps its items. -/
structure KeepsFirsts (n result : Node) : Prop where
  /-- Only the items are others: of those that are the same the first one is left, in order. -/
  items : result = { n with items := n.items.map (firsts same) }
  /-- Whichever of two items is compared with the other, they are not the same. -/
  apart : result.itemList.Pairwise fun k m => k.same m = false ∧ m.same k = false
  /-- Each of the items is the same as just one that is left. -/
  once : ∀ m ∈ n.itemList, result.itemList.countP (·.same m) = 1
  /-- The next round changes nothing. -/
  again : result.deduplicate = result

section Retains

variable {n m : Node}

theorem Decoded.wellKeyed (h : n.Decoded) : n.WellKeyed := by
  obtain ⟨levels, raw, h⟩ := h
  exact Node.decode_wellKeyed levels raw n h

theorem retains_iff (hn : n.WellKeyed) :
    n.Retains ↔ n.keepsItems = true ∨ n.kind ≠ some .tuple ∧ 2 ≤ (distinct n.itemList).length := by
  rw [two_le_length_distinct_iff fun k hk => hn.item hk]
  rfl

theorem mk_eta (n : Node) : mk n.toAttributes n.items n.properties n.additional = n := by
  cases n
  rfl

theorem deduplicate_of_retains (hn : n.WellKeyed) (h : n.Retains) :
    n.deduplicate = { n with items := n.items.map distinct } := by
  rw [retains_iff hn] at h
  unfold deduplicate
  cases hitems : n.items with
  | none => rw [Option.map_none, ← hitems, mk_eta, hitems]
  | some ns =>
    have hlist : n.itemList = ns := by simp [itemList, hitems]
    have htuple : n.kind ≠ some .tuple := by
      rcases h with h | h
      · intro htuple
        simp [keepsItems, htuple] at h
      · exact h.1
    rw [hlist] at h
    simp only [htuple, if_false, Option.map_some]
    cases hkeeps : n.keepsItems with
    | true => split <;> simp_all
    | false =>
      rcases hd : distinct ns with - | ⟨k, - | ⟨k', ks⟩⟩
      · simp [hkeeps, hd] at h
      · simp [hkeeps, hd] at h
      · rfl

theorem itemList_deduplicate_of_retains (hn : n.WellKeyed) (h : n.Retains) :
    n.deduplicate.itemList = distinct n.itemList := by
  rw [deduplicate_of_retains hn h]
  simp only [itemList]
  cases n.items <;> rfl

theorem WellKeyed.deduplicate_of_retains (hn : n.WellKeyed) (h : n.Retains) : n.deduplicate.WellKeyed := by
  rw [Node.deduplicate_of_retains hn h]
  cases hitems : n.items with
  | none =>
    rw [Option.map_none, ← hitems, mk_eta]
    exact hn
  | some ns =>
    have hsub : distinct ns ⊆ n.itemList := by
      simpa [itemList, hitems] using (distinct_sublist ns).subset
    exact hn.with_items hsub

theorem deduplicate_deduplicate_of_retains (hn : n.WellKeyed) (h : n.Retains) :
    n.deduplicate.deduplicate = n.deduplicate := by
  have hround : n.deduplicate = { n with items := n.items.map distinct } := deduplicate_of_retains hn h
  have hwell : n.deduplicate.WellKeyed := hn.deduplicate_of_retains h
  have hretains : n.deduplicate.Retains := by
    rw [retains_iff hwell, itemList_deduplicate_of_retains hn h, distinct_distinct, keepsItems, hround]
    exact (retains_iff hn).1 h
  have hitems : n.deduplicate.items.map distinct = n.deduplicate.items := by
    rw [hround]
    cases n.items <;> simp [distinct_distinct]
  rw [deduplicate_of_retains hwell hretains, hitems, mk_eta]

theorem Retains.of_same (hn : n.WellKeyed) (hm : m.WellKeyed) (h : n.Retains) (hsame : n.same m = true) :
    m.Retains := by
  have hattributes := attributes_of_same hsame
  simp only [Attributes.same, Bool.and_eq_true, decide_eq_true_eq] at hattributes
  have hkind : n.kind = m.kind := by simp_all
  have hitems := distinct_congr (fun k hk => hn.item hk) (fun k hk => hm.item hk) (sameList_of_same hsame)
  have hkeeps : n.keepsItems = m.keepsItems := by rw [keepsItems, keepsItems, hkind]
  rw [retains_iff hn, hkeeps, hkind, sameList_length hitems] at h
  exact (retains_iff hm).2 h

theorem same_with_items {f : List Node → List Node} (h : n.same m = true)
    (hf : sameList n.itemList m.itemList = true → sameList (f n.itemList) (f m.itemList) = true) :
    ({ n with items := n.items.map f } : Node).same { m with items := m.items.map f } = true := by
  obtain ⟨a, items, properties, additional⟩ := n
  obtain ⟨b, items', properties', additional'⟩ := m
  rw [same_mk] at h ⊢
  simp only [itemList] at hf
  cases items <;> cases items' <;> simp_all

/-- A round of a node that keeps its items leaves the first of each class of them. -/
theorem keepsFirsts_of_retains (hn : n.WellKeyed) (h : n.Retains) : KeepsFirsts n n.deduplicate := by
  have hitems : ∀ k ∈ n.itemList, k.WellKeyed := fun k hk => hn.item hk
  have hround : n.deduplicate = { n with items := n.items.map distinct } := deduplicate_of_retains hn h
  have hfirsts : n.items.map distinct = n.items.map (firsts same) := by
    cases hn : n.items with
    | none => rfl
    | some ns => simpa using distinct_eq_firsts (by simpa [itemList, hn] using hitems)
  have hlist : n.deduplicate.itemList = distinct n.itemList := itemList_deduplicate_of_retains hn h
  have hleft {k : Node} (hk : k ∈ distinct n.itemList) : k.WellKeyed := hitems k ((distinct_sublist _).subset hk)
  refine ⟨by rw [hround, hfirsts], ?_, ?_, deduplicate_deduplicate_of_retains hn h⟩
  · rw [hlist]
    refine (pairwise_distinct n.itemList).imp_of_mem fun {k m} hk hm hkm => ⟨hkm, ?_⟩
    rw [Bool.eq_false_iff] at hkm ⊢
    exact fun hmk => hkm (same_symm (hleft hm) (hleft hk) hmk)
  · rw [hlist]
    exact fun m hm => countP_distinct hitems hm

end Retains

/-- **Sameness is an equivalence on decoded nodes.** Where items stay, a round leaves the first of each class of them
and nothing else changes. Nodes that are the same are the same after it. -/
theorem deduplicate_keepsFirsts :
    Equivalence (fun n m : { n : Node // n.Decoded } => n.1.same m.1 = true) ∧
    ∀ n : Node, n.Decoded → n.Retains → KeepsFirsts n n.deduplicate ∧
      ∀ m : Node, m.Decoded → n.same m = true → n.deduplicate.same m.deduplicate = true := by
  refine ⟨⟨fun n => same_refl n.2.wellKeyed, fun {n m} => same_symm n.2.wellKeyed m.2.wellKeyed, same_trans⟩, ?_⟩
  intro n hn hretains
  refine ⟨keepsFirsts_of_retains hn.wellKeyed hretains, fun m hm hsame => ?_⟩
  rw [deduplicate_of_retains hn.wellKeyed hretains,
    deduplicate_of_retains hm.wellKeyed (hretains.of_same hn.wellKeyed hm.wellKeyed hsame)]
  exact same_with_items hsame
    (distinct_congr (fun k hk => hn.wellKeyed.item hk) fun k hk => hm.wellKeyed.item hk)

/-- A number that is bounded by a zero of either sign, with a constant whose fields stand in either order. -/
def readingRaw (turned : Bool) : Json.Raw :=
  .object [
    ("type", .string "number"),
    ("minimum", .number (.float ⟨turned, 0, Binary64.minExponent⟩)),
    ("const", .object (if turned then [("b", .null), ("a", .bool true)] else [("a", .bool true), ("b", .null)]))]

def reading (turned : Bool) : Node where
  kind := some .number
  minimum := some ⟨turned, 0, Binary64.minExponent⟩
  const := some (.object (if turned then [("b", .null), ("a", .bool true)] else [("a", .bool true), ("b", .null)]))

/-- An array of such a number, the same number said in the other way, and a text. -/
def readingsRaw (turned : Bool) : Json.Raw :=
  .object [
    ("type", .string "array"),
    ("items", .array [readingRaw turned, readingRaw (!turned), .object [("type", .string "string")]])]

def readings (turned : Bool) : Node where
  kind := some .array
  items := some [reading turned, reading (!turned), .ofKind .string]

/-- The second number goes, whichever of the two it is. -/
theorem readings_keepFirsts : Node.decode 8 (readingsRaw false) = some (readings false) ∧ (readings false).Retains ∧
    (readings false).deduplicate = { kind := some .array, items := some [reading false, .ofKind .string] } ∧
    KeepsFirsts (readings false) (readings false).deduplicate ∧
    (readings true).deduplicate = { kind := some .array, items := some [reading true, .ofKind .string] } ∧
    (readings false).deduplicate.same (readings true).deduplicate = true := by
  have hdecode (turned : Bool) : Node.decode 8 (readingsRaw turned) = some (readings turned) := by
    cases turned <;> rfl
  have hretains : (readings false).Retains := .inl rfl
  have hsame : (readings false).same (readings true) = true := by rfl
  obtain ⟨hkeeps, hcongr⟩ := deduplicate_keepsFirsts.2 (readings false) ⟨8, _, hdecode false⟩ hretains
  exact ⟨hdecode false, hretains, rfl, hkeeps, rfl, hcongr (readings true) ⟨8, _, hdecode true⟩ hsame⟩

end Typeforge.Schema.Node
