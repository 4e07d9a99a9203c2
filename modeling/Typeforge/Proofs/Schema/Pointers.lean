import Mathlib.Data.List.Infix
import Mathlib.Data.List.TakeWhile
import Typeforge.Proofs.Text.Replace
import Typeforge.Schema.Request

/-!
# Where a pointer leads

The pointer to a component leads to the component, whatever tildes and slashes are in its name
(`Pointer.target?_toComponent`), so no two components have one pointer, and the base name of the pointer is the name of
the component (`Pointer.baseName_toComponent`). Segments are written and read by two replacements each. The references
that stand for the request of an operation and for the response to it lead nowhere, and their base name is that of the
identifier, which is written in them as it is (`Operation.baseName_requestReference`, `Pointer.baseName_eq_self_iff`).
-/

namespace Typeforge.Schema

namespace Pointer

open Text (replaceAll)

/-! ### Segments -/

theorem escapeChars_cons {c : Char} {cs : List Char} (htilde : c ≠ '~') (hslash : c ≠ '/') :
    escapeChars (c :: cs) = c :: escapeChars cs := by
  rw [escapeChars]
  · exact htilde
  · exact hslash

theorem unescapeChars_cons {c : Char} {cs : List Char} (h : c ≠ '~') :
    unescapeChars (c :: cs) = c :: unescapeChars cs := by
  rw [unescapeChars]
  · exact fun _ hc => absurd hc h
  · exact fun _ hc => absurd hc h

theorem unescapeChars_escapeChars (cs : List Char) : unescapeChars (escapeChars cs) = cs := by
  induction cs with
  | nil => rfl
  | cons c cs ih =>
    by_cases htilde : c = '~'
    · subst htilde
      simp [escapeChars, unescapeChars, ih]
    by_cases hslash : c = '/'
    · subst hslash
      simp [escapeChars, unescapeChars, ih]
    · rw [escapeChars_cons htilde hslash, unescapeChars_cons htilde, ih]

theorem escapeChars_eq_replaceAll (cs : List Char) :
    escapeChars cs = replaceAll '/' [] ['~', '1'] (replaceAll '~' [] ['~', '0'] cs) := by
  simp only [Text.replaceAll_single, List.flatMap_assoc]
  induction cs with
  | nil => rfl
  | cons c cs ih =>
    by_cases htilde : c = '~'
    · subst htilde
      simp [escapeChars, ih]
    by_cases hslash : c = '/'
    · subst hslash
      simp [escapeChars, ih]
    · rw [escapeChars_cons htilde hslash, ih]
      simp [htilde, hslash]

/-- Where the sequences for slashes have been replaced, no text begins with a zero that did not before. -/
theorem head?_replaceAll_slash {cs : List Char} (h : (replaceAll '~' ['1'] ['/'] cs).head? = some '0') :
    cs.head? = some '0' := by
  cases cs with
  | nil => simp at h
  | cons c cs =>
    by_cases hprefix : ['~', '1'] <+: c :: cs
    · obtain ⟨rest, hrest⟩ := hprefix
      have hslash : replaceAll '~' ['1'] ['/'] (c :: cs) = '/' :: replaceAll '~' ['1'] ['/'] rest := by
        rw [← hrest]
        exact Text.replaceAll_append rest
      rw [hslash] at h
      cases h
    · rwa [Text.replaceAll_cons hprefix] at h

theorem unescapeChars_eq_replaceAll (cs : List Char) :
    unescapeChars cs = replaceAll '~' ['0'] ['~'] (replaceAll '~' ['1'] ['/'] cs) := by
  fun_induction unescapeChars cs with
  | case1 => simp
  | case2 cs ih =>
    have hfirst : replaceAll '~' ['1'] ['/'] ('~' :: '0' :: cs) = '~' :: '0' :: replaceAll '~' ['1'] ['/'] cs := by
      rw [Text.replaceAll_cons (by simp), Text.replaceAll_cons_of_ne (by decide)]
    have hsecond (rest : List Char) :
        replaceAll '~' ['0'] ['~'] ('~' :: '0' :: rest) = '~' :: replaceAll '~' ['0'] ['~'] rest :=
      Text.replaceAll_append rest
    rw [hfirst, hsecond, ih]
  | case3 cs ih =>
    have hfirst : replaceAll '~' ['1'] ['/'] ('~' :: '1' :: cs) = '/' :: replaceAll '~' ['1'] ['/'] cs :=
      Text.replaceAll_append cs
    rw [hfirst, Text.replaceAll_cons_of_ne (by decide), ih]
  | case4 c cs hzero hone ih =>
    have hslash : ¬ ['~', '1'] <+: c :: cs := by
      rintro ⟨rest, hrest⟩
      obtain ⟨rfl, rfl⟩ := List.cons.inj hrest
      exact hone rest rfl rfl
    rw [Text.replaceAll_cons hslash]
    -- a zero after a tilde would have been there from the beginning
    have htilde : ¬ ['~', '0'] <+: c :: replaceAll '~' ['1'] ['/'] cs := by
      rintro ⟨rest, hrest⟩
      obtain ⟨rfl, htail⟩ := List.cons.inj hrest
      have hhead : cs.head? = some '0' := head?_replaceAll_slash (by rw [← htail]; rfl)
      obtain ⟨cs', rfl⟩ := List.head?_eq_some_iff.1 hhead
      exact hzero cs' rfl rfl
    rw [Text.replaceAll_cons htilde, ih]

/-! ### The component of a pointer -/

theorem after?_append (lead cs : List Char) : Text.after? lead (lead ++ cs) = some cs := by
  induction lead with
  | nil => simp [Text.after?]
  | cons c lead ih => simp [Text.after?, ih]

theorem nameIn?_toComponent (family : Family) (name : String) : nameIn? family (toComponent family name) = some name := by
  rw [nameIn?, toComponent, String.toList_append, after?_append]
  simp [escape, unescapeChars_escapeChars]

/-- **The pointer to a component leads to the component.** -/
theorem target?_toComponent (family : Family) (name : String) :
    target? (toComponent family name) = some (family, name) := by
  have own := nameIn?_toComponent family name
  cases family with
  | schemas => simp [target?, own]
  | parameters =>
    have schemas : nameIn? .schemas (toComponent .parameters name) = none := by
      simp [nameIn?, toComponent, Family.root, Text.after?]
    simp [target?, own, schemas]
  | requestBodies =>
    have schemas : nameIn? .schemas (toComponent .requestBodies name) = none := by
      simp [nameIn?, toComponent, Family.root, Text.after?]
    have parameters : nameIn? .parameters (toComponent .requestBodies name) = none := by
      simp [nameIn?, toComponent, Family.root, Text.after?]
    simp [target?, own, schemas, parameters]

theorem toComponent_inj {family family' : Family} {name name' : String} :
    toComponent family name = toComponent family' name' ↔ family = family' ∧ name = name' := by
  constructor
  · intro h
    have := target?_toComponent family name
    rw [h, target?_toComponent] at this
    cases this
    exact ⟨rfl, rfl⟩
  · rintro ⟨rfl, rfl⟩
    rfl

/-! ### The base name -/

theorem slash_not_mem_escapeChars (cs : List Char) : '/' ∉ escapeChars cs := by
  fun_induction escapeChars cs with
  | case1 => simp
  | case2 cs ih => simp [ih]
  | case3 cs ih => simp [ih]
  | case4 c cs htilde hslash ih =>
    have hne : '/' ≠ c := fun h => hslash h.symm
    simp [hne, ih]

theorem lastSegment_append {cs : List Char} (before : List Char) (h : '/' ∉ cs) :
    lastSegment (before ++ '/' :: cs) = cs := by
  have hall : ∀ c ∈ cs.reverse, (c != '/') = true := by
    intro c hc
    have hne : c ≠ '/' := fun heq => h (heq ▸ List.mem_reverse.1 hc)
    simpa using hne
  rw [lastSegment, List.reverse_append, List.reverse_cons, List.append_assoc, List.takeWhile_append_of_pos hall]
  simp

theorem Family.root_toList (family : Family) : ∃ before, family.root.toList = before ++ ['/'] :=
  ⟨family.root.toList.dropLast, by cases family <;> decide⟩

/-- **The base name of the pointer to a component is the name of the component.** -/
theorem baseName_toComponent (family : Family) (name : String) : baseName (toComponent family name) = name := by
  obtain ⟨before, hroot⟩ := family.root_toList
  have hsegment : lastSegment (toComponent family name).toList = escapeChars name.toList := by
    rw [toComponent, String.toList_append, hroot, List.append_assoc]
    simp only [escape, String.toList_ofList, List.singleton_append]
    exact lastSegment_append before (slash_not_mem_escapeChars _)
  rw [baseName, hsegment, unescapeChars_escapeChars, String.ofList_toList]

/-! ### Names that are not escaped -/

/-- The name says the same as a segment: it is one segment, and no sequence in it stands for something else. -/
structure Verbatim (name : String) : Prop where
  slash : '/' ∉ name.toList
  zero : ¬ ['~', '0'] <:+: name.toList
  one : ¬ ['~', '1'] <:+: name.toList

instance (name : String) : Decidable (Verbatim name) :=
  decidable_of_iff ('/' ∉ name.toList ∧ ¬ ['~', '0'] <:+: name.toList ∧ ¬ ['~', '1'] <:+: name.toList)
    ⟨fun ⟨slash, zero, one⟩ => ⟨slash, zero, one⟩, fun ⟨slash, zero, one⟩ => ⟨slash, zero, one⟩⟩

theorem lastSegment_slash (before cs : List Char) : lastSegment (before ++ '/' :: cs) = lastSegment cs := by
  unfold lastSegment
  rw [List.reverse_append, List.reverse_cons, List.append_assoc, List.takeWhile_append]
  split
  · rename_i hall
    have htake : cs.reverse.takeWhile (· != '/') = cs.reverse :=
      (List.takeWhile_prefix _).eq_of_length hall
    simp [htake]
  · rfl

theorem length_lastSegment_le (cs : List Char) : (lastSegment cs).length ≤ cs.length := by
  have htake := (List.takeWhile_prefix (l := cs.reverse) (· != '/')).length_le
  simpa [lastSegment] using htake

theorem lastSegment_eq_self_iff {cs : List Char} : lastSegment cs = cs ↔ '/' ∉ cs := by
  have hreverse : lastSegment cs = cs ↔ cs.reverse.takeWhile (· != '/') = cs.reverse := List.reverse_eq_iff
  rw [hreverse, List.takeWhile_eq_self_iff]
  constructor
  · intro hall hmem
    simpa using hall '/' (List.mem_reverse.2 hmem)
  · intro hnot c hc
    have hne : c ≠ '/' := fun heq => hnot (heq ▸ List.mem_reverse.1 hc)
    simpa using hne

theorem length_unescapeChars_le (cs : List Char) : (unescapeChars cs).length ≤ cs.length := by
  fun_induction unescapeChars cs with
  | case1 => exact Nat.le_refl _
  | case2 cs ih | case3 cs ih =>
    simp only [List.length_cons]
    omega
  | case4 c cs hzero hone ih =>
    simp only [List.length_cons]
    omega

/-- Unescaping leaves a text as it is just if there is no sequence in it: a sequence makes it shorter. -/
theorem unescapeChars_eq_self_iff {cs : List Char} :
    unescapeChars cs = cs ↔ ¬ ['~', '0'] <:+: cs ∧ ¬ ['~', '1'] <:+: cs := by
  have shorter {c d e : Char} (tail : List Char) : c :: unescapeChars tail ≠ d :: e :: tail := by
    intro h
    have hlength := congrArg List.length h
    have hle := length_unescapeChars_le tail
    simp only [List.length_cons] at hlength
    omega
  fun_induction unescapeChars cs with
  | case1 => simp
  | case2 cs ih => exact iff_of_false (shorter cs) fun h => h.1 ⟨[], cs, rfl⟩
  | case3 cs ih => exact iff_of_false (shorter cs) fun h => h.2 ⟨[], cs, rfl⟩
  | case4 c cs hzero hone ih =>
    have hfront {d : Char} (hd : ∀ rest, c = '~' → cs = d :: rest → False) : ¬ ['~', d] <+: c :: cs := by
      rintro ⟨rest, hrest⟩
      obtain ⟨hc, hcs⟩ := List.cons.inj hrest
      exact hd rest hc.symm hcs.symm
    rw [List.infix_cons_iff, List.infix_cons_iff, or_iff_right (hfront hzero), or_iff_right (hfront hone),
      List.cons_inj_right]
    exact ih

/-- **The base name of an unescaped name is the name just if it says the same as a segment.** -/
theorem baseName_eq_self_iff {name : String} : baseName name = name ↔ Verbatim name := by
  have hchars : baseName name = name ↔ unescapeChars (lastSegment name.toList) = name.toList := by
    rw [baseName, ← String.toList_inj, String.toList_ofList]
  rw [hchars]
  constructor
  · intro h
    have hlength : name.toList.length ≤ (lastSegment name.toList).length := by
      rw [← congrArg List.length h]
      exact length_unescapeChars_le _
    have hsuffix : lastSegment name.toList <:+ name.toList := by
      rw [lastSegment, ← List.reverse_prefix, List.reverse_reverse]
      exact List.takeWhile_prefix _
    have hwhole : lastSegment name.toList = name.toList :=
      hsuffix.eq_of_length (Nat.le_antisymm (length_lastSegment_le _) hlength)
    rw [hwhole] at h
    obtain ⟨zero, one⟩ := unescapeChars_eq_self_iff.1 h
    exact ⟨lastSegment_eq_self_iff.1 hwhole, zero, one⟩
  · rintro ⟨slash, zero, one⟩
    rw [lastSegment_eq_self_iff.2 slash, unescapeChars_eq_self_iff.2 ⟨zero, one⟩]

theorem baseName_append_slash (before name : String) : baseName (before ++ "/" ++ name) = baseName name := by
  have hchars : (before ++ "/" ++ name).toList = before.toList ++ '/' :: name.toList := by simp
  rw [baseName, hchars, lastSegment_slash, baseName]

end Pointer

section References

variable (d : Document) (o : Operation)

theorem Pointer.target?_eq_none {r : String} (h : ∀ family, nameIn? family r = none) : target? r = none := by
  rw [target?, h, h, h]

theorem Operation.target?_requestReference : Pointer.target? o.requestReference = none := by
  refine Pointer.target?_eq_none fun family => ?_
  unfold requestReference
  rw [Pointer.nameIn?, String.toList_append]
  cases family <;> simp [Pointer.Family.root, Text.after?]

theorem Operation.target?_responseReference : Pointer.target? o.responseReference = none := by
  refine Pointer.target?_eq_none fun family => ?_
  unfold responseReference
  rw [Pointer.nameIn?, String.toList_append]
  cases family <;> simp [Pointer.Family.root, Text.after?]

theorem Operation.baseName_requestReference : Pointer.baseName o.requestReference = Pointer.baseName o.id :=
  Pointer.baseName_append_slash "#/operations/data" o.id

theorem Operation.baseName_responseReference : Pointer.baseName o.responseReference = Pointer.baseName o.id :=
  Pointer.baseName_append_slash "#/operations/response" o.id

theorem Operation.requestReference_inj {o o' : Operation} : o.requestReference = o'.requestReference ↔ o.id = o'.id :=
  String.append_right_inj _

theorem Operation.responseReference_inj {o o' : Operation} :
    o.responseReference = o'.responseReference ↔ o.id = o'.id :=
  String.append_right_inj _

theorem Operation.requestReference_ne (o o' : Operation) : o.requestReference ≠ o'.responseReference := by
  intro h
  have hchars := congrArg String.toList h
  unfold requestReference responseReference at hchars
  simp [String.toList_append] at hchars

theorem Document.resolve?_toComponent (family : Pointer.Family) (name : String) :
    d.resolve? (Pointer.toComponent family name) = d.components.find? family name := by
  rw [resolve?, Pointer.target?_toComponent]
  rfl

end References

end Typeforge.Schema
