import Typeforge.Proofs.Schema.References
import Typeforge.Proofs.Schema.Sameness
import Typeforge.Schema.Decoding

/-!
# What is decoded has distinct keys

A field that is written twice in an object of values or of properties is decoded once, so every node of a
decoded document is well keyed (`Document.decode_wellKeyed`), and no two components of a family have one name
(`Document.decode_distinct`). `Decodes P part` says that whatever a decoder accepts has `P`; each way of making
decoders hands this on.
-/

namespace Typeforge.Json

/-! ### Values -/

mutual

theorem value?_wellKeyed : ∀ (levels : Nat) (r : Raw) (v : Value), Raw.value? levels r = some v → v.WellKeyed
  | levels, .null, v, h => by cases h; trivial
  | levels, .bool _, v, h => by cases h; trivial
  | levels, .number _, v, h => by cases h; trivial
  | levels, .string _, v, h => by cases h; trivial
  | levels, .unreadable, v, h => by cases h
  | levels, .array items, v, h => by
    simp only [Raw.value?] at h
    split at h
    · cases h
    · obtain ⟨vs, hvs, rfl⟩ := Option.map_eq_some_iff.1 h
      exact values?_wellKeyed (levels - 1) items vs hvs
  | levels, .object fields, v, h => by
    simp only [Raw.value?] at h
    split at h
    · cases h
    · obtain ⟨fs, hfs, rfl⟩ := Option.map_eq_some_iff.1 h
      refine ⟨Keyed.nodup_keys_ofEntries fs, fieldsWellKeyed_iff.2 fun f hf => ?_⟩
      exact fieldsWellKeyed_iff.1 (fieldValues?_wellKeyed (levels - 1) fields fs hfs) f (Keyed.mem_of_mem_ofEntries hf)

theorem values?_wellKeyed :
    ∀ (levels : Nat) (rs : List Raw) (vs : List Value), Raw.values? levels rs = some vs → ItemsWellKeyed vs
  | levels, [], vs, h => by cases h; trivial
  | levels, r :: rs, vs, h => by
    simp only [Raw.values?, Option.pure_def, Option.bind_eq_bind, Option.bind_eq_some_iff, Option.some.injEq] at h
    obtain ⟨v, hv, ws, hws, rfl⟩ := h
    exact ⟨value?_wellKeyed levels r v hv, values?_wellKeyed levels rs ws hws⟩

theorem fieldValues?_wellKeyed : ∀ (levels : Nat) (rs : List (String × Raw)) (fs : List (String × Value)),
    Raw.fieldValues? levels rs = some fs → FieldsWellKeyed fs
  | levels, [], fs, h => by cases h; trivial
  | levels, (k, r) :: rs, fs, h => by
    simp only [Raw.fieldValues?, Option.pure_def, Option.bind_eq_bind, Option.bind_eq_some_iff,
      Option.some.injEq] at h
    obtain ⟨v, hv, gs, hgs, rfl⟩ := h
    exact ⟨value?_wellKeyed levels r v hv, fieldValues?_wellKeyed levels rs gs hgs⟩

end

namespace Decoder

/-! ### Decoders -/

/-- Whatever the decoder accepts has `P`. -/
def Decodes {α : Type} (P : α → Prop) (part : Decoder α) : Prop :=
  ∀ levels raw a, part levels raw = some a → P a

section Decodes

variable {α : Type} {P : α → Prop} {part : Decoder α}

theorem mem_of_mapM_eq_some {β : Type} {f : α → Option β} {as : List α} {bs : List β} (h : as.mapM f = some bs) :
    ∀ b ∈ bs, ∃ a ∈ as, f a = some b := by
  induction as generalizing bs with
  | nil =>
    cases h
    simp
  | cons a as ih =>
    simp only [List.mapM_cons, Option.pure_def, Option.bind_eq_bind, Option.bind_eq_some_iff,
      Option.some.injEq] at h
    obtain ⟨b, hb, cs, hcs, rfl⟩ := h
    intro c hc
    rcases List.mem_cons.1 hc with rfl | hc
    · exact ⟨a, List.mem_cons_self, hb⟩
    · obtain ⟨a', ha', h'⟩ := ih hcs c hc
      exact ⟨a', List.mem_cons_of_mem _ ha', h'⟩

theorem decodes_list (h : Decodes P part) : Decodes (fun as => ∀ a ∈ as, P a) (list part) := by
  intro levels raw as has a ha
  match levels, raw, has with
  | levels + 1, .array items, has =>
    obtain ⟨r, -, hr⟩ := mem_of_mapM_eq_some has a ha
    exact h levels r a hr

theorem decodes_keyed (h : Decodes P part) :
    Decodes (fun m : Keyed α => (Keyed.keys m).Nodup ∧ ∀ e ∈ m, P e.2) (keyed part) := by
  intro levels raw m hm
  match levels, raw, hm with
  | levels + 1, .object fields, hm =>
    simp only [keyed, Option.pure_def, Option.bind_eq_bind, Option.bind_eq_some_iff, Option.some.injEq] at hm
    obtain ⟨entries, hentries, rfl⟩ := hm
    refine ⟨Keyed.nodup_keys_ofEntries entries, fun e he => ?_⟩
    obtain ⟨⟨k, r⟩, -, hr⟩ := mem_of_mapM_eq_some hentries e (Keyed.mem_of_mem_ofEntries he)
    obtain ⟨a, ha, hea⟩ := Option.bind_eq_some_iff.1 hr
    cases hea
    exact h levels r a ha

variable {fields : Keyed Raw} {levels : Nat} {name : String}

theorem decodes_withDefault {default : α} (h : Decodes P part) (hdefault : P default) {a : α}
    (ha : withDefault part default fields levels name = some a) : P a := by
  unfold withDefault at ha
  split at ha
  · exact h levels _ a ha
  · cases ha
    exact hdefault

theorem decodes_entries (h : Decodes P part) {m : Keyed α}
    (hm : withDefault (keyed part) [] fields levels name = some m) : ∀ e ∈ m, P e.2 :=
  (decodes_withDefault (decodes_keyed h) ⟨by simp [Keyed.keys], by simp⟩ hm).2

theorem decodes_keys {m : Keyed α} (hm : withDefault (keyed part) [] fields levels name = some m) :
    (Keyed.keys m).Nodup := by
  have any : Decodes (fun _ => True) part := fun _ _ _ _ => trivial
  exact (decodes_withDefault (decodes_keyed any) ⟨by simp [Keyed.keys], by simp⟩ hm).1

theorem decodes_optional (h : Decodes P part) {o : Option α} (ho : optional part fields levels name = some o) :
    ∀ a, o = some a → P a := by
  refine decodes_withDefault (P := fun o : Option α => ∀ a, o = some a → P a) (fun levels raw o ho a hoa => ?_)
    (by simp) ho
  unfold nullable at ho
  split at ho
  · cases ho
    cases hoa
  · obtain ⟨b, hb, rfl⟩ := Option.map_eq_some_iff.1 ho
    cases hoa
    exact h _ _ _ hb

theorem decodes_present (h : Decodes P part) {o : Option α} (ho : present part fields levels name = some o) :
    ∀ a, o = some a → P a := by
  intro a hoa
  unfold present at ho
  split at ho
  · obtain ⟨b, hb, rfl⟩ := Option.map_eq_some_iff.1 ho
    cases hoa
    exact h _ _ _ hb
  · cases ho
    cases hoa

end Decodes

end Decoder

end Typeforge.Json

namespace Typeforge.Schema

open Json Decoder

/-! ### Nodes -/

theorem Attributes.decode_wellKeyed {fields : Keyed Raw} {levels : Nat} {a : Attributes}
    (h : Attributes.decode fields levels = some a) : a.WellKeyed := by
  have values : Decodes Value.WellKeyed value := value?_wellKeyed
  unfold Attributes.decode at h
  -- only the constant and the default hold values; the fields before and after them are read in order
  iterate 14 obtain ⟨_, -, h⟩ := Option.bind_eq_some_iff.1 h
  obtain ⟨const, hconst, h⟩ := Option.bind_eq_some_iff.1 h
  obtain ⟨default, hdefault, h⟩ := Option.bind_eq_some_iff.1 h
  iterate 4 obtain ⟨_, -, h⟩ := Option.bind_eq_some_iff.1 h
  cases h
  exact ⟨decodes_present values hconst, decodes_present values hdefault⟩

/-- The nodes in the items and properties of a node are decoded two levels down. -/
def Node.decodeBelow : Decoder Node
  | 0 => fun _ => none
  | below + 1 => Node.decode below

theorem Node.decode_succ (levels : Nat) (raw : Raw) : Node.decode (levels + 1) raw =
    (fields? Node.fieldNames .ignored raw).bind fun fields =>
      if shorterThan Node.fieldNames.length raw then none
      else (Attributes.decode fields levels).bind fun attributes =>
        (optional (list fun _ => Node.decodeBelow levels) fields levels "items").bind fun items =>
          (optional (keyed fun _ => Node.decodeBelow levels) fields levels "properties").bind fun properties =>
            (optional (fun _ => Node.decode levels) fields levels "additionalProperties").bind fun additional =>
              some { attributes with items, properties, additional } := by
  cases levels <;> rfl

theorem Node.decode_wellKeyed : Decodes Node.WellKeyed Node.decode := by
  intro levels
  induction levels using Nat.strongRecOn with
  | _ levels ih =>
    intro raw n h
    match levels, h with
    | levels + 1, h =>
      rw [Node.decode_succ] at h
      obtain ⟨fields, -, h⟩ := Option.bind_eq_some_iff.1 h
      split at h
      · cases h
      simp only [Option.bind_eq_some_iff, Option.some.injEq] at h
      obtain ⟨a, ha, items, hitems, properties, hproperties, additional, hadditional, rfl⟩ := h
      have below : Decodes Node.WellKeyed fun _ => Node.decodeBelow levels := by
        intro _ raw m hm
        match levels, ih, hm with
        | below + 1, ih, hm => exact ih below (by omega) raw m hm
      have next : Decodes Node.WellKeyed fun _ => Node.decode levels := fun _ => ih levels (by omega)
      have hps := decodes_optional (decodes_keyed below) hproperties
      refine Node.WellKeyed.of_parts ?_ (Attributes.decode_wellKeyed ha) ?_ ?_ (decodes_optional next hadditional)
      · cases properties with
        | none => exact List.nodup_nil
        | some ps => exact (hps ps rfl).1
      · cases items with
        | none => simp [Node.itemList]
        | some ns => exact decodes_optional (decodes_list below) hitems ns rfl
      · cases properties with
        | none => simp [Node.propertyList]
        | some ps => exact (hps ps rfl).2

/-! ### Documents -/

theorem wellKeyed_default : ({} : Node).WellKeyed :=
  Node.WellKeyed.of_parts List.nodup_nil ⟨by simp, by simp⟩ (by simp [Node.itemList]) (by simp [Node.propertyList])
    (by simp)

theorem Parameter.decode_wellKeyed : Decodes (fun p => p.schema.WellKeyed) Parameter.decode := by
  intro levels raw p h
  match levels, h with
  | levels + 1, h =>
    simp only [Parameter.decode, Option.pure_def, Option.bind_eq_bind, Option.bind_eq_some_iff,
      Option.some.injEq] at h
    obtain ⟨_, -, _, -, _, -, _, -, schema, hschema, rfl⟩ := h
    exact decodes_withDefault Node.decode_wellKeyed wellKeyed_default hschema

theorem RequestBody.decode_wellKeyed : Decodes (fun b => b.schema.WellKeyed) RequestBody.decode := by
  intro levels raw b h
  match levels, h with
  | levels + 1, h =>
    simp only [RequestBody.decode, Option.pure_def, Option.bind_eq_bind, Option.bind_eq_some_iff,
      Option.some.injEq] at h
    obtain ⟨_, -, _, -, schema, hschema, rfl⟩ := h
    exact decodes_withDefault Node.decode_wellKeyed wellKeyed_default hschema

theorem Operation.decode_wellKeyed : Decodes (fun o => ∀ n ∈ o.nodes, n.WellKeyed) Operation.decode := by
  intro levels raw o h
  match levels, h with
  | levels + 1, h =>
    simp only [Operation.decode, Option.pure_def, Option.bind_eq_bind, Option.bind_eq_some_iff] at h
    obtain ⟨fields, -, h⟩ := h
    split at h
    · cases h
    simp only [Option.bind_eq_some_iff, Option.some.injEq] at h
    obtain ⟨_, -, _, -, _, -, _, -, _, -, _, -, parameters, hparameters, body, hbody, response, hresponse, rfl⟩ := h
    have hps := decodes_withDefault (decodes_list Parameter.decode_wellKeyed) (by simp) hparameters
    have hb := decodes_optional RequestBody.decode_wellKeyed hbody
    have hr := decodes_optional Node.decode_wellKeyed hresponse
    intro n hn
    simp only [Operation.nodes, List.mem_append, List.mem_map, Option.mem_toList, Option.map_eq_some_iff] at hn
    rcases hn with (⟨p, hp, rfl⟩ | ⟨b, hb', rfl⟩) | hn
    · exact hps p hp
    · exact hb b hb'
    · exact hr n hn

theorem Components.decode_wellKeyed : Decodes (fun c => ∀ n ∈ c.nodes, n.WellKeyed) Components.decode := by
  intro levels raw c h
  match levels, h with
  | levels + 1, h =>
    simp only [Components.decode, Option.pure_def, Option.bind_eq_bind, Option.bind_eq_some_iff,
      Option.some.injEq] at h
    obtain ⟨_, -, schemas, hschemas, parameters, hparameters, bodies, hbodies, rfl⟩ := h
    have hs := decodes_entries Node.decode_wellKeyed hschemas
    have hp := decodes_entries Parameter.decode_wellKeyed hparameters
    have hb := decodes_entries RequestBody.decode_wellKeyed hbodies
    intro n hn
    simp only [Components.nodes, List.mem_append, List.mem_map] at hn
    rcases hn with (⟨e, he, rfl⟩ | ⟨e, he, rfl⟩) | ⟨e, he, rfl⟩
    · exact hs e he
    · exact hp e he
    · exact hb e he

structure Components.Distinct (c : Components) : Prop where
  schemas : (Keyed.keys c.schemas).Nodup
  parameters : (Keyed.keys c.parameters).Nodup
  requestBodies : (Keyed.keys c.requestBodies).Nodup

theorem Components.decode_distinct : Decodes Components.Distinct Components.decode := by
  intro levels raw c h
  match levels, h with
  | levels + 1, h =>
    simp only [Components.decode, Option.pure_def, Option.bind_eq_bind, Option.bind_eq_some_iff,
      Option.some.injEq] at h
    obtain ⟨_, -, schemas, hschemas, parameters, hparameters, bodies, hbodies, rfl⟩ := h
    exact ⟨decodes_keys hschemas, decodes_keys hparameters, decodes_keys hbodies⟩

/-- **Every schema of a decoded document has distinct keys**, however deep one looks. -/
theorem Document.decode_wellKeyed : Decodes (fun d => ∀ n ∈ d.nodes, n.WellKeyed) Document.decode := by
  intro levels raw d h
  match levels, h with
  | levels + 1, h =>
    simp only [Document.decode, Option.pure_def, Option.bind_eq_bind, Option.bind_eq_some_iff,
      Option.some.injEq] at h
    obtain ⟨_, -, components, hcomponents, operations, hoperations, rfl⟩ := h
    have hc := decodes_withDefault Components.decode_wellKeyed (by simp [Components.nodes]) hcomponents
    have ho := decodes_withDefault (decodes_list Operation.decode_wellKeyed) (by simp) hoperations
    intro n hn
    rw [Document.nodes, List.mem_append, List.mem_flatMap] at hn
    rcases hn with hn | ⟨o, hmem, hn⟩
    · exact hc n hn
    · exact ho o hmem n hn

/-- **The components of a decoded document have distinct names.** -/
theorem Document.decode_distinct : Decodes (fun d => d.components.Distinct) Document.decode := by
  intro levels raw d h
  match levels, h with
  | levels + 1, h =>
    simp only [Document.decode, Option.pure_def, Option.bind_eq_bind, Option.bind_eq_some_iff,
      Option.some.injEq] at h
    obtain ⟨_, -, components, hcomponents, operations, -, rfl⟩ := h
    have hempty : ({} : Components).Distinct := ⟨List.nodup_nil, List.nodup_nil, List.nodup_nil⟩
    exact decodes_withDefault Components.decode_distinct hempty hcomponents

end Typeforge.Schema
