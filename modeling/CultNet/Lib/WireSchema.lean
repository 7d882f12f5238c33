/-
Published schemas over MessagePack values.

A schema of objects lists what may stand under each name and which names must be
there, and is closed: an object with another name is no instance, and what is there
must be an instance of what is listed for it, so that `Nil` under an optional name
is not the same as nothing under it.  Scalars are judged by the keywords of
`JsonSchema`; a string whose runtime type is bytes travels as a byte string.

The records of `Serde` are objects of this kind.  Whether one is an instance is a
question about each of its fields.
-/
import CultNet.Lib.JsonMessagePack
import CultNet.Lib.JsonSchema
import Mathlib.Data.Rat.Cast.Order

open MessagePack (Value)

/-- A schema. -/
inductive WireSchema where
  | scalar (keywords : List JsonSchema.Keyword)
  /-- A string with `x-cult-runtime-type` bytes. -/
  | bytes
  | array (items : WireSchema)
  /-- An object with `additionalProperties` false. -/
  | object (required : List String) (properties : List (String × WireSchema))

namespace WireSchema

mutual

/-- The value is an instance of the schema. -/
def admits : WireSchema → Value → Bool
  | .scalar keywords, v => v.toJson.any fun j => JsonSchema.valid keywords j.json
  | .bytes, .binary _ => true
  | .array items, .array vs => vs.all fun v => admits items v
  | .object required properties, .map entries =>
    (required.all fun name => entries.any fun e => e.1.asStr == some name) &&
      entries.all fun e => e.1.asStr.any fun name => propertyAdmits properties name e.2
  | _, _ => false

/-- The value may stand under a name. -/
def propertyAdmits : List (String × WireSchema) → String → Value → Bool
  | [], _, _ => false
  | (name, schema) :: rest, name', v =>
    if name = name' then admits schema v else propertyAdmits rest name' v

end

/-! ### One schema at a time -/

@[simp] theorem admits_scalar (keywords : List JsonSchema.Keyword) (j : JsonValue) :
    (scalar keywords).admits j.toMessagePack = JsonSchema.valid keywords j.json := by
  rw [admits, JsonValue.toJson_toMessagePack, Option.any_some]

@[simp] theorem admits_array (items : WireSchema) (vs : List Value) :
    (array items).admits (.array vs) = vs.all fun v => items.admits v := by
  rw [admits]

@[simp] theorem not_admits_nil_array (items : WireSchema) : (array items).admits .nil = false := by
  rw [admits] <;> simp

@[simp] theorem admits_bytes (bytes : List UInt8) :
    WireSchema.bytes.admits (.binary bytes) = true := by
  rw [admits]

@[simp] theorem propertyAdmits_nil (name : String) (v : Value) :
    propertyAdmits [] name v = false := by
  rw [propertyAdmits]

@[simp] theorem propertyAdmits_cons (name name' : String) (schema : WireSchema)
    (rest : List (String × WireSchema)) (v : Value) :
    propertyAdmits ((name, schema) :: rest) name' v =
      if name = name' then schema.admits v else propertyAdmits rest name' v := by
  rw [propertyAdmits]

/-- A map from texts is an instance when the required names are there and each entry may stand
where it does. -/
theorem admits_map {required : List String} {properties : List (String × WireSchema)}
    {entries : List (String × Value)} :
    (object required properties).admits (.map (entries.map fun e => (.text e.1, e.2))) = true ↔
      (∀ name ∈ required, name ∈ entries.map Prod.fst) ∧
        ∀ e ∈ entries, propertyAdmits properties e.1 e.2 = true := by
  rw [admits]
  simp [List.all_eq_true]

/-! ### Records -/

variable {α : Type}

theorem toMessagePack_array (items : List JsonValue) :
    (JsonValue.array items).toMessagePack = .array (items.map JsonValue.toMessagePack) := by
  show Value.array (Json.itemsToMessagePack (items.map JsonValue.json)) = _
  congr 1
  induction items with
  | nil => rfl
  | cons item rest ih => exact congrArg (item.toMessagePack :: ·) ih

/-- A list is an instance when its items are. -/
theorem admits_list [Serde α] {items : WireSchema} {l : List α} :
    (array items).admits (JsonValue.toMessagePack (Serde.serialize l)) = true ↔
      ∀ a ∈ l, items.admits (JsonValue.toMessagePack (Serde.serialize a)) = true := by
  show (array items).admits (JsonValue.array (l.map Serde.serialize)).toMessagePack = true ↔ _
  rw [toMessagePack_array, admits_array]
  simp [List.all_eq_true]

/-- A field that is present may stand under its name. -/
def FieldAdmits (properties : List (String × WireSchema)) (f : String × Option JsonValue) : Prop :=
  ∀ j ∈ f.2, propertyAdmits properties f.1 j.toMessagePack = true

@[simp] theorem fieldAdmits_always [Serde α] {properties : List (String × WireSchema)}
    {name : String} {a : α} :
    FieldAdmits properties (Serde.always name a) ↔
      propertyAdmits properties name (JsonValue.toMessagePack (Serde.serialize a)) = true := by
  simp [FieldAdmits, Serde.always]

@[simp] theorem fieldAdmits_whenSome [Serde α] {properties : List (String × WireSchema)}
    {name : String} {a : Option α} :
    FieldAdmits properties (Serde.whenSome name a) ↔
      ∀ x ∈ a, propertyAdmits properties name (JsonValue.toMessagePack (Serde.serialize x)) =
        true := by
  simp [FieldAdmits, Serde.whenSome]

/-- A record is an instance when the required fields are present and every field that is
present may stand under its name. -/
theorem admits_record (record : Record α) {required : List String}
    {properties : List (String × WireSchema)} {a : α} :
    (object required properties).admits (record.serde.serialize a).toMessagePack = true ↔
      (∀ name ∈ required, ∃ j, (name, some j) ∈ record.fields a) ∧
        ∀ f ∈ record.fields a, FieldAdmits properties f := by
  have hnodup : ((Serde.present (record.fields a)).map Prod.fst).Nodup := by
    refine List.Nodup.sublist (Serde.names_present_sublist _) ?_
    rw [record.fields_names]
    exact record.nodup
  have hperm := Members.ofList_perm hnodup
  show (object required properties).admits
    (JsonValue.object (Serde.present (record.fields a))).toMessagePack = true ↔ _
  have hmap : (JsonValue.object (Serde.present (record.fields a))).toMessagePack =
      .map (((Members.ofList (Serde.present (record.fields a))).map fun m =>
        (m.1, m.2.toMessagePack)).map fun e => (.text e.1, e.2)) := by
    rw [JsonValue.toMessagePack_object, List.map_map]
    rfl
  rw [hmap, admits_map, List.forall_mem_map]
  refine and_congr (forall₂_congr fun name _ => ?_) ?_
  · rw [List.map_map]
    simp [hperm.mem_iff, Serde.mem_present]
  · constructor
    · intro h f hf j hj
      obtain ⟨name, value⟩ := f
      have hvalue : value = some j := hj
      subst hvalue
      exact h (name, j) (hperm.mem_iff.mpr (Serde.mem_present.mpr hf))
    · intro h m hm
      obtain ⟨name, j⟩ := m
      exact h (name, some j) (Serde.mem_present.mp (hperm.mem_iff.mp hm)) j rfl

/-! ### Scalars that schemas often ask for -/

@[simp] theorem admits_const {value text : String} :
    (scalar [.const (.string value)]).admits (.text text) = true ↔ value = text := by
  show (scalar _).admits (JsonValue.string text).toMessagePack = true ↔ _
  rw [admits_scalar]
  show JsonSchema.valid _ (.string text) = true ↔ _
  simp [JsonSchema.Literal.is]

/-- A string that is not empty. -/
def nonEmptyString : WireSchema := .scalar [.type [.string], .minLength 1]

/-- An integer that is at least one. -/
def positiveInteger : WireSchema := .scalar [.type [.integer], .minimum 1]

@[simp] theorem not_admits_nil_nonEmptyString : nonEmptyString.admits .nil = false := by
  show nonEmptyString.admits JsonValue.null.toMessagePack = false
  rw [nonEmptyString, admits_scalar]
  rfl

/-- One of these names. -/
def enumeration (names : List String) : WireSchema :=
  .scalar [.type [.string], .enum (names.map .string)]

theorem admits_enumeration [Enumeration α] {names : List String} {a : α} :
    (enumeration names).admits ((Enumeration.serde α).serialize a).toMessagePack = true ↔
      Enumeration.name a ∈ names := by
  show (enumeration names).admits (JsonValue.string (Enumeration.name a)).toMessagePack = true ↔ _
  rw [enumeration, admits_scalar]
  show JsonSchema.valid _ (.string (Enumeration.name a)) = true ↔ _
  simp [JsonSchema.JsonType.admits, JsonSchema.Literal.is]

@[simp] theorem admits_nonEmptyString {text : String} :
    nonEmptyString.admits (.text text) = true ↔ text ≠ "" := by
  show nonEmptyString.admits (JsonValue.string text).toMessagePack = true ↔ _
  rw [nonEmptyString, admits_scalar]
  show JsonSchema.valid _ (.string text) = true ↔ _
  simp [JsonSchema.JsonType.admits, Nat.one_le_iff_ne_zero]

theorem admits_positiveInteger {n : UInt64} :
    positiveInteger.admits (JsonValue.toMessagePack (.number (.posInt n))) = true ↔ n ≠ 0 := by
  rw [positiveInteger, admits_scalar]
  show JsonSchema.valid _ (.number (.posInt n)) = true ↔ _
  simp [JsonSchema.JsonType.admits, JsonNumber.value, Nat.one_le_iff_ne_zero, ← UInt64.toNat_inj]

theorem admits_positiveInteger_u32 {n : UInt32} :
    positiveInteger.admits (JsonValue.toMessagePack (Serde.serialize n)) = true ↔ n ≠ 0 := by
  refine admits_positiveInteger.trans (not_congr ?_)
  simp [← UInt64.toNat_inj, ← UInt32.toNat_inj]

end WireSchema
