/-
Types as JSON values, the way a derived serializer and deserializer treat them.

A record is an object with one member for each field that is present; it is read
back from an object, in which other members do not matter, or from an array of its
fields in order.  A member that is absent or null is an absent field.  An
enumeration is the name of its value.  A tagged union is a record with one more
member, first, that names the variant.

Reading back what was written gives what was written.  That is a field of every
structure here, so a record or a union is described by its fields and the rest
follows.
-/
import CultNet.Lib.Fallible
import CultNet.Lib.Json
import Mathlib.Data.List.Nodup

/-- How a type is written as a JSON value and read from one. -/
class Serde (α : Type) where
  serialize : α → JsonValue
  deserialize : JsonValue → Option α
  deserialize_serialize : ∀ a, deserialize (serialize a) = some a

attribute [simp] Serde.deserialize_serialize

def JsonValue.isNull (j : JsonValue) : Bool :=
  match j.json with
  | .null => true
  | _ => false

/-- No value of the type is written as `null`, which is what an absent one is read from. -/
class NonNull (α : Type) [Serde α] : Prop where
  isNull_serialize : ∀ a : α, (Serde.serialize a).isNull = false

namespace Serde

variable {α : Type}

/-! ### Basic types -/

instance : Serde JsonValue where
  serialize := id
  deserialize := some
  deserialize_serialize _ := rfl

instance : Serde String where
  serialize := JsonValue.string
  deserialize j :=
    match j.view with
    | .string s => some s
    | _ => none
  deserialize_serialize _ := rfl

instance : NonNull String := ⟨fun _ => rfl⟩

instance : Serde Bool where
  serialize := JsonValue.bool
  deserialize j :=
    match j.view with
    | .bool b => some b
    | _ => none
  deserialize_serialize _ := rfl

instance : NonNull Bool := ⟨fun _ => rfl⟩

/-- An unsigned integer, from a number that is one. -/
def unsigned (j : JsonValue) : Option UInt64 :=
  match j.view with
  | .number (.posInt n) => some n
  | _ => none

@[simp] theorem unsigned_number (n : UInt64) :
    unsigned (JsonValue.number (.posInt n)) = some n := rfl

instance : Serde UInt64 where
  serialize n := .number (.posInt n)
  deserialize := unsigned
  deserialize_serialize _ := rfl

instance : NonNull UInt64 := ⟨fun _ => rfl⟩

instance : Serde UInt32 where
  serialize n := .number (.posInt n.toUInt64)
  deserialize j :=
    (unsigned j).bind fun n => if n.toNat < 2 ^ 32 then some n.toUInt32 else none
  deserialize_serialize n := by
    have := n.toNat_lt
    rw [unsigned_number, Option.bind_some, if_pos (by simpa using this), UInt32.toUInt32_toUInt64]

instance : NonNull UInt32 := ⟨fun _ => rfl⟩

instance : Serde UInt16 where
  serialize n := .number (.posInt n.toUInt64)
  deserialize j :=
    (unsigned j).bind fun n => if n.toNat < 2 ^ 16 then some n.toUInt16 else none
  deserialize_serialize n := by
    have := n.toNat_lt
    rw [unsigned_number, Option.bind_some, if_pos (by simpa using this), UInt16.toUInt16_toUInt64]

instance : NonNull UInt16 := ⟨fun _ => rfl⟩

/-! ### Lists -/

instance [Serde α] : Serde (List α) where
  serialize l := .array (l.map serialize)
  deserialize j :=
    match j.view with
    | .array items => items.mapM deserialize
    | _ => none
  deserialize_serialize l := by
    rw [JsonValue.view_array]
    exact Fallible.mapM_map_of_leftInverse deserialize_serialize l

instance [Serde α] : NonNull (List α) := ⟨fun _ => rfl⟩

/-- A byte string: an array of numbers, and read from a text as well. -/
instance : Serde (List UInt8) where
  serialize l := .array (l.map fun b => .number (.posInt b.toUInt64))
  deserialize j :=
    match j.view with
    | .array items =>
      items.mapM fun item =>
        (unsigned item).bind fun n => if n.toNat < 2 ^ 8 then some n.toUInt8 else none
    | .string s => some s.toUTF8.data.toList
    | _ => none
  deserialize_serialize l := by
    rw [JsonValue.view_array]
    refine Fallible.mapM_map_of_leftInverse (fun b => ?_) l
    have := b.toNat_lt
    rw [unsigned_number, Option.bind_some, if_pos (by simpa using this), UInt8.toUInt8_toUInt64]
    rfl

end Serde

/-! ### Enumerations -/

/-- A finite type whose values have names. -/
class Enumeration (α : Type) where
  all : List α
  name : α → String
  find_name : ∀ a, all.find? (fun b => name b == name a) = some a

namespace Enumeration

variable {α : Type} [Enumeration α]

/-- The value of a name. -/
def ofName (s : String) : Option α := all.find? fun a => name a == s

@[simp] theorem ofName_name (a : α) : ofName (name a) = some a := find_name a

theorem name_injective {a b : α} (h : name a = name b) : a = b := by
  have ha := ofName_name a
  rw [h, ofName_name b] at ha
  exact (Option.some.inj ha).symm

end Enumeration

/-- The value a unit variant may carry when it is written as an object. -/
def JsonValue.isUnit (j : JsonValue) : Bool :=
  match j.json with
  | .null => true
  | .object [] => true
  | _ => false

/-- An enumeration is written as the name of its value. -/
@[reducible]
def Enumeration.serde (α : Type) [Enumeration α] : Serde α where
  serialize a := .string (Enumeration.name a)
  deserialize j :=
    match j.view with
    | .string s => Enumeration.ofName s
    | .object [(s, value)] => if value.isUnit then Enumeration.ofName s else none
    | _ => none
  deserialize_serialize a := Enumeration.ofName_name a

/-! ### Records -/

namespace Serde

variable {α : Type}

/-- A field that must be present. -/
def required [Serde α] (get : String → Option JsonValue) (name : String) : Option α :=
  (get name).bind deserialize

/-- A field that may be absent, or null. -/
def optional [Serde α] (get : String → Option JsonValue) (name : String) : Option (Option α) :=
  match get name with
  | none => some none
  | some j => if j.isNull then some none else (deserialize j).map some

/-- A field that is always written. -/
def always [Serde α] (name : String) (a : α) : String × Option JsonValue :=
  (name, some (serialize a))

/-- A field that is written when it is present. -/
def whenSome [Serde α] (name : String) (a : Option α) : String × Option JsonValue :=
  (name, a.map serialize)

theorem required_of_always [Serde α] {get : String → Option JsonValue} {name : String} {a : α}
    (h : get (always name a).1 = (always name a).2) : required get name = some a := by
  have h : get name = some (serialize a) := h
  rw [required, h, Option.bind_some, deserialize_serialize]

theorem optional_of_whenSome [Serde α] [NonNull α] {get : String → Option JsonValue}
    {name : String} {a : Option α} (h : get (whenSome name a).1 = (whenSome name a).2) :
    optional get name = some a := by
  have h : get name = a.map serialize := h
  unfold optional
  rw [h]
  cases a with
  | none => rfl
  | some a => simp [NonNull.isNull_serialize]

/-- The fields that are present. -/
def present (fields : List (String × Option JsonValue)) : List (String × JsonValue) :=
  fields.filterMap fun f => f.2.map (f.1, ·)

/-- What stands under each name of a record: in an object, or in an array by position. -/
def members (names : List String) (j : JsonValue) : Option (String → Option JsonValue) :=
  match j.view with
  | .object members => some fun name => members.lookup name
  | .array items =>
    if items.length ≤ names.length then some fun name => (names.zip items).lookup name else none
  | _ => none

theorem present_cons (f : String × Option JsonValue) (fields : List (String × Option JsonValue)) :
    present (f :: fields) = (f.2.map (f.1, ·)).toList ++ present fields := by
  obtain ⟨name, value⟩ := f
  cases value <;> rfl

theorem mem_present {fields : List (String × Option JsonValue)} {name : String}
    {value : JsonValue} : (name, value) ∈ present fields ↔ (name, some value) ∈ fields := by
  simp only [present, List.mem_filterMap, Option.map_eq_some_iff, Prod.mk.injEq]
  constructor
  · rintro ⟨⟨n, v⟩, hf, j, rfl, rfl, rfl⟩
    exact hf
  · intro h
    exact ⟨_, h, value, rfl, rfl, rfl⟩

theorem names_present_sublist (fields : List (String × Option JsonValue)) :
    ((present fields).map Prod.fst).Sublist (fields.map Prod.fst) := by
  induction fields with
  | nil => exact List.Sublist.refl _
  | cons f rest ih =>
      rw [present_cons]
      obtain ⟨name, value⟩ := f
      cases value with
      | none => exact ih.cons _
      | some j => exact ih.cons_cons _

/-- In an object of the present fields, each field is found as it was. -/
theorem lookup_present {fields : List (String × Option JsonValue)}
    (hnodup : (fields.map Prod.fst).Nodup) {f : String × Option JsonValue} (hf : f ∈ fields) :
    (Members.ofList (present fields)).lookup f.1 = f.2 := by
  have hpresent := hnodup.sublist (names_present_sublist fields)
  obtain ⟨name, value⟩ := f
  cases value with
  | some j => exact Members.lookup_foldl_of_mem hpresent (mem_present.mpr hf) []
  | none =>
      refine Members.lookup_foldl_of_notMem ?_ []
      intro hmem
      obtain ⟨⟨n, j⟩, hj, rfl⟩ := List.mem_map.mp hmem
      have heq := List.inj_on_of_nodup_map hnodup hf (mem_present.mp hj) rfl
      cases heq

end Serde

/-- A record type: its fields in order, and how it is put together from them. -/
structure Record (α : Type) where
  names : List String
  nodup : names.Nodup
  fields : α → List (String × Option JsonValue)
  fields_names : ∀ a, (fields a).map Prod.fst = names
  read : (String → Option JsonValue) → Option α
  read_fields : ∀ a get, (∀ f ∈ fields a, get f.1 = f.2) → read get = some a

/-- The derived form of a record. -/
@[reducible]
def Record.serde {α : Type} (record : Record α) : Serde α where
  serialize a := .object (Serde.present (record.fields a))
  deserialize j := (Serde.members record.names j).bind record.read
  deserialize_serialize a := by
    unfold Serde.members
    rw [JsonValue.view_object]
    exact record.read_fields a _ fun f hf =>
      Serde.lookup_present (by rw [record.fields_names]; exact record.nodup) hf

/-- A union type, with its tag as one more member of every variant. -/
structure Tagged (α Tag : Type) [Enumeration Tag] where
  key : String
  tag : α → Tag
  names : Tag → List String
  nodup : ∀ t, (key :: names t).Nodup
  fields : α → List (String × Option JsonValue)
  fields_names : ∀ a, (fields a).map Prod.fst = names (tag a)
  read : Tag → (String → Option JsonValue) → Option α
  read_fields : ∀ a get, (∀ f ∈ fields a, get f.1 = f.2) → read (tag a) get = some a

namespace Tagged

variable {α Tag : Type} [Enumeration Tag] (union : Tagged α Tag)

/-- The members of a value: the tag, then the fields that are present. -/
def entries (a : α) : List (String × JsonValue) :=
  (union.key, .string (Enumeration.name (union.tag a))) :: Serde.present (union.fields a)

/-- The variant that a JSON value names. -/
def tagOf (j : JsonValue) : Option Tag :=
  match j.view with
  | .string s => Enumeration.ofName s
  | _ => none

/-- Read the fields of a variant where the tag was found. -/
def readVariant (tag : JsonValue) (fields : JsonValue) : Option α :=
  (tagOf tag).bind fun t => (Serde.members (union.names t) fields).bind (union.read t)

/-- Read a union: the tag is a member of an object, or the first item of an array. -/
def deserialize (j : JsonValue) : Option α :=
  match j.view with
  | .object members => (members.lookup union.key).bind fun tag => union.readVariant tag j
  | .array (tag :: items) => union.readVariant tag (.array items)
  | _ => none

theorem nodup_entries (a : α) :
    (((union.key, some (JsonValue.string (Enumeration.name (union.tag a)))) ::
      union.fields a).map Prod.fst).Nodup := by
  rw [List.map_cons, union.fields_names]
  exact union.nodup _

theorem entries_eq (a : α) : union.entries a =
    Serde.present ((union.key, some (.string (Enumeration.name (union.tag a)))) ::
      union.fields a) := by
  rw [Serde.present_cons]
  rfl

theorem deserialize_entries (a : α) : union.deserialize (.object (union.entries a)) = some a := by
  have hfind := fun f hf => Serde.lookup_present (union.nodup_entries a) (f := f) hf
  rw [union.entries_eq]
  unfold deserialize
  rw [JsonValue.view_object]
  simp only
  rw [hfind _ List.mem_cons_self, Option.bind_some, readVariant]
  have htag : tagOf (JsonValue.string (Enumeration.name (union.tag a))) = some (union.tag a) :=
    Enumeration.ofName_name _
  rw [htag, Option.bind_some]
  unfold Serde.members
  rw [JsonValue.view_object]
  exact union.read_fields a _ fun f hf => hfind f (List.mem_cons_of_mem _ hf)

/-- The derived form of a union. -/
@[reducible]
def serde : Serde α where
  serialize a := .object (union.entries a)
  deserialize := union.deserialize
  deserialize_serialize := union.deserialize_entries

end Tagged
