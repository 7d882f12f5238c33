/-
How deep the values of a type nest.

A reader of MessagePack follows the nesting of a value down to some depth.  The depth
of what a type is written as has a bound, which is put together like the type: a list
adds one to the bound of its items, and a record or a union one to those of its
fields.
-/
import CultNet.Lib.JsonMessagePack
import CultNet.Lib.MessagePackBytes

open MessagePack (Value)

/-! ### JSON values -/

/-- How many containers a JSON value is nested in at most, as a MessagePack value. -/
def JsonValue.wireDepth (j : JsonValue) : Nat := j.toMessagePack.depth

namespace MessagePack.Value

theorem itemsDepth_le {items : List Value} {k : Nat} (h : ∀ item ∈ items, item.depth ≤ k) :
    itemsDepth items ≤ k := by
  induction items with
  | nil => exact Nat.zero_le k
  | cons item rest ih =>
      have hrest := ih fun other hother => h other (List.mem_cons_of_mem _ hother)
      exact Nat.max_le.mpr ⟨h item List.mem_cons_self, hrest⟩

theorem entriesDepth_le {entries : List (Value × Value)} {k : Nat}
    (h : ∀ entry ∈ entries, entry.1.depth ≤ k ∧ entry.2.depth ≤ k) :
    entriesDepth entries ≤ k := by
  induction entries with
  | nil => exact Nat.zero_le k
  | cons entry rest ih =>
      obtain ⟨key, value⟩ := entry
      obtain ⟨hkey, hvalue⟩ : key.depth ≤ k ∧ value.depth ≤ k := h (key, value) List.mem_cons_self
      have hrest := ih fun other hother => h other (List.mem_cons_of_mem _ hother)
      exact Nat.max_le.mpr ⟨Nat.max_le.mpr ⟨hkey, hvalue⟩, hrest⟩

end MessagePack.Value

namespace JsonValue

@[simp] theorem wireDepth_string (s : String) : (JsonValue.string s).wireDepth = 0 := rfl
@[simp] theorem wireDepth_bool (b : Bool) : (JsonValue.bool b).wireDepth = 0 := rfl
@[simp] theorem wireDepth_posInt (n : UInt64) :
    (JsonValue.number (.posInt n)).wireDepth = 0 := rfl

theorem wireDepth_array_le {items : List JsonValue} {k : Nat}
    (h : ∀ item ∈ items, item.wireDepth ≤ k) : (JsonValue.array items).wireDepth ≤ k + 1 := by
  show Value.itemsDepth (Json.itemsToMessagePack (items.map JsonValue.json)) + 1 ≤ k + 1
  have heq : Json.itemsToMessagePack (items.map JsonValue.json)
      = items.map JsonValue.toMessagePack := by
    induction items with
    | nil => rfl
    | cons item rest ih =>
        exact congrArg (item.toMessagePack :: ·)
          (ih fun other hother => h other (List.mem_cons_of_mem _ hother))
  rw [heq]
  refine Nat.succ_le_succ (Value.itemsDepth_le ?_)
  intro value hvalue
  obtain ⟨item, hitem, rfl⟩ := List.mem_map.mp hvalue
  exact h item hitem

end JsonValue

theorem JsonValue.wireDepth_object_le {members : List (String × JsonValue)} {k : Nat}
    (hnodup : (members.map Prod.fst).Nodup) (h : ∀ m ∈ members, m.2.wireDepth ≤ k) :
    (JsonValue.object members).wireDepth ≤ k + 1 := by
  unfold wireDepth
  rw [JsonValue.toMessagePack_object]
  refine Nat.succ_le_succ (Value.entriesDepth_le ?_)
  intro entry hentry
  obtain ⟨m, hm, rfl⟩ := List.mem_map.mp hentry
  exact ⟨Nat.zero_le k, h m ((Members.ofList_perm hnodup).mem_iff.mp hm)⟩

/-! ### Types -/

namespace Serde

/-- What a type is written as nests so deep at most. -/
def DepthAtMost (α : Type) [Serde α] (k : Nat) : Prop :=
  ∀ a : α, (serialize a).wireDepth ≤ k

variable {α : Type} {k : Nat}

theorem depthAtMost_string : DepthAtMost String 0 := fun _ => Nat.le_refl 0

theorem depthAtMost_bool : DepthAtMost Bool 0 := fun _ => Nat.le_refl 0

theorem depthAtMost_uint64 : DepthAtMost UInt64 0 := fun _ => Nat.le_refl 0

theorem depthAtMost_uint32 : DepthAtMost UInt32 0 := fun _ => Nat.le_refl 0

theorem depthAtMost_uint16 : DepthAtMost UInt16 0 := fun _ => Nat.le_refl 0

theorem DepthAtMost.mono [Serde α] (h : DepthAtMost α k) {l : Nat} (hle : k ≤ l) :
    DepthAtMost α l :=
  fun a => Nat.le_trans (h a) hle

theorem DepthAtMost.list [Serde α] (h : DepthAtMost α k) : DepthAtMost (List α) (k + 1) := by
  intro l
  refine JsonValue.wireDepth_array_le ?_
  intro item hitem
  obtain ⟨a, -, rfl⟩ := List.mem_map.mp hitem
  exact h a

theorem depthAtMost_bytes : DepthAtMost (List UInt8) 1 := by
  intro bytes
  refine JsonValue.wireDepth_array_le ?_
  intro item hitem
  obtain ⟨b, -, rfl⟩ := List.mem_map.mp hitem
  exact Nat.le_refl 0

/-- A field that is written nests so deep at most. -/
def FieldAtMost (k : Nat) (field : String × Option JsonValue) : Prop :=
  ∀ j, field.2 = some j → j.wireDepth ≤ k

theorem DepthAtMost.always [Serde α] (h : DepthAtMost α k) (name : String) (a : α) :
    FieldAtMost k (always name a) := by
  intro j hj
  rw [← Option.some.inj hj]
  exact h a

theorem DepthAtMost.whenSome [Serde α] (h : DepthAtMost α k) (name : String) (a : Option α) :
    FieldAtMost k (whenSome name a) := by
  intro j hj
  obtain ⟨a, -, rfl⟩ := Option.map_eq_some_iff.mp hj
  exact h a

theorem FieldAtMost.mono {field : String × Option JsonValue} (h : FieldAtMost k field) {l : Nat}
    (hle : k ≤ l) : FieldAtMost l field :=
  fun j hj => Nat.le_trans (h j hj) hle

/-- An object of the fields that are present. -/
theorem wireDepth_present_le {fields : List (String × Option JsonValue)}
    (hnodup : (fields.map Prod.fst).Nodup) (h : ∀ f ∈ fields, FieldAtMost k f) :
    (JsonValue.object (present fields)).wireDepth ≤ k + 1 := by
  refine JsonValue.wireDepth_object_le (hnodup.sublist (names_present_sublist fields)) ?_
  intro m hm
  exact h (m.1, some m.2) (mem_present.mp hm) m.2 rfl

end Serde

open Serde (DepthAtMost FieldAtMost)

theorem Enumeration.depthAtMost {α : Type} [Enumeration α] :
    @DepthAtMost α (Enumeration.serde α) 0 := fun _ => Nat.le_refl 0

theorem Record.depthAtMost {α : Type} (record : Record α) {k : Nat}
    (h : ∀ a, ∀ f ∈ record.fields a, FieldAtMost k f) : @DepthAtMost α record.serde (k + 1) := by
  intro a
  exact Serde.wireDepth_present_le (by rw [record.fields_names]; exact record.nodup) (h a)

theorem Tagged.wireDepth_le {α Tag : Type} [Enumeration Tag] (union : Tagged α Tag) {k : Nat}
    {a : α} (h : ∀ f ∈ union.fields a, FieldAtMost k f) :
    (JsonValue.object (union.entries a)).wireDepth ≤ k + 1 := by
  rw [union.entries_eq]
  refine Serde.wireDepth_present_le (union.nodup_entries a) ?_
  intro f hf
  rcases List.mem_cons.mp hf with rfl | hf
  · intro j hj
    rw [← Option.some.inj hj]
    exact Nat.zero_le k
  · exact h f hf
