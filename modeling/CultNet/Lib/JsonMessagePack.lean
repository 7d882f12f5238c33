/-
JSON values as MessagePack values.

Every JSON value has a MessagePack value of the same shape: a number keeps its
kind, and an object becomes a map from texts.  Reading such a value back gives the
JSON value, which for an object rests on its members being in order.  A MessagePack
value of another kind (a byte string, an extension, a map with other keys) is not
read.
-/
import CultNet.Lib.Json
import CultNet.Lib.MessagePack
import CultNet.Lib.Serde

open MessagePack (Value Integer)

/-! ### Writing -/

def JsonNumber.toMessagePack : JsonNumber → Value
  | posInt value => .integer (.ofUInt64 value)
  | negInt value _ => .integer (.ofInt64 value)
  | float value => .f64 value.bits

mutual

def Json.toMessagePack : Json → Value
  | .null => .nil
  | .bool value => .boolean value
  | .number value => value.toMessagePack
  | .string value => .text value
  | .array items => .array (itemsToMessagePack items)
  | .object members => .map (membersToMessagePack members)

def Json.itemsToMessagePack : List Json → List Value
  | [] => []
  | item :: rest => item.toMessagePack :: itemsToMessagePack rest

def Json.membersToMessagePack : List (String × Json) → List (Value × Value)
  | [] => []
  | (key, value) :: rest => (.text key, value.toMessagePack) :: membersToMessagePack rest

end

/-- The MessagePack value of a JSON value. -/
def JsonValue.toMessagePack (j : JsonValue) : Value := j.json.toMessagePack

theorem Json.membersToMessagePack_eq (members : List (String × Json)) :
    membersToMessagePack members = members.map fun m => (.text m.1, m.2.toMessagePack) := by
  induction members with
  | nil => rfl
  | cons m rest ih => exact congrArg ((.text m.1, m.2.toMessagePack) :: ·) ih

theorem JsonValue.toMessagePack_object (members : List (String × JsonValue)) :
    (JsonValue.object members).toMessagePack =
      .map ((Members.ofList members).map fun m => (.text m.1, m.2.toMessagePack)) := by
  show Value.map (Json.membersToMessagePack _) = _
  rw [Json.membersToMessagePack_eq, List.map_map]
  rfl

/-! ### Reading -/

namespace MessagePack

theorem Integer.int64_neg {n : Integer} (h : n.val < 0) : Int64.ofInt n.val < 0 := by
  have := n.lower
  rw [Int64.lt_iff_toInt_lt, Int64.toInt_ofInt_of_le (by omega) (by omega)]
  exact h

/-- An integer as a JSON number. -/
def Integer.toJson (n : Integer) : JsonNumber :=
  if h : n.val < 0 then .negInt (Int64.ofInt n.val) (n.int64_neg h)
  else .posInt (UInt64.ofNat n.val.toNat)

mutual

/-- The JSON value that a MessagePack value stands for. -/
def Value.toJson : Value → Option JsonValue
  | .nil => some .null
  | .boolean value => some (.bool value)
  | .integer n => some (.number n.toJson)
  | .f64 bits =>
    if h : bits >>> 52 &&& 0x7FF ≠ 0x7FF then some (.number (.float ⟨bits, h⟩)) else some .null
  | .string (.valid text) => some (.string text)
  | .array items => (itemsToJson items).map JsonValue.array
  | .map entries => (entriesToJson entries).map JsonValue.object
  | _ => none

def Value.itemsToJson : List Value → Option (List JsonValue)
  | [] => some []
  | item :: rest => item.toJson.bind fun j => (itemsToJson rest).map (j :: ·)

def Value.entriesToJson : List (Value × Value) → Option (List (String × JsonValue))
  | [] => some []
  | (key, value) :: rest =>
    key.asStr.bind fun name =>
      value.toJson.bind fun j => (entriesToJson rest).map ((name, j) :: ·)

end

end MessagePack

/-! ### Reading back what was written -/

namespace MessagePack.Integer

theorem toJson_ofUInt64 (n : UInt64) : (ofUInt64 n).toJson = .posInt n := by
  have hnonneg : ¬(ofUInt64 n).val < 0 := not_lt.mpr (Int.natCast_nonneg n.toNat)
  rw [toJson, dif_neg hnonneg, val_ofUInt64, Int.toNat_natCast, UInt64.ofNat_toNat]

theorem toJson_ofInt64 {n : Int64} (h : n < 0) : (ofInt64 n).toJson = .negInt n h := by
  have hneg : (ofInt64 n).val < 0 := Int64.lt_iff_toInt_lt.mp h
  rw [toJson, dif_pos hneg, JsonNumber.negInt.injEq, val_ofInt64, Int64.ofInt_toInt]

end MessagePack.Integer

namespace JsonNumber

theorem toJson_toMessagePack (n : JsonNumber) :
    n.toMessagePack.toJson = some (.number n) := by
  cases n with
  | posInt value =>
      simp only [toMessagePack, MessagePack.Value.toJson, MessagePack.Integer.toJson_ofUInt64]
  | negInt value negative =>
      simp only [toMessagePack, MessagePack.Value.toJson,
        MessagePack.Integer.toJson_ofInt64 negative]
  | float value =>
      simp only [toMessagePack, MessagePack.Value.toJson]
      rw [dif_pos value.finite]

end JsonNumber

theorem Json.itemsToJson_toMessagePack {items : List Json}
    (h : ∀ j ∈ items, ∃ v : JsonValue, v.json = j ∧ j.toMessagePack.toJson = some v) :
    ∃ vs : List JsonValue, vs.map JsonValue.json = items ∧
      MessagePack.Value.itemsToJson (itemsToMessagePack items) = some vs := by
  induction items with
  | nil => exact ⟨[], rfl, rfl⟩
  | cons j rest ih =>
      obtain ⟨v, hv, hread⟩ := h j List.mem_cons_self
      obtain ⟨vs, hvs, hrest⟩ := ih fun j' hj' => h j' (List.mem_cons_of_mem _ hj')
      refine ⟨v :: vs, by rw [List.map_cons, hv, hvs], ?_⟩
      show (j.toMessagePack.toJson.bind fun j' =>
        (MessagePack.Value.itemsToJson (itemsToMessagePack rest)).map (j' :: ·)) = _
      rw [hread, hrest]
      rfl

theorem Json.entriesToJson_toMessagePack {members : List (String × Json)}
    (h : ∀ m ∈ members, ∃ v : JsonValue, v.json = m.2 ∧ m.2.toMessagePack.toJson = some v) :
    ∃ vs : List (String × JsonValue), (vs.map fun v => (v.1, v.2.json)) = members ∧
      MessagePack.Value.entriesToJson (membersToMessagePack members) = some vs := by
  induction members with
  | nil => exact ⟨[], rfl, rfl⟩
  | cons m rest ih =>
      obtain ⟨v, hv, hread⟩ := h m List.mem_cons_self
      obtain ⟨vs, hvs, hrest⟩ := ih fun m' hm' => h m' (List.mem_cons_of_mem _ hm')
      refine ⟨(m.1, v) :: vs, by rw [List.map_cons, hv, hvs], ?_⟩
      show (m.2.toMessagePack.toJson.bind fun j' =>
        (MessagePack.Value.entriesToJson (membersToMessagePack rest)).map ((m.1, j') :: ·)) = _
      rw [hread, hrest]
      rfl

/-- By induction on why the tree is canonical: its objects are in order already. -/
theorem Json.Canonical.toJson_toMessagePack {j : Json} (h : j.Canonical) :
    ∃ v : JsonValue, v.json = j ∧ j.toMessagePack.toJson = some v := by
  induction h with
  | null => exact ⟨.null, rfl, rfl⟩
  | bool value => exact ⟨.bool value, rfl, rfl⟩
  | number value => exact ⟨.number value, rfl, value.toJson_toMessagePack⟩
  | string value => exact ⟨.string value, rfl, rfl⟩
  | array _ ih =>
      obtain ⟨vs, hvs, hread⟩ := Json.itemsToJson_toMessagePack ih
      refine ⟨.array vs, congrArg Json.array hvs, ?_⟩
      show (MessagePack.Value.itemsToJson _).map JsonValue.array = _
      rw [hread]
      rfl
  | object hsorted _ ih =>
      obtain ⟨vs, hvs, hread⟩ := Json.entriesToJson_toMessagePack ih
      have hvsorted : Members.Sorted vs := by
        rw [← hvs, Members.Sorted, List.pairwise_map] at hsorted
        exact hsorted
      refine ⟨.object vs, ?_, ?_⟩
      · show Json.object ((Members.ofList vs).map _) = _
        rw [Members.ofList_of_sorted hvsorted, hvs]
      · show (MessagePack.Value.entriesToJson _).map JsonValue.object = _
        rw [hread]
        rfl

/-- Reading back the MessagePack value of a JSON value. -/
theorem JsonValue.toJson_toMessagePack (j : JsonValue) : j.toMessagePack.toJson = some j := by
  obtain ⟨v, hv, h⟩ := j.canonical.toJson_toMessagePack
  obtain rfl : v = j := JsonValue.ext hv
  exact h
