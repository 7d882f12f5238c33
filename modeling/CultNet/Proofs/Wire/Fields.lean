/-
Single fields of a wire value: reading back what was written, and what the check
of a message says of a field that was read.

A field of a union is read without a check that it is filled, so what the check
says of it later has to be asked of the wire value.  `filledText`, `filledTexts`
and `filledBytes` are these questions.
-/
import CultNet.Wire.Fields
import CultNet.Lib.Fallible

namespace CultNet

open MessagePack (Value)

/-! ### Reading back -/

@[simp] theorem entry_nil (name : String) : entry [] name = none := rfl

/-- An entry under a text is found by that text. -/
@[simp] theorem entry_cons_text (key : String) (v : Value) (rest : List (Value × Value))
    (name : String) :
    entry ((.text key, v) :: rest) name = if key = name then some v else entry rest name := by
  unfold entry
  rw [List.findSome?_cons]
  by_cases h : key = name <;> simp [Option.filter, h]

@[simp] theorem requireLegacyBytes_binary (engine : Base64Engine) (bytes : List UInt8)
    (fieldName : String) :
    requireLegacyBytes engine (some (.binary bytes)) fieldName = .ok (engine.encode bytes) := rfl

@[simp] theorem requireLegacyString_text (text fieldName : String) :
    requireLegacyString (some (.text text)) fieldName = .ok text := rfl

@[simp] theorem requireLegacyBool_boolean (b : Bool) (fieldName : String) :
    requireLegacyBool (some (.boolean b)) fieldName = .ok b := rfl

@[simp] theorem requireLegacyOptionalString_legacyOptionalString (value : Option String)
    (fieldName : String) :
    requireLegacyOptionalString (some (legacyOptionalString value)) fieldName = .ok value := by
  cases value <;> rfl

theorem mapM_requireStringItem (values : List String) (fieldName : String) :
    (values.map Value.text).mapM (requireStringItem fieldName) = .ok values := by
  have hitem : ∀ text, requireStringItem fieldName (.text text) = .ok text := fun _ => rfl
  exact Fallible.mapM_map_of_leftInverse hitem values

@[simp] theorem requireLegacyOptionalStringArray_legacyOptionalStringArray
    (values : Option (List String)) (fieldName : String) :
    requireLegacyOptionalStringArray (some (legacyOptionalStringArray values)) fieldName =
      .ok values := by
  cases values with
  | none => rfl
  | some values =>
      show some <$> (values.map Value.text).mapM (requireStringItem fieldName) = _
      rw [mapM_requireStringItem]
      rfl

@[simp] theorem legacySchemaKind_name (fieldName : String) (kind : SchemaKind) :
    legacySchemaKind fieldName kind.name = .ok kind := by
  cases kind <;> rfl

@[simp] theorem legacyWireContract_name (fieldName : String) (contract : WireContract) :
    legacyWireContract fieldName contract.name = .ok contract := by
  cases contract <;> rfl

@[simp] theorem requireLegacyOptionalSchemaKindArray_legacyOptionalSchemaKindArray
    (kinds : Option (List SchemaKind)) (fieldName : String) :
    requireLegacyOptionalSchemaKindArray (some (legacyOptionalSchemaKindArray kinds)) fieldName =
      .ok kinds := by
  cases kinds with
  | none => rfl
  | some kinds =>
      have harray : legacyOptionalSchemaKindArray (some kinds) =
          legacyOptionalStringArray (some (kinds.map SchemaKind.name)) := by
        simp [legacyOptionalSchemaKindArray, legacyOptionalStringArray]
      rw [harray, requireLegacyOptionalSchemaKindArray,
        requireLegacyOptionalStringArray_legacyOptionalStringArray, Fallible.ok_bind]
      show some <$> (kinds.map SchemaKind.name).mapM (legacySchemaKind fieldName) = _
      rw [Fallible.mapM_map_of_leftInverse (legacySchemaKind_name fieldName)]
      rfl

@[simp] theorem requireLegacyOptionalWireContracts_array (contracts : List WireContract)
    (fieldName : String) :
    requireLegacyOptionalWireContracts
      (some (.array (contracts.map fun value => .text value.name))) fieldName = .ok contracts := by
  have harray : Value.array (contracts.map fun value => .text value.name) =
      legacyOptionalStringArray (some (contracts.map WireContract.name)) := by
    simp [legacyOptionalStringArray]
  rw [harray, requireLegacyOptionalWireContracts,
    requireLegacyOptionalStringArray_legacyOptionalStringArray, Fallible.ok_bind]
  exact Fallible.mapM_map_of_leftInverse (legacyWireContract_name fieldName) contracts

theorem legacyBytes_eq_ok {engine : Base64Engine} {input fieldName : String} {v : Value} :
    legacyBytes engine input fieldName = .ok v ↔
      ¬isBlank input ∧ ∃ bytes, engine.decode input = .ok bytes ∧ v = .binary bytes := by
  unfold legacyBytes
  rw [Fallible.guard_eq_ok, Fallible.bind_eq_ok]
  refine and_congr_right fun _ => exists_congr fun bytes => and_congr_right fun _ => ?_
  exact ⟨fun h => by cases h; rfl, fun h => by rw [h]; rfl⟩

/-- A binary field is read back as the text it was written from. -/
theorem requireLegacyBytes_of_legacyBytes {engine : Base64Engine} (h : engine.Canonical)
    {input fieldName fieldName' : String} {v : Value}
    (hv : legacyBytes engine input fieldName = .ok v) :
    requireLegacyBytes engine (some v) fieldName' = .ok input := by
  obtain ⟨-, bytes, hbytes, rfl⟩ := legacyBytes_eq_ok.mp hv
  rw [requireLegacyBytes_binary, h input bytes hbytes]

end CultNet
