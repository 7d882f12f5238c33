/-
Reading and writing the fields of a wire value, from `src/contracts.rs`.

A reader is given the value found where the field should be, if there is one, and
the name of the field for its error.  The raw messages of `cultnet.schema.v0` and
the union of `gamecult.networking.v0` share these functions; the base64 engine is
only for the latter.
-/
import CultNet.Contracts
import CultNet.Lib.Base64
import CultNet.Lib.MessagePack

namespace CultNet

open MessagePack (Value)

/-- The engine `URL_SAFE_NO_PAD` of the crate `base64`. -/
structure Base64Engine where
  encode : List UInt8 → String
  decode : String → Except String (List UInt8)

/-- The engine decodes only the text it encodes the result to. -/
def Base64Engine.Canonical (engine : Base64Engine) : Prop :=
  ∀ text bytes, engine.decode text = .ok bytes → engine.encode bytes = text

/-- What the crate relies on of the engine. -/
structure Base64Engine.Lawful (engine : Base64Engine) : Prop where
  canonical : engine.Canonical
  decode_encode : ∀ bytes, engine.decode (engine.encode bytes) = .ok bytes
  encode_nil : engine.encode [] = ""
  alphabet : ∀ bytes, ∀ c ∈ (engine.encode bytes).toList, c ∈ Base64.alphabet

variable (engine : Base64Engine)

/-- The closure `get`: the first entry of a map under this name. -/
def entry (object : List (Value × Value)) (name : String) : Option Value :=
  object.findSome? fun e => (e.1.asStr.filter (· == name)).map fun _ => e.2

/-! ### Reading -/

/-- `require_legacy_bytes`. -/
def requireLegacyBytes (value : Option Value) (fieldName : String) : Except String String :=
  match value.bind Value.asSlice with
  | some bytes => .ok (engine.encode bytes)
  | none => .error (fieldName ++ " must be binary data in gamecult.networking.v0")

/-- `require_legacy_string`. -/
def requireLegacyString (value : Option Value) (fieldName : String) : Except String String :=
  match value.bind Value.asStr with
  | some text => .ok text
  | none => .error (fieldName ++ " must be a string in gamecult.networking.v0")

/-- `require_legacy_bool`. -/
def requireLegacyBool (value : Option Value) (fieldName : String) : Except String Bool :=
  match value.bind Value.asBool with
  | some b => .ok b
  | none => .error (fieldName ++ " must be a boolean in gamecult.networking.v0")

/-- `require_legacy_optional_string`. -/
def requireLegacyOptionalString (value : Option Value) (fieldName : String) :
    Except String (Option String) :=
  match value with
  | none => .ok none
  | some v => if v.isNil then .ok none else some <$> requireLegacyString (some v) fieldName

/-- An item of an array of strings. -/
def requireStringItem (fieldName : String) (item : Value) : Except String String :=
  match item.asStr with
  | some text => .ok text
  | none => .error (fieldName ++ " must contain only strings")

/-- `require_legacy_optional_string_array`. -/
def requireLegacyOptionalStringArray (value : Option Value) (fieldName : String) :
    Except String (Option (List String)) :=
  match value with
  | none => .ok none
  | some v =>
    if v.isNil then .ok none
    else
      match v.asArray with
      | some items => some <$> items.mapM (requireStringItem fieldName)
      | none => .error (fieldName ++ " must be an array in gamecult.networking.v0")

/-- The match on the text of a schema kind. -/
def legacySchemaKind (fieldName value : String) : Except String SchemaKind :=
  match value with
  | "wire_message" => .ok .wireMessage
  | "document_payload" => .ok .documentPayload
  | "shared_contract" => .ok .sharedContract
  | _ => .error (fieldName ++ " has unsupported schema kind " ++ value)

/-- `require_legacy_optional_schema_kind_array`. -/
def requireLegacyOptionalSchemaKindArray (value : Option Value) (fieldName : String) :
    Except String (Option (List SchemaKind)) := do
  match ← requireLegacyOptionalStringArray value fieldName with
  | none => return none
  | some values => some <$> values.mapM (legacySchemaKind fieldName)

/-- The match on the text of a wire contract. -/
def legacyWireContract (fieldName value : String) : Except String WireContract :=
  match value with
  | "cultnet.schema.v0" => .ok .cultNetSchemaV0
  | "gamecult.networking.v0" => .ok .gameCultNetworkingV0
  | _ => .error (fieldName ++ " contains unsupported wire contract " ++ value)

/-- `require_legacy_optional_wire_contracts`. -/
def requireLegacyOptionalWireContracts (value : Option Value) (fieldName : String) :
    Except String (List WireContract) := do
  match ← requireLegacyOptionalStringArray value fieldName with
  | none => return []
  | some values => values.mapM (legacyWireContract fieldName)

/-! ### Writing -/

/-- `legacy_bytes`. -/
def legacyBytes (input fieldName : String) : Except String Value :=
  if isBlank input then .error (fieldName ++ " must be a non-empty base64url string")
  else do
    let bytes ← engine.decode input
    return .binary bytes

/-- An optional string, with `Nil` for none. -/
def legacyOptionalString (input : Option String) : Value :=
  (input.map Value.text).getD .nil

/-- `legacy_optional_string_array`. -/
def legacyOptionalStringArray : Option (List String) → Value
  | some values => .array (values.map Value.text)
  | none => .nil

/-- `legacy_optional_schema_kind_array`. -/
def legacyOptionalSchemaKindArray : Option (List SchemaKind) → Value
  | some values => .array (values.map fun kind => Value.text kind.name)
  | none => .nil

end CultNet
