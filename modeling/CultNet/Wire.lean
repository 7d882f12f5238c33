/-
Messages and wire values, from `src/contracts.rs`.

Under `cultnet.schema.v0` a message travels in its derived JSON form, except that
raw messages go the way of `CultNet.Wire.Raw`; both ways end in the same check.
Under `gamecult.networking.v0` it is a union by position.

The crates that turn a JSON value into an `rmpv::Value` and back, and the base64
engine, are `Codecs`; the one that turns an `rmpv::Value` into bytes and back is
`RmpSerde`.
-/
import CultNet.Lib.JsonMessagePack
import CultNet.Lib.MessagePackBytes
import CultNet.Wire.Json
import CultNet.Wire.Legacy
import CultNet.Wire.Raw

namespace CultNet

open MessagePack (Value)

/-- What parsing and encoding call of other crates. -/
structure Codecs where
  base64 : Base64Engine
  /-- `rmp_serde::from_slice(&rmp_serde::to_vec(json)?)`, to an `rmpv::Value`. -/
  toWire : JsonValue → Except String Value
  /-- `rmp_serde::from_slice(&rmp_serde::to_vec(wire_value)?)`, to a `serde_json::Value`. -/
  fromWire : Value → Except String JsonValue
  /-- What `serde_json::from_value` reports of a value that is no message. -/
  mismatch : JsonValue → String

/-- JSON values are converted to the wire value of their shape and back. -/
structure Codecs.Faithful (codecs : Codecs) : Prop where
  toWire_eq : ∀ j, codecs.toWire j = .ok j.toMessagePack
  fromWire_eq : ∀ j, codecs.fromWire j.toMessagePack = .ok j

/-- `schema_version_from_wire_value`. -/
def schemaVersionFromWireValue (input : Value) : Option String :=
  match input.asMap with
  | none => none
  | some object =>
    object.findSome? fun e =>
      (e.1.asStr.filter (· == "schemaVersion")).bind fun _ => e.2.asStr

variable (codecs : Codecs)

/-- `serde_json::from_value`. -/
def messageFromJson (json : JsonValue) : Except String Message :=
  match Serde.deserialize json with
  | some message => .ok message
  | none => .error (codecs.mismatch json)

/-- The message of a wire value of `cultnet.schema.v0`, before it is validated. -/
def parseSchemaMessage (wireValue : Value) : Except String Message :=
  match schemaVersionFromWireValue wireValue with
  | some "cultnet.document_put_raw.v0" | some "cultnet.snapshot_response_raw.v0" =>
    parseRawCultnetSchemaMessage wireValue
  | _ => do
    let json ← codecs.fromWire wireValue
    messageFromJson codecs json

/-- `parse_cultnet_message`. -/
def parseCultnetMessage (wireValue : Value) (contract : WireContract) : Except String Message :=
  match contract with
  | .cultNetSchemaV0 => do
    let message ← parseSchemaMessage codecs wireValue
    message.validate
    return message
  | .gameCultNetworkingV0 => parseGamecultNetworkingMessage codecs.base64 wireValue

/-- The wire value of a message under `cultnet.schema.v0`. -/
def encodeSchemaMessage (message : Message) : Except String Value :=
  match message with
  | .documentPutRaw .. | .snapshotResponseRaw .. => encodeRawCultnetSchemaMessage message
  | _ => codecs.toWire (Serde.serialize message)

/-- `encode_cultnet_message_for_wire`. -/
def encodeCultnetMessageForWire (message : Message) (contract : WireContract) :
    Except String Value := do
  message.validate
  match contract with
  | .cultNetSchemaV0 => encodeSchemaMessage codecs message
  | .gameCultNetworkingV0 => encodeGamecultNetworkingMessage codecs.base64 message

/-! ### Bytes -/

/-- What writing and reading bytes calls of `rmp_serde`. -/
structure RmpSerde where
  /-- `to_vec` of an `rmpv::Value`. -/
  toVec : Value → Except String (List UInt8)
  /-- `from_slice` to an `rmpv::Value`. -/
  fromSlice : List UInt8 → Except String Value

/-- How deep `from_slice` follows the nesting of a value. -/
def rmpDepthLimit : Nat := 1024

/-- What was written is read back, where its lengths fit and it is not nested too deep. -/
structure RmpSerde.Faithful (rmp : RmpSerde) : Prop where
  fromSlice_toVec : ∀ value bytes, rmp.toVec value = .ok bytes → bytes.length < 2 ^ 32 →
    value.depth < rmpDepthLimit → rmp.fromSlice bytes = .ok value

variable (rmp : RmpSerde)

/-- `encode_cultnet_message_to_vec`. -/
def encodeCultnetMessageToVec (message : Message) (contract : WireContract) :
    Except String (List UInt8) := do
  let wireValue ← encodeCultnetMessageForWire codecs message contract
  rmp.toVec wireValue

/-- `decode_cultnet_message_from_slice`. -/
def decodeCultnetMessageFromSlice (bytes : List UInt8) (contract : WireContract) :
    Except String Message := do
  let wireValue ← rmp.fromSlice bytes
  parseCultnetMessage codecs wireValue contract

end CultNet
