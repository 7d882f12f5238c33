/-
The raw messages of `cultnet.schema.v0`, from `src/contracts.rs`.

A message that carries raw records takes its own way to the wire, past the derived
JSON form, so that the bytes of a payload travel as MessagePack binary.  A record
is a map of nine entries, with `Nil` for an optional field that is absent.
-/
import CultNet.Wire.Fields

namespace CultNet

open MessagePack (Value)

/-- `encode_raw_document_record`. -/
def encodeRawDocumentRecord (document : RawDocumentRecord) : Value :=
  .map [
    (.text "schemaId", .text document.schemaId),
    (.text "recordKey", .text document.recordKey),
    (.text "storedAt", .text document.storedAt),
    (.text "payloadEncoding", .text document.payloadEncoding.name),
    (.text "payload", .binary document.payload),
    (.text "sourceRuntimeId", legacyOptionalString document.sourceRuntimeId),
    (.text "sourceAgentId", legacyOptionalString document.sourceAgentId),
    (.text "sourceRole", legacyOptionalString document.sourceRole),
    (.text "tags", legacyOptionalStringArray document.tags)]

/-- `encode_raw_cultnet_schema_message`. -/
def encodeRawCultnetSchemaMessage : Message → Except String Value
  | .documentPutRaw messageId document =>
    .ok (.map [
      (.text "schemaVersion", .text "cultnet.document_put_raw.v0"),
      (.text "messageId", .text messageId),
      (.text "document", encodeRawDocumentRecord document)])
  | .snapshotResponseRaw messageId documents =>
    .ok (.map [
      (.text "schemaVersion", .text "cultnet.snapshot_response_raw.v0"),
      (.text "messageId", .text messageId),
      (.text "documents", .array (documents.map encodeRawDocumentRecord))])
  | _ => .error "Message is not a raw cultnet.schema.v0 binary replication message"

/-- The match on the text of a payload encoding. -/
def rawPayloadEncoding (fieldName value : String) : Except String RawPayloadEncoding :=
  match value with
  | "messagepack" => .ok .messagepack
  | _ => .error (fieldName ++ ".payloadEncoding has unsupported value " ++ value)

/-- The bytes of a payload. -/
def requirePayload (value : Option Value) (fieldName : String) : Except String (List UInt8) :=
  match value.bind Value.asSlice with
  | some bytes => .ok bytes
  | none => .error (fieldName ++ ".payload must be binary MessagePack bytes")

/-- `require_raw_document_record`. -/
def requireRawDocumentRecord (value : Option Value) (fieldName : String) :
    Except String RawDocumentRecord :=
  match value.bind Value.asMap with
  | none => .error (fieldName ++ " must be an object")
  | some object => do
    let get := entry object
    let payloadEncoding ←
      requireLegacyString (get "payloadEncoding") (fieldName ++ ".payloadEncoding")
    let schemaId ← requireLegacyString (get "schemaId") (fieldName ++ ".schemaId")
    let recordKey ← requireLegacyString (get "recordKey") (fieldName ++ ".recordKey")
    let storedAt ← requireLegacyString (get "storedAt") (fieldName ++ ".storedAt")
    let payloadEncoding ← rawPayloadEncoding fieldName payloadEncoding
    let payload ← requirePayload (get "payload") fieldName
    let sourceRuntimeId ←
      requireLegacyOptionalString (get "sourceRuntimeId") (fieldName ++ ".sourceRuntimeId")
    let sourceAgentId ←
      requireLegacyOptionalString (get "sourceAgentId") (fieldName ++ ".sourceAgentId")
    let sourceRole ← requireLegacyOptionalString (get "sourceRole") (fieldName ++ ".sourceRole")
    let tags ← requireLegacyOptionalStringArray (get "tags") (fieldName ++ ".tags")
    return { schemaId, recordKey, storedAt, payloadEncoding, payload, sourceRuntimeId,
             sourceAgentId, sourceRole, tags }

/-- The documents of a snapshot, each under its index. -/
def requireRawDocuments (items : List Value) : Except String (List RawDocumentRecord) :=
  items.zipIdx.mapM fun item =>
    requireRawDocumentRecord (some item.1) ("documents[" ++ toString item.2 ++ "]")

/-- `parse_raw_cultnet_schema_message`. -/
def parseRawCultnetSchemaMessage (input : Value) : Except String Message :=
  match input.asMap with
  | none => .error "cultnet.schema.v0 raw messages must be objects"
  | some object => do
    let get := entry object
    let schemaVersion ← requireLegacyString (get "schemaVersion") "schemaVersion"
    match schemaVersion with
    | "cultnet.document_put_raw.v0" => do
      let messageId ← requireLegacyString (get "messageId") "messageId"
      let document ← requireRawDocumentRecord (get "document") "document"
      return .documentPutRaw messageId document
    | "cultnet.snapshot_response_raw.v0" =>
      match (get "documents").bind Value.asArray with
      | none => .error "documents must be an array"
      | some items => do
        let documents ← requireRawDocuments items
        let messageId ← requireLegacyString (get "messageId") "messageId"
        return .snapshotResponseRaw messageId documents
    | _ => .error ("Unsupported raw cultnet.schema.v0 schemaVersion " ++ schemaVersion)

end CultNet
