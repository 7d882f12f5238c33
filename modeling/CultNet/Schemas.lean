/-
The published schemas of the raw messages and of the transport profile, from
`contracts/*.schema.json`.

Every object of these schemas is closed.  A `$ref` is the schema it refers to, and a
string with `x-cult-runtime-type` bytes is a byte string on the wire.
-/
import CultNet.Lib.WireSchema

namespace CultNet

open WireSchema

/-! ### Raw messages -/

/-- The `properties` of `cultnet.raw-document-record.schema.json`. -/
def rawDocumentRecordProperties : List (String × WireSchema) := [
  ("schemaId", nonEmptyString),
  ("recordKey", nonEmptyString),
  ("storedAt", nonEmptyString),
  ("payloadEncoding", .scalar [.const (.string "messagepack")]),
  ("payload", .bytes),
  ("sourceRuntimeId", nonEmptyString),
  ("sourceAgentId", nonEmptyString),
  ("sourceRole", nonEmptyString),
  ("tags", .array nonEmptyString)]

/-- `cultnet.raw-document-record.schema.json`. -/
def rawDocumentRecordSchema : WireSchema :=
  .object ["schemaId", "recordKey", "storedAt", "payloadEncoding", "payload"]
    rawDocumentRecordProperties

/-- `cultnet.document-put-raw.schema.json`. -/
def documentPutRawSchema : WireSchema :=
  .object ["schemaVersion", "messageId", "document"] [
    ("schemaVersion", .scalar [.const (.string "cultnet.document_put_raw.v0")]),
    ("messageId", nonEmptyString),
    ("document", rawDocumentRecordSchema)]

/-- `cultnet.snapshot-response-raw.schema.json`. -/
def snapshotResponseRawSchema : WireSchema :=
  .object ["schemaVersion", "messageId", "documents"] [
    ("schemaVersion", .scalar [.const (.string "cultnet.snapshot_response_raw.v0")]),
    ("messageId", nonEmptyString),
    ("documents", .array rawDocumentRecordSchema)]

/-! ### Transport profiles -/

/-- The items of `channels` in `cultnet.transport-profile.schema.json`. -/
def transportChannelSchema : WireSchema :=
  .object ["channelId", "delivery", "ordering"] [
    ("channelId", nonEmptyString),
    ("delivery", enumeration ["reliable", "unreliable"]),
    ("ordering", enumeration ["ordered", "unordered", "sequenced"]),
    ("maxPayloadBytes", positiveInteger),
    ("maxFragmentBytes", positiveInteger),
    ("maxPendingReliablePackets", positiveInteger)]

/-- The items of `transports` in it. -/
def transportDescriptorSchema : WireSchema :=
  .object ["transportId", "protocol", "channels"] [
    ("transportId", nonEmptyString),
    ("protocol", enumeration ["tcp_framed", "litenetlib", "websocket", "rudp"]),
    ("host", nonEmptyString),
    ("port", .scalar [.type [.integer], .minimum 1, .maximum 65535]),
    ("path", nonEmptyString),
    ("discoveryGroup", nonEmptyString),
    ("wireContracts", .array nonEmptyString),
    ("channels", .array transportChannelSchema)]

/-- `cultnet.transport-profile.schema.json`. -/
def transportProfileSchema : WireSchema :=
  .object ["schemaVersion", "runtimeId", "transports"] [
    ("schemaVersion", .scalar [.const (.string "cultnet.transport_profile.v0")]),
    ("runtimeId", nonEmptyString),
    ("transports", .array transportDescriptorSchema)]

end CultNet
