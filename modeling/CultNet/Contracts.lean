/-
The messages of CultNet and what a message must meet, from `src/contracts.rs`.

The records keep the fields of the source in its order; the prefix `CultNet` of
the type names is dropped, since everything here is in the namespace of that
name.  `Message.validate` is the check that encoding makes before it writes
anything, and that decoding under `cultnet.schema.v0` makes after it has read.

A payload of the typed records is a JSON value; a raw record carries the bytes of
its payload.
-/
import CultNet.Basic
import CultNet.Lib.Json
import CultNet.Text

namespace CultNet

/-! ### Enumerations, with the names they have on the wire -/

/-- `CultNetWireContract`. -/
inductive WireContract where
  | cultNetSchemaV0
  | gameCultNetworkingV0
  deriving DecidableEq, Repr

def WireContract.name : WireContract → String
  | cultNetSchemaV0 => "cultnet.schema.v0"
  | gameCultNetworkingV0 => "gamecult.networking.v0"

/-- `CultNetSchemaKind`. -/
inductive SchemaKind where
  | wireMessage
  | documentPayload
  | sharedContract
  deriving DecidableEq, Repr

def SchemaKind.name : SchemaKind → String
  | wireMessage => "wire_message"
  | documentPayload => "document_payload"
  | sharedContract => "shared_contract"

/-- `CultNetRawPayloadEncoding`. -/
inductive RawPayloadEncoding where
  | messagepack
  deriving DecidableEq, Repr

def RawPayloadEncoding.name : RawPayloadEncoding → String
  | messagepack => "messagepack"

/-- `CultNetDocumentOperation`. -/
inductive DocumentOperation where
  | snapshot
  | documentPut
  | documentDelete
  | intentSubmit
  | receiptWatch
  deriving DecidableEq, Repr

def DocumentOperation.name : DocumentOperation → String
  | snapshot => "snapshot"
  | documentPut => "documentPut"
  | documentDelete => "documentDelete"
  | intentSubmit => "intentSubmit"
  | receiptWatch => "receiptWatch"

/-- `CultNetMutationAuthority`. -/
inductive MutationAuthority where
  | readOnly
  | localUser
  | coordinator
  | runtime
  | denied
  deriving DecidableEq, Repr

def MutationAuthority.name : MutationAuthority → String
  | readOnly => "readOnly"
  | localUser => "localUser"
  | coordinator => "coordinator"
  | runtime => "runtime"
  | denied => "denied"

/-- `CultNetTransportProtocol`. -/
inductive TransportProtocol where
  | tcpFramed
  | litenetlib
  | websocket
  | rudp
  deriving DecidableEq, Repr

def TransportProtocol.name : TransportProtocol → String
  | tcpFramed => "tcp_framed"
  | litenetlib => "litenetlib"
  | websocket => "websocket"
  | rudp => "rudp"

/-- `CultNetTransportDelivery`. -/
inductive TransportDelivery where
  | reliable
  | unreliable
  deriving DecidableEq, Repr

def TransportDelivery.name : TransportDelivery → String
  | reliable => "reliable"
  | unreliable => "unreliable"

/-- `CultNetTransportOrdering`. -/
inductive TransportOrdering where
  | ordered
  | unordered
  | sequenced
  deriving DecidableEq, Repr

def TransportOrdering.name : TransportOrdering → String
  | ordered => "ordered"
  | unordered => "unordered"
  | sequenced => "sequenced"

/-! ### Records -/

/-- `CultNetDocumentRecord`. -/
structure DocumentRecord (TPayload : Type) where
  schemaId : String
  recordKey : String
  storedAt : String
  payload : TPayload
  sourceRuntimeId : Option String := none
  sourceAgentId : Option String := none
  sourceRole : Option String := none
  tags : Option (List String) := none

/-- `CultNetRawDocumentRecord`. -/
structure RawDocumentRecord where
  schemaId : String
  recordKey : String
  storedAt : String
  payloadEncoding : RawPayloadEncoding
  payload : List UInt8
  sourceRuntimeId : Option String := none
  sourceAgentId : Option String := none
  sourceRole : Option String := none
  tags : Option (List String) := none
  deriving DecidableEq

/-- `CultNetDocumentMutationContract`. -/
structure DocumentMutationContract where
  documentType : String
  payloadSchemaVersion : Option String := none
  operations : List DocumentOperation
  authority : MutationAuthority
  intentDocumentTypes : Option (List String) := none
  receiptDocumentTypes : Option (List String) := none
  notes : Option (List String) := none
  deriving DecidableEq

/-- `CultNetTransportChannel`. -/
structure TransportChannel where
  channelId : String
  delivery : TransportDelivery
  ordering : TransportOrdering
  maxPayloadBytes : Option UInt32 := none
  maxFragmentBytes : Option UInt32 := none
  maxPendingReliablePackets : Option UInt32 := none
  reliableExpireAfterMs : Option UInt64 := none
  deriving DecidableEq

/-- `CultNetTransportDescriptor`. -/
structure TransportDescriptor where
  transportId : String
  protocol : TransportProtocol
  host : Option String := none
  port : Option UInt16 := none
  path : Option String := none
  discoveryGroup : Option String := none
  wireContracts : Option (List String) := none
  channels : List TransportChannel
  deriving DecidableEq

/-- `CultNetTransportProfile`. -/
structure TransportProfile where
  schemaVersion : String
  runtimeId : String
  transports : List TransportDescriptor
  deriving DecidableEq

/-- `CultNetSchemaDescriptor`. -/
structure SchemaDescriptor where
  schemaId : String
  kind : SchemaKind
  schemaVersion : Option String := none
  documentType : Option String := none
  title : Option String := none
  wireContracts : List WireContract
  contentHash : String
  schemaJson : Option String := none
  deriving DecidableEq

/-- `CultNetMessage`. -/
inductive Message where
  | hello (runtimeId runtimeKind : String) (agentId role displayName : Option String)
      (supportedDocumentTypes : Option (List String))
      (supportedMutationContracts : Option (List DocumentMutationContract))
      (supportedMessageVersions : Option (List String))
      (transportProfiles : Option (List TransportProfile))
      (supportsSchemaCatalog : Option Bool)
  | login (nonce auth password : String)
  | register (nonce email password name : String)
  | verify (nonce session : String)
  | loginSuccess (nonce session : String)
  | error (error : String)
  | sampleChangeName (name : String)
  | sampleChat (text : String)
  | documentPut (messageId : String) (document : DocumentRecord JsonValue)
  | documentDelete (messageId schemaId recordKey : String)
  | documentPutRaw (messageId : String) (document : RawDocumentRecord)
  | snapshotRequest (messageId : String) (schemaIds recordKeys : Option (List String))
  | snapshotResponse (messageId : String) (documents : List (DocumentRecord JsonValue))
  | snapshotResponseRaw (messageId : String) (documents : List RawDocumentRecord)
  | schemaCatalogRequest (messageId : String) (includeSchemaJson : Option Bool)
      (schemaIds : Option (List String)) (kinds : Option (List SchemaKind))
  | schemaCatalogResponse (messageId : String) (schemas : List SchemaDescriptor)

/-! ### Validation -/

/-- `require_non_empty`. -/
def requireNonEmpty (value field : String) : Except String Unit :=
  if isBlank value then .error ("CultNet field " ++ field ++ " must be non-empty")
  else .ok ()

/-- `require_optional_non_empty`. -/
def requireOptionalNonEmpty (value : Option String) (field : String) : Except String Unit :=
  match value with
  | some value => requireNonEmpty value field
  | none => .ok ()

/-- `require_optional_string_vec`. -/
def requireOptionalStringVec (value : Option (List String)) (field : String) :
    Except String Unit :=
  match value with
  | some values => values.forM fun item => requireNonEmpty item field
  | none => .ok ()

/-- `validate_mutation_contract`. -/
def DocumentMutationContract.validate (contract : DocumentMutationContract) :
    Except String Unit := do
  requireNonEmpty contract.documentType "documentType"
  requireOptionalNonEmpty contract.payloadSchemaVersion "payloadSchemaVersion"
  if contract.operations.isEmpty then
    throw ("CultNet mutation contract for " ++ debugStr contract.documentType ++
      " must advertise at least one operation")
  requireOptionalStringVec contract.intentDocumentTypes "intentDocumentTypes"
  requireOptionalStringVec contract.receiptDocumentTypes "receiptDocumentTypes"
  requireOptionalStringVec contract.notes "notes"

/-- `validate_document_record`. -/
def DocumentRecord.validate (document : DocumentRecord JsonValue) : Except String Unit := do
  requireNonEmpty document.schemaId "schemaId"
  requireNonEmpty document.recordKey "recordKey"
  requireNonEmpty document.storedAt "storedAt"
  requireOptionalNonEmpty document.sourceRuntimeId "sourceRuntimeId"
  requireOptionalNonEmpty document.sourceAgentId "sourceAgentId"
  requireOptionalNonEmpty document.sourceRole "sourceRole"
  requireOptionalStringVec document.tags "tags"

/-- `validate_raw_document_record`. -/
def RawDocumentRecord.validate (document : RawDocumentRecord) : Except String Unit := do
  requireNonEmpty document.schemaId "schemaId"
  requireNonEmpty document.recordKey "recordKey"
  requireNonEmpty document.storedAt "storedAt"
  if document.payload.isEmpty then
    throw "CultNet field payload must contain non-empty MessagePack bytes"
  requireOptionalNonEmpty document.sourceRuntimeId "sourceRuntimeId"
  requireOptionalNonEmpty document.sourceAgentId "sourceAgentId"
  requireOptionalNonEmpty document.sourceRole "sourceRole"
  requireOptionalStringVec document.tags "tags"

/-- `validate_schema_descriptor`. -/
def SchemaDescriptor.validate (schema : SchemaDescriptor) : Except String Unit := do
  requireNonEmpty schema.schemaId "schemaId"
  requireOptionalNonEmpty schema.schemaVersion "schemaVersion"
  requireOptionalNonEmpty schema.documentType "documentType"
  requireOptionalNonEmpty schema.title "title"
  requireNonEmpty schema.contentHash "contentHash"
  requireOptionalNonEmpty schema.schemaJson "schemaJson"
  if schema.wireContracts.isEmpty then
    throw "CultNet field wireContracts must contain at least one supported contract"

/-- `validate_message`. -/
def Message.validate : Message → Except String Unit
  | .hello runtimeId runtimeKind agentId role displayName supportedDocumentTypes
      supportedMutationContracts supportedMessageVersions _ _ => do
    requireNonEmpty runtimeId "runtimeId"
    requireNonEmpty runtimeKind "runtimeKind"
    requireOptionalNonEmpty agentId "agentId"
    requireOptionalNonEmpty role "role"
    requireOptionalNonEmpty displayName "displayName"
    requireOptionalStringVec supportedDocumentTypes "supportedDocumentTypes"
    (supportedMutationContracts.getD []).forM DocumentMutationContract.validate
    requireOptionalStringVec supportedMessageVersions "supportedMessageVersions"
  | .login nonce auth password => do
    requireNonEmpty nonce "nonce"
    requireNonEmpty auth "auth"
    requireNonEmpty password "password"
  | .register nonce email password name => do
    requireNonEmpty nonce "nonce"
    requireNonEmpty email "email"
    requireNonEmpty password "password"
    requireNonEmpty name "name"
  | .verify nonce session | .loginSuccess nonce session => do
    requireNonEmpty nonce "nonce"
    requireNonEmpty session "session"
  | .error text => requireNonEmpty text "error"
  | .sampleChangeName name => requireNonEmpty name "name"
  | .sampleChat text => requireNonEmpty text "text"
  | .documentPut messageId document => do
    requireNonEmpty messageId "messageId"
    document.validate
  | .documentDelete messageId schemaId recordKey => do
    requireNonEmpty messageId "messageId"
    requireNonEmpty schemaId "schemaId"
    requireNonEmpty recordKey "recordKey"
  | .documentPutRaw messageId document => do
    requireNonEmpty messageId "messageId"
    document.validate
  | .snapshotRequest messageId schemaIds recordKeys => do
    requireNonEmpty messageId "messageId"
    requireOptionalStringVec schemaIds "schemaIds"
    requireOptionalStringVec recordKeys "recordKeys"
  | .snapshotResponse messageId documents => do
    requireNonEmpty messageId "messageId"
    documents.forM DocumentRecord.validate
  | .snapshotResponseRaw messageId documents => do
    requireNonEmpty messageId "messageId"
    documents.forM RawDocumentRecord.validate
  | .schemaCatalogRequest messageId _ schemaIds _ => do
    requireNonEmpty messageId "messageId"
    requireOptionalStringVec schemaIds "schemaIds"
  | .schemaCatalogResponse messageId schemas => do
    requireNonEmpty messageId "messageId"
    schemas.forM SchemaDescriptor.validate

end CultNet
