/-
The derived JSON forms of the contracts, from the serde attributes in
`src/contracts.rs`.

A field under `skip_serializing_if = "Option::is_none"` is left out when it is
absent, and `default` reads it back as absent; every other field is required.
`CultNetMessage` is a union tagged by `schemaVersion`.
-/
import CultNet.Contracts
import CultNet.Lib.Serde

namespace CultNet

open Serde (required optional always whenSome required_of_always optional_of_whenSome)

/-! ### Enumerations -/

instance : Enumeration WireContract where
  all := [.cultNetSchemaV0, .gameCultNetworkingV0]
  name := WireContract.name
  find_name a := by cases a <;> rfl

instance : Serde WireContract := Enumeration.serde WireContract

instance : Enumeration SchemaKind where
  all := [.wireMessage, .documentPayload, .sharedContract]
  name := SchemaKind.name
  find_name a := by cases a <;> rfl

instance : Serde SchemaKind := Enumeration.serde SchemaKind

instance : Enumeration RawPayloadEncoding where
  all := [.messagepack]
  name := RawPayloadEncoding.name
  find_name a := by cases a; rfl

instance : Serde RawPayloadEncoding := Enumeration.serde RawPayloadEncoding

instance : Enumeration DocumentOperation where
  all := [.snapshot, .documentPut, .documentDelete, .intentSubmit, .receiptWatch]
  name := DocumentOperation.name
  find_name a := by cases a <;> rfl

instance : Serde DocumentOperation := Enumeration.serde DocumentOperation

instance : Enumeration MutationAuthority where
  all := [.readOnly, .localUser, .coordinator, .runtime, .denied]
  name := MutationAuthority.name
  find_name a := by cases a <;> rfl

instance : Serde MutationAuthority := Enumeration.serde MutationAuthority

instance : Enumeration TransportProtocol where
  all := [.tcpFramed, .litenetlib, .websocket, .rudp]
  name := TransportProtocol.name
  find_name a := by cases a <;> rfl

instance : Serde TransportProtocol := Enumeration.serde TransportProtocol

instance : Enumeration TransportDelivery where
  all := [.reliable, .unreliable]
  name := TransportDelivery.name
  find_name a := by cases a <;> rfl

instance : Serde TransportDelivery := Enumeration.serde TransportDelivery

instance : Enumeration TransportOrdering where
  all := [.ordered, .unordered, .sequenced]
  name := TransportOrdering.name
  find_name a := by cases a <;> rfl

instance : Serde TransportOrdering := Enumeration.serde TransportOrdering

/-! ### Records -/

/-- `CultNetDocumentRecord`. -/
def documentRecord : Record (DocumentRecord JsonValue) where
  names := ["schemaId", "recordKey", "storedAt", "payload", "sourceRuntimeId", "sourceAgentId",
    "sourceRole", "tags"]
  nodup := by decide
  fields a := [always "schemaId" a.schemaId, always "recordKey" a.recordKey,
    always "storedAt" a.storedAt, always "payload" a.payload,
    whenSome "sourceRuntimeId" a.sourceRuntimeId, whenSome "sourceAgentId" a.sourceAgentId,
    whenSome "sourceRole" a.sourceRole, whenSome "tags" a.tags]
  fields_names _ := rfl
  read get := do
    return {
      schemaId := ← required get "schemaId"
      recordKey := ← required get "recordKey"
      storedAt := ← required get "storedAt"
      payload := ← required get "payload"
      sourceRuntimeId := ← optional get "sourceRuntimeId"
      sourceAgentId := ← optional get "sourceAgentId"
      sourceRole := ← optional get "sourceRole"
      tags := ← optional get "tags" }
  read_fields a get h := by
    simp only [List.forall_mem_cons] at h
    obtain ⟨h1, h2, h3, h4, h5, h6, h7, h8, -⟩ := h
    rw [required_of_always h1, required_of_always h2, required_of_always h3,
      required_of_always h4, optional_of_whenSome h5, optional_of_whenSome h6,
      optional_of_whenSome h7, optional_of_whenSome h8]
    rfl

instance : Serde (DocumentRecord JsonValue) := documentRecord.serde

/-- `CultNetRawDocumentRecord`. -/
def rawDocumentRecord : Record RawDocumentRecord where
  names := ["schemaId", "recordKey", "storedAt", "payloadEncoding", "payload", "sourceRuntimeId",
    "sourceAgentId", "sourceRole", "tags"]
  nodup := by decide
  fields a := [always "schemaId" a.schemaId, always "recordKey" a.recordKey,
    always "storedAt" a.storedAt, always "payloadEncoding" a.payloadEncoding,
    always "payload" a.payload, whenSome "sourceRuntimeId" a.sourceRuntimeId,
    whenSome "sourceAgentId" a.sourceAgentId, whenSome "sourceRole" a.sourceRole,
    whenSome "tags" a.tags]
  fields_names _ := rfl
  read get := do
    return {
      schemaId := ← required get "schemaId"
      recordKey := ← required get "recordKey"
      storedAt := ← required get "storedAt"
      payloadEncoding := ← required get "payloadEncoding"
      payload := ← required get "payload"
      sourceRuntimeId := ← optional get "sourceRuntimeId"
      sourceAgentId := ← optional get "sourceAgentId"
      sourceRole := ← optional get "sourceRole"
      tags := ← optional get "tags" }
  read_fields a get h := by
    simp only [List.forall_mem_cons] at h
    obtain ⟨h1, h2, h3, h4, h5, h6, h7, h8, h9, -⟩ := h
    rw [required_of_always h1, required_of_always h2, required_of_always h3,
      required_of_always h4, required_of_always h5, optional_of_whenSome h6,
      optional_of_whenSome h7, optional_of_whenSome h8, optional_of_whenSome h9]
    rfl

instance : Serde RawDocumentRecord := rawDocumentRecord.serde

/-- `CultNetDocumentMutationContract`. -/
def documentMutationContract : Record DocumentMutationContract where
  names := ["documentType", "payloadSchemaVersion", "operations", "authority",
    "intentDocumentTypes", "receiptDocumentTypes", "notes"]
  nodup := by decide
  fields a := [always "documentType" a.documentType,
    whenSome "payloadSchemaVersion" a.payloadSchemaVersion, always "operations" a.operations,
    always "authority" a.authority, whenSome "intentDocumentTypes" a.intentDocumentTypes,
    whenSome "receiptDocumentTypes" a.receiptDocumentTypes, whenSome "notes" a.notes]
  fields_names _ := rfl
  read get := do
    return {
      documentType := ← required get "documentType"
      payloadSchemaVersion := ← optional get "payloadSchemaVersion"
      operations := ← required get "operations"
      authority := ← required get "authority"
      intentDocumentTypes := ← optional get "intentDocumentTypes"
      receiptDocumentTypes := ← optional get "receiptDocumentTypes"
      notes := ← optional get "notes" }
  read_fields a get h := by
    simp only [List.forall_mem_cons] at h
    obtain ⟨h1, h2, h3, h4, h5, h6, h7, -⟩ := h
    rw [required_of_always h1, optional_of_whenSome h2, required_of_always h3,
      required_of_always h4, optional_of_whenSome h5, optional_of_whenSome h6,
      optional_of_whenSome h7]
    rfl

instance : Serde DocumentMutationContract := documentMutationContract.serde

/-- `CultNetTransportChannel`. -/
def transportChannel : Record TransportChannel where
  names := ["channelId", "delivery", "ordering", "maxPayloadBytes", "maxFragmentBytes",
    "maxPendingReliablePackets", "reliableExpireAfterMs"]
  nodup := by decide
  fields a := [always "channelId" a.channelId, always "delivery" a.delivery,
    always "ordering" a.ordering, whenSome "maxPayloadBytes" a.maxPayloadBytes,
    whenSome "maxFragmentBytes" a.maxFragmentBytes,
    whenSome "maxPendingReliablePackets" a.maxPendingReliablePackets,
    whenSome "reliableExpireAfterMs" a.reliableExpireAfterMs]
  fields_names _ := rfl
  read get := do
    return {
      channelId := ← required get "channelId"
      delivery := ← required get "delivery"
      ordering := ← required get "ordering"
      maxPayloadBytes := ← optional get "maxPayloadBytes"
      maxFragmentBytes := ← optional get "maxFragmentBytes"
      maxPendingReliablePackets := ← optional get "maxPendingReliablePackets"
      reliableExpireAfterMs := ← optional get "reliableExpireAfterMs" }
  read_fields a get h := by
    simp only [List.forall_mem_cons] at h
    obtain ⟨h1, h2, h3, h4, h5, h6, h7, -⟩ := h
    rw [required_of_always h1, required_of_always h2, required_of_always h3,
      optional_of_whenSome h4, optional_of_whenSome h5, optional_of_whenSome h6,
      optional_of_whenSome h7]
    rfl

instance : Serde TransportChannel := transportChannel.serde

/-- `CultNetTransportDescriptor`. -/
def transportDescriptor : Record TransportDescriptor where
  names := ["transportId", "protocol", "host", "port", "path", "discoveryGroup", "wireContracts",
    "channels"]
  nodup := by decide
  fields a := [always "transportId" a.transportId, always "protocol" a.protocol,
    whenSome "host" a.host, whenSome "port" a.port, whenSome "path" a.path,
    whenSome "discoveryGroup" a.discoveryGroup, whenSome "wireContracts" a.wireContracts,
    always "channels" a.channels]
  fields_names _ := rfl
  read get := do
    return {
      transportId := ← required get "transportId"
      protocol := ← required get "protocol"
      host := ← optional get "host"
      port := ← optional get "port"
      path := ← optional get "path"
      discoveryGroup := ← optional get "discoveryGroup"
      wireContracts := ← optional get "wireContracts"
      channels := ← required get "channels" }
  read_fields a get h := by
    simp only [List.forall_mem_cons] at h
    obtain ⟨h1, h2, h3, h4, h5, h6, h7, h8, -⟩ := h
    rw [required_of_always h1, required_of_always h2, optional_of_whenSome h3,
      optional_of_whenSome h4, optional_of_whenSome h5, optional_of_whenSome h6,
      optional_of_whenSome h7, required_of_always h8]
    rfl

instance : Serde TransportDescriptor := transportDescriptor.serde

/-- `CultNetTransportProfile`. -/
def transportProfile : Record TransportProfile where
  names := ["schemaVersion", "runtimeId", "transports"]
  nodup := by decide
  fields a := [always "schemaVersion" a.schemaVersion, always "runtimeId" a.runtimeId,
    always "transports" a.transports]
  fields_names _ := rfl
  read get := do
    return {
      schemaVersion := ← required get "schemaVersion"
      runtimeId := ← required get "runtimeId"
      transports := ← required get "transports" }
  read_fields a get h := by
    simp only [List.forall_mem_cons] at h
    obtain ⟨h1, h2, h3, -⟩ := h
    rw [required_of_always h1, required_of_always h2, required_of_always h3]
    rfl

instance : Serde TransportProfile := transportProfile.serde

/-- `CultNetSchemaDescriptor`. -/
def schemaDescriptor : Record SchemaDescriptor where
  names := ["schemaId", "kind", "schemaVersion", "documentType", "title", "wireContracts",
    "contentHash", "schemaJson"]
  nodup := by decide
  fields a := [always "schemaId" a.schemaId, always "kind" a.kind,
    whenSome "schemaVersion" a.schemaVersion, whenSome "documentType" a.documentType,
    whenSome "title" a.title, always "wireContracts" a.wireContracts,
    always "contentHash" a.contentHash, whenSome "schemaJson" a.schemaJson]
  fields_names _ := rfl
  read get := do
    return {
      schemaId := ← required get "schemaId"
      kind := ← required get "kind"
      schemaVersion := ← optional get "schemaVersion"
      documentType := ← optional get "documentType"
      title := ← optional get "title"
      wireContracts := ← required get "wireContracts"
      contentHash := ← required get "contentHash"
      schemaJson := ← optional get "schemaJson" }
  read_fields a get h := by
    simp only [List.forall_mem_cons] at h
    obtain ⟨h1, h2, h3, h4, h5, h6, h7, h8, -⟩ := h
    rw [required_of_always h1, required_of_always h2, optional_of_whenSome h3,
      optional_of_whenSome h4, optional_of_whenSome h5, required_of_always h6,
      required_of_always h7, optional_of_whenSome h8]
    rfl

instance : Serde SchemaDescriptor := schemaDescriptor.serde

/-! ### Messages -/

/-- The variants of `CultNetMessage`. -/
inductive MessageKind where
  | hello
  | login
  | register
  | verify
  | loginSuccess
  | error
  | sampleChangeName
  | sampleChat
  | documentPut
  | documentDelete
  | documentPutRaw
  | snapshotRequest
  | snapshotResponse
  | snapshotResponseRaw
  | schemaCatalogRequest
  | schemaCatalogResponse
  deriving DecidableEq, Repr

namespace MessageKind

/-- The `schemaVersion` of a variant. -/
def name : MessageKind → String
  | hello => "cultnet.hello.v0"
  | login => "cultnet.login.v0"
  | register => "cultnet.register.v0"
  | verify => "cultnet.verify.v0"
  | loginSuccess => "cultnet.login_success.v0"
  | error => "cultnet.error.v0"
  | sampleChangeName => "cultnet.sample.change_name.v0"
  | sampleChat => "cultnet.sample.chat.v0"
  | documentPut => "cultnet.document_put.v0"
  | documentDelete => "cultnet.document_delete.v0"
  | documentPutRaw => "cultnet.document_put_raw.v0"
  | snapshotRequest => "cultnet.snapshot_request.v0"
  | snapshotResponse => "cultnet.snapshot_response.v0"
  | snapshotResponseRaw => "cultnet.snapshot_response_raw.v0"
  | schemaCatalogRequest => "cultnet.schema_catalog_request.v0"
  | schemaCatalogResponse => "cultnet.schema_catalog_response.v0"

instance : Enumeration MessageKind where
  all := [hello, login, register, verify, loginSuccess, error, sampleChangeName, sampleChat,
    documentPut, documentDelete, documentPutRaw, snapshotRequest, snapshotResponse,
    snapshotResponseRaw, schemaCatalogRequest, schemaCatalogResponse]
  name := name
  find_name a := by cases a <;> rfl

/-- The fields of a variant, in order. -/
def fieldNames : MessageKind → List String
  | hello => ["runtimeId", "runtimeKind", "agentId", "role", "displayName",
      "supportedDocumentTypes", "supportedMutationContracts", "supportedMessageVersions",
      "transportProfiles", "supportsSchemaCatalog"]
  | login => ["nonce", "auth", "password"]
  | register => ["nonce", "email", "password", "name"]
  | verify | loginSuccess => ["nonce", "session"]
  | error => ["error"]
  | sampleChangeName => ["name"]
  | sampleChat => ["text"]
  | documentPut | documentPutRaw => ["messageId", "document"]
  | documentDelete => ["messageId", "schemaId", "recordKey"]
  | snapshotRequest => ["messageId", "schemaIds", "recordKeys"]
  | snapshotResponse | snapshotResponseRaw => ["messageId", "documents"]
  | schemaCatalogRequest => ["messageId", "includeSchemaJson", "schemaIds", "kinds"]
  | schemaCatalogResponse => ["messageId", "schemas"]

end MessageKind

namespace Message

/-- The variant of a message. -/
def kind : Message → MessageKind
  | hello .. => .hello
  | login .. => .login
  | register .. => .register
  | verify .. => .verify
  | loginSuccess .. => .loginSuccess
  | error .. => .error
  | sampleChangeName .. => .sampleChangeName
  | sampleChat .. => .sampleChat
  | documentPut .. => .documentPut
  | documentDelete .. => .documentDelete
  | documentPutRaw .. => .documentPutRaw
  | snapshotRequest .. => .snapshotRequest
  | snapshotResponse .. => .snapshotResponse
  | snapshotResponseRaw .. => .snapshotResponseRaw
  | schemaCatalogRequest .. => .schemaCatalogRequest
  | schemaCatalogResponse .. => .schemaCatalogResponse

/-- The fields of a message, in order. -/
def fields : Message → List (String × Option JsonValue)
  | hello runtimeId runtimeKind agentId role displayName supportedDocumentTypes
      supportedMutationContracts supportedMessageVersions transportProfiles
      supportsSchemaCatalog =>
    [always "runtimeId" runtimeId, always "runtimeKind" runtimeKind, whenSome "agentId" agentId,
      whenSome "role" role, whenSome "displayName" displayName,
      whenSome "supportedDocumentTypes" supportedDocumentTypes,
      whenSome "supportedMutationContracts" supportedMutationContracts,
      whenSome "supportedMessageVersions" supportedMessageVersions,
      whenSome "transportProfiles" transportProfiles,
      whenSome "supportsSchemaCatalog" supportsSchemaCatalog]
  | login nonce auth password =>
    [always "nonce" nonce, always "auth" auth, always "password" password]
  | register nonce email password name =>
    [always "nonce" nonce, always "email" email, always "password" password, always "name" name]
  | verify nonce session | loginSuccess nonce session =>
    [always "nonce" nonce, always "session" session]
  | error text => [always "error" text]
  | sampleChangeName name => [always "name" name]
  | sampleChat text => [always "text" text]
  | documentPut messageId document =>
    [always "messageId" messageId, always "document" document]
  | documentDelete messageId schemaId recordKey =>
    [always "messageId" messageId, always "schemaId" schemaId, always "recordKey" recordKey]
  | documentPutRaw messageId document =>
    [always "messageId" messageId, always "document" document]
  | snapshotRequest messageId schemaIds recordKeys =>
    [always "messageId" messageId, whenSome "schemaIds" schemaIds,
      whenSome "recordKeys" recordKeys]
  | snapshotResponse messageId documents =>
    [always "messageId" messageId, always "documents" documents]
  | snapshotResponseRaw messageId documents =>
    [always "messageId" messageId, always "documents" documents]
  | schemaCatalogRequest messageId includeSchemaJson schemaIds kinds =>
    [always "messageId" messageId, whenSome "includeSchemaJson" includeSchemaJson,
      whenSome "schemaIds" schemaIds, whenSome "kinds" kinds]
  | schemaCatalogResponse messageId schemas =>
    [always "messageId" messageId, always "schemas" schemas]

/-- Put a message of one variant together. -/
def read (get : String → Option JsonValue) : MessageKind → Option Message
  | .hello => do
    return hello (← required get "runtimeId") (← required get "runtimeKind")
      (← optional get "agentId") (← optional get "role") (← optional get "displayName")
      (← optional get "supportedDocumentTypes") (← optional get "supportedMutationContracts")
      (← optional get "supportedMessageVersions") (← optional get "transportProfiles")
      (← optional get "supportsSchemaCatalog")
  | .login => do
    return login (← required get "nonce") (← required get "auth") (← required get "password")
  | .register => do
    return register (← required get "nonce") (← required get "email")
      (← required get "password") (← required get "name")
  | .verify => do return verify (← required get "nonce") (← required get "session")
  | .loginSuccess => do return loginSuccess (← required get "nonce") (← required get "session")
  | .error => do return error (← required get "error")
  | .sampleChangeName => do return sampleChangeName (← required get "name")
  | .sampleChat => do return sampleChat (← required get "text")
  | .documentPut => do
    return documentPut (← required get "messageId") (← required get "document")
  | .documentDelete => do
    return documentDelete (← required get "messageId") (← required get "schemaId")
      (← required get "recordKey")
  | .documentPutRaw => do
    return documentPutRaw (← required get "messageId") (← required get "document")
  | .snapshotRequest => do
    return snapshotRequest (← required get "messageId") (← optional get "schemaIds")
      (← optional get "recordKeys")
  | .snapshotResponse => do
    return snapshotResponse (← required get "messageId") (← required get "documents")
  | .snapshotResponseRaw => do
    return snapshotResponseRaw (← required get "messageId") (← required get "documents")
  | .schemaCatalogRequest => do
    return schemaCatalogRequest (← required get "messageId") (← optional get "includeSchemaJson")
      (← optional get "schemaIds") (← optional get "kinds")
  | .schemaCatalogResponse => do
    return schemaCatalogResponse (← required get "messageId") (← required get "schemas")

theorem read_fields (m : Message) (get : String → Option JsonValue)
    (h : ∀ f ∈ m.fields, get f.1 = f.2) : read get m.kind = some m := by
  cases m with
  | hello =>
      simp only [fields, List.forall_mem_cons] at h
      obtain ⟨h1, h2, h3, h4, h5, h6, h7, h8, h9, h10, -⟩ := h
      rw [kind, read, required_of_always h1, required_of_always h2, optional_of_whenSome h3,
        optional_of_whenSome h4, optional_of_whenSome h5, optional_of_whenSome h6,
        optional_of_whenSome h7, optional_of_whenSome h8, optional_of_whenSome h9,
        optional_of_whenSome h10]
      rfl
  | login | documentDelete =>
      simp only [fields, List.forall_mem_cons] at h
      obtain ⟨h1, h2, h3, -⟩ := h
      rw [kind, read, required_of_always h1, required_of_always h2, required_of_always h3]
      rfl
  | register =>
      simp only [fields, List.forall_mem_cons] at h
      obtain ⟨h1, h2, h3, h4, -⟩ := h
      rw [kind, read, required_of_always h1, required_of_always h2, required_of_always h3,
        required_of_always h4]
      rfl
  | error | sampleChangeName | sampleChat =>
      simp only [fields, List.forall_mem_cons] at h
      obtain ⟨h1, -⟩ := h
      rw [kind, read, required_of_always h1]
      rfl
  | verify | loginSuccess | documentPut | documentPutRaw | snapshotResponse | snapshotResponseRaw
  | schemaCatalogResponse =>
      simp only [fields, List.forall_mem_cons] at h
      obtain ⟨h1, h2, -⟩ := h
      rw [kind, read, required_of_always h1, required_of_always h2]
      rfl
  | snapshotRequest =>
      simp only [fields, List.forall_mem_cons] at h
      obtain ⟨h1, h2, h3, -⟩ := h
      rw [kind, read, required_of_always h1, optional_of_whenSome h2, optional_of_whenSome h3]
      rfl
  | schemaCatalogRequest =>
      simp only [fields, List.forall_mem_cons] at h
      obtain ⟨h1, h2, h3, h4, -⟩ := h
      rw [kind, read, required_of_always h1, optional_of_whenSome h2, optional_of_whenSome h3,
        optional_of_whenSome h4]
      rfl

/-- `CultNetMessage`: the variant is the member `schemaVersion`. -/
def tagged : Tagged Message MessageKind where
  key := "schemaVersion"
  tag := kind
  names := MessageKind.fieldNames
  nodup t := by cases t <;> decide
  fields := fields
  fields_names m := by cases m <;> rfl
  read t get := read get t
  read_fields := read_fields

instance : Serde Message := tagged.serde

end Message

end CultNet
