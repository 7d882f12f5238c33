/-
Document bindings and replication, from `src/replication.rs`.

The registry is two maps, one keyed by document type and one by schema id, and
`register` writes both.  A raw record carries the schema id its type is bound to
and the bytes of its payload; on the other side the schema id alone says what the
record is.

The cache itself is not part of the crate.  `CultCache` is what replication calls
of it, on a type of caches left open.  A failed put may still have changed the
cache, so it returns the cache as well.
-/
import CultNet.Contracts
import CultNet.Lib.OrderedMap

namespace CultNet

/-- `CultNetDocumentBinding`. -/
structure DocumentBinding where
  schemaId : String
  documentType : String
  mutationContract : Option DocumentMutationContract := none
  payloadSchemaVersion : Option String := none
  deriving DecidableEq

/-- `CultNetDocumentRegistry`. -/
structure DocumentRegistry where
  bindingsByType : Std.ExtTreeMap String DocumentBinding
  bindingsBySchemaId : Std.ExtTreeMap String DocumentBinding

namespace DocumentRegistry

/-- `CultNetDocumentRegistry::new`. -/
def new : DocumentRegistry := ⟨∅, ∅⟩

/-- `CultNetDocumentRegistry::register`. -/
def register (registry : DocumentRegistry) (binding : DocumentBinding) : DocumentRegistry where
  bindingsBySchemaId := registry.bindingsBySchemaId.insert binding.schemaId binding
  bindingsByType := registry.bindingsByType.insert binding.documentType binding

/-- `CultNetDocumentRegistry::binding`. -/
def binding (registry : DocumentRegistry) (documentType : String) : Option DocumentBinding :=
  registry.bindingsByType[documentType]?

/-- `CultNetDocumentRegistry::binding_by_schema_id`. -/
def bindingBySchemaId (registry : DocumentRegistry) (schemaId : String) :
    Option DocumentBinding :=
  registry.bindingsBySchemaId[schemaId]?

/-- `CultNetDocumentRegistry::require_binding`. -/
def requireBinding (registry : DocumentRegistry) (documentType : String) :
    Except String DocumentBinding :=
  match registry.binding documentType with
  | some binding => .ok binding
  | none =>
    .error ("No CultNet document binding is registered for " ++ debugStr documentType)

/-- Register bindings one after another, from an empty registry. -/
def registerAll (bindings : List DocumentBinding) : DocumentRegistry :=
  bindings.foldl register new

end DocumentRegistry

/-! ### The cache -/

/-- `CultCacheEnvelope`. -/
structure CultCacheEnvelope where
  key : String
  type : String
  payload : List UInt8
  storedAt : String
  schemaId : Option String
  deriving DecidableEq

/-- What replication uses of the trait `DatabaseEntry`, and how a payload is read as a `T`. -/
class DatabaseEntry (T : Type) where
  /-- `T::TYPE`. -/
  type : String
  decode : List UInt8 → Except String T

/-- What replication calls of a cache. -/
structure CultCache (Cache : Type) where
  snapshot : Cache → List CultCacheEnvelope
  putEnvelope : (T : Type) → [DatabaseEntry T] → Cache → CultCacheEnvelope →
    Except String T × Cache

/-- A cache holds one envelope for each type and key. -/
def CultCacheEnvelope.identity (envelope : CultCacheEnvelope) : String × String :=
  (envelope.type, envelope.key)

/-- What a copy in another cache keeps of an envelope of the same type. -/
def CultCacheEnvelope.content (envelope : CultCacheEnvelope) : String × List UInt8 × String :=
  (envelope.key, envelope.payload, envelope.storedAt)

/-- What replication relies on of the cache. -/
structure CultCache.Lawful {Cache : Type} (cultCache : CultCache Cache) : Prop where
  /-- A snapshot lists what is stored once. -/
  snapshot_nodup : ∀ cache, ((cultCache.snapshot cache).map CultCacheEnvelope.identity).Nodup
  /-- An envelope of type `T` whose payload decodes is stored as it is. -/
  putEnvelope_ok : ∀ (T : Type) [entry : DatabaseEntry T] (cache : Cache)
    (envelope : CultCacheEnvelope) (value : T), envelope.type = entry.type →
    entry.decode envelope.payload = .ok value →
    ∃ cache', cultCache.putEnvelope T cache envelope = (.ok value, cache') ∧
      ∀ e, e ∈ cultCache.snapshot cache' ↔
        e = envelope ∨ e ∈ cultCache.snapshot cache ∧ e.identity ≠ envelope.identity
  /-- An envelope whose payload does not decode is refused. -/
  putEnvelope_error : ∀ (T : Type) [entry : DatabaseEntry T] (cache : Cache)
    (envelope : CultCacheEnvelope) (error : String),
    entry.decode envelope.payload = .error error →
    ∃ error' cache', cultCache.putEnvelope T cache envelope = (.error error', cache')

namespace DocumentRegistry

variable {Cache : Type} (cultCache : CultCache Cache)

/-- `raw_document_record_from_envelope`. -/
def rawDocumentRecordFromEnvelope (registry : DocumentRegistry) (envelope : CultCacheEnvelope) :
    Except String RawDocumentRecord := do
  let binding ← registry.requireBinding envelope.type
  return {
    schemaId := binding.schemaId
    recordKey := envelope.key
    storedAt := envelope.storedAt
    payloadEncoding := .messagepack
    payload := envelope.payload }

/-- The loop of a snapshot over the envelopes of a cache, with a record for each envelope that
the filters let through. -/
def snapshotDocuments {Document : Type} (registry : DocumentRegistry)
    (record : CultCacheEnvelope → Except String Document)
    (schemaIds recordKeys : Option (List String)) :
    List CultCacheEnvelope → Except String (List Document)
  | [] => .ok []
  | envelope :: rest => do
    let binding ← registry.requireBinding envelope.type
    if schemaIds.any fun ids => !ids.contains binding.schemaId then
      registry.snapshotDocuments record schemaIds recordKeys rest
    else if recordKeys.any fun keys => !keys.contains envelope.key then
      registry.snapshotDocuments record schemaIds recordKeys rest
    else
      let document ← record envelope
      let documents ← registry.snapshotDocuments record schemaIds recordKeys rest
      return document :: documents

/-- The loop of `create_raw_snapshot_response` over the envelopes of a cache. -/
def rawDocuments (registry : DocumentRegistry) (schemaIds recordKeys : Option (List String)) :
    List CultCacheEnvelope → Except String (List RawDocumentRecord) :=
  registry.snapshotDocuments registry.rawDocumentRecordFromEnvelope schemaIds recordKeys

/-- `create_raw_snapshot_response`. -/
def createRawSnapshotResponse (registry : DocumentRegistry) (cache : Cache) (messageId : String)
    (schemaIds recordKeys : Option (List String)) : Except String Message := do
  let documents ← registry.rawDocuments schemaIds recordKeys (cultCache.snapshot cache)
  return .snapshotResponseRaw messageId documents

variable (T : Type) [entry : DatabaseEntry T]

/-- `apply_raw_document_put_message`. -/
def applyRawDocumentPutMessage (registry : DocumentRegistry) (cache : Cache) (message : Message) :
    Except String T × Cache :=
  match message with
  | .documentPutRaw _ document =>
    match registry.requireBinding entry.type with
    | .error e => (.error e, cache)
    | .ok binding =>
      if document.schemaId ≠ binding.schemaId then
        (.error ("schema id " ++ debugStr document.schemaId ++
          " does not match registered Rust type " ++ debugStr entry.type ++ " schema " ++
          debugStr binding.schemaId), cache)
      else
        cultCache.putEnvelope T cache {
          key := document.recordKey
          type := binding.documentType
          payload := document.payload
          storedAt := document.storedAt
          schemaId := some binding.schemaId }
  | _ => (.error "expected cultnet.document_put_raw.v0", cache)

/-- The loop of `apply_raw_snapshot_response` over the documents of a response. -/
def applyRawDocuments (registry : DocumentRegistry) (binding : DocumentBinding) :
    Cache → List RawDocumentRecord → Except String (List T) × Cache
  | cache, [] => (.ok [], cache)
  | cache, document :: rest =>
    if document.schemaId ≠ binding.schemaId then
      registry.applyRawDocuments binding cache rest
    else
      match registry.applyRawDocumentPutMessage cultCache T cache
          (.documentPutRaw "snapshot-apply-raw" document) with
      | (.error e, cache) => (.error e, cache)
      | (.ok value, cache) =>
        match registry.applyRawDocuments binding cache rest with
        | (.error e, cache) => (.error e, cache)
        | (.ok applied, cache) => (.ok (value :: applied), cache)

/-- `apply_raw_snapshot_response`. -/
def applyRawSnapshotResponse (registry : DocumentRegistry) (cache : Cache) (response : Message) :
    Except String (List T) × Cache :=
  match response with
  | .snapshotResponseRaw _ documents =>
    match registry.requireBinding entry.type with
    | .error e => (.error e, cache)
    | .ok binding => registry.applyRawDocuments cultCache T binding cache documents
  | _ => (.error "expected cultnet.snapshot_response_raw.v0", cache)

end DocumentRegistry

/-! ### Typed replication

The typed path reads the payload of an envelope as a JSON value, and that as a `T`, which
the cache then stores as its own: under the key of the record, with what the local clock
reads as its `stored_at`.
-/

/-- What the typed path uses of an entry besides. -/
class TypedEntry (T : Type) extends DatabaseEntry T where
  /-- `T::SCHEMA_NAME`. -/
  schemaName : String
  /-- `serde_json::from_value`. -/
  fromValue : JsonValue → Except String T
  /-- `rmp_serde::to_vec`. -/
  encode : T → Except String (List UInt8)

/-- What the typed path calls of a cache besides. -/
structure TypedCultCache (Cache : Type) extends CultCache Cache where
  /-- `put` of a value under a key, while the local clock reads this. -/
  put : (T : Type) → [TypedEntry T] → Cache → String → T → String → Except String T × Cache

/-- What it relies on of the cache. -/
structure TypedCultCache.Lawful {Cache : Type} (cultCache : TypedCultCache Cache) : Prop extends
    CultCache.Lawful cultCache.toCultCache where
  /-- A value is stored as its encoding, with the local time. -/
  put_ok : ∀ (T : Type) [entry : TypedEntry T] (cache cache' : Cache) (key : String)
    (value value' : T) (now : String), cultCache.put T cache key value now = (.ok value', cache') →
    ∃ envelope : CultCacheEnvelope, envelope.type = entry.type ∧ envelope.key = key ∧
      envelope.storedAt = now ∧ entry.encode value = .ok envelope.payload ∧
      ∀ e, e ∈ cultCache.snapshot cache' ↔
        e = envelope ∨ e ∈ cultCache.snapshot cache ∧ e.identity ≠ envelope.identity

/-- Values of the type survive being encoded, and the way through a JSON value. -/
structure TypedEntry.Survives (fromSlice : List UInt8 → Except String JsonValue) (T : Type)
    [entry : TypedEntry T] : Prop where
  decode_encode : ∀ value payload, entry.encode value = .ok payload →
    entry.decode payload = .ok value
  fromValue_fromSlice : ∀ payload value json, entry.decode payload = .ok value →
    fromSlice payload = .ok json → entry.fromValue json = .ok value

namespace DocumentRegistry

variable {Cache : Type} (cultCache : TypedCultCache Cache)
variable (fromSlice : List UInt8 → Except String JsonValue)

/-- `document_record_from_envelope`; `fromSlice` is `rmp_serde::from_slice`, to a JSON value. -/
def documentRecordFromEnvelope (registry : DocumentRegistry) (envelope : CultCacheEnvelope) :
    Except String (DocumentRecord JsonValue) := do
  let binding ← registry.requireBinding envelope.type
  let payload ← match fromSlice envelope.payload with
    | .ok payload => .ok payload
    | .error _ => .error ("failed to decode CultCache envelope " ++ debugStr envelope.type ++
        " at " ++ debugStr envelope.key ++ " as generic CultNet payload")
  return {
    schemaId := binding.schemaId
    recordKey := envelope.key
    storedAt := envelope.storedAt
    payload }

/-- `create_snapshot_response`. -/
def createSnapshotResponse (registry : DocumentRegistry) (cache : Cache) (messageId : String)
    (schemaIds recordKeys : Option (List String)) : Except String Message := do
  let documents ← registry.snapshotDocuments (registry.documentRecordFromEnvelope fromSlice)
    schemaIds recordKeys (cultCache.snapshot cache)
  return .snapshotResponse messageId documents

variable (T : Type) [entry : TypedEntry T]

/-- `apply_document_put_message`, while the local clock reads `now`. -/
def applyDocumentPutMessage (registry : DocumentRegistry) (cache : Cache) (message : Message)
    (now : String) : Except String T × Cache :=
  match message with
  | .documentPut _ document =>
    match registry.requireBinding entry.type with
    | .error e => (.error e, cache)
    | .ok binding =>
      if document.schemaId ≠ binding.schemaId then
        (.error ("schema id " ++ debugStr document.schemaId ++
          " does not match registered Rust type " ++ debugStr entry.type ++ " schema " ++
          debugStr binding.schemaId), cache)
      else
        match entry.fromValue document.payload with
        | .error _ => (.error ("failed to decode CultNet payload schema " ++
            debugStr binding.schemaId ++ " as " ++ entry.schemaName), cache)
        | .ok value => cultCache.put T cache document.recordKey value now
  | _ => (.error "expected cultnet.document_put.v0", cache)

/-- The loop of `apply_snapshot_response` over the documents of a response; `clock` is what the
local clock reads at each put, counted from `puts`. -/
def applyDocuments (registry : DocumentRegistry) (binding : DocumentBinding)
    (clock : Nat → String) : Nat → Cache → List (DocumentRecord JsonValue) →
      Except String (List T) × Cache
  | _, cache, [] => (.ok [], cache)
  | puts, cache, document :: rest =>
    if document.schemaId ≠ binding.schemaId then
      registry.applyDocuments binding clock puts cache rest
    else
      match registry.applyDocumentPutMessage cultCache T cache
          (.documentPut "snapshot-apply" document) (clock puts) with
      | (.error e, cache) => (.error e, cache)
      | (.ok value, cache) =>
        match registry.applyDocuments binding clock (puts + 1) cache rest with
        | (.error e, cache) => (.error e, cache)
        | (.ok applied, cache) => (.ok (value :: applied), cache)

/-- `apply_snapshot_response`. -/
def applySnapshotResponse (registry : DocumentRegistry) (clock : Nat → String) (cache : Cache)
    (response : Message) : Except String (List T) × Cache :=
  match response with
  | .snapshotResponse _ documents =>
    match registry.requireBinding entry.type with
    | .error e => (.error e, cache)
    | .ok binding => registry.applyDocuments cultCache T binding clock 0 cache documents
  | _ => (.error "expected cultnet.snapshot_response.v0", cache)

end DocumentRegistry

/-! ### Changes by message

A runtime tells another of a change by a message: of a value that it puts, typed or raw, or of
a key that it deletes.
-/

/-- `CultNetDocumentPutOptions`. -/
structure DocumentPutOptions where
  storedAt : Option String := none
  sourceRuntimeId : Option String := none
  sourceAgentId : Option String := none
  sourceRole : Option String := none
  tags : Option (List String) := none
  deriving DecidableEq

/-- `CultNetDocumentBinding::for_entry_with_schema_id`. -/
def DocumentBinding.forEntryWithSchemaId (T : Type) [entry : DatabaseEntry T] (schemaId : String)
    (payloadSchemaVersion : Option String) : DocumentBinding where
  documentType := entry.type
  schemaId
  mutationContract := none
  payloadSchemaVersion

/-- What a typed message of a change uses of an entry besides. -/
class SerializedEntry (T : Type) extends TypedEntry T where
  /-- `serde_json::to_value`. -/
  toValue : T → Except String JsonValue

/-- What a runtime calls of its cache besides. -/
structure DocumentCache (Cache : Type) extends TypedCultCache Cache where
  getRequired : (T : Type) → [DatabaseEntry T] → Cache → String → Except String T
  /-- `delete`; it says whether there was anything. -/
  delete : (T : Type) → [DatabaseEntry T] → Cache → String → Except String Bool × Cache

/-- What it relies on of the cache: every call reads or writes one place of it, or fails and
leaves it as it was. -/
structure DocumentCache.Lawful {Cache : Type} (cultCache : DocumentCache Cache) : Prop where
  snapshot_nodup : ∀ cache, ((cultCache.snapshot cache).map CultCacheEnvelope.identity).Nodup
  putEnvelope_ok : ∀ (T : Type) [entry : DatabaseEntry T] (cache cache' : Cache)
    (envelope : CultCacheEnvelope) (value : T), envelope.type = entry.type →
    cultCache.putEnvelope T cache envelope = (.ok value, cache') →
    entry.decode envelope.payload = .ok value ∧ ∀ e, e ∈ cultCache.snapshot cache' ↔
      e = envelope ∨ e ∈ cultCache.snapshot cache ∧ e.identity ≠ envelope.identity
  putEnvelope_error : ∀ (T : Type) [DatabaseEntry T] (cache cache' : Cache)
    (envelope : CultCacheEnvelope) (error : String),
    cultCache.putEnvelope T cache envelope = (.error error, cache') → cache' = cache
  put_ok : ∀ (T : Type) [entry : TypedEntry T] (cache cache' : Cache) (key : String)
    (value value' : T) (now : String), cultCache.put T cache key value now = (.ok value', cache') →
    value' = value ∧ ∃ envelope : CultCacheEnvelope, envelope.identity = (entry.type, key) ∧
      envelope.storedAt = now ∧ entry.encode value = .ok envelope.payload ∧
      ∀ e, e ∈ cultCache.snapshot cache' ↔
        e = envelope ∨ e ∈ cultCache.snapshot cache ∧ e.identity ≠ envelope.identity
  put_error : ∀ (T : Type) [TypedEntry T] (cache cache' : Cache) (key : String) (value : T)
    (now error : String), cultCache.put T cache key value now = (.error error, cache') →
    cache' = cache
  getRequired_eq_ok : ∀ (T : Type) [entry : DatabaseEntry T] (cache : Cache) (key : String)
    (value : T), cultCache.getRequired T cache key = .ok value ↔
    ∃ envelope ∈ cultCache.snapshot cache, envelope.identity = (entry.type, key) ∧
      entry.decode envelope.payload = .ok value
  delete_ok : ∀ (T : Type) [entry : DatabaseEntry T] (cache cache' : Cache) (key : String)
    (found : Bool), cultCache.delete T cache key = (.ok found, cache') →
    (found = true ↔ ∃ e ∈ cultCache.snapshot cache, e.identity = (entry.type, key)) ∧
      ∀ e, e ∈ cultCache.snapshot cache' ↔
        e ∈ cultCache.snapshot cache ∧ e.identity ≠ (entry.type, key)
  delete_error : ∀ (T : Type) [DatabaseEntry T] (cache cache' : Cache) (key error : String),
    cultCache.delete T cache key = (.error error, cache') → cache' = cache

namespace DocumentRegistry

/-- `create_document_put_message`; `now` is what `now_utc_second` reads. -/
def createDocumentPutMessage {T : Type} [entry : SerializedEntry T] (registry : DocumentRegistry)
    (messageId recordKey : String) (value : T) (options : DocumentPutOptions) (now : String) :
    Except String Message := do
  let binding ← registry.requireBinding entry.type
  -- `round_trip_typed`
  let bytes ← entry.encode value
  let value ← entry.decode bytes
  let payload ← entry.toValue value
  return .documentPut messageId {
    schemaId := binding.schemaId
    recordKey
    storedAt := options.storedAt.getD now
    payload
    sourceRuntimeId := options.sourceRuntimeId
    sourceAgentId := options.sourceAgentId
    sourceRole := options.sourceRole
    tags := options.tags }

/-- `create_document_delete_message`. -/
def createDocumentDeleteMessage (messageId schemaId recordKey : String) : Message :=
  .documentDelete messageId schemaId recordKey

/-- `create_raw_document_put_message_from_envelope`. -/
def createRawDocumentPutMessageFromEnvelope (registry : DocumentRegistry) (messageId : String)
    (envelope : CultCacheEnvelope) : Except String Message := do
  let document ← registry.rawDocumentRecordFromEnvelope envelope
  return .documentPutRaw messageId document

/-- `create_raw_document_put_message`; `now` is what `now_utc_second` reads. -/
def createRawDocumentPutMessage {T : Type} [entry : TypedEntry T] (registry : DocumentRegistry)
    (messageId recordKey : String) (value : T) (options : DocumentPutOptions) (now : String) :
    Except String Message := do
  let binding ← registry.requireBinding entry.type
  let payload ← entry.encode value
  return .documentPutRaw messageId {
    schemaId := binding.schemaId
    recordKey
    storedAt := options.storedAt.getD now
    payloadEncoding := .messagepack
    payload
    sourceRuntimeId := options.sourceRuntimeId
    sourceAgentId := options.sourceAgentId
    sourceRole := options.sourceRole
    tags := options.tags }

/-- `apply_document_delete_message`. -/
def applyDocumentDeleteMessage {Cache : Type} (cultCache : DocumentCache Cache) (T : Type)
    [entry : DatabaseEntry T] (registry : DocumentRegistry) (cache : Cache) (message : Message) :
    Except String Bool × Cache :=
  match message with
  | .documentDelete _ schemaId recordKey =>
    match registry.requireBinding entry.type with
    | .error e => (.error e, cache)
    | .ok binding =>
      if schemaId ≠ binding.schemaId then
        (.error ("schema id " ++ debugStr schemaId ++ " does not match registered Rust type " ++
          debugStr entry.type ++ " schema " ++ debugStr binding.schemaId), cache)
      else cultCache.delete T cache recordKey
  | _ => (.error "expected cultnet.document_delete.v0", cache)

end DocumentRegistry

end CultNet
