/-
Read-only raw snapshots, from `src/snapshot_query.rs`.

A server shows the records of a source that its policy grants; a client asks for
records by schema id and key, and refuses an answer with anything else in it.
The query of the client is a map from pairs.  The request it sends has a list of
schema ids and a list of keys.

A source is the outcome of its `raw_snapshot`.  The sets that the loops keep of
what they have seen are lists: they are asked about membership only.
-/
import CultNet.Replication
import Std.Data.ExtTreeSet

namespace CultNet

/-- What names a record: its schema id and its key. -/
abbrev RecordIdentity := String ×ₗ String

def RawDocumentRecord.identity (document : RawDocumentRecord) : RecordIdentity :=
  toLex (document.schemaId, document.recordKey)

/-- The text `{:?}/{:?}` of a pair. -/
def debugIdentity (identity : RecordIdentity) : String :=
  debugStr identity.1 ++ "/" ++ debugStr identity.2

namespace Snapshot

/-- `require_non_empty` of this module. -/
def requireNonEmpty (value field : String) : Except String Unit :=
  if isBlank value then .error (field ++ " must be non-empty") else .ok ()

/-- The loop of `reject_duplicates`. -/
def rejectDuplicatesFrom (label : String) : List String → List String → Except String Unit
  | _, [] => .ok ()
  | seen, value :: rest => do
    requireNonEmpty value label
    if value ∈ seen then .error ("duplicate " ++ label ++ " " ++ debugStr value)
    else rejectDuplicatesFrom label (value :: seen) rest

/-- `reject_duplicates`. -/
def rejectDuplicates (values : Option (List String)) (label : String) : Except String Unit :=
  match values with
  | none => .ok ()
  | some values => rejectDuplicatesFrom label [] values

end Snapshot

/-! ### The server -/

/-- `CultNetReadOnlySnapshotPolicy`. -/
structure ReadOnlySnapshotPolicy where
  allowedRecords : Std.ExtTreeSet RecordIdentity := ∅

namespace ReadOnlySnapshotPolicy

/-- `CultNetReadOnlySnapshotPolicy::allow`. -/
def allow (policy : ReadOnlySnapshotPolicy) (schemaId recordKey : String) :
    Except String ReadOnlySnapshotPolicy := do
  Snapshot.requireNonEmpty schemaId "schema_id"
  Snapshot.requireNonEmpty recordKey "record_key"
  return { allowedRecords := policy.allowedRecords.insert (toLex (schemaId, recordKey)) }

/-- `CultNetReadOnlySnapshotPolicy::allows`. -/
def allows (policy : ReadOnlySnapshotPolicy) (schemaId recordKey : String) : Bool :=
  policy.allowedRecords.contains (toLex (schemaId, recordKey))

end ReadOnlySnapshotPolicy

/-- The loop of `serve_read_only_raw_snapshot` over the records of the source. -/
def selectRecords (registry : DocumentRegistry) (policy : ReadOnlySnapshotPolicy)
    (requestedSchemas requestedKeys : Option (List String)) :
    List RecordIdentity → List RawDocumentRecord → Except String (List RawDocumentRecord)
  | _, [] => .ok []
  | seen, document :: rest =>
    if document.identity ∈ seen then
      .error ("snapshot source contains duplicate record " ++ debugIdentity document.identity)
    else if (registry.bindingBySchemaId document.schemaId).isNone then
      .error ("snapshot source record " ++ debugIdentity document.identity ++
        " uses an unregistered schema")
    else if !policy.allows document.schemaId document.recordKey then
      selectRecords registry policy requestedSchemas requestedKeys
        (document.identity :: seen) rest
    else if requestedSchemas.any fun schemas => !schemas.contains document.schemaId then
      selectRecords registry policy requestedSchemas requestedKeys
        (document.identity :: seen) rest
    else if requestedKeys.any fun keys => !keys.contains document.recordKey then
      selectRecords registry policy requestedSchemas requestedKeys
        (document.identity :: seen) rest
    else do
      let selected ← selectRecords registry policy requestedSchemas requestedKeys
        (document.identity :: seen) rest
      return document :: selected

/-- `serve_read_only_raw_snapshot`. -/
def serveReadOnlyRawSnapshot (registry : DocumentRegistry) (policy : ReadOnlySnapshotPolicy)
    (source : Except String (List RawDocumentRecord)) (request : Message) :
    Except String Message :=
  match request with
  | .snapshotRequest messageId schemaIds recordKeys => do
    Snapshot.requireNonEmpty messageId "message_id"
    Snapshot.rejectDuplicates schemaIds "requested schema id"
    Snapshot.rejectDuplicates recordKeys "requested record key"
    let documents ← source
    let selected ← selectRecords registry policy schemaIds recordKeys [] documents
    return .snapshotResponseRaw messageId selected
  | _ => .error "expected cultnet.snapshot_request.v0"

/-! ### The client -/

/-- `CultNetSnapshotSourceExpectation`. -/
structure SnapshotSourceExpectation where
  runtimeId : Option String := none
  agentId : Option String := none
  role : Option String := none
  tags : Option (List String) := none
  deriving DecidableEq

/-- `CultNetSnapshotRecordExpectation`. -/
structure SnapshotRecordExpectation where
  schemaId : String
  recordKey : String
  source : SnapshotSourceExpectation := {}
  deriving DecidableEq

/-- `require_expected_metadata`. -/
def requireExpectedMetadata (field : String) (expected actual : Option String)
    (identity : RecordIdentity) : Except String Unit :=
  match expected with
  | none => .ok ()
  | some value =>
    if actual ≠ some value then
      .error ("snapshot response record " ++ debugIdentity identity ++ " has unexpected " ++
        field ++ ": expected " ++ debugStr value ++ ", got " ++ debugOption debugStr actual)
    else .ok ()

/-- The comparison of tags in `accept_response`. -/
def requireExpectedTags (expected actual : Option (List String)) (identity : RecordIdentity) :
    Except String Unit :=
  match expected with
  | none => .ok ()
  | some tags =>
    if actual ≠ some tags then
      .error ("snapshot response record " ++ debugIdentity identity ++
        " has unexpected tags: expected " ++ debugStrs tags ++ ", got " ++
        debugOption debugStrs actual)
    else .ok ()

/-- `CultNetRawSnapshotQuery`. -/
structure RawSnapshotQuery where
  messageId : String
  expectations : Std.ExtTreeMap RecordIdentity SnapshotSourceExpectation

namespace RawSnapshotQuery

/-- The loop of `CultNetRawSnapshotQuery::new` over the expected records. -/
def addExpectations (expectations : Std.ExtTreeMap RecordIdentity SnapshotSourceExpectation) :
    List SnapshotRecordExpectation →
      Except String (Std.ExtTreeMap RecordIdentity SnapshotSourceExpectation)
  | [] => .ok expectations
  | record :: rest => do
    Snapshot.requireNonEmpty record.schemaId "schema_id"
    Snapshot.requireNonEmpty record.recordKey "record_key"
    let identity : RecordIdentity := toLex (record.schemaId, record.recordKey)
    if expectations.contains identity then
      .error ("snapshot query contains duplicate requested record " ++ debugIdentity identity)
    else addExpectations (expectations.insert identity record.source) rest

/-- `CultNetRawSnapshotQuery::new`. -/
def new (messageId : String) (records : List SnapshotRecordExpectation) :
    Except String RawSnapshotQuery := do
  Snapshot.requireNonEmpty messageId "message_id"
  if records.isEmpty then .error "snapshot query must request at least one record"
  else
    let expectations ← addExpectations ∅ records
    return { messageId, expectations }

/-- `CultNetRawSnapshotQuery::request`. -/
def request (query : RawSnapshotQuery) : Message :=
  .snapshotRequest query.messageId
    (some (Std.ExtTreeSet.ofList (query.expectations.keys.map fun k => k.1)).toList)
    (some (Std.ExtTreeSet.ofList (query.expectations.keys.map fun k => k.2)).toList)

/-- The loop of `accept_response` over the records of a response. -/
def checkRecords (query : RawSnapshotQuery) :
    List RecordIdentity → List RawDocumentRecord → Except String Unit
  | _, [] => .ok ()
  | seen, document :: rest =>
    if document.identity ∈ seen then
      .error ("snapshot response contains duplicate record " ++ debugIdentity document.identity)
    else
      match query.expectations[document.identity]? with
      | none =>
        .error ("snapshot response contains unexpected record " ++
          debugIdentity document.identity)
      | some expected => do
        requireExpectedMetadata "source_runtime_id" expected.runtimeId document.sourceRuntimeId
          document.identity
        requireExpectedMetadata "source_agent_id" expected.agentId document.sourceAgentId
          document.identity
        requireExpectedMetadata "source_role" expected.role document.sourceRole document.identity
        requireExpectedTags expected.tags document.tags document.identity
        query.checkRecords (document.identity :: seen) rest

/-- `CultNetRawSnapshotQuery::accept_response`. -/
def acceptResponse (query : RawSnapshotQuery) (response : Message) :
    Except String (List RawDocumentRecord) :=
  match response with
  | .snapshotResponseRaw messageId documents => do
    if messageId ≠ query.messageId then
      .error ("snapshot response message id " ++ debugStr messageId ++
        " does not match request " ++ debugStr query.messageId)
    else
      query.checkRecords [] documents
      return documents
  | _ => .error "expected cultnet.snapshot_response_raw.v0"

/-- `query_read_only_raw_snapshot`. -/
def queryReadOnlyRawSnapshot (query : RawSnapshotQuery)
    (exchange : Message → Except String Message) : Except String (List RawDocumentRecord) := do
  let response ← exchange query.request
  query.acceptResponse response

end RawSnapshotQuery

end CultNet
