/-
The interop peer, from `examples/cultnet_interop_peer.rs`: its records and its answers.

A serving peer keeps notes.  A client may decorate a note by putting an intent, and the
peer appends to the note, stores it, and answers with a receipt and the note; a fire
command is answered with a receipt.  Everything else a client puts is ignored, so that
a note changes by an intent or not at all.  Each handler runs under the lock of the
cache, from its first read to its last write.

How the derives of the records write and read a payload is of other crates, and so is
the cache.
-/
import CultNet.SchemaDiscovery
import CultNet.SnapshotQuery

namespace CultNet.Interop

/-! ### Records -/

def interopDocumentType : String := "cultnet.interop-note"
def interopSchemaVersion : String := "cultnet.interop_note.v0"
def mutationIntentType : String := "cultnet.interop-note-mutation-intent"
def mutationIntentSchemaId : String :=
  "https://github.com/GameCult/cultnet-ts/integration/contracts/" ++
    "cultnet.interop-note-mutation-intent.schema.json"
def mutationIntentSchemaVersion : String := "cultnet.interop_note_mutation_intent.v0"
def mutationReceiptType : String := "cultnet.interop-note-mutation-receipt"
def mutationReceiptSchemaId : String :=
  "https://github.com/GameCult/cultnet-ts/integration/contracts/" ++
    "cultnet.interop-note-mutation-receipt.schema.json"
def mutationReceiptSchemaVersion : String := "cultnet.interop_note_mutation_receipt.v0"
def fireCommandType : String := "cultnet.interop-fire-weapon-command"
def fireCommandSchemaId : String :=
  "https://github.com/GameCult/cultnet-ts/integration/contracts/" ++
    "cultnet.interop-fire-weapon-command.schema.json"
def fireCommandSchemaVersion : String := "cultnet.interop_fire_weapon_command.v0"
def fireReceiptType : String := "cultnet.interop-fire-weapon-receipt"
def fireReceiptSchemaId : String :=
  "https://github.com/GameCult/cultnet-ts/integration/contracts/" ++
    "cultnet.interop-fire-weapon-receipt.schema.json"
def fireReceiptSchemaVersion : String := "cultnet.interop_fire_weapon_receipt.v0"

/-- `CultNetInteropNote`. -/
structure InteropNote where
  schemaVersion : String
  documentId : String
  authorRuntimeId : String
  title : String
  body : String
  tags : List String
  deriving DecidableEq

/-- `CultNetInteropMutationIntent`. -/
structure InteropMutationIntent where
  schemaVersion : String
  intentId : String
  targetDocumentId : String
  appendBody : String
  appendTag : String
  deriving DecidableEq

/-- `CultNetInteropMutationReceipt`. -/
structure InteropMutationReceipt where
  schemaVersion : String
  intentId : String
  accepted : Bool
  documentId : String
  body : String
  tags : List String
  deriving DecidableEq

/-- `CultNetInteropFireCommand`. -/
structure InteropFireCommand where
  schemaVersion : String
  commandId : String
  characterId : String
  weaponId : String
  deriving DecidableEq

/-- `CultNetInteropFireReceipt`. -/
structure InteropFireReceipt where
  schemaVersion : String
  commandId : String
  accepted : Bool
  characterId : String
  weaponId : String
  shotsFired : UInt32
  ammoRemaining : UInt32
  deriving DecidableEq

/-- How a derive writes and reads the payload of a record. -/
structure PayloadCodec (T : Type) where
  decode : List UInt8 → Except String T
  encode : T → Except String (List UInt8)
  fromValue : JsonValue → Except String T

/-- The derives of the five records. -/
class InteropCodecs where
  note : PayloadCodec InteropNote
  mutationIntent : PayloadCodec InteropMutationIntent
  mutationReceipt : PayloadCodec InteropMutationReceipt
  fireCommand : PayloadCodec InteropFireCommand
  fireReceipt : PayloadCodec InteropFireReceipt

/-- An entry with the type and the schema name of its attribute. -/
@[reducible]
def PayloadCodec.entry {T : Type} (codec : PayloadCodec T) (type schemaName : String) :
    TypedEntry T where
  type
  schemaName
  decode := codec.decode
  encode := codec.encode
  fromValue := codec.fromValue

section Entries

variable [codecs : InteropCodecs]

instance : TypedEntry InteropNote := codecs.note.entry interopDocumentType "CultNetInteropNote"

instance : TypedEntry InteropMutationIntent :=
  codecs.mutationIntent.entry mutationIntentType "CultNetInteropMutationIntent"

instance : TypedEntry InteropMutationReceipt :=
  codecs.mutationReceipt.entry mutationReceiptType "CultNetInteropMutationReceipt"

instance : TypedEntry InteropFireCommand :=
  codecs.fireCommand.entry fireCommandType "CultNetInteropFireCommand"

instance : TypedEntry InteropFireReceipt :=
  codecs.fireReceipt.entry fireReceiptType "CultNetInteropFireReceipt"

end Entries

/-! ### Setting up -/

/-- What a peer that serves uses of its `PeerConfig`. -/
structure PeerConfig where
  runtimeId : String
  runtimeKind : String
  displayName : String
  agentId : String

/-- The bindings of `register_capability_bindings`. -/
def capabilityBindings [InteropCodecs] (noteSchemaId : String) : List DocumentBinding :=
  [.forEntryWithSchemaId InteropNote noteSchemaId (some interopSchemaVersion),
    .forEntryWithSchemaId InteropMutationIntent mutationIntentSchemaId
      (some mutationIntentSchemaVersion),
    .forEntryWithSchemaId InteropMutationReceipt mutationReceiptSchemaId
      (some mutationReceiptSchemaVersion),
    .forEntryWithSchemaId InteropFireCommand fireCommandSchemaId (some fireCommandSchemaVersion),
    .forEntryWithSchemaId InteropFireReceipt fireReceiptSchemaId (some fireReceiptSchemaVersion)]

/-- `register_capability_bindings`, on a new registry. -/
def capabilityRegistry [InteropCodecs] (noteSchemaId : String) : DocumentRegistry :=
  .registerAll (capabilityBindings noteSchemaId)

/-- `build_note`. -/
def buildNote (runtimeId displayName : String) : InteropNote where
  schemaVersion := interopSchemaVersion
  documentId := "note:" ++ runtimeId
  authorRuntimeId := runtimeId
  title := displayName ++ " keeps a little note"
  body := runtimeId ++ " can move CultNet state without begging the gods for translation."
  tags := [runtimeId, "interop", "cultnet"]

/-- `interaction_contracts`. -/
def interactionContracts : List DocumentMutationContract :=
  [{ documentType := interopDocumentType
     payloadSchemaVersion := some interopSchemaVersion
     operations := [.snapshot, .documentPut, .intentSubmit, .receiptWatch]
     authority := .runtime
     intentDocumentTypes := some [mutationIntentType, fireCommandType]
     receiptDocumentTypes := some [mutationReceiptType, fireReceiptType]
     notes := none }]

/-- The hello of either side. -/
def helloMessage (runtimeId runtimeKind agentId displayName : String) : Message :=
  .hello runtimeId runtimeKind (some agentId) none (some displayName)
    (some [interopDocumentType]) (some interactionContracts) (some [interopSchemaVersion]) none
    (some true)

/-- `response_options`. -/
def responseOptions (config : PeerConfig) (tag : String) : DocumentPutOptions where
  sourceRuntimeId := some config.runtimeId
  sourceAgentId := some config.agentId
  sourceRole := some "peer"
  tags := some [tag, config.runtimeId]

/-! ### Answering -/

/-- What a thread of a serving peer shares with the others, the cache apart. -/
structure Peer where
  config : PeerConfig
  /-- The id of the schema that it was given for its notes. -/
  noteSchemaId : String
  schemaRegistry : SchemaRegistry

def Peer.documentRegistry [InteropCodecs] (peer : Peer) : DocumentRegistry :=
  capabilityRegistry peer.noteSchemaId

/-- What the clock reads as a note is stored, and as the messages of an answer are made. -/
structure Readings where
  stored : String
  receipt : String
  note : String
  filled : isBlank stored = false ∧ isBlank receipt = false ∧ isBlank note = false

/-- What an intent makes of a note. -/
def InteropNote.decorate (note : InteropNote) (intent : InteropMutationIntent) : InteropNote :=
  { note with body := note.body ++ intent.appendBody, tags := note.tags ++ [intent.appendTag] }

/-- The receipt of `handle_raw_put` for an intent and the note it made. -/
def mutationReceipt (intent : InteropMutationIntent) (note : InteropNote) :
    InteropMutationReceipt where
  schemaVersion := mutationReceiptSchemaVersion
  intentId := intent.intentId
  accepted := true
  documentId := note.documentId
  body := note.body
  tags := note.tags

/-- The receipt of `handle_raw_put` for a fire command. -/
def fireReceipt (command : InteropFireCommand) : InteropFireReceipt where
  schemaVersion := fireReceiptSchemaVersion
  commandId := command.commandId
  accepted := true
  characterId := command.characterId
  weaponId := command.weaponId
  shotsFired := 1
  ammoRemaining := 29

/-- What handling a message came to: the cache, the intent by which a note was stored, and the
messages to send one after another, or why there are none. -/
structure Turn (Cache : Type) where
  cache : Cache
  decorated : Option InteropMutationIntent := none
  outcome : Except String (List Message) := .ok []

section Handlers

variable {Cache : Type} (cultCache : DocumentCache Cache) [InteropCodecs] (peer : Peer)

/-- `handle_raw_put` for an intent, up to where the note is stored. -/
def decorateNote (cache : Cache) (message : Message) (now : String) :
    Except String (InteropMutationIntent × InteropNote) × Cache :=
  match peer.documentRegistry.applyRawDocumentPutMessage cultCache.toCultCache
      InteropMutationIntent cache message with
  | (.error e, cache) => (.error e, cache)
  | (.ok intent, cache) =>
    match cultCache.getRequired InteropNote cache intent.targetDocumentId with
    | .error e => (.error e, cache)
    | .ok note =>
      let note := note.decorate intent
      match cultCache.put InteropNote cache note.documentId note now with
      | (.error e, cache) => (.error e, cache)
      | (.ok _, cache) => (.ok (intent, note), cache)

/-- The messages of `handle_raw_put` for an intent and the note it made. -/
def mutationMessages (intent : InteropMutationIntent) (note : InteropNote)
    (readings : Readings) : Except String (List Message) := do
  let receipt := mutationReceipt intent note
  let options := responseOptions peer.config "mutation"
  let receiptMessage ← peer.documentRegistry.createRawDocumentPutMessage
    (peer.config.runtimeId ++ "-mutation-receipt") receipt.intentId receipt options
    readings.receipt
  let noteMessage ← peer.documentRegistry.createRawDocumentPutMessage
    (peer.config.runtimeId ++ "-mutated-note") note.documentId note options readings.note
  return [receiptMessage, noteMessage]

/-- The message of `handle_raw_put` for a fire command. -/
def fireMessages (command : InteropFireCommand) (readings : Readings) :
    Except String (List Message) := do
  let receipt := fireReceipt command
  let receiptMessage ← peer.documentRegistry.createRawDocumentPutMessage
    (peer.config.runtimeId ++ "-fire-receipt") receipt.commandId receipt
    (responseOptions peer.config "side-effect") readings.receipt
  return [receiptMessage]

/-- `handle_raw_put`. -/
def handleRawPut (cache : Cache) (message : Message) (readings : Readings) : Turn Cache :=
  match message with
  | .documentPutRaw _ document =>
    if document.schemaId = mutationIntentSchemaId then
      match decorateNote cultCache peer cache message readings.stored with
      | (.error e, cache) => { cache, outcome := .error e }
      | (.ok (intent, note), cache) =>
        { cache, decorated := some intent, outcome := mutationMessages peer intent note readings }
    else if document.schemaId = fireCommandSchemaId then
      match peer.documentRegistry.applyRawDocumentPutMessage cultCache.toCultCache
          InteropFireCommand cache message with
      | (.error e, cache) => { cache, outcome := .error e }
      | (.ok command, cache) => { cache, outcome := fireMessages peer command readings }
    else { cache }
  | _ => { cache }

/-- The record that a snapshot serves for an envelope. -/
def snapshotRecord (envelope : CultCacheEnvelope) : Except String RawDocumentRecord := do
  let record ← peer.documentRegistry.rawDocumentRecordFromEnvelope envelope
  return { record with
    sourceRuntimeId := some peer.config.runtimeId
    sourceAgentId := some peer.config.agentId
    sourceRole := some "peer"
    tags := some ["interop", peer.config.runtimeId] }

/-- The loop over the envelopes of the cache: the records, and a policy that allows them. -/
def snapshotSource : ReadOnlySnapshotPolicy → List CultCacheEnvelope →
    Except String (List RawDocumentRecord × ReadOnlySnapshotPolicy)
  | policy, [] => .ok ([], policy)
  | policy, envelope :: rest => do
    let record ← snapshotRecord peer envelope
    let policy ← policy.allow record.schemaId record.recordKey
    let (records, policy) ← snapshotSource policy rest
    return (record :: records, policy)

/-- What a snapshot request is answered. -/
def snapshotMessages (cache : Cache) (request : Message) : Except String (List Message) := do
  let (source, policy) ← snapshotSource peer {} (cultCache.snapshot cache)
  let response ← serveReadOnlyRawSnapshot peer.documentRegistry policy (.ok source) request
  return [response]

/-- The match of `handle_connection` on a message. -/
def handleMessage (cache : Cache) (message : Message) (readings : Readings) : Turn Cache :=
  match message with
  | .hello .. => {
      cache
      outcome := .ok [helloMessage peer.config.runtimeId peer.config.runtimeKind
        peer.config.agentId peer.config.displayName] }
  | .schemaCatalogRequest .. => {
      cache
      outcome := do
        let response ← peer.schemaRegistry.createCatalogResponse message
        return [response] }
  | .snapshotRequest .. => { cache, outcome := snapshotMessages cultCache peer cache message }
  | .documentPutRaw .. => handleRawPut cultCache peer cache message readings
  | _ => { cache }

end Handlers

end CultNet.Interop
