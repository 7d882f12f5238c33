/-
The dialing side of the interop peer, from `examples/cultnet_interop_peer.rs`.

It greets a peer, asks for its catalog and for its notes, decorates the note of the
peer, and fires.  Between two messages that it sends it waits for the answers to the
first.  The stream is left to `Dialogue`: what is written here is which messages are
sent, and what is made of those that come.
-/
import CultNet.Interop.Peer
import CultNet.Lib.Dialogue

namespace CultNet.Interop

open Dialogue (attempt hear tell)

/-- What the dialing side uses of its `DialConfig`. -/
structure DialConfig where
  runtimeId : String
  runtimeKind : String
  displayName : String
  agentId : String

/-- What `dial` prints of what it found. -/
structure DialReport where
  remoteRuntimeId : String
  hasInteropSchema : Bool
  retrievedNote : InteropNote
  mutatedNote : InteropNote
  fireReceipt : InteropFireReceipt
  deriving DecidableEq

/-- The intent of `mutate_remote_note`. -/
def decorateIntent (runtimeId : String) (note : InteropNote) : InteropMutationIntent where
  schemaVersion := mutationIntentSchemaVersion
  intentId := runtimeId ++ "-decorate"
  targetDocumentId := note.documentId
  appendBody := " Decorated by " ++ runtimeId ++ "."
  appendTag := "decorated:" ++ runtimeId

/-- The command of `fire_remote_weapon`. -/
def fireCommand (runtimeId remoteRuntimeId : String) : InteropFireCommand where
  schemaVersion := fireCommandSchemaVersion
  commandId := runtimeId ++ "-fire"
  characterId := remoteRuntimeId
  weaponId := "interop-rifle"

/-- `mutated_message_schema_id`. -/
def mutatedMessageSchemaId : Message → Option String
  | .documentPutRaw _ document => some document.schemaId
  | _ => none

/-- A call on the cache that may fail, and the cache that it leaves. -/
def applied {Cache α : Type} (called : Except String α × Cache) :
    Dialogue Message (α × Cache) :=
  attempt (called.1.map fun a => (a, called.2))

section Dial

variable {Cache : Type} (cultCache : DocumentCache Cache) [InteropCodecs]
variable (documentRegistry : DocumentRegistry)

/-- `mutate_remote_note`; `now` is what the clock reads as the intent is made. -/
def mutateRemoteNote (noteSchemaId runtimeId : String) (note : InteropNote) (now : String)
    (cache : Cache) : Dialogue Message (InteropNote × Cache) := do
  let intent := decorateIntent runtimeId note
  let message ← attempt (documentRegistry.createRawDocumentPutMessage
    (runtimeId ++ "-decorate-put") intent.intentId intent {} now)
  tell message
  let receiptMessage ← hear
  let receipt ← applied (documentRegistry.applyRawDocumentPutMessage cultCache.toCultCache
    InteropMutationReceipt cache receiptMessage)
  let mutatedMessage ← hear
  let mutated ← applied (documentRegistry.applyRawDocumentPutMessage cultCache.toCultCache
    InteropNote receipt.2 mutatedMessage)
  let _ ← attempt (
    if mutatedMessageSchemaId mutatedMessage ≠ some noteSchemaId then
      .error "mutation response used the wrong schema id"
    else .ok ())
  return mutated

/-- `fire_remote_weapon`; `now` is what the clock reads as the command is made. -/
def fireRemoteWeapon (runtimeId remoteRuntimeId : String) (now : String) (cache : Cache) :
    Dialogue Message (InteropFireReceipt × Cache) := do
  let command := fireCommand runtimeId remoteRuntimeId
  let message ← attempt (documentRegistry.createRawDocumentPutMessage
    (runtimeId ++ "-fire-put") command.commandId command {} now)
  tell message
  let receiptMessage ← hear
  applied (documentRegistry.applyRawDocumentPutMessage cultCache.toCultCache
    InteropFireReceipt cache receiptMessage)

/-- The runtime of a hello. -/
def helloRuntimeId (debugMessage : Message → String) : Message → Except String String
  | .hello runtimeId .. => .ok runtimeId
  | other => .error ("expected hello response, got " ++ debugMessage other)

/-- Whether a catalog has the schema of the notes. -/
def catalogHasSchema (debugMessage : Message → String) (noteSchemaId : String) :
    Message → Except String Bool
  | .schemaCatalogResponse _ schemas =>
    .ok (schemas.any fun schema =>
      schema.schemaId = noteSchemaId && schema.documentType = some interopDocumentType)
  | other => .error ("expected catalog response, got " ++ debugMessage other)

/-- The note of a runtime among those that were applied. -/
def noteOf (remoteRuntimeId : String) (notes : List InteropNote) : Except String InteropNote :=
  match notes.find? fun candidate => candidate.authorRuntimeId = remoteRuntimeId with
  | some note => .ok note
  | none => .error ("did not receive an interop note from " ++ remoteRuntimeId)

/-- `dial`, from where it is connected: with a cache, and what the clock reads as it decorates and
as it fires.  `debugMessage` is the derived `Debug` of a message. -/
def dial (debugMessage : Message → String) (config : DialConfig) (noteSchemaId : String)
    (cache : Cache) (decorateAt fireAt : String) : Dialogue Message DialReport := do
  let documentRegistry := capabilityRegistry noteSchemaId
  tell (helloMessage config.runtimeId config.runtimeKind config.agentId config.displayName)
  let remoteHello ← hear
  let remoteRuntimeId ← attempt (helloRuntimeId debugMessage remoteHello)
  tell (.schemaCatalogRequest (config.runtimeId ++ "-catalog") (some true) none none)
  let catalogResponse ← hear
  let hasInteropSchema ← attempt (catalogHasSchema debugMessage noteSchemaId catalogResponse)
  tell (.snapshotRequest (config.runtimeId ++ "-snapshot") (some [noteSchemaId]) none)
  let snapshotResponse ← hear
  let notes ← applied (documentRegistry.applyRawSnapshotResponse cultCache.toCultCache
    InteropNote cache snapshotResponse)
  let note ← attempt (noteOf remoteRuntimeId notes.1)
  let mutated ← mutateRemoteNote cultCache documentRegistry noteSchemaId config.runtimeId note
    decorateAt notes.2
  let fired ← fireRemoteWeapon cultCache documentRegistry config.runtimeId remoteRuntimeId fireAt
    mutated.2
  return {
    remoteRuntimeId
    hasInteropSchema
    retrievedNote := note
    mutatedNote := mutated.1
    fireReceipt := fired.1 }

end Dial

end CultNet.Interop
