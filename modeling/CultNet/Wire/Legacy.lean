/-
The union contract `gamecult.networking.v0`, from `src/contracts.rs`.

A message is a pair of a tag and an array of fields by position.  Credentials are
base64 text in a message and binary on the wire; a schema descriptor is a map of
eight entries.
-/
import CultNet.Wire.Fields

namespace CultNet

open MessagePack (Value)

variable (engine : Base64Engine)

/-! ### Descriptors -/

/-- `legacy_schema_descriptor`. -/
def legacySchemaDescriptor (schema : SchemaDescriptor) : Except String Value :=
  .ok (.map [
    (.text "schemaId", .text schema.schemaId),
    (.text "kind", .text schema.kind.name),
    (.text "schemaVersion", legacyOptionalString schema.schemaVersion),
    (.text "documentType", legacyOptionalString schema.documentType),
    (.text "title", legacyOptionalString schema.title),
    (.text "wireContracts", .array (schema.wireContracts.map fun value => .text value.name)),
    (.text "contentHash", .text schema.contentHash),
    (.text "schemaJson", legacyOptionalString schema.schemaJson)])

/-- `require_legacy_schema_descriptor`. -/
def requireLegacySchemaDescriptor (value : Value) (fieldName : String) :
    Except String SchemaDescriptor :=
  match value.asMap with
  | none => .error (fieldName ++ " must be an object in gamecult.networking.v0")
  | some object => do
    let get := entry object
    let schemaId ← requireLegacyString (get "schemaId") (fieldName ++ ".SchemaId")
    let kind ← requireLegacyString (get "kind") (fieldName ++ ".Kind")
    let schemaVersion ←
      requireLegacyOptionalString (get "schemaVersion") (fieldName ++ ".SchemaVersion")
    let documentType ←
      requireLegacyOptionalString (get "documentType") (fieldName ++ ".DocumentType")
    let title ← requireLegacyOptionalString (get "title") (fieldName ++ ".Title")
    let wireContracts ←
      requireLegacyOptionalWireContracts (get "wireContracts") (fieldName ++ ".WireContracts")
    let contentHash ← requireLegacyString (get "contentHash") (fieldName ++ ".ContentHash")
    let schemaJson ← requireLegacyOptionalString (get "schemaJson") (fieldName ++ ".SchemaJson")
    let kind ← legacySchemaKind (fieldName ++ ".Kind") kind
    return { schemaId, kind, schemaVersion, documentType, title, wireContracts, contentHash,
             schemaJson }

/-- `require_legacy_schema_descriptor_array`. -/
def requireLegacySchemaDescriptorArray (value : Option Value) (fieldName : String) :
    Except String (List SchemaDescriptor) :=
  match value.bind Value.asArray with
  | none => .error (fieldName ++ " must be an array in gamecult.networking.v0")
  | some items =>
    items.zipIdx.mapM fun item =>
      requireLegacySchemaDescriptor item.1 (fieldName ++ "[" ++ toString item.2 ++ "]")

/-! ### Messages -/

/-- The match of `parse_gamecult_networking_message` on the tag. -/
def parseUnion (tag : Int) (payload : List Value) : Except String Message :=
  match tag with
  | 0 => do
    let nonce ← requireLegacyBytes engine payload[0]? "LoginMessage.Nonce"
    let auth ← requireLegacyBytes engine payload[1]? "LoginMessage.Auth"
    let password ← requireLegacyBytes engine payload[2]? "LoginMessage.Password"
    return .login nonce auth password
  | 1 => do
    let nonce ← requireLegacyBytes engine payload[0]? "RegisterMessage.Nonce"
    let email ← requireLegacyBytes engine payload[1]? "RegisterMessage.Email"
    let password ← requireLegacyBytes engine payload[2]? "RegisterMessage.Password"
    let name ← requireLegacyBytes engine payload[3]? "RegisterMessage.Name"
    return .register nonce email password name
  | 2 => do
    let nonce ← requireLegacyBytes engine payload[0]? "VerifyMessage.Nonce"
    let session ← requireLegacyBytes engine payload[1]? "VerifyMessage.Session"
    return .verify nonce session
  | 3 => do
    let nonce ← requireLegacyBytes engine payload[0]? "LoginSuccessMessage.Nonce"
    let session ← requireLegacyBytes engine payload[1]? "LoginSuccessMessage.Session"
    return .loginSuccess nonce session
  | 4 => do
    let error ← requireLegacyString payload[0]? "ErrorMessage.Error"
    return .error error
  | 5 => do
    let name ← requireLegacyString payload[0]? "ChangeNameMessage.Name"
    return .sampleChangeName name
  | 6 => do
    let text ← requireLegacyString payload[0]? "ChatMessage.Text"
    return .sampleChat text
  | 7 => do
    let messageId ← requireLegacyString payload[0]? "SchemaCatalogRequestMessage.MessageId"
    let includeSchemaJson ←
      requireLegacyBool payload[1]? "SchemaCatalogRequestMessage.IncludeSchemaJson"
    let schemaIds ←
      requireLegacyOptionalStringArray payload[2]? "SchemaCatalogRequestMessage.SchemaIds"
    let kinds ←
      requireLegacyOptionalSchemaKindArray payload[3]? "SchemaCatalogRequestMessage.Kinds"
    return .schemaCatalogRequest messageId (some includeSchemaJson) schemaIds kinds
  | 8 => do
    let messageId ← requireLegacyString payload[0]? "SchemaCatalogResponseMessage.MessageId"
    let schemas ←
      requireLegacySchemaDescriptorArray payload[1]? "SchemaCatalogResponseMessage.Schemas"
    return .schemaCatalogResponse messageId schemas
  | _ => .error ("Unsupported gamecult.networking.v0 union tag " ++ toString tag)

/-- `parse_gamecult_networking_message`. -/
def parseGamecultNetworkingMessage (input : Value) : Except String Message :=
  match input.asArray with
  | some [tag, payload] =>
    match tag.asI64 with
    | none => .error "gamecult.networking.v0 message tag must be an integer"
    | some tag =>
      match payload.asArray with
      | none => .error "gamecult.networking.v0 message payload must be an array"
      | some payload => parseUnion engine tag payload
  | _ => .error "gamecult.networking.v0 messages must be a 2-element union array"

/-- The union of a tag and its fields. -/
def union (tag : UInt32) (fields : List Value) : Value := .array [.small tag, .array fields]

/-- `encode_gamecult_networking_message`. -/
def encodeGamecultNetworkingMessage : Message → Except String Value
  | .login nonce auth password => do
    let nonce ← legacyBytes engine nonce "LoginMessage.Nonce"
    let auth ← legacyBytes engine auth "LoginMessage.Auth"
    let password ← legacyBytes engine password "LoginMessage.Password"
    return union 0 [nonce, auth, password]
  | .register nonce email password name => do
    let nonce ← legacyBytes engine nonce "RegisterMessage.Nonce"
    let email ← legacyBytes engine email "RegisterMessage.Email"
    let password ← legacyBytes engine password "RegisterMessage.Password"
    let name ← legacyBytes engine name "RegisterMessage.Name"
    return union 1 [nonce, email, password, name]
  | .verify nonce session => do
    let nonce ← legacyBytes engine nonce "VerifyMessage.Nonce"
    let session ← legacyBytes engine session "VerifyMessage.Session"
    return union 2 [nonce, session]
  | .loginSuccess nonce session => do
    let nonce ← legacyBytes engine nonce "LoginSuccessMessage.Nonce"
    let session ← legacyBytes engine session "LoginSuccessMessage.Session"
    return union 3 [nonce, session]
  | .error text => return union 4 [.text text]
  | .sampleChangeName name => return union 5 [.text name]
  | .sampleChat text => return union 6 [.text text]
  | .schemaCatalogRequest messageId includeSchemaJson schemaIds kinds =>
    return union 7 [.text messageId, .boolean (includeSchemaJson.getD false),
      legacyOptionalStringArray schemaIds, legacyOptionalSchemaKindArray kinds]
  | .schemaCatalogResponse messageId schemas => do
    let schemas ← schemas.mapM legacySchemaDescriptor
    return union 8 [.text messageId, .array schemas]
  | _ => .error "Message is not defined in the gamecult.networking.v0 contract"

end CultNet
