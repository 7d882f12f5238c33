/-
The schema registry and its catalog, from `src/schema_discovery.rs`.

A registration is taken in under its schema id, and the descriptor that a catalog
lists carries a hash of the canonical form of its schema.  Reading a JSON text,
writing a string and a number of one, and SHA-256 are of other crates; what is
written out of them here is the canonical form.
-/
import CultNet.Contracts
import CultNet.Lib.OrderedMap

namespace CultNet

/-- `CultNetSchemaRegistration`. -/
structure SchemaRegistration where
  schemaId : String
  kind : SchemaKind
  wireContracts : List WireContract
  schemaVersion : Option String := none
  documentType : Option String := none
  title : Option String := none
  schemaJson : Option String := none
  deriving DecidableEq

/-- `CultNetSchemaCatalogOptions`. -/
structure SchemaCatalogOptions where
  includeSchemaJson : Bool := false
  schemaIds : Option (List String) := none
  kinds : Option (List SchemaKind) := none

/-- `CultNetSchemaRegistry`. -/
structure SchemaRegistry where
  entries : Std.ExtTreeMap String SchemaDescriptor

/-! ### The content hash -/

/-- What hashing a schema calls of `serde_json` and `sha2`. -/
structure SchemaHashing where
  /-- `serde_json::from_str`. -/
  fromStr : String → Except String JsonValue
  /-- `serde_json::to_string` of a string. -/
  stringText : String → String
  /-- `Number::to_string`. -/
  numberText : JsonNumber → String
  /-- `Sha256::digest`. -/
  sha256 : List UInt8 → List UInt8

/-- What registering relies on of them. -/
structure SchemaHashing.Lawful (hashing : SchemaHashing) : Prop where
  /-- A text of white space is no JSON. -/
  fromStr_blank : ∀ text value, hashing.fromStr text = .ok value → ¬ isBlank text
  sha256_length : ∀ bytes, (hashing.sha256 bytes).length = 32

/-- The digit of a number below 16. -/
def hexDigit (n : Nat) : Char := "0123456789abcdef".toList.getD n '0'

/-- `{:x}` of bytes. -/
def lowerHex (bytes : List UInt8) : String :=
  String.ofList (bytes.flatMap fun b => [hexDigit (b.toNat / 16), hexDigit (b.toNat % 16)])

section Hashing

variable (hashing : SchemaHashing)

mutual

/-- `stable_stringify`. -/
def stableStringify : Json → String
  | .null => "null"
  | .bool value => if value then "true" else "false"
  | .number value => hashing.numberText value
  | .string value => hashing.stringText value
  | .array items => "[" ++ ",".intercalate (stableItems items) ++ "]"
  | .object members =>
    let entries := (stableMembers members).insertionSort fun a b => a.1 ≤ b.1
    "\x7b" ++ ",".intercalate (entries.map fun entry =>
      hashing.stringText entry.1 ++ ":" ++ entry.2) ++ "\x7d"

/-- The items of an array. -/
def stableItems : List Json → List String
  | [] => []
  | item :: rest => stableStringify item :: stableItems rest

/-- The keys of an object, each with the text of its value. -/
def stableMembers : List (String × Json) → List (String × String)
  | [] => []
  | (key, value) :: rest => (key, stableStringify value) :: stableMembers rest

end

/-- `canonical_schema_hash`. -/
def canonicalSchemaHash (schemaJson : String) : Except String String := do
  let value ← hashing.fromStr schemaJson
  let canonical := stableStringify hashing value.json
  return lowerHex (hashing.sha256 canonical.toUTF8.data.toList)

end Hashing

/-! ### The registry -/

/-- `sanitize_descriptor`. -/
def sanitizeDescriptor (descriptor : SchemaDescriptor) (includeSchemaJson : Bool) :
    SchemaDescriptor :=
  if includeSchemaJson then descriptor else { descriptor with schemaJson := none }

namespace SchemaRegistry

/-- `CultNetSchemaRegistry::new`. -/
def new : SchemaRegistry := ⟨∅⟩

/-- `CultNetSchemaRegistry::register`; a registration that is refused changes nothing. -/
def register (hashing : SchemaHashing) (registry : SchemaRegistry)
    (registration : SchemaRegistration) : Except String SchemaRegistry := do
  if isBlank registration.schemaId then throw "schema_id must be non-empty"
  if registration.wireContracts.isEmpty then
    throw "wire_contracts must contain at least one entry"
  let contentHash ← match registration.schemaJson with
    | some schemaJson => canonicalSchemaHash hashing schemaJson
    | none => throw "schema_json is required so discovery can advertise canonical hashes"
  return ⟨registry.entries.insert registration.schemaId {
    schemaId := registration.schemaId
    kind := registration.kind
    schemaVersion := registration.schemaVersion
    documentType := registration.documentType
    title := registration.title
    wireContracts := registration.wireContracts
    contentHash
    schemaJson := registration.schemaJson }⟩

/-- `CultNetSchemaRegistry::get`. -/
def get (registry : SchemaRegistry) (schemaId : String) (includeSchemaJson : Bool) :
    Option SchemaDescriptor :=
  registry.entries[schemaId]?.map fun entry => sanitizeDescriptor entry includeSchemaJson

/-- The filter of `list`. -/
def selects (options : SchemaCatalogOptions) (entry : SchemaDescriptor) : Bool :=
  options.schemaIds.all (fun ids => ids.contains entry.schemaId) &&
    options.kinds.all fun kinds => kinds.contains entry.kind

/-- `CultNetSchemaRegistry::list`. -/
def list (registry : SchemaRegistry) (options : SchemaCatalogOptions) : List SchemaDescriptor :=
  (registry.entries.values.filter (selects options)).map fun entry =>
    sanitizeDescriptor entry options.includeSchemaJson

/-- `CultNetSchemaRegistry::create_catalog_response`. -/
def createCatalogResponse (registry : SchemaRegistry) (request : Message) :
    Except String Message :=
  match request with
  | .schemaCatalogRequest messageId includeSchemaJson schemaIds kinds =>
    .ok (.schemaCatalogResponse messageId (registry.list {
      includeSchemaJson := includeSchemaJson.getD false
      schemaIds
      kinds }))
  | _ => .error "expected cultnet.schema_catalog_request.v0 for schema discovery"

/-- Register one after another, as long as each is taken in. -/
def registerAll (hashing : SchemaHashing) (registrations : List SchemaRegistration) :
    Except String SchemaRegistry :=
  registrations.foldlM (register hashing) new

end SchemaRegistry

end CultNet
