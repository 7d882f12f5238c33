/-
The deployment brake, from `src/idunn_deployment_brake.rs`, and the schema that is
published for its records.

`validate` subtracts two `u64` after checking their order, and unwraps options
after checking that they are there.  The model keeps both steps partial: where
the checked build panics the outcome is `Fault.panic`, so that a theorem can say
that it never does.

The record's MessagePack encoding belongs to the derive of the cache and is a
parameter; its positions, one for each key in order, are `positional`.
-/
import CultNet.Lib.JsonSchema
import CultNet.ServiceIdentity
import CultNet.Text

namespace CultNet

/-- `IDUNN_DEPLOYMENT_BRAKE_SCHEMA`. -/
def idunnDeploymentBrakeSchema : String := "idunn.deployment_brake.v1"

/-- `IDUNN_DEPLOYMENT_BRAKE_ID`. -/
def idunnDeploymentBrakeId : String := "idunn/deployment-brake"

/-- `IDUNN_DEPLOYMENT_BRAKE_AUTHORITY`. -/
def idunnDeploymentBrakeAuthority : String := "idunn.deployment-brake"

/-- `IDUNN_DEPLOYMENT_BRAKE_SCOPE`. -/
def idunnDeploymentBrakeScope : String := "deployment"

/-- `IDUNN_DEPLOYMENT_RELEASE_PURPOSE`. -/
def idunnDeploymentReleasePurpose : String := "idunn.deployment-release.v1"

/-- `IDUNN_DEPLOYMENT_RELEASE_MAX_LIFETIME_MILLIS`. -/
def idunnDeploymentReleaseMaxLifetimeMillis : UInt64 := 15 * 60 * 1000

/-- `IdunnDeploymentBrakeRecord`. -/
structure IdunnDeploymentBrakeRecord where
  schemaVersion : String
  brakeId : String
  authority : String
  runtimeId : String
  status : String
  scope : String
  reason : String
  observedAtUnixMillis : UInt64
  expiresAtUnixMillis : Option UInt64
  authorizationId : Option String
  authorizationPurpose : Option String
  authorizedReleaseId : Option String
  authorizedDeploymentId : Option String
  authorizedBy : Option String
  authorizationIssuedAtUnixMillis : Option UInt64
  authorizationExpiresAtUnixMillis : Option UInt64
  signatureAlgorithm : Option String
  signature : Option (List UInt8)
  privateStateExposed : Bool
  updatedBy : String
  deriving DecidableEq

/-- `identifier`. -/
def identifier (value label : String) : Except Fault Unit :=
  if isBlank value ∨ 256 < value.utf8ByteSize ∨ value.toList.any isControl then
    .error (.error (label ++ " is empty, oversized, or contains control characters"))
  else .ok ()

/-- `Option::unwrap`. -/
def unwrap {α : Type} : Option α → Except Fault α
  | some value => .ok value
  | none => .error (.panic "called `Option::unwrap()` on a `None` value")

/-- Subtraction of `u64` in a checked build. -/
def checkedSub64 (a b : UInt64) : Except Fault UInt64 :=
  if b ≤ a then .ok (a - b) else .error (.panic "attempt to subtract with overflow")

namespace IdunnDeploymentBrakeRecord

variable (record : IdunnDeploymentBrakeRecord)

/-- The local `authorization` of `validate`. -/
def authorization : List (Option String) :=
  [record.authorizationId, record.authorizationPurpose, record.authorizedReleaseId,
    record.authorizedDeploymentId, record.authorizedBy, record.signatureAlgorithm]

/-- The local `has_authorization` of `validate`. -/
def hasAuthorization : Bool :=
  record.authorization.any Option.isSome || record.authorizationIssuedAtUnixMillis.isSome ||
    record.authorizationExpiresAtUnixMillis.isSome || record.signature.isSome

/-- The last part of `validate`: a released record, with every field of the authorization. -/
def validateAuthorization : Except Fault Unit := do
  identifier (← unwrap record.authorizationId) "authorization id"
  identifier (← unwrap record.authorizedReleaseId) "authorized release id"
  identifier (← unwrap record.authorizedDeploymentId) "authorized deployment id"
  identifier (← unwrap record.authorizedBy) "authorizer"
  let issued ← unwrap record.authorizationIssuedAtUnixMillis
  let expires ← unwrap record.authorizationExpiresAtUnixMillis
  let invalid := Fault.error
    "deployment release authorization purpose, signature, or lifetime is invalid"
  if record.authorizationPurpose ≠ some idunnDeploymentReleasePurpose ∨
      record.signatureAlgorithm ≠ some "ed25519" ∨
      record.signature.all (fun v => v.length ≠ 64) ∨
      issued < record.observedAtUnixMillis ∨ expires ≤ issued then
    .error invalid
  else
    let lifetime ← checkedSub64 expires issued
    if idunnDeploymentReleaseMaxLifetimeMillis < lifetime ∨
        record.expiresAtUnixMillis.any (fun brakeExpiry => brakeExpiry < expires) then
      .error invalid
    else .ok ()

/-- `IdunnDeploymentBrakeRecord::validate`. -/
def validate : Except Fault Unit :=
  if record.schemaVersion ≠ idunnDeploymentBrakeSchema then
    .error (.error "deployment brake schema is unsupported")
  else do
    identifier record.brakeId "brake id"
    identifier record.authority "authority"
    identifier record.runtimeId "runtime id"
    identifier record.reason "reason"
    identifier record.scope "scope"
    identifier record.updatedBy "updating operator"
    if ¬(record.status = "engaged" ∨ record.status = "released") ∨
        record.observedAtUnixMillis = 0 ∨
        record.expiresAtUnixMillis.any (fun v => v ≤ record.observedAtUnixMillis) ∨
        record.privateStateExposed then
      .error (.error "deployment brake shape, lifetime, or privacy is invalid")
    else if record.status = "engaged" then
      if record.hasAuthorization then
        .error (.error "engaged deployment brake must not carry release authorization")
      else .ok ()
    else if record.authorization.any Option.isNone ∨
        record.authorizationIssuedAtUnixMillis.isNone ∨
        record.authorizationExpiresAtUnixMillis.isNone ∨ record.signature.isNone then
      .error (.error "released deployment brake authorization is incomplete")
    else record.validateAuthorization

end IdunnDeploymentBrakeRecord

/-! ### The gate -/

/-- `IdunnDeploymentBrakeObservation`. -/
inductive IdunnDeploymentBrakeObservation where
  | missing
  | corrupt
  | present (record : IdunnDeploymentBrakeRecord)

/-- `IdunnDeploymentBrakeDenial`. -/
inductive IdunnDeploymentBrakeDenial where
  | missing
  | corrupt
  | foreign
  | wrongRuntime
  | wrongScope
  | engaged
  | expired
  | releaseMismatch
  | deploymentMismatch
  | invalidSignature
  deriving DecidableEq, Repr

/-- The checks of `classify_idunn_deployment_brake` on a record that is valid. -/
def classifyValid (record : IdunnDeploymentBrakeRecord)
    (runtimeId releaseId deploymentId : String) (nowUnixMillis : UInt64) :
    Except IdunnDeploymentBrakeDenial Unit :=
  if record.brakeId ≠ idunnDeploymentBrakeId ∨ record.authority ≠ idunnDeploymentBrakeAuthority then
    .error .foreign
  else if record.runtimeId ≠ runtimeId then .error .wrongRuntime
  else if ¬(record.scope = "all" ∨ record.scope = idunnDeploymentBrakeScope) then
    .error .wrongScope
  else if record.status = "engaged" then .error .engaged
  else if record.expiresAtUnixMillis.any (fun v => v ≤ nowUnixMillis) ∨
      record.authorizationExpiresAtUnixMillis.all (fun v => v ≤ nowUnixMillis) ∨
      record.authorizationIssuedAtUnixMillis.all (fun v => nowUnixMillis < v) then
    .error .expired
  else if record.authorizedReleaseId ≠ some releaseId then .error .releaseMismatch
  else if record.authorizedDeploymentId ≠ some deploymentId then .error .deploymentMismatch
  else .ok ()

/-- A `Result` of the gate: a panic, or the denial or permission it returns. -/
abbrev Verdict := Except Fault (Except IdunnDeploymentBrakeDenial Unit)

/-- `classify_idunn_deployment_brake`. -/
def classifyIdunnDeploymentBrake (observation : IdunnDeploymentBrakeObservation)
    (runtimeId releaseId deploymentId : String) (nowUnixMillis : UInt64) : Verdict :=
  match observation with
  | .missing => .ok (.error .missing)
  | .corrupt => .ok (.error .corrupt)
  | .present record =>
    match record.validate with
    | .error (.panic message) => .error (.panic message)
    | .error (.error _) => .ok (.error .corrupt)
    | .ok () => .ok (classifyValid record runtimeId releaseId deploymentId nowUnixMillis)

section Gate

variable (cryptography : Cryptography)
  (encode : IdunnDeploymentBrakeRecord → Except String (List UInt8))

/-- An error of a called function, as an error of the caller. -/
def raise {α : Type} : Except String α → Except Fault α
  | .ok value => .ok value
  | .error message => .error (.error message)

/-- `verify_idunn_deployment_brake_authorization`. -/
def verifyIdunnDeploymentBrakeAuthorization (record : IdunnDeploymentBrakeRecord)
    (anchor : ServiceIdentityTrustAnchor) : Except Fault Unit := do
  record.validate
  if record.status ≠ "released" then
    .error (.error "engaged deployment brake has no release authorization to verify")
  else
    match record.authorizedBy, record.signature with
    | none, _ => .error (.error "deployment brake authorizer is absent")
    | some _, none => .error (.error "deployment brake signature is absent")
    | some identityId, some signature => do
      let payload ← raise (encode { record with signature := none })
      raise (verifyServiceIdentitySignature cryptography idunnDeploymentBrakeOperatorIdentity
        idunnDeploymentBrakeReleasePurpose anchor payload { identityId, signature })

/-- `evaluate_idunn_deployment_brake`. -/
def evaluateIdunnDeploymentBrake (observation : IdunnDeploymentBrakeObservation)
    (operatorAnchor : ServiceIdentityTrustAnchor) (runtimeId releaseId deploymentId : String)
    (nowUnixMillis : UInt64) : Verdict := do
  let classified ← classifyIdunnDeploymentBrake observation runtimeId releaseId deploymentId
    nowUnixMillis
  match classified, observation with
  | .error denial, _ => return .error denial
  | .ok (), .present record =>
    match verifyIdunnDeploymentBrakeAuthorization cryptography encode record operatorAnchor with
    | .ok () => return .ok ()
    | .error (.error _) => return .error .invalidSignature
    | .error (.panic message) => .error (.panic message)
  | .ok (), _ =>
    .error (.panic ("internal error: entered unreachable code: " ++
      "successful classification always has a present record"))

end Gate

/-! ### The published schema -/

/-- A number of the positional encoding. -/
def jsonU64 (value : UInt64) : Json := .number (.posInt value)

/-- The positions of a record, one for each key in order, with absent options as null. -/
def IdunnDeploymentBrakeRecord.positional (record : IdunnDeploymentBrakeRecord) : List Json :=
  let text (value : Option String) : Json := (value.map Json.string).getD .null
  let millis (value : Option UInt64) : Json := (value.map jsonU64).getD .null
  [.string record.schemaVersion,
    .string record.brakeId,
    .string record.authority,
    .string record.runtimeId,
    .string record.status,
    .string record.scope,
    .string record.reason,
    jsonU64 record.observedAtUnixMillis,
    millis record.expiresAtUnixMillis,
    text record.authorizationId,
    text record.authorizationPurpose,
    text record.authorizedReleaseId,
    text record.authorizedDeploymentId,
    text record.authorizedBy,
    millis record.authorizationIssuedAtUnixMillis,
    millis record.authorizationExpiresAtUnixMillis,
    text record.signatureAlgorithm,
    (record.signature.map fun bytes => .array (bytes.map fun b => jsonU64 b.toUInt64)).getD .null,
    .bool record.privateStateExposed,
    .string record.updatedBy]

open JsonSchema in
/-- The entries of `prefixItems` in `contracts/idunn.deployment-brake.schema.json`. -/
def brakePrefixItems : List (List Keyword) :=
  [[.const (.string "idunn.deployment_brake.v1")],
    [.type [.string], .minLength 1, .maxLength 256],
    [.type [.string], .minLength 1, .maxLength 256],
    [.type [.string], .minLength 1, .maxLength 256],
    [.enum [.string "engaged", .string "released"]],
    [.type [.string], .minLength 1, .maxLength 256],
    [.type [.string], .minLength 1, .maxLength 256],
    [.type [.integer], .minimum 1],
    [.type [.integer, .null], .minimum 1],
    [.type [.string, .null], .minLength 1, .maxLength 256],
    [.type [.string, .null], .minLength 1, .maxLength 256],
    [.type [.string, .null], .minLength 1, .maxLength 256],
    [.type [.string, .null], .minLength 1, .maxLength 256],
    [.type [.string, .null], .minLength 1, .maxLength 256],
    [.type [.integer, .null], .minimum 1],
    [.type [.integer, .null], .minimum 1],
    [.type [.string, .null]],
    [.type [.array, .null], .items [] [.type [.integer], .minimum 0, .maximum 255], .minItems 64,
      .maxItems 64],
    [.const (.bool false)]]

open JsonSchema in
/-- `contracts/idunn.deployment-brake.schema.json`, which `builtin_schema_registry` advertises for
`idunn.deployment_brake.v1`. -/
def brakeSchema : List Keyword :=
  [.type [.array], .items brakePrefixItems [], .minItems 19, .maxItems 19]

end CultNet
