/-
Checking a service's signature, from `src/service_identity.rs`.

A profile fixes the names and domains of one kind of identity.  SHA-256 and
Ed25519 are not part of the crate: `Cryptography` is what it calls of them.
-/
import CultNet.Basic
import CultNet.Lib.BigEndian

namespace CultNet

/-- The bytes of an ASCII byte string. -/
def asciiBytes (text : String) : List UInt8 :=
  text.toList.map fun c => UInt8.ofNat c.toNat

/-- What checking a signature uses of the trait `ServiceIdentityProfile`. -/
structure ServiceIdentityProfile where
  trustAnchorSchema : String
  idDomain : List UInt8
  signatureDomain : List UInt8

/-- `IdunnDeploymentBrakeOperatorIdentity`. -/
def idunnDeploymentBrakeOperatorIdentity : ServiceIdentityProfile where
  trustAnchorSchema := "idunn.deployment_brake_operator.trust_anchor.v1"
  idDomain := asciiBytes "idunn.deployment-brake-operator.id.v1\x00"
  signatureDomain := asciiBytes "idunn.deployment-brake-operator.signature.v1\x00"

/-- The `PURPOSE` of `IdunnDeploymentBrakeReleasePurpose`. -/
def idunnDeploymentBrakeReleasePurpose : List UInt8 :=
  asciiBytes "idunn.deployment-release.v1"

/-- `GameCultProviderHealthIdentity`. -/
def gameCultProviderHealthIdentity : ServiceIdentityProfile where
  trustAnchorSchema := "gamecult.provider_health_identity.trust_anchor.v1"
  idDomain := asciiBytes "gamecult.provider-health.identity.v1\x00"
  signatureDomain := asciiBytes "gamecult.provider-health.signature.v1\x00"

/-- `IdunnServiceIdentity`. -/
def idunnServiceIdentity : ServiceIdentityProfile where
  trustAnchorSchema := "idunn.service_identity.trust_anchor.v1"
  idDomain := asciiBytes "idunn.service-identity.id.v1\x00"
  signatureDomain := asciiBytes "idunn.service-identity.signature.v1\x00"

/-- The `PURPOSE` of `IdunnSignedDaemonHealthPurpose`. -/
def idunnSignedDaemonHealthPurpose : List UInt8 :=
  asciiBytes "idunn.signed_daemon_health.v1"

/-- The `PURPOSE` of `IdunnAuthenticatedProviderHealthProjectionPurpose`. -/
def idunnAuthenticatedProviderHealthProjectionPurpose : List UInt8 :=
  asciiBytes "idunn.authenticated-provider-health-projection.v1"

/-- What checking a signature uses of `ServiceIdentityTrustAnchor`. -/
structure ServiceIdentityTrustAnchor where
  schemaVersion : String
  identityId : String
  publicKey : List UInt8
  deriving DecidableEq

/-- `ServiceIdentitySignature`. -/
structure ServiceIdentitySignature where
  identityId : String
  signature : List UInt8
  deriving DecidableEq

/-- The cryptography the crate calls. -/
structure Cryptography where
  sha256 : List UInt8 → List UInt8
  VerifyingKey : Type
  /-- `VerifyingKey::from_bytes`. -/
  keyFromBytes : List UInt8 → Except String VerifyingKey
  /-- Whether `VerifyingKey::verify` succeeds on a message and a signature. -/
  verify : VerifyingKey → List UInt8 → List UInt8 → Bool

/-- `hex`. -/
def hex (bytes : List UInt8) : String :=
  let digits := "0123456789abcdef".toList
  String.ofList (bytes.flatMap fun b =>
    [digits.getD (b.toNat >>> 4) '0', digits.getD (b.toNat &&& 15) '0'])

variable (cryptography : Cryptography) (profile : ServiceIdentityProfile)

/-- `derive_service_identity_id`. -/
def deriveServiceIdentityId (publicKey : List UInt8) : Except String String :=
  if publicKey.length ≠ 32 then .error "service identity public key has invalid length"
  else .ok (hex (cryptography.sha256 (profile.idDomain ++ publicKey)))

/-- `validate_anchor`. -/
def validateAnchor (anchor : ServiceIdentityTrustAnchor) : Except String Unit :=
  if anchor.schemaVersion ≠ profile.trustAnchorSchema ∨ anchor.publicKey.length ≠ 32 then
    .error "service identity trust anchor violates its profile schema"
  else do
    let identityId ← deriveServiceIdentityId cryptography profile anchor.publicKey
    if identityId ≠ anchor.identityId then
      .error "service identity trust anchor violates its profile schema"
    else .ok ()

/-- `signing_message`. -/
def signingMessage (purpose payload : List UInt8) : List UInt8 :=
  profile.signatureDomain ++ BigEndian.bytes 8 purpose.length ++ purpose ++
    BigEndian.bytes 8 payload.length ++ payload

/-- `verify_service_identity_signature`. -/
def verifyServiceIdentitySignature (purpose : List UInt8) (anchor : ServiceIdentityTrustAnchor)
    (payload : List UInt8) (proof : ServiceIdentitySignature) : Except String Unit := do
  validateAnchor cryptography profile anchor
  if proof.identityId ≠ anchor.identityId then
    .error "service identity signature names a different identity"
  else if anchor.publicKey.length ≠ 32 then
    .error "service identity public key has invalid length"
  else if proof.signature.length ≠ 64 then
    .error "service identity signature has invalid length"
  else
    let key ← cryptography.keyFromBytes anchor.publicKey
    if cryptography.verify key (signingMessage profile purpose payload) proof.signature then .ok ()
    else .error "service identity signature verification failed"

end CultNet
